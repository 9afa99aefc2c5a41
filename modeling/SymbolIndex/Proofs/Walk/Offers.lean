import SymbolIndex.Proofs.Walk.Run
import SymbolIndex.Walk.Trace
import Mathlib.Data.List.Forall2

/-!
# What a walk offers

The offers of a walk, in order, for every visitor that decides by key and value what to skip and
that changes the scopes only by adding imports:

- `Showing` : an offer, and the scopes that were open when it was made
- `Visitor.logged` : a visitor that also keeps what it is shown
- `Walk.Offers` : which sites a walk offers, and what a visitor sees there
- `walk_offers` : every walk offers what `Walk.Offers` says
-/

namespace SymbolIndex

variable {σ : Type}

/-! ## Keeping a log -/

/-- An offer, and the scopes that were open when it was made. -/
structure Showing where
  offer : Offer
  scopes : Arena

/-- The visitor that does the same and also keeps what it is shown, oldest first. -/
def Visitor.logged (v : Visitor σ) : Visitor (σ × List Showing) where
  visit o scopes seen :=
    let r := v.visit o scopes seen.1
    (r.1, r.2.1, (r.2.2, seen.2 ++ [⟨o, scopes⟩]))

namespace Walk

def forget (w : Walk (σ × List Showing)) : Walk σ :=
  ⟨w.nodes, w.scopes, w.seen.1⟩

theorem offer_logged (v : Visitor σ) (w : Walk (σ × List Showing)) (key : String) (child : Json)
    (parent? : Option Node) (scope : Nat) :
    w.forget.offer v key child parent? scope =
      ((w.offer v.logged key child parent? scope).1,
        (w.offer v.logged key child parent? scope).2.forget) :=
  rfl

/-- Keeping a log does not change what is done at a list of sites. -/
theorem overSites_logged {v : Visitor σ} {maxDepth : Nat} {bs : List Site}
    (hrun : ∀ b ∈ bs, ∀ (scope : Nat) (parent? : Option Node) (w : Walk (σ × List Showing)),
      through v maxDepth scope b.key parent? b.value w.forget =
        ((through v.logged maxDepth scope b.key parent? b.value w).1,
          (through v.logged maxDepth scope b.key parent? b.value w).2.forget))
    (scope : Nat) (parent? : Option Node) (w : Walk (σ × List Showing)) :
    overSites v maxDepth scope parent? bs w.forget =
      ((overSites v.logged maxDepth scope parent? bs w).1,
        (overSites v.logged maxDepth scope parent? bs w).2.forget) := by
  induction bs generalizing w with
  | nil => rfl
  | cons b bs ih =>
    have ih' := fun w => ih (fun c hc => hrun c (List.mem_cons_of_mem b hc)) w
    rw [overSites, overSites, offer_logged]
    generalize w.offer v.logged b.key b.value parent? scope = r
    obtain ⟨verdict, w₁⟩ := r
    cases verdict with
    | skip => exact ih' w₁
    | enter =>
      simp only [hrun b List.mem_cons_self scope parent? w₁]
      generalize through v.logged maxDepth scope b.key parent? b.value w₁ = r
      obtain ⟨e, w₂⟩ := r
      cases e with
      | complete => exact ih' w₂
      | tooDeep => rfl

/-- The log changes nothing else. -/
theorem through_logged (v : Visitor σ) (maxDepth : Nat) (a : Site) (scope : Nat)
    (parent? : Option Node) (w : Walk (σ × List Showing)) :
    through v maxDepth scope a.key parent? a.value w.forget =
      ((through v.logged maxDepth scope a.key parent? a.value w).1,
        (through v.logged maxDepth scope a.key parent? a.value w).2.forget) := by
  induction a using Site.induction generalizing scope parent? w with
  | step a ih =>
    cases hnode : a.value.node? with
    | none =>
      rw [through_of_node?_eq_none v maxDepth scope parent? hnode,
        through_of_node?_eq_none v.logged maxDepth scope parent? hnode]
      exact overSites_logged ih scope parent? w
    | some node =>
      have hloop := overSites_logged ih w.scopes.size (some node) (w.enter node a.key scope)
      rw [through_of_node?_eq_some v maxDepth scope parent? hnode,
        through_of_node?_eq_some v.logged maxDepth scope parent? hnode]
      by_cases hlen : maxDepth ≤ w.nodes.length
      · have hlen' : maxDepth ≤ w.forget.nodes.length := hlen
        rw [if_pos hlen, if_pos hlen']
      · have hlen' : ¬ maxDepth ≤ w.forget.nodes.length := hlen
        rw [if_neg hlen, if_neg hlen']
        simp only [forget, enter] at hloop ⊢
        rw [hloop]
        rfl

end Walk

/-! ## What is shown at a site -/

/-- What a visitor sees at a site of a walk that starts in scope `s` of `base`. -/
structure Showing.Fits (base : Arena) (s : Nat) (b : Site) (x : Showing) : Prop where
  key : x.offer.key = b.key
  child : x.offer.child = b.value
  nodes : x.offer.nodes = b.nodes
  parent : x.offer.parent? = b.nodes.reverse.getLast?
  live : x.scopes.size = base.size + b.nodes.length
  scope : x.offer.scope = if b.nodes.isEmpty then s else x.scopes.size - 1
  scopeName : x.scopes.qualifiedName x.offer.scope =
    ".".intercalate (b.keys ++ [base.qualifiedName s])

/-- What a visitor sees is determined by the offer and the nesting of the scopes. -/
theorem Showing.fits_of_eq {base : Arena} (hbase : base.Nested) {s : Nat} (hs : s < base.size)
    {b : Site} {x : Showing} (hoffer : x.offer = b.offer base s)
    (hskeleton : x.scopes.skeleton = (base.openAll s b.keys).skeleton) : x.Fits base s b := by
  have hsize : x.scopes.size = base.size + b.nodes.length := by
    rw [Arena.size_eq_of_skeleton hskeleton]
    simp [Site.keys, Site.nodes]
  refine ⟨by rw [hoffer]; rfl, by rw [hoffer]; rfl, by rw [hoffer]; rfl, ?_, hsize, ?_, ?_⟩
  · rw [List.getLast?_reverse, hoffer]
    rfl
  · rw [hsize, hoffer]
    cases haround : b.around with
    | nil => simp [Site.offer, Site.keys, Site.nodes, haround, Arena.innermost]
    | cons e around => simp [Site.offer, Site.keys, Site.nodes, haround, Arena.innermost]
  · rw [Arena.qualifiedName_congr hskeleton, hoffer]
    exact hbase.qualifiedName_openAll hs b.keys

/-! ## Visitors that only add imports -/

/-- Adds imports one after another, each in a scope of its own choice. -/
def Arena.addAll (a : Arena) (added : List (Nat × Binding)) : Arena :=
  added.foldl (fun a e => a.addImport e.1 e.2) a

theorem Arena.skeleton_addAll (a : Arena) (added : List (Nat × Binding)) :
    (a.addAll added).skeleton = a.skeleton := by
  unfold Arena.addAll
  induction added generalizing a with
  | nil => rfl
  | cons e added ih =>
    rw [List.foldl_cons, ih, Arena.skeleton_addImport]

/-- The visitor skips a value by its key and what it is, and changes the scopes only by adding
imports. -/
structure Visitor.OnlyImports (v : Visitor σ) (skips : String → Json → Bool) : Prop where
  verdict : ∀ o a seen, (v.visit o a seen).1 = if skips o.key o.child then .skip else .enter
  scopes : ∀ o a seen, ∃ added, (v.visit o a seen).2.1 = a.addAll added

/-- The part of a log that the sites determine. -/
def logView (_ : Arena) (seen : σ × List Showing) : List (Offer × List (String × Option Nat)) :=
  seen.2.map fun x => (x.offer, x.scopes.skeleton)

/-- A visitor that only adds imports sees, at each site, the scopes that its keys open. -/
theorem Visitor.OnlyImports.follows {v : Visitor σ} {skips : String → Json → Bool}
    (hv : v.OnlyImports skips) (base : Arena) (s : Nat) :
    v.logged.Follows base s skips logView fun log b =>
      log ++ [(b.offer base s, (base.openAll s b.keys).skeleton)] := by
  refine ⟨?_, ?_, ?_, ?_, ?_⟩
  · intro b a seen _
    exact hv.verdict (b.offer base s) a seen.1
  · intro b a seen _
    obtain ⟨added, hadded⟩ := hv.scopes (b.offer base s) a seen.1
    simp only [Visitor.logged, hadded]
    exact Arena.skeleton_addAll a added
  · intro b a seen ha
    simp [Visitor.logged, logView, ha]
  · intro a seen name parent _
    rfl
  · intro a seen id _
    rfl

/-! ## The offers of a walk -/

/-- Which sites a walk offers, and what a visitor sees there. The sites are those that are reached
from the root, by increasing position. A walk that ends offers all of them; one that fails offers
those up to the first node that is not skipped and is too deep, or none if that is the root. -/
structure Walk.Offers (skips : String → Json → Bool) (maxDepth : Nat) (base : Arena) (s : Nat)
    (tree : Json) (sites : List Site) (e : Traversal) (log : List Showing) : Prop where
  reached : ∀ b, b ∈ sites ↔ (Site.root tree).Reaches skips b
  ordered : sites.Pairwise fun b c => b.position < c.position
  complete : e = .complete →
    List.Forall₂ (Showing.Fits base s) sites log ∧
      (Site.root tree).isTooDeep maxDepth = false ∧ ∀ b ∈ sites, b.halts skips maxDepth = false
  tooDeep : e = .tooDeep →
    ((Site.root tree).isTooDeep maxDepth = true ∧ log = []) ∨
      ∃ pre b post, sites = pre ++ b :: post ∧
        List.Forall₂ (Showing.Fits base s) (pre ++ [b]) log ∧
        (Site.root tree).isTooDeep maxDepth = false ∧ b.halts skips maxDepth = true ∧
        ∀ c ∈ pre, c.halts skips maxDepth = false

theorem foldl_concat_map {α β : Type} (f : α → β) (xs : List α) (ys : List β) :
    xs.foldl (fun ys x => ys ++ [f x]) ys = ys ++ xs.map f := by
  induction xs generalizing ys with
  | nil => simp
  | cons x xs ih => simp [ih]

theorem forall₂_fits {base : Arena} (hbase : base.Nested) {s : Nat} (hs : s < base.size)
    {sites : List Site} {log : List Showing}
    (h : log.map (fun x => (x.offer, x.scopes.skeleton)) =
      sites.map fun b => (b.offer base s, (base.openAll s b.keys).skeleton)) :
    List.Forall₂ (Showing.Fits base s) sites log := by
  induction sites generalizing log with
  | nil =>
    have hnil : log = [] := by simpa using h
    rw [hnil]
    exact .nil
  | cons b sites ih =>
    cases log with
    | nil => simp at h
    | cons x log =>
      simp only [List.map_cons, List.cons.injEq, Prod.mk.injEq] at h
      exact .cons (Showing.fits_of_eq hbase hs h.1.1 h.1.2) (ih h.2)

/-- Every walk offers exactly the values inside the tree that have no skipped value around them,
once each and in order, and shows each with the nodes and scopes in which it stands. -/
theorem walk_offers (v : Visitor σ) (skips : String → Json → Bool) (hv : v.OnlyImports skips)
    (base : Arena) (hbase : base.Nested) (s : Nat) (hs : s < base.size) (tree : Json)
    (htree : tree.Sorted) (maxDepth : Nat) (seen : σ) :
    ∃ sites e w, walk v.logged maxDepth s tree ⟨[], base, (seen, [])⟩ = (e, w) ∧
      walk v maxDepth s tree ⟨[], base, seen⟩ = (e, w.forget) ∧
      Walk.Offers skips maxDepth base s tree sites e w.seen.2 := by
  have hfollows := hv.follows base s
  -- a whole run is known by its view alone, and the view says enough about each entry of the log
  have hlog : ∀ (made : List Site) (w : Walk (σ × List Showing)),
      logView w.scopes w.seen = made.foldl
        (fun log b => log ++ [(b.offer base s, (base.openAll s b.keys).skeleton)])
        (logView base (seen, [])) →
      List.Forall₂ (Showing.Fits base s) made w.seen.2 := by
    intro made w hview
    rw [foldl_concat_map] at hview
    exact forall₂_fits hbase hs hview
  generalize hwalk : walk v.logged maxDepth s tree ⟨[], base, (seen, [])⟩ = r
  obtain ⟨e, w⟩ := r
  refine ⟨(Site.root tree).inside skips, e, w, rfl, ?_, ?_⟩
  · have hforget : walk v maxDepth s tree ⟨[], base, seen⟩ =
        ((walk v.logged maxDepth s tree ⟨[], base, (seen, [])⟩).1,
          (walk v.logged maxDepth s tree ⟨[], base, (seen, [])⟩).2.forget) :=
      Walk.through_logged v maxDepth (Site.root tree) s none ⟨[], base, (seen, [])⟩
    rw [hforget, hwalk]
  · refine ⟨fun b => Site.mem_inside_iff, Site.pairwise_inside htree, ?_, ?_⟩
    · rintro rfl
      obtain ⟨-, hview, hroot, hnone⟩ := Walk.of_walk_complete hfollows hs hwalk
      exact ⟨hlog _ w hview, hroot, hnone⟩
    · rintro rfl
      rcases Walk.of_walk_tooDeep hfollows hs hwalk with
        ⟨hroot, rfl⟩ | ⟨pre, b, post, hsites, hview, hroot, hb, hpre⟩
      · exact Or.inl ⟨hroot, rfl⟩
      · exact Or.inr ⟨pre, b, post, hsites, hlog _ w hview, hroot, hb, hpre⟩

/-! ## Traced walks -/

namespace Plan

def skips (p : Plan) (key : String) (child : Json) : Bool :=
  p.verdict key child = .skip

/-- The visitor of a traced walk decides by key and tag, and only records import statements. -/
theorem onlyImports (p : Plan) : p.visitor.OnlyImports p.skips := by
  refine ⟨?_, ?_⟩
  · intro o a seen
    simp only [visitor, skips, decide_eq_true_eq]
    cases p.verdict o.key o.child with
    | enter => rfl
    | skip => rfl
  · intro o a seen
    by_cases hrecords : p.records o.child
    · refine ⟨o.child.importBindings.map fun b => (o.scope, b), ?_⟩
      simp [visitor, hrecords, Arena.addAll, Arena.recordImport, Arena.addImports, List.foldl_map]
    · refine ⟨[], ?_⟩
      simp [visitor, hrecords, Arena.addAll]

end Plan

/-- What a showing tells of the surroundings of a value: its key, the tags of its parent and of all
nodes down to it, the name of its scope and the number of open scopes. -/
def Showing.around (x : Showing) : String × Option String × String × String × Nat :=
  (x.offer.key, x.offer.parent?.map Node.tag, x.offer.path, x.scopes.qualifiedName x.offer.scope,
    x.scopes.size)

/-- A source with an import statement, and with a package inside an object that is no node. -/
def Walk.sample : Json :=
  .obj [("stats", .arr [.obj [("type", .str "Import")], .obj [("extra", .obj [
      ("stats", .arr [.obj [("type", .str "Term.Name")]]), ("type", .str "Pkg")])]]),
    ("type", .str "Source")]

/-- The import statement is skipped, the package has the source as its parent although an object
stands between them, and the name inside the package is one node too deep. -/
theorem walk_offers_sample :
    (Plan.mk [] ["Import"] true).visitor.OnlyImports (Plan.mk [] ["Import"] true).skips ∧
      (Arena.new.push "a" 0).Nested ∧ 1 < (Arena.new.push "a" 0).size ∧ Walk.sample.Sorted ∧
      ∃ sites w,
        walk (Plan.mk [] ["Import"] true).visitor.logged 2 1 Walk.sample
            ⟨[], Arena.new.push "a" 0, (⟨[]⟩, [])⟩ = (.tooDeep, w) ∧
          walk (Plan.mk [] ["Import"] true).visitor 2 1 Walk.sample
            ⟨[], Arena.new.push "a" 0, ⟨[]⟩⟩ = (.tooDeep, w.forget) ∧
          Walk.Offers (Plan.mk [] ["Import"] true).skips 2 (Arena.new.push "a" 0) 1 Walk.sample
            sites .tooDeep w.seen.2 ∧
          w.seen.2.map Showing.around =
            [("stats", some "Source", "Source", "root.a.root", 3),
              ("stats", some "Source", "Source/Import", "root.a.root", 3),
              ("stats", some "Source", "Source", "root.a.root", 3),
              ("extra", some "Source", "Source/Pkg", "root.a.root", 3),
              ("stats", some "Pkg", "Source/Pkg", "extra.root.a.root", 4),
              ("stats", some "Pkg", "Source/Pkg/Term.Name", "extra.root.a.root", 4)] := by
  have hnested : (Arena.new.push "a" 0).Nested := Arena.nested_new.push "a" (by decide)
  have hlive : 1 < (Arena.new.push "a" 0).size := by decide
  have hsorted : Walk.sample.Sorted := by decide +kernel
  have hresult : (walk (Plan.mk [] ["Import"] true).visitor.logged 2 1 Walk.sample
        ⟨[], Arena.new.push "a" 0, (⟨[]⟩, [])⟩).1 = .tooDeep ∧
      (walk (Plan.mk [] ["Import"] true).visitor.logged 2 1 Walk.sample
        ⟨[], Arena.new.push "a" 0, (⟨[]⟩, [])⟩).2.seen.2.map Showing.around =
          [("stats", some "Source", "Source", "root.a.root", 3),
            ("stats", some "Source", "Source/Import", "root.a.root", 3),
            ("stats", some "Source", "Source", "root.a.root", 3),
            ("extra", some "Source", "Source/Pkg", "root.a.root", 3),
            ("stats", some "Pkg", "Source/Pkg", "extra.root.a.root", 4),
            ("stats", some "Pkg", "Source/Pkg/Term.Name", "extra.root.a.root", 4)] := by
    decide +kernel
  obtain ⟨sites, e, w, hlogged, hplain, hoffers⟩ :=
    walk_offers _ _ (Plan.onlyImports _) _ hnested 1 hlive Walk.sample hsorted 2 ⟨[]⟩
  rw [hlogged] at hresult
  obtain ⟨rfl, haround⟩ := hresult
  exact ⟨Plan.onlyImports _, hnested, hlive, hsorted, sites, w, hlogged, hplain, hoffers, haround⟩

end SymbolIndex
