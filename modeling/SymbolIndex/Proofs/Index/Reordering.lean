import SymbolIndex.Proofs.Index.Migration
import SymbolIndex.Proofs.Tree.Reordering

/-!
# The summary does not depend on the order of statements

The walks through two trees that differ in the order of statements come to the same values, and so
do their spines, each in its own order. Sets do not see the order. Supertypes do, but only where a
short name is bound to two paths, or where a declaration is made twice:

- `Site.Reordered`, `Site.Reaches.reordered` : the two walks
- `SpineSite.rearranged_spine` : the two spines
- `SpineSite.DeclaredOnce` : no declaration is made twice
- `flatten_eq_of_perm` : concatenation does not see the order if one list at most has elements
- `index_reordered` : the two summaries
-/

namespace SymbolIndex

/-! ## The two walks -/

namespace Site

/-- The value of the second site is that of the first, reordered inside, and the nodes around it
have the same tags. -/
structure Reordered (b b' : Site) : Prop where
  value : ∃ key, Json.ReorderedIn key b.value b'.value
  tags : b.nodes.map Node.tag = b'.nodes.map Node.tag

theorem reordered_root {tree tree' : Json} (h : tree.Reordered tree') :
    (root tree).Reordered (root tree') :=
  ⟨⟨"", Or.inl h⟩, rfl⟩

namespace Reordered

variable {b b' : Site}

theorem node? (h : b.Reordered b') : Option.Rel Node.Reordered b.value.node? b'.value.node? := by
  rcases h.value with ⟨key, hvalue⟩
  exact hvalue.node?

theorem isSome_node?_eq (h : b.Reordered b') :
    b.value.node?.isSome = b'.value.node?.isSome := by
  rcases rel_cases h.node? with ⟨hb, hb'⟩ | ⟨n, m, hb, hb', -⟩
  · rw [hb, hb']
  · rw [hb, hb']
    rfl

theorem within (h : b.Reordered b') :
    (b.within.map Prod.snd).map Node.tag = (b'.within.map Prod.snd).map Node.tag := by
  have htags := h.tags
  unfold nodes at htags
  unfold Site.within
  rcases rel_cases h.node? with ⟨hb, hb'⟩ | ⟨n, m, hb, hb', hnm⟩
  · simp only [hb, hb', htags]
  · simp only [hb, hb', List.map_cons, htags, hnm.tag]

theorem enter (h : b.Reordered b') (s t : Step) {key : String} {x y : Json}
    (hxy : Json.ReorderedIn key x y) : (b.enter s x).Reordered (b'.enter t y) :=
  ⟨⟨key, hxy⟩, h.within⟩

theorem isTooDeep_eq (h : b.Reordered b') (maxDepth : Nat) :
    b.isTooDeep maxDepth = b'.isTooDeep maxDepth := by
  have hlength : b.around.length = b'.around.length := by
    simpa [nodes] using congrArg List.length h.tags
  rw [isTooDeep, isTooDeep, h.isSome_node?_eq, hlength]

end Reordered

/-- A rule for what is skipped that does not see the order of statements. -/
def Unordered (skips : String → Json → Bool) : Prop :=
  ∀ b b' : Site, b.Reordered b' → skips b.key b.value = skips b'.key b'.value

/-- Wherever one walk comes, the other one comes to the same value, reordered inside. -/
theorem Reaches.reordered {skips : String → Json → Bool} (hskips : Unordered skips) {a a' b : Site}
    (h : a.Reordered a') (hb : a.Reaches skips b) : ∃ b', a'.Reaches skips b' ∧ b.Reordered b' := by
  induction hb with
  | @child s x hx =>
    rcases h.value with ⟨key, hvalue⟩
    rcases hvalue.exists_holds hx with ⟨t, y, key', hy, hxy⟩
    exact ⟨a'.enter t y, .child hy, h.enter s t hxy⟩
  | @inner c s x _ hskip hx ih =>
    rcases ih with ⟨c', hc', hcc⟩
    rcases hcc.value with ⟨key, hvalue⟩
    rcases hvalue.exists_holds hx with ⟨t, y, key', hy, hxy⟩
    have hskip' : skips c'.key c'.value = false := by rw [← hskips c c' hcc, hskip]
    exact ⟨c'.enter t y, .inner hc' hskip' hy, hcc.enter s t hxy⟩

end Site

theorem unordered_harvestSkips (options : Options) : Site.Unordered (harvestSkips options) := by
  intro b b' h
  rcases h.value with ⟨key, hvalue⟩
  rw [harvestSkips, harvestSkips, hvalue.isNull_eq, hvalue.isImport_eq]

theorem unordered_importSkips : Site.Unordered importSkips := by
  intro b b' h
  rcases h.value with ⟨key, hvalue⟩
  rw [importSkips, importSkips, hvalue.isImport_eq]

/-- Annotations show the tags of nodes only, and these are the same. -/
theorem Site.Reordered.harvested?_eq {b b' : Site} (h : b.Reordered b') (options : Options) :
    b.harvested? options = b'.harvested? options := by
  have htag : b.value.node?.map Node.tag = b'.value.node?.map Node.tag := by
    rcases rel_cases h.node? with ⟨hb, hb'⟩ | ⟨n, m, hb, hb', hnm⟩
    · rw [hb, hb']
    · rw [hb, hb', Option.map_some, Option.map_some, hnm.tag]
  have hpath : (b.offeredIn Arena.root).path = (b'.offeredIn Arena.root).path := by
    simp only [Offer.path, Offer.tags, Site.offeredIn_nodes, Site.offeredIn_child, List.map_reverse,
      h.tags, htag]
  rcases h.value with ⟨key, hvalue⟩
  unfold Site.harvested?
  rw [unordered_harvestSkips options b b' h]
  simp only [harvestedName?, Site.offeredIn_child, hvalue.name?_eq, hpath]

/-! ## The two spines -/

namespace Site

theorem rearranged_statements {a a' : Site} (h : a.Reordered a') {n m : Node}
    (hnm : n.Reordered m) :
    Rearranged Reordered (a.statements n) (a'.statements m) := by
  have hvalues : ∀ (c : Site) (node : Node),
      (c.statements node).map (·.value) = node.seq "stats" := by
    intro c node
    simp [statements, children, enter, Function.comp_def]
  have hseq : Rearranged Json.Reordered (n.seq "stats") (m.seq "stats") := hnm.seq "stats"
  have hstats : Json.ReorderedIn "stats" (.arr (n.seq "stats")) (.arr (m.seq "stats")) :=
    Or.inr ⟨rfl, n.seq "stats", m.seq "stats", rfl, rfl, hseq⟩
  refine Rearranged.comap (f := fun c => c.value) (r := Json.Reordered) ?_ ?_
  · rw [hvalues, hvalues]
    exact hseq
  · intro u hu v hv huv
    rcases mem_statements_iff.1 hu with ⟨i, x, -, rfl⟩
    rcases mem_statements_iff.1 hv with ⟨j, y, -, rfl⟩
    have hxy : Json.ReorderedIn "" x y := Or.inl huv
    exact (h.enter (.field "stats") (.field "stats") hstats).enter (.item i) (.item j) hxy

theorem rearranged_part {a a' : Site} (h : a.Reordered a') {n m : Node} (hnm : n.Reordered m)
    (name : String) : Rearranged Reordered (a.part n name) (a'.part m name) := by
  unfold part
  rcases rel_cases (hnm.field? name) with ⟨hx, hy⟩ | ⟨x, y, hx, hy, hxy⟩
  · rw [hx, hy]
    exact .nil
  · rw [hx, hy]
    exact .of_forall₂ (.cons (h.enter _ _ hxy) .nil)

/-- Behind a node the spine goes on to the same values, possibly in another order. -/
theorem rearranged_contents {a a' : Site} (h : a.Reordered a') {n m : Node} (hnm : n.Reordered m) :
    Rearranged Reordered (a.contents n) (a'.contents m) := by
  have hbody : (n.field? "body").isSome = (m.field? "body").isSome := by
    rcases rel_cases (hnm.field? "body") with ⟨hx, hy⟩ | ⟨x, y, hx, hy, -⟩
    · rw [hx, hy]
    · rw [hx, hy]
      rfl
  unfold contents
  rw [hnm.kind_eq, hbody, hnm.name?_eq "name"]
  split
  · split
    · exact rearranged_part h hnm "body"
    · exact rearranged_statements h hnm
  · split
    · exact rearranged_part h hnm "templ"
    · exact .nil
  · split
    · exact rearranged_statements h hnm
    · exact .nil

end Site

namespace SpineSite

/-- The same value in the same packages, reordered inside. -/
structure Reordered (b b' : SpineSite) : Prop where
  site : b.site.Reordered b'.site
  packages : b.packages = b'.packages

theorem rearranged_children {a a' : SpineSite} (h : a.Reordered a') :
    Rearranged Reordered a.children a'.children := by
  unfold children
  rcases rel_cases h.site.node? with ⟨ha, ha'⟩ | ⟨n, m, ha, ha', hnm⟩
  · rw [ha, ha']
    exact .nil
  · simp only [ha, ha', hnm.opened?_eq, h.packages]
    exact (Site.rearranged_contents h.site hnm).map fun b b' hb => ⟨hb, rfl⟩

/-- The spines hold the same values, each in the order of its own statements. -/
theorem rearranged_spine {a a' : SpineSite} (h : a.Reordered a') :
    Rearranged Reordered a.spine a'.spine := by
  induction a using SpineSite.induction generalizing a' with
  | step a ih =>
    rw [spine_eq, spine_eq]
    exact .cons h ((rearranged_children h).flatMap fun c hc c' hcc => ih c hc hcc)

/-- The whole spine of the reordered tree is a rearrangement of that of the other one. -/
theorem rearranged_root {tree tree' : Json} (h : tree.Reordered tree') :
    Rearranged Reordered (root tree).spine (root tree').spine :=
  rearranged_spine ⟨Site.reordered_root h, rfl⟩

/-- The order of statements does not change what a declaration itself writes. -/
theorem Reordered.writes_eq {b b' : SpineSite} (h : b.Reordered b') (key : String) :
    b.writes key = b'.writes key := by
  unfold writes
  rcases rel_cases h.site.node? with ⟨hb, hb'⟩ | ⟨n, m, hb, hb', hnm⟩
  · rw [hb, hb']
  · simp only [hb, hb', hnm.declKind?_eq, hnm.name?_eq, hnm.supertypes_eq, h.packages]

end SpineSite

/-! ## What is collected -/

/-- Reordering moves nothing to another depth. -/
theorem Admitted.reordered {options : Options} {tree tree' : Json}
    (hadmitted : Admitted options tree) (h : tree.Reordered tree') : Admitted options tree' := by
  have hback : (Site.root tree').Reordered (Site.root tree) := Site.reordered_root h.symm
  refine ⟨?_, ?_, ?_⟩
  · rw [hback.isTooDeep_eq]
    exact hadmitted.root
  · intro b hb
    rcases hb.reordered (unordered_harvestSkips options) hback with ⟨c, hc, hbc⟩
    have hhalts := hadmitted.walked c hc
    unfold Site.halts at hhalts ⊢
    rw [unordered_harvestSkips options b c hbc, hbc.isTooDeep_eq]
    exact hhalts
  · intro b hb
    rcases (SpineSite.rearranged_root h.symm).exists_of_mem (SpineSite.mem_spine_iff.2 hb) with
      ⟨c, hc, hbc⟩
    rw [hbc.site.isTooDeep_eq]
    exact hadmitted.outlined c (SpineSite.mem_spine_iff.1 hc)

section Collected

variable {options : Options} {tree tree' : Json}

theorem mem_walkNames_of_reordered (h : tree.Reordered tree') {q : String}
    (hq : q ∈ walkNames options tree) : q ∈ walkNames options tree' := by
  rcases mem_walkNames_iff.1 hq with ⟨b, hb, hname⟩
  rcases hb.reordered (unordered_harvestSkips options) (Site.reordered_root h) with ⟨b', hb', hbb⟩
  rw [hbb.harvested?_eq] at hname
  exact mem_walkNames_iff.2 ⟨b', hb', hname⟩

theorem mem_walkBindings_of_reordered (h : tree.Reordered tree') {c : Binding}
    (hc : c ∈ walkBindings options tree) : c ∈ walkBindings options tree' := by
  unfold walkBindings at hc ⊢
  split at hc
  · rename_i hnested
    rw [if_pos hnested]
    rcases List.mem_flatMap.1 hc with ⟨b, hb, hc⟩
    rcases (Site.mem_inside_iff.1 hb).reordered unordered_importSkips (Site.reordered_root h) with
      ⟨b', hb', hbb⟩
    rcases hbb.value with ⟨key, hvalue⟩
    rw [hvalue.bindings_eq] at hc
    exact List.mem_flatMap.2 ⟨b', Site.mem_inside_iff.2 hb', hc⟩
  · cases hc

theorem mem_fileBindings_of_reordered (h : tree.Reordered tree') {c : Binding}
    (hc : c ∈ fileBindings options tree) : c ∈ fileBindings options tree' := by
  rcases List.mem_append.1 hc with hc | hc
  · exact List.mem_append_left _ (mem_walkBindings_of_reordered h hc)
  · rcases List.mem_flatMap.1 hc with ⟨b, hb, hc⟩
    rcases (SpineSite.rearranged_root h).exists_of_mem hb with ⟨b', hb', hbb⟩
    rcases hbb.site.value with ⟨key, hvalue⟩
    rw [hvalue.bindings_eq] at hc
    exact List.mem_append_right _ (List.mem_flatMap.2 ⟨b', hb', hc⟩)

/-- The bindings are the same, though possibly in another order. -/
theorem mem_fileBindings_reordered_iff (h : tree.Reordered tree') {c : Binding} :
    c ∈ fileBindings options tree ↔ c ∈ fileBindings options tree' :=
  ⟨mem_fileBindings_of_reordered h, mem_fileBindings_of_reordered h.symm⟩

/-- The walk keeps the same names. -/
theorem walkNames_reordered (h : tree.Reordered tree') :
    walkNames options tree = walkNames options tree' :=
  StringSet.eq_of_mem_iff fun _ =>
    ⟨mem_walkNames_of_reordered h, mem_walkNames_of_reordered h.symm⟩

theorem imports_outlineOf_reordered (h : tree.Reordered tree') :
    (outlineOf options tree).scopes.imports Arena.root =
      (outlineOf options tree').scopes.imports Arena.root := by
  refine StringSet.eq_of_mem_iff fun i => ?_
  simp only [scopes_outlineOf, Arena.mem_imports_root, mem_fileBindings_reordered_iff h]

theorem mem_tables_of_reordered (h : tree.Reordered tree') {part : Tables.Part} {q : String}
    (hq : q ∈ (outlineOf options tree).tables.get part) :
    q ∈ (outlineOf options tree').tables.get part := by
  rcases mem_tables_outlineOf_iff.1 hq with ⟨b, node, name, hb, hnode, hname, hq⟩
  rcases (SpineSite.rearranged_root h).exists_of_mem
    (SpineSite.mem_spine_iff.2 hb) with ⟨b', hb', hbb⟩
  rcases rel_cases hbb.site.node? with ⟨hnone, -⟩ | ⟨n, m, hn, hm, hnm⟩
  · rw [hnone] at hnode
    cases hnode
  · rw [hn] at hnode
    cases hnode
    rw [hbb.packages] at hq
    have hb'' := SpineSite.mem_spine_iff.1 hb'
    exact mem_tables_outlineOf_iff.2 ⟨b', m, name, hb'', hm, hnm.declares_iff.1 hname, hq⟩

/-- The same is declared. -/
theorem tables_outlineOf_reordered (h : tree.Reordered tree') :
    (outlineOf options tree).tables = (outlineOf options tree').tables := by
  have hget : ∀ part, (outlineOf options tree).tables.get part =
      (outlineOf options tree').tables.get part := fun part =>
    StringSet.eq_of_mem_iff fun _ => ⟨mem_tables_of_reordered h, mem_tables_of_reordered h.symm⟩
  generalize (outlineOf options tree).tables = t at hget ⊢
  generalize (outlineOf options tree').tables = u at hget ⊢
  cases t
  cases u
  congr
  · exact hget .packages
  · exact hget .classes
  · exact hget .traits
  · exact hget .objects
  · exact hget .vals
  · exact hget .types

end Collected

/-! ## Supertypes -/

/-- Order does not matter for lists of which at most one is not empty. -/
theorem flatten_eq_of_perm {α : Type} {xs ys : List (List α)} (h : xs.Perm ys)
    (hone : xs.Pairwise fun a b => a = [] ∨ b = []) : xs.flatten = ys.flatten := by
  have hsymm : ∀ a b : List α, a = [] ∨ b = [] → b = [] ∨ a = [] := fun _ _ => Or.symm
  induction h with
  | nil => rfl
  | cons x _ ih => rw [List.flatten_cons, List.flatten_cons, ih (List.pairwise_cons.1 hone).2]
  | swap x y zs =>
    -- of two neighbours that change places one is empty
    rcases (List.pairwise_cons.1 hone).1 x List.mem_cons_self with hy | hx
    · simp [hy]
    · simp [hx]
  | trans hxy _ ih ih' => exact (ih hone).trans (ih' (hone.perm hxy @hsymm))

theorem position_lt_irrefl (p : Position) : ¬ p < p := by
  induction p with
  | nil => exact fun h => by cases h
  | cons s p ih =>
    intro h
    cases h with
    | cons h => exact ih h
    | rel h =>
      cases s with
      | item i => exact Nat.lt_irrefl i h
      | field k => exact String.lt_irrefl k h

namespace SpineSite

/-- No two declarations of a kind on the spine have the same qualified name. -/
def DeclaredOnce (tree : Json) : Prop :=
  ∀ b c kind qualified, OnSpine tree b → OnSpine tree c → b.DeclaresAs kind qualified →
    c.DeclaresAs kind qualified → b = c

/-- If no declaration is made twice, one value on the spine at most writes under a key. -/
theorem DeclaredOnce.pairwise_writes {tree : Json} (h : DeclaredOnce tree) (key : String) :
    (((root tree).spine).map (writes key)).Pairwise fun a b => a = [] ∨ b = [] := by
  rw [List.pairwise_map]
  refine (pairwise_spine (root tree)).imp_of_mem ?_
  intro b c hb hc hlt
  by_contra hboth
  rw [not_or] at hboth
  rcases exists_declaresAs_of_writes hboth.1 with ⟨kind, q, hbq, hkey⟩
  rcases exists_declaresAs_of_writes hboth.2 with ⟨kind', q', hcq, hkey'⟩
  obtain ⟨rfl, rfl⟩ := DeclKind.key_injective (hkey.trans hkey'.symm)
  have hsame : b = c := h b c kind q (mem_spine_iff.1 hb) (mem_spine_iff.1 hc) hbq hcq
  rw [hsame] at hlt
  exact position_lt_irrefl c.site.position hlt

end SpineSite

/-- The supertypes are the same if no two declarations share a key. -/
theorem heritage_outlineOf_reordered {options : Options} {tree tree' : Json}
    (h : tree.Reordered tree') (honce : SpineSite.DeclaredOnce tree) :
    (outlineOf options tree).heritage = (outlineOf options tree').heritage := by
  have hget : ∀ key, (outlineOf options tree).heritage.get? key =
      (outlineOf options tree').heritage.get? key := by
    intro key
    have hwrites : Rearranged (· = ·) ((SpineSite.root tree).spine.map (SpineSite.writes key))
        ((SpineSite.root tree').spine.map (SpineSite.writes key)) :=
      (SpineSite.rearranged_root h).map fun b b' hbb => hbb.writes_eq key
    rw [get?_heritage_outlineOf, get?_heritage_outlineOf, List.flatMap_def, List.flatMap_def,
      flatten_eq_of_perm hwrites.perm_of_eq (honce.pairwise_writes key)]
  have hentries : (outlineOf options tree).heritage.entries =
      (outlineOf options tree').heritage.entries := Table.eq_of_find?_eq hget
  generalize (outlineOf options tree).heritage = t at hentries ⊢
  generalize (outlineOf options tree').heritage = u at hentries ⊢
  cases t
  cases u
  cases hentries
  rfl

/-! ## The summary -/

/-- Either both trees can be indexed or neither. If so, the summaries agree on declarations, imports
and names, and on supertypes as well if no short name is bound to two paths and no declaration is
made twice. -/
theorem index_reordered (options : Options) (filename : String) (tree tree' : Json)
    (htree : tree.treeError? = none) (h : tree.Reordered tree') :
    ((∃ summary, index options filename tree = .ok summary) ↔
      ∃ summary', index options filename tree' = .ok summary') ∧
    ∀ summary summary', index options filename tree = .ok summary →
      index options filename tree' = .ok summary' →
      summary.SameDeclarations summary' ∧ summary.imports = summary'.imports ∧
        summary.names = summary'.names ∧
        (Unambiguous (fileBindings options tree) → SpineSite.DeclaredOnce tree →
          summary.supertypes = summary'.supertypes) := by
  have htree' : tree'.treeError? = none := h.treeError? htree
  refine ⟨⟨?_, ?_⟩, ?_⟩
  · rintro ⟨summary, hsummary⟩
    have hadmitted := ((index_eq_ok_iff htree).1 hsummary).1
    exact ⟨_, index_of_admitted htree' (hadmitted.reordered h) filename⟩
  · rintro ⟨summary', hsummary'⟩
    have hadmitted' := ((index_eq_ok_iff htree').1 hsummary').1
    exact ⟨_, index_of_admitted htree (hadmitted'.reordered h.symm) filename⟩
  · intro summary summary' hsummary hsummary'
    rcases (index_eq_ok_iff htree).1 hsummary with ⟨-, rfl⟩
    rcases (index_eq_ok_iff htree').1 hsummary' with ⟨-, rfl⟩
    refine ⟨sameDeclarations_summarize (tables_outlineOf_reordered h), ?_, ?_, ?_⟩
    · simp only [summarize, imports_outlineOf_reordered h]
    · simp only [summarize, walkNames_reordered h]
    · intro hbindings honce
      have hresolve : (outlineOf options tree).scopes.resolve Arena.root =
          (outlineOf options tree').scopes.resolve Arena.root := by
        funext symbol
        rw [resolve_outlineOf, resolve_outlineOf]
        exact resolveIn_congr hbindings (fun c => mem_fileBindings_reordered_iff h) symbol
      simp only [summarize, Heritage.resolve, heritage_outlineOf_reordered h honce, hresolve]

/-- The package `p` with its class before the import. -/
def packagedFileReversed : Json :=
  .obj [
    ("ref", .obj [("type", .str "Term.Name"), ("value", .str "p")]),
    ("stats", .arr [
      .obj [
        ("name", .obj [("type", .str "Type.Name"), ("value", .str "X")]),
        ("templ", .obj [
          ("inits", .arr [.obj [
            ("tpe", .obj [("type", .str "Type.Name"), ("value", .str "B")]),
            ("type", .str "Init")]]),
          ("type", .str "Template")]),
        ("type", .str "Defn.Class")],
      importOf "c" "B"]),
    ("type", .str "Pkg")]

theorem reordered_packagedFile : packagedFile.Reordered packagedFileReversed :=
  have hitems : ∀ items : List Json, Json.ReorderedItems items items := fun _ =>
    Json.reorderedItems_iff.2 (List.forall₂_same.2 fun x _ => .same x)
  .obj (.field _ (.same _)
    (.stats (hitems _) (List.Perm.swap _ _ []) (.field _ (.same _) .nil)))

/-- The only declaration with supertypes on the spine of the file is its second statement. -/
theorem declaredOnce_packagedFile : SpineSite.DeclaredOnce packagedFile := by
  obtain ⟨b₀, b₁, hchildren, hdecl₀, hbehind₀, hbehind₁⟩ :
      ∃ b₀ b₁, (SpineSite.root packagedFile).children = [b₀, b₁] ∧
        b₀.site.value.node?.bind Node.declKind? = none ∧ b₀.children = [] ∧ b₁.children = [] :=
    ⟨_, _, rfl, rfl, rfl, rfl⟩
  have hspine : (SpineSite.root packagedFile).spine = [SpineSite.root packagedFile, b₀, b₁] := by
    rw [SpineSite.spine_eq, hchildren]
    simp [SpineSite.spine_eq, hbehind₀, hbehind₁]
  have hroot : (SpineSite.root packagedFile).site.value.node?.bind Node.declKind? = none := rfl
  have hlast : ∀ b kind qualified, SpineSite.OnSpine packagedFile b → b.DeclaresAs kind qualified →
      b = b₁ := by
    rintro b kind qualified hb ⟨node, name, hnode, hkind, -, -⟩
    have hdecl : b.site.value.node?.bind Node.declKind? = some kind := by
      rw [hnode, Option.bind_some, hkind]
    rw [← SpineSite.mem_spine_iff, hspine] at hb
    simp only [List.mem_cons, List.not_mem_nil, or_false] at hb
    rcases hb with rfl | rfl | rfl
    · rw [hroot] at hdecl
      cases hdecl
    · rw [hdecl₀] at hdecl
      cases hdecl
    · rfl
  intro b c kind qualified hb hc hbq hcq
  rw [hlast b kind qualified hb hbq, hlast c kind qualified hc hcq]

theorem index_reordered_packagedFile :
    packagedFile.treeError? = none ∧ packagedFile.Reordered packagedFileReversed ∧
      Unambiguous (fileBindings {} packagedFile) ∧ SpineSite.DeclaredOnce packagedFile ∧
      ∃ summary summary', index {} "X.scala" packagedFile = .ok summary ∧
        index {} "X.scala" packagedFileReversed = .ok summary' ∧
        summary.SameDeclarations summary' ∧ summary.imports = summary'.imports ∧
        summary.names = summary'.names ∧ summary.supertypes = summary'.supertypes := by
  obtain ⟨hboth, hsame⟩ :=
    index_reordered {} "X.scala" packagedFile packagedFileReversed rfl reordered_packagedFile
  have hok : (index {} "X.scala" packagedFile).toBool = true := by decide +kernel
  cases hindex : index {} "X.scala" packagedFile with
  | ok summary =>
    obtain ⟨summary', hindex'⟩ := hboth.1 ⟨summary, hindex⟩
    obtain ⟨hdeclarations, himports, hnames, hsupertypes⟩ := hsame summary summary' hindex hindex'
    exact ⟨rfl, reordered_packagedFile, unambiguous_packagedFile, declaredOnce_packagedFile,
      summary, summary', rfl, hindex', hdeclarations, himports, hnames,
      hsupertypes unambiguous_packagedFile declaredOnce_packagedFile⟩
  | error fault =>
    rw [hindex] at hok
    cases hok

end SymbolIndex
