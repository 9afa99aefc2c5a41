import SymbolIndex.Proofs.Index.Independence
import SymbolIndex.Proofs.Index.Supertypes
import SymbolIndex.Proofs.Tree.Migration
import Mathlib.Data.List.Forall2

/-!
# Trees with the same summary

A tree and its migrated form are traversed differently: the new bodies of packages are further
nodes, and they stand before other parts of the package. This file relates the two walks and the two
spines:

- `Site.Migrated` : a site of the new tree that takes the place of one of the old tree
- `Site.Reaches.migrate`, `Site.Reaches.of_migrate` : the walks come to the same values, up to
  bodies
- `SpineSite.Matches` : a spine with bodies in between
- `SpineSite.matches_spine` : the spine of the new tree is that of the old one with bodies in
  between
- `index_migrate` : the summary of the old tree from that of the new one
-/

namespace SymbolIndex

/-! ## The two walks -/

namespace Site

/-- The second site has the migrated value of the first, and at least as many nodes around it. -/
structure Migrated (b b' : Site) : Prop where
  value : b'.value = b.value.migrate
  around : b.around.length ≤ b'.around.length

theorem migrated_root (tree : Json) : Migrated (root tree) (root tree.migrate) :=
  ⟨rfl, le_rfl⟩

/-- A node adds one to what is around the values that it holds. -/
theorem length_within (b : Site) :
    b.within.length = b.around.length + if b.value.node?.isSome then 1 else 0 := by
  unfold within
  cases b.value.node? with
  | none => simp
  | some node => simp

namespace Migrated

theorem node? {b b' : Site} (h : Migrated b b') : b'.value.node?.isSome = b.value.node?.isSome := by
  rw [h.value, Json.node?_migrate, Option.isSome_map]

theorem within {b b' : Site} (h : Migrated b b') : b.within.length ≤ b'.within.length := by
  rw [length_within, length_within, h.node?]
  exact Nat.add_le_add_right h.around _

theorem enter {b b' : Site} (h : Migrated b b') (s t : Step) (x : Json) :
    Migrated (b.enter s x) (b'.enter t x.migrate) :=
  ⟨rfl, h.within⟩

/-- The statements in a new body have one more node around them. -/
theorem enter_body {b b' : Site} (h : Migrated b b') (s : Step) (x : Json) :
    Migrated (b.enter s x)
      ((b'.enter (.field "body") (packageBody x.migrate)).enter (.field "stats") x.migrate) :=
  ⟨rfl, h.within.trans (Nat.le_succ _)⟩

/-- A site that is not too deep in the new tree was not too deep in the old one. -/
theorem isTooDeep {b b' : Site} (h : Migrated b b') {maxDepth : Nat}
    (hb : b'.isTooDeep maxDepth = false) : b.isTooDeep maxDepth = false := by
  rw [isTooDeep_eq_false_iff] at hb ⊢
  intro hnode
  have hnode' : b'.value.node?.isSome = true := by rw [h.node?, hnode]
  exact h.within.trans (hb hnode')

end Migrated

/-- What is inside a sorted value is sorted. -/
theorem Reaches.sorted {skips : String → Json → Bool} {a b : Site} (h : a.Reaches skips b)
    (ha : a.value.Sorted) : b.value.Sorted := by
  induction h with
  | child hx => exact sorted_of_holds ha hx
  | inner _ _ hx ih => exact sorted_of_holds ih hx

theorem isNull_eq_false_of_holds {v x : Json} {s : Step} (h : v.Holds s x) : v.isNull = false := by
  cases h with
  | item _ => rfl
  | field _ => rfl

/-- A rule for what is skipped that does not depend on the shape of packages. -/
structure Unshaped (skips : String → Json → Bool) : Prop where
  migrate : ∀ key key' v, skips key' v.migrate = skips key v
  body : ∀ key stats, skips key (packageBody stats) = false

section Unshaped

variable {skips : String → Json → Bool} {a a' : Site}

/-- One step of the walk through the old tree is one or two steps through the new one. -/
theorem exists_reaches_of_holds (hskips : Unshaped skips) (h : Migrated a a')
    (hsorted : a.value.Sorted) {s : Step} {x : Json} (hx : a.value.Holds s x)
    (hnull : x.isNull = false) : ∃ b', a'.Reaches skips b' ∧ Migrated (a.enter s x) b' := by
  rcases Json.holds_migrate hsorted hx hnull with hstay | ⟨-, hmoved⟩
  · rw [← h.value] at hstay
    exact ⟨_, .child hstay, h.enter s s x⟩
  · rw [← h.value] at hmoved
    have hstats : (packageBody x.migrate).Holds (.field "stats") x.migrate :=
      .field List.mem_cons_self
    exact ⟨_, .inner (.child hmoved) (hskips.body _ _) hstats, h.enter_body s x⟩

/-- The walk through the new tree comes to everything but nulls that the walk through the old tree
comes to. -/
theorem Reaches.migrate (hskips : Unshaped skips) (h : Migrated a a') (hsorted : a.value.Sorted)
    {b : Site} (hb : a.Reaches skips b) (hnull : b.value.isNull = false) :
    ∃ b', a'.Reaches skips b' ∧ Migrated b b' := by
  induction hb with
  | child hx => exact exists_reaches_of_holds hskips h hsorted hx hnull
  | @inner c s x hc hskip hx ih =>
    obtain ⟨c', hc', hmigrated⟩ := ih (isNull_eq_false_of_holds hx)
    obtain ⟨b', hb', hstep⟩ := exists_reaches_of_holds hskips hmigrated (hc.sorted hsorted) hx hnull
    have hskip' : skips c'.key c'.value = false := by
      rw [hmigrated.value, hskips.migrate c.key c'.key, hskip]
    exact ⟨b', hc'.trans hskip' hb', hstep⟩

/-- The walk through the new tree comes to migrated values of the old one, and besides to bodies and
their tags. -/
theorem Reaches.of_migrate (hskips : Unshaped skips) (h : a'.value = a.value.migrate) {b' : Site}
    (hb : a'.Reaches skips b') :
    (∃ b, a.Reaches skips b ∧ b'.value = b.value.migrate) ∨
      (∃ b, a.Reaches skips b ∧ b'.value = packageBody b.value.migrate) ∨
      b'.value = .str "Pkg.Body" := by
  have hstep : ∀ {c c' : Site} {s : Step} {y : Json}, c'.value = c.value.migrate →
      c'.value.Holds s y → (∀ {t x}, c.value.Holds t x → a.Reaches skips (c.enter t x)) →
      (∃ b, a.Reaches skips b ∧ y = b.value.migrate) ∨
        (∃ b, a.Reaches skips b ∧ y = packageBody b.value.migrate) ∨ y = .str "Pkg.Body" := by
    intro c c' s y hvalue hy hreach
    rw [hvalue] at hy
    rcases Json.of_holds_migrate hy with ⟨x, hx, rfl⟩ | ⟨x, hx, -, rfl⟩
    · exact Or.inl ⟨_, hreach hx, rfl⟩
    · exact Or.inr (Or.inl ⟨_, hreach hx, rfl⟩)
  induction hb with
  | child hy => exact hstep h hy .child
  | @inner c' s y hc' hskip hy ih =>
    rcases ih with ⟨c, hc, hvalue⟩ | ⟨c, hc, hvalue⟩ | htag
    · have hskip' : skips c.key c.value = false := by
        rw [← hskips.migrate c.key c'.key, ← hvalue, hskip]
      exact hstep hvalue hy (.inner hc hskip')
    · -- a body holds the statements that the package held, and its tag
      rw [hvalue] at hy
      cases hy with
      | field hk =>
        rcases List.mem_cons.1 hk with heq | hk
        · cases heq
          exact Or.inl ⟨c, hc, rfl⟩
        · rw [List.mem_singleton] at hk
          cases hk
          exact Or.inr (Or.inr rfl)
    · rw [htag] at hy
      cases hy

/-- A property of values that does not depend on the shape of packages, and that neither null nor a
body nor text has, is met by both walks or by neither. -/
theorem exists_reaches_migrate_iff (hskips : Unshaped skips) (h : Migrated a a')
    (hsorted : a.value.Sorted) (P : Json → Prop) (hP : ∀ v, P v.migrate ↔ P v)
    (hnull : ∀ v, P v → v.isNull = false) (hbody : ∀ stats, ¬ P (packageBody stats))
    (htext : ∀ s, ¬ P (.str s)) :
    (∃ b', a'.Reaches skips b' ∧ P b'.value) ↔ ∃ b, a.Reaches skips b ∧ P b.value := by
  constructor
  · rintro ⟨b', hb', hPb'⟩
    rcases hb'.of_migrate hskips h.value with ⟨b, hb, hvalue⟩ | ⟨b, -, hvalue⟩ | htag
    · rw [hvalue, hP] at hPb'
      exact ⟨b, hb, hPb'⟩
    · rw [hvalue] at hPb'
      exact absurd hPb' (hbody _)
    · rw [htag] at hPb'
      exact absurd hPb' (htext _)
  · rintro ⟨b, hb, hPb⟩
    obtain ⟨b', hb', hmigrated⟩ := hb.migrate hskips h hsorted (hnull _ hPb)
    refine ⟨b', hb', ?_⟩
    rw [hmigrated.value, hP]
    exact hPb

end Unshaped

/-! ## Behind a node -/

theorem forall₂_children {c c' : Site} {items : List Json} (hvalue : c.value = .arr items)
    (h : Migrated c c') : List.Forall₂ Migrated c.children c'.children := by
  have hvalue' : c'.value = .arr (items.map Json.migrate) := by
    rw [h.value, hvalue, Json.migrate_arr]
  simp only [children, hvalue, hvalue', List.zipIdx_map, List.map_map, List.forall₂_map_left_iff,
    List.forall₂_map_right_iff]
  exact List.forall₂_same.2 fun e _ => h.enter (.item e.2) (.item e.2) e.1

theorem forall₂_statements {a a' : Site} (h : Migrated a a') {node : Node}
    (hkeeps : node.Keeps "stats") :
    List.Forall₂ Migrated (a.statements node) (a'.statements node.migrate) := by
  refine forall₂_children rfl ?_
  rw [Node.seq_migrate hkeeps, ← Json.migrate_arr]
  exact h.enter _ _ _

theorem forall₂_part {a a' : Site} (h : Migrated a a') {node : Node} {name : String}
    (hkeeps : node.Keeps name) :
    List.Forall₂ Migrated (a.part node name) (a'.part node.migrate name) := by
  rw [part, part, Node.field?_migrate hkeeps]
  cases node.field? name with
  | none => exact .nil
  | some x => exact .cons (h.enter _ _ x) .nil

/-- Behind a node the spine goes on as before, if nothing has been moved there. -/
theorem forall₂_contents {a a' : Site} (h : Migrated a a') {node : Node}
    (hown : node.ownStats? = none) :
    List.Forall₂ Migrated (a.contents node) (a'.contents node.migrate) := by
  have hkeeps : ∀ name, node.Keeps name := fun _ => Or.inl hown
  unfold contents
  rw [Node.kind_migrate, Node.field?_migrate (hkeeps "body"), Option.isSome_map,
    Node.name?_migrate (hkeeps "name")]
  split
  · split
    · exact forall₂_part h (hkeeps "body")
    · exact forall₂_statements h (hkeeps "stats")
  · split
    · exact forall₂_part h (hkeeps "templ")
    · exact .nil
  · split
    · exact forall₂_statements h (hkeeps "stats")
    · exact .nil

/-- Otherwise there is a body now, and the spine goes on behind that. -/
theorem contents_of_ownStats? {a a' : Site} (h : Migrated a a') {node : Node} {stats : List Json}
    (hown : node.ownStats? = some stats) :
    ∃ w body, a'.contents node.migrate = [w] ∧
      w.value = packageBody (Json.arr stats).migrate ∧ w.value.node? = some body ∧
      body.opened? = none ∧ List.Forall₂ Migrated (a.contents node) (w.contents body) := by
  obtain ⟨hkind, hbody, hstats⟩ := Node.of_ownStats?_eq_some hown
  have hfield : node.migrate.field? "body" = some (packageBody (Json.arr stats).migrate) := by
    rw [Node.field?, Node.find?_migrate_of_ownStats? hown, if_pos rfl, Json.migrate_arr]
    rfl
  have hseq : node.seq "stats" = stats := by
    rw [Node.seq, hstats]
    rfl
  refine ⟨a'.enter (.field "body") (packageBody (Json.arr stats).migrate),
    ⟨"Pkg.Body", [("stats", (Json.arr stats).migrate), ("type", .str "Pkg.Body")]⟩,
    ?_, rfl, rfl, rfl, ?_⟩
  · simp [contents, hkind, hfield, part]
  · have hold : a.contents node = (a.enter (.field "stats") (.arr stats)).children := by
      simp [contents, hkind, hbody, statements, hseq]
    rw [hold]
    -- a body is followed through its statements like most nodes
    have hnew := forall₂_children rfl (h.enter_body (.field "stats") (.arr stats))
    rw [Json.migrate_arr] at hnew ⊢
    exact hnew

end Site

/-! ## The two spines -/

namespace SpineSite

/-- The second value on the spine takes the place of the first, in the same packages. -/
structure Migrated (b b' : SpineSite) : Prop where
  site : b.site.Migrated b'.site
  packages : b'.packages = b.packages

/-- The second list has the values of the first migrated, in order, with bodies of packages in
between. -/
inductive Matches : List SpineSite → List SpineSite → Prop where
  | nil : Matches [] []
  | cons {b b' : SpineSite} {bs bs' : List SpineSite} (hb : Migrated b b') (hbs : Matches bs bs') :
      Matches (b :: bs) (b' :: bs')
  | body {w : SpineSite} {stats : Json} {bs bs' : List SpineSite}
      (hw : w.site.value = packageBody stats) (hbs : Matches bs bs') : Matches bs (w :: bs')

/-- Lists that match can be joined. -/
theorem Matches.append {bs bs' cs cs' : List SpineSite} (hbs : Matches bs bs')
    (hcs : Matches cs cs') : Matches (bs ++ cs) (bs' ++ cs') := by
  induction hbs with
  | nil => exact hcs
  | cons hb _ ih => exact .cons hb ih
  | body hw _ ih => exact .body hw ih

theorem Matches.flatMap {cs cs' : List SpineSite} (h : List.Forall₂ Migrated cs cs')
    (hspine : ∀ c ∈ cs, ∀ c', Migrated c c' → Matches c.spine c'.spine) :
    Matches (cs.flatMap spine) (cs'.flatMap spine) := by
  induction h with
  | nil => exact .nil
  | @cons c c' cs cs' hc _ ih =>
    rw [List.flatMap_cons, List.flatMap_cons]
    have hrest := ih fun d hd => hspine d (List.mem_cons_of_mem c hd)
    exact (hspine c List.mem_cons_self c' hc).append hrest

theorem forall₂_within {bs bs' : List Site} (h : List.Forall₂ Site.Migrated bs bs')
    (packages : List String) :
    List.Forall₂ Migrated (bs.map fun b => ⟨b, packages⟩) (bs'.map fun b => ⟨b, packages⟩) := by
  induction h with
  | nil => exact .nil
  | cons hb _ ih => exact .cons ⟨hb, rfl⟩ ih

/-- Behind a value the spine goes on as before, or behind a body. -/
theorem children_migrate {a a' : SpineSite} (h : Migrated a a') :
    List.Forall₂ Migrated a.children a'.children ∨
      ∃ w stats, a'.children = [w] ∧ w.site.value = packageBody stats ∧
        List.Forall₂ Migrated a.children w.children := by
  cases hnode : a.site.value.node? with
  | none =>
    have hnode' : a'.site.value.node? = none := by
      rw [h.site.value, Json.node?_migrate, hnode]
      rfl
    left
    simp only [children, hnode, hnode']
    exact .nil
  | some node =>
    have hnode' : a'.site.value.node? = some node.migrate := by
      rw [h.site.value, Json.node?_migrate, hnode]
      rfl
    have hopened : node.migrate.opened? = node.opened? := by
      simp [Node.opened?, Node.name?_migrate, Node.keeps_of_ne]
    cases hown : node.ownStats? with
    | none =>
      left
      simp only [children, hnode, hnode', hopened, h.packages]
      exact forall₂_within (Site.forall₂_contents h.site hown) _
    | some stats =>
      obtain ⟨w, body, hcontents, hvalue, hbody, hplain, hbehind⟩ :=
        Site.contents_of_ownStats? h.site hown
      refine Or.inr ⟨⟨w, a.packages ++ node.opened?.toList⟩, _, ?_, hvalue, ?_⟩
      · simp [children, hnode', hcontents, hopened, h.packages]
      · simp only [children, hnode, hbody, hplain, Option.toList_none, List.append_nil]
        exact forall₂_within hbehind _

/-- The spine of the new tree is that of the old one, with bodies in between. -/
theorem matches_spine {a a' : SpineSite} (h : Migrated a a') : Matches a.spine a'.spine := by
  induction a using SpineSite.induction generalizing a' with
  | step a ih =>
    have hspine : ∀ c ∈ a.children, ∀ c', Migrated c c' → Matches c.spine c'.spine :=
      fun c hc c' hc' => ih c hc hc'
    rw [spine_eq a, spine_eq a']
    refine .cons h ?_
    rcases children_migrate h with hsame | ⟨w, stats, hchildren, hw, hbehind⟩
    · exact .flatMap hsame hspine
    · rw [hchildren, List.flatMap_cons, List.flatMap_nil, List.append_nil, spine_eq w]
      exact .body hw (.flatMap hbehind hspine)

namespace Matches

/-- Every value of the old list has its counterpart in the new one. -/
theorem exists_of_mem {bs bs' : List SpineSite} (h : Matches bs bs') {b : SpineSite} (hb : b ∈ bs) :
    ∃ b' ∈ bs', Migrated b b' := by
  induction h with
  | nil => cases hb
  | @cons c c' cs cs' hc _ ih =>
    rcases List.mem_cons.1 hb with rfl | hb
    · exact ⟨c', List.mem_cons_self, hc⟩
    · obtain ⟨b', hb', hmigrated⟩ := ih hb
      exact ⟨b', List.mem_cons_of_mem _ hb', hmigrated⟩
  | body _ _ ih =>
    obtain ⟨b', hb', hmigrated⟩ := ih hb
    exact ⟨b', List.mem_cons_of_mem _ hb', hmigrated⟩

/-- Bodies of packages add nothing to an outline, so both lists give the same one. -/
theorem foldl_note {bs bs' : List SpineSite} (h : Matches bs bs') (scope : Nat) (o : Outline) :
    bs'.foldl (Outline.note scope) o = bs.foldl (Outline.note scope) o := by
  induction h generalizing o with
  | nil => rfl
  | @cons b b' bs bs' hb _ ih =>
    have hnote : o.note scope b' = o.note scope b := by
      unfold Outline.note
      rw [hb.site.value, Json.node?_migrate, hb.packages]
      cases hnode : b.site.value.node? with
      | none => rfl
      | some node => exact Outline.noteNode_migrate hnode scope b.packages o
    rw [List.foldl_cons, List.foldl_cons, hnote, ih]
  | @body w stats bs bs' hw _ ih =>
    -- a body declares nothing, has no supertypes and is no import statement
    have hnote : o.note scope w = o := by
      unfold Outline.note
      rw [hw]
      rfl
    rw [List.foldl_cons, hnote, ih]

/-- Bodies of packages bring nothing. -/
theorem flatMap_bindings {bs bs' : List SpineSite} (h : Matches bs bs') :
    bs'.flatMap (·.site.value.bindings) = bs.flatMap (·.site.value.bindings) := by
  induction h with
  | nil => rfl
  | cons hb _ ih =>
    rw [List.flatMap_cons, List.flatMap_cons, ih, hb.site.value, Json.bindings_migrate]
  | @body w stats bs bs' hw _ ih =>
    have hnone : w.site.value.bindings = [] := by
      rw [hw]
      rfl
    rw [List.flatMap_cons, ih, hnone, List.nil_append]

end Matches

/-- The spine of the new tree is that of the old one, with bodies of packages in between. -/
theorem matches_root (tree : Json) : Matches (root tree).spine (root tree.migrate).spine :=
  matches_spine ⟨Site.migrated_root tree, rfl⟩

end SpineSite

/-! ## What is collected -/

theorem unshaped_harvestSkips (options : Options) : Site.Unshaped (harvestSkips options) where
  migrate _ _ v := by simp only [harvestSkips, Json.isNull_migrate, Json.isImport_migrate]
  body _ _ := by
    cases hnested : options.nestedImports with
    | false => simp [harvestSkips, hnested, packageBody, Json.isNull]
    | true =>
      rw [harvestSkips, hnested]
      rfl

theorem unshaped_importSkips : Site.Unshaped importSkips where
  migrate _ _ v := v.isImport_migrate
  body _ _ := rfl

/-- Every node of the old tree has at most as many nodes around it as in the new one. -/
theorem Admitted.of_migrate {options : Options} {tree : Json} (hsorted : tree.Sorted)
    (h : Admitted options tree.migrate) : Admitted options tree := by
  refine ⟨(Site.migrated_root tree).isTooDeep h.root, ?_, ?_⟩
  · intro b hb
    refine halts_harvestSkips_eq_false_iff.2 fun hskip => ?_
    cases hnull : b.value.isNull with
    | true =>
      -- a null may be gone, but it is no node
      refine Site.isTooDeep_eq_false_iff.2 fun hnode => ?_
      cases hvalue : b.value with
      | null =>
        rw [hvalue] at hnode
        cases hnode
      | _ =>
        rw [hvalue] at hnull
        cases hnull
    | false =>
      obtain ⟨b', hb', hmigrated⟩ :=
        hb.migrate (unshaped_harvestSkips options) (Site.migrated_root tree) hsorted hnull
      have hhalts := halts_harvestSkips_eq_false_iff.1 (h.walked b' hb')
      rw [hmigrated.value, Json.isImport_migrate] at hhalts
      exact hmigrated.isTooDeep (hhalts hskip)
  · intro b hb
    obtain ⟨b', hb', hmigrated⟩ :=
      (SpineSite.matches_root tree).exists_of_mem (SpineSite.mem_spine_iff.2 hb)
    exact hmigrated.site.isTooDeep (h.outlined b' (SpineSite.mem_spine_iff.1 hb'))

/-- The walk keeps the same names: the body of a package has no name. -/
theorem walkNames_migrate {options : Options} {tree : Json} (hsorted : tree.Sorted)
    (hannotate : options.annotateNameTypes = false) :
    walkNames options tree.migrate = walkNames options tree := by
  refine StringSet.eq_of_mem_iff fun q => ?_
  have hname : ∀ b : Site, b.harvested? options = some q ↔
      harvestSkips options "" b.value = false ∧ b.value.name?.filter isIndexed = some q := by
    intro b
    simp [Site.harvested?, harvestedName?, hannotate, harvestSkips]
  simp only [mem_walkNames_iff, hname]
  refine Site.exists_reaches_migrate_iff (unshaped_harvestSkips options) (Site.migrated_root tree)
    hsorted (fun v => harvestSkips options "" v = false ∧ v.name?.filter isIndexed = some q)
    ?_ ?_ ?_ ?_
  · intro v
    rw [(unshaped_harvestSkips options).migrate "" "" v, Json.name?_migrate]
  · rintro v ⟨hskip, -⟩
    simp only [harvestSkips, Bool.or_eq_false_iff] at hskip
    exact hskip.1
  · rintro stats ⟨-, hbody⟩
    rw [Json.name?_eq] at hbody
    cases hbody
  · rintro s ⟨-, htext⟩
    rw [Json.name?_eq] at htext
    cases htext

/-- The walk records the same bindings, though possibly in another order. -/
theorem mem_walkBindings_migrate {options : Options} {tree : Json} (hsorted : tree.Sorted)
    {b : Binding} : b ∈ walkBindings options tree.migrate ↔ b ∈ walkBindings options tree := by
  unfold walkBindings
  split
  · simp only [List.mem_flatMap, Site.mem_inside_iff]
    refine Site.exists_reaches_migrate_iff unshaped_importSkips (Site.migrated_root tree) hsorted
      (fun v => b ∈ v.bindings) ?_ ?_ ?_ ?_
    · intro v
      rw [Json.bindings_migrate]
    · intro v hv
      cases v with
      | null => cases hv
      | _ => rfl
    · intro stats hstats
      cases hstats
    · intro s hs
      cases hs
  · rfl

theorem mem_fileBindings_migrate {options : Options} {tree : Json} (hsorted : tree.Sorted)
    {b : Binding} : b ∈ fileBindings options tree.migrate ↔ b ∈ fileBindings options tree := by
  have hspine : spineBindings tree.migrate = spineBindings tree :=
    (SpineSite.matches_root tree).flatMap_bindings
  rw [fileBindings, fileBindings, List.mem_append, List.mem_append,
    mem_walkBindings_migrate hsorted, hspine]

/-- Declarations and supertypes are the same. -/
theorem outlineOf_migrate (options : Options) (tree : Json) :
    (outlineOf options tree.migrate).tables = (outlineOf options tree).tables ∧
      (outlineOf options tree.migrate).heritage = (outlineOf options tree).heritage := by
  rw [outlineOf, (SpineSite.matches_root tree).foldl_note]
  exact Outline.foldl_note_congr Arena.root (SpineSite.root tree).spine rfl rfl

theorem imports_outlineOf_migrate {options : Options} {tree : Json} (hsorted : tree.Sorted) :
    (outlineOf options tree.migrate).scopes.imports Arena.root =
      (outlineOf options tree).scopes.imports Arena.root := by
  refine StringSet.eq_of_mem_iff fun i => ?_
  simp only [scopes_outlineOf, Arena.mem_imports_root, mem_fileBindings_migrate hsorted]

/-! ## The summary -/

/-- In the new tree no package holds its statements itself. -/
theorem ownStats?_of_isIn_migrate {tree : Json} {b : Site} (hb : Site.IsIn tree.migrate b)
    {node : Node} (hnode : b.value.node? = some node) : node.ownStats? = none := by
  have hmigrated : ∀ {v : Json}, b.value = v.migrate → node.ownStats? = none := by
    intro v hvalue
    rw [hvalue, Json.node?_migrate, Option.map_eq_some_iff] at hnode
    obtain ⟨old, -, rfl⟩ := hnode
    exact old.ownStats?_migrate
  have hskips : Site.Unshaped fun _ _ => false := ⟨fun _ _ _ => rfl, fun _ _ => rfl⟩
  rcases hb with rfl | hb
  · exact hmigrated rfl
  · rcases hb.of_migrate hskips (Site.migrated_root tree).value with
      ⟨c, -, hvalue⟩ | ⟨c, -, hvalue⟩ | htag
    · exact hmigrated hvalue
    · rw [hvalue] at hnode
      cases hnode
      rfl
    · rw [htag] at hnode
      cases hnode

/-- In the new tree every package with statements has a body. If it can be indexed, so can the old
one, with the same declarations, imports and names, and with the same supertypes unless a short name
is bound to two paths. -/
theorem index_migrate (options : Options) (filename : String) (tree : Json) (summary' : Summary)
    (hsorted : tree.Sorted) (htree : tree.treeError? = none)
    (hannotate : options.annotateNameTypes = false)
    (h : index options filename tree.migrate = .ok summary') :
    (∀ b node, Site.IsIn tree.migrate b → b.value.node? = some node → node.ownStats? = none) ∧
    ∃ summary, index options filename tree = .ok summary ∧ summary.SameDeclarations summary' ∧
      summary.imports = summary'.imports ∧ summary.names = summary'.names ∧
      (Unambiguous (fileBindings options tree) → summary.supertypes = summary'.supertypes) := by
  refine ⟨fun b node hb hnode => ownStats?_of_isIn_migrate hb hnode, ?_⟩
  obtain ⟨hadmitted, rfl⟩ := (index_eq_ok_iff (Json.treeError?_migrate htree)).1 h
  obtain ⟨htables, hheritage⟩ := outlineOf_migrate options tree
  refine ⟨_, index_of_admitted htree (hadmitted.of_migrate hsorted) filename,
    sameDeclarations_summarize htables.symm, ?_, ?_, ?_⟩
  · simp only [summarize, imports_outlineOf_migrate hsorted]
  · simp only [summarize, walkNames_migrate hsorted hannotate]
  · intro hone
    have hresolve : (outlineOf options tree).scopes.resolve Arena.root =
        (outlineOf options tree.migrate).scopes.resolve Arena.root := by
      funext symbol
      rw [resolve_outlineOf, resolve_outlineOf]
      exact resolveIn_congr hone (fun b => (mem_fileBindings_migrate hsorted).symm) symbol
    simp only [summarize, Heritage.resolve, hheritage, hresolve]

/-- A package `p` that holds its statements itself: an import, and a class `X` that extends what is
imported. -/
def packagedFile : Json :=
  .obj [
    ("ref", .obj [("type", .str "Term.Name"), ("value", .str "p")]),
    ("stats", .arr [
      importOf "c" "B",
      .obj [
        ("name", .obj [("type", .str "Type.Name"), ("value", .str "X")]),
        ("templ", .obj [
          ("inits", .arr [.obj [
            ("tpe", .obj [("type", .str "Type.Name"), ("value", .str "B")]),
            ("type", .str "Init")]]),
          ("type", .str "Template")]),
        ("type", .str "Defn.Class")]]),
    ("type", .str "Pkg")]

/-- Every binding of the file has a path among its imports, of which there is one. -/
theorem unambiguous_packagedFile : Unambiguous (fileBindings {} packagedFile) := by
  have hone : (index {} "X.scala" packagedFile).toOption.map (·.imports) = some ["c.B"] := by
    decide +kernel
  obtain ⟨summary, hindex, himports⟩ := exists_index_of_map hone
  obtain ⟨-, hsummary⟩ := (index_eq_ok_iff rfl).1 hindex
  have hpath : ∀ b ∈ fileBindings {} packagedFile, b.path = "c.B" := by
    intro b hb
    have hmem : b.path ∈ summary.imports := by
      rw [hsummary]
      show b.path ∈ (outlineOf {} packagedFile).scopes.imports Arena.root
      rw [scopes_outlineOf, Arena.mem_imports_root]
      exact ⟨b, hb, rfl⟩
    rw [himports] at hmem
    exact List.mem_singleton.1 hmem
  intro b hb c hc _ _
  rw [hpath b hb, hpath c hc]

theorem index_migrate_packagedFile :
    packagedFile.Sorted ∧ packagedFile.treeError? = none ∧
      (packagedFile.migrate.get? "stats").isNone = true ∧
      Unambiguous (fileBindings {} packagedFile) ∧
      ∃ summary summary', index {} "X.scala" packagedFile.migrate = .ok summary' ∧
        index {} "X.scala" packagedFile = .ok summary ∧ summary.SameDeclarations summary' ∧
        summary.imports = summary'.imports ∧ summary.names = summary'.names ∧
        summary.supertypes = summary'.supertypes := by
  have hsorted : packagedFile.Sorted := by decide +kernel
  have hone : (index {} "X.scala" packagedFile.migrate).toOption.map Summary.imports =
      some ["c.B"] := by decide +kernel
  obtain ⟨summary', hindex, -⟩ := exists_index_of_map hone
  obtain ⟨-, summary, hsummary, hsame, himports, hnames, hsupertypes⟩ :=
    index_migrate {} "X.scala" packagedFile summary' hsorted rfl rfl hindex
  exact ⟨hsorted, rfl, rfl, unambiguous_packagedFile, summary, summary', hindex, hsummary, hsame,
    himports, hnames, hsupertypes unambiguous_packagedFile⟩

end SymbolIndex
