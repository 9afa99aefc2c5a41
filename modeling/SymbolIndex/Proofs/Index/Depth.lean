import SymbolIndex.Proofs.Index.Imports

/-!
# Trees that are too deep

Indexing compares the number of nested nodes with one limit in two places: the walk counts the nodes
it has entered, and the outline counts those on the spine. The walk does not enter import
statements, so the two do not stop at the same nodes. This file says on which trees indexing
succeeds:

- `Admitted` : neither the walk nor the outline comes to a node that is too deep
- `index_of_admitted`, `index_of_not_admitted` : indexing succeeds on these trees and on no others
- `Site.exists_node_around` : the innermost node around a site
- `Outline.exists_of_visit_tooDeep` : where a visit stops
- `index_eq_error_iff` : the trees on which indexing fails, by the nodes on a path from the root
-/

namespace SymbolIndex

/-! ## Where a walk and a visit stop -/

namespace Site

/-- The less is skipped, the more is reached. -/
theorem Reaches.mono {skips skips' : String → Json → Bool} {a b : Site}
    (hskips : ∀ key v, skips' key v = true → skips key v = true) (h : a.Reaches skips b) :
    a.Reaches skips' b := by
  have hnot : ∀ key v, skips key v = false → skips' key v = false := by
    intro key v hskip
    by_contra hskip'
    rw [hskips key v (by simpa using hskip')] at hskip
    cases hskip
  induction h with
  | child hx => exact .child hx
  | inner _ hskip hx ih => exact .inner ih (hnot _ _ hskip) hx

/-- Only nodes enclose what is inside them. -/
theorem within_eq_around_or (c : Site) :
    c.within = c.around ∨ c.value.node?.isSome = true := by
  unfold within
  cases c.value.node? with
  | none => exact Or.inl rfl
  | some node => exact Or.inr rfl

/-- What encloses a site that is reached also encloses the start, or has been entered last through a
node on the way. -/
theorem exists_node_around {skips : String → Json → Bool} {a b : Site} (h : a.Reaches skips b) :
    b.around = a.around ∨ ∃ c, (c = a ∨ a.Reaches skips c ∧ skips c.key c.value = false) ∧
      c.value.node?.isSome = true ∧ b.around = c.within := by
  induction h with
  | child _ =>
    rcases within_eq_around_or a with hsame | hnode
    · exact Or.inl hsame
    · exact Or.inr ⟨a, Or.inl rfl, hnode, rfl⟩
  | @inner c _ _ hc hskip _ ih =>
    rcases within_eq_around_or c with hsame | hnode
    · -- an array or an object that is no node encloses nothing
      have haround : ∀ s x, (c.enter s x).around = c.around := fun _ _ => hsame
      rw [haround]
      exact ih
    · exact Or.inr ⟨c, Or.inr ⟨hc, hskip⟩, hnode, rfl⟩

/-- A site is too deep if it is a node and more nodes than allowed would be open. -/
theorem isTooDeep_iff {maxDepth : Nat} {b : Site} :
    b.isTooDeep maxDepth = true ↔ b.value.node?.isSome = true ∧ maxDepth < b.within.length := by
  unfold isTooDeep within
  cases b.value.node? with
  | none => simp
  | some node =>
    simp only [Option.isSome_some, Bool.true_and, decide_eq_true_eq, List.length_cons, true_and]
    omega

theorem isTooDeep_eq_false_iff {maxDepth : Nat} {b : Site} :
    b.isTooDeep maxDepth = false ↔ (b.value.node?.isSome = true → b.within.length ≤ maxDepth) := by
  rw [← Bool.not_eq_true, isTooDeep_iff]
  simp only [not_and, not_lt]

end Site

/-- A walk ends if neither the root nor any site that it enters is too deep. -/
theorem Walk.walk_fst_eq_complete_iff {σ τ : Type} {v : Visitor σ} {base : Arena} {s : Nat}
    {skips : String → Json → Bool} {view : Arena → σ → τ} {step : τ → Site → τ}
    (hv : v.Follows base s skips view step) (hs : s < base.size) (maxDepth : Nat) (tree : Json)
    (seen : σ) :
    (walk v maxDepth s tree ⟨[], base, seen⟩).1 = .complete ↔
      (Site.root tree).isTooDeep maxDepth = false ∧
        ∀ b, (Site.root tree).Reaches skips b → b.halts skips maxDepth = false := by
  generalize hwalk : walk v maxDepth s tree ⟨[], base, seen⟩ = r
  obtain ⟨e, w⟩ := r
  cases e with
  | complete =>
    obtain ⟨-, -, hroot, hnone⟩ := of_walk_complete hv hs hwalk
    have hreached : ∀ b, (Site.root tree).Reaches skips b → b.halts skips maxDepth = false :=
      fun b hb => hnone b (Site.mem_inside_iff.2 hb)
    exact ⟨fun _ => ⟨hroot, hreached⟩, fun _ => rfl⟩
  | tooDeep =>
    constructor
    · intro hend
      cases hend
    · rintro ⟨hroot, hreached⟩
      rcases of_walk_tooDeep hv hs hwalk with ⟨hdeep, -⟩ | ⟨pre, b, post, hsites, -, -, hb, -⟩
      · rw [hroot] at hdeep
        cases hdeep
      · have hmem : b ∈ (Site.root tree).inside skips := by simp [hsites]
        rw [hreached b (Site.mem_inside_iff.1 hmem)] at hb
        cases hb

namespace Outline

/-- A visit ends if and only if no node on the spine is too deep. -/
theorem visit_fst_eq_complete_iff (scope maxDepth : Nat) (tree : Json) (scopes : Arena) :
    (visit scope maxDepth tree (new scopes)).1 = .complete ↔
      ∀ b, SpineSite.OnSpine tree b → b.site.isTooDeep maxDepth = false := by
  have hrun : visit scope maxDepth tree (new scopes) =
      outcome scope maxDepth (SpineSite.root tree).spine (new scopes) :=
    visit_eq_outcome scope maxDepth (SpineSite.root tree) (standsAt_new tree scopes)
  rw [hrun, outcome]
  cases hany : (SpineSite.root tree).spine.any (·.site.isTooDeep maxDepth) with
  | true =>
    obtain ⟨b, hb, hdeep⟩ := List.any_eq_true.1 hany
    constructor
    · intro hend
      cases hend
    · intro hnone
      rw [hnone b (SpineSite.mem_spine_iff.1 hb)] at hdeep
      cases hdeep
  | false =>
    refine ⟨fun _ b hb => ?_, fun _ => rfl⟩
    simpa using List.any_eq_false.1 hany b (SpineSite.mem_spine_iff.2 hb)

/-- A visit that fails does so at a node on the spine that is too deep, after everything before it
has been noted. -/
theorem exists_of_visit_tooDeep {scope maxDepth : Nat} {tree : Json} {scopes : Arena} {o : Outline}
    (h : visit scope maxDepth tree (new scopes) = (.tooDeep, o)) :
    ∃ pre b post, (SpineSite.root tree).spine = pre ++ b :: post ∧
      o = pre.foldl (note scope) (new scopes) ∧ b.site.isTooDeep maxDepth = true := by
  have hrun : visit scope maxDepth tree (new scopes) =
      outcome scope maxDepth (SpineSite.root tree).spine (new scopes) :=
    visit_eq_outcome scope maxDepth (SpineSite.root tree) (standsAt_new tree scopes)
  rw [h, outcome, Prod.mk.injEq] at hrun
  obtain ⟨hend, ho⟩ := hrun
  have hany : (SpineSite.root tree).spine.any (·.site.isTooDeep maxDepth) = true := by
    by_contra hnone
    rw [if_neg hnone] at hend
    cases hend
  obtain ⟨pre, b, post, hspine, -, hb, hpre⟩ := exists_of_any hany
  refine ⟨pre, b, post, hspine, ?_, hb⟩
  have htake : (pre ++ b :: post).takeWhile (fun c => !c.site.isTooDeep maxDepth) = pre := by
    rw [List.takeWhile_append_of_pos (by simpa using hpre),
      List.takeWhile_cons_of_neg (by simp [hb]), List.append_nil]
  rw [ho, hspine, htake]

end Outline

/-! ## The trees on which indexing succeeds -/

/-- No node is too deep: not the root, no node that the walk enters, and no node on the spine. -/
structure Admitted (options : Options) (tree : Json) : Prop where
  root : (Site.root tree).isTooDeep options.maxDepth = false
  walked : ∀ b, (Site.root tree).Reaches (harvestSkips options) b →
    b.halts (harvestSkips options) options.maxDepth = false
  outlined : ∀ b, SpineSite.OnSpine tree b → b.site.isTooDeep options.maxDepth = false

/-- The walk for names ends if and only if it stops nowhere. -/
theorem walk_harvester_complete_iff (options : Options) (tree : Json) :
    (walk (harvester options) options.maxDepth Arena.root tree ⟨[], .new, ∅⟩).1 = .complete ↔
      (Site.root tree).isTooDeep options.maxDepth = false ∧
        ∀ b, (Site.root tree).Reaches (harvestSkips options) b →
          b.halts (harvestSkips options) options.maxDepth = false :=
  Walk.walk_fst_eq_complete_iff (harvester_follows options) (by decide) options.maxDepth tree ∅

/-- A tree without a node that is too deep has a summary. -/
theorem index_of_admitted {options : Options} {tree : Json} (htree : tree.treeError? = none)
    (h : Admitted options tree) (filename : String) :
    index options filename tree =
      .ok (summarize options filename tree (walkNames options tree) (outlineOf options tree)) := by
  have hwalk := (walk_harvester_complete_iff options tree).2 ⟨h.root, h.walked⟩
  unfold index
  simp only [htree]
  split
  · rename_i hdeep
    rw [hdeep] at hwalk
    cases hwalk
  · rename_i w hcomplete
    obtain ⟨hscopes, hnames⟩ := walk_harvester hcomplete
    have hvisit :=
      (Outline.visit_fst_eq_complete_iff Arena.root options.maxDepth tree w.scopes).2 h.outlined
    split
    · rename_i hdeep
      rw [hdeep] at hvisit
      cases hvisit
    · rename_i outline houtline
      obtain ⟨houtline, -⟩ := Outline.eq_foldl_of_visit houtline
      rw [houtline, hscopes, hnames]
      rfl

/-- A tree with a node that is too deep is refused, with the limit in the fault. -/
theorem index_of_not_admitted {options : Options} {tree : Json} (htree : tree.treeError? = none)
    (h : ¬ Admitted options tree) (filename : String) :
    index options filename tree = .error (.treeTooDeep options.maxDepth) := by
  unfold index
  simp only [htree]
  split
  · rfl
  · rename_i w hcomplete
    have hwalk : (walk (harvester options) options.maxDepth Arena.root tree ⟨[], .new, ∅⟩).1 =
        .complete := by rw [hcomplete]
    obtain ⟨hroot, hwalked⟩ := (walk_harvester_complete_iff options tree).1 hwalk
    split
    · rfl
    · rename_i outline houtline
      have hvisit : (Outline.visit Arena.root options.maxDepth tree (.new w.scopes)).1 =
          .complete := by rw [houtline]
      exact absurd ⟨hroot, hwalked, (Outline.visit_fst_eq_complete_iff _ _ _ _).1 hvisit⟩ h

theorem index_eq_error_iff_not_admitted (options : Options) (filename : String) {tree : Json}
    (htree : tree.treeError? = none) :
    index options filename tree = .error (.treeTooDeep options.maxDepth) ↔
      ¬ Admitted options tree := by
  constructor
  · intro herror hadmitted
    rw [index_of_admitted htree hadmitted filename] at herror
    cases herror
  · intro h
    exact index_of_not_admitted htree h filename

/-- The one summary that a tree can have. -/
theorem index_eq_ok_iff {options : Options} {tree : Json} (htree : tree.treeError? = none)
    {filename : String} {summary : Summary} :
    index options filename tree = .ok summary ↔ Admitted options tree ∧
      summary =
        summarize options filename tree (walkNames options tree) (outlineOf options tree) := by
  by_cases h : Admitted options tree
  · rw [index_of_admitted htree h, Except.ok.injEq]
    exact ⟨fun heq => ⟨h, heq.symm⟩, fun hpair => hpair.2.symm⟩
  · rw [index_of_not_admitted htree h]
    constructor
    · intro heq
      cases heq
    · intro hpair
      exact absurd hpair.1 h

/-! ## What the walk and the outline come to -/

/-- The walk stops at nodes that are too deep, other than import statements that are recorded. -/
theorem halts_harvestSkips_iff {options : Options} {maxDepth : Nat} {b : Site} :
    b.halts (harvestSkips options) maxDepth = true ↔
      b.isTooDeep maxDepth = true ∧ (options.nestedImports && b.value.isImport) = false := by
  have hnull : b.isTooDeep maxDepth = true → b.value.isNull = false := by
    intro hdeep
    have hnode := (Site.isTooDeep_iff.1 hdeep).1
    cases hvalue : b.value with
    | null =>
      rw [hvalue] at hnode
      cases hnode
    | _ => rfl
  constructor
  · intro h
    simp only [Site.halts, harvestSkips, Bool.and_eq_true, Bool.not_eq_true',
      Bool.or_eq_false_iff] at h
    exact ⟨h.2, h.1.2⟩
  · rintro ⟨hdeep, hskip⟩
    simp [Site.halts, harvestSkips, hdeep, hskip, hnull hdeep]

theorem halts_harvestSkips_eq_false_iff {options : Options} {maxDepth : Nat} {b : Site} :
    b.halts (harvestSkips options) maxDepth = false ↔
      ((options.nestedImports && b.value.isImport) = false → b.isTooDeep maxDepth = false) := by
  rw [← Bool.not_eq_true, halts_harvestSkips_iff, not_and']
  simp only [Bool.not_eq_true]

/-- The walk comes to everything on the spine but the tree itself, whether it enters import
statements or not. -/
theorem reaches_harvestSkips_of_onSpine (options : Options) {tree : Json} {b : SpineSite}
    (hb : SpineSite.OnSpine tree b) :
    b = SpineSite.root tree ∨ (Site.root tree).Reaches (harvestSkips options) b.site := by
  rcases SpineSite.reaches_of_mem_spine (SpineSite.mem_spine_iff.2 hb) with hroot | ⟨-, hreaches⟩
  · exact Or.inl hroot
  · refine Or.inr (reaches_harvestSkips_iff.2 (hreaches.mono ?_))
    intro key v hskip
    simp only [Bool.and_eq_true] at hskip
    exact hskip.2

/-- The tree itself or a value inside it. -/
def Site.IsIn (tree : Json) (b : Site) : Prop :=
  b = Site.root tree ∨ (Site.root tree).Reaches (fun _ _ => false) b

/-- A bound on the paths to nodes is one on the paths to all values, as the last node on a path is
as deep as its end. -/
theorem Site.length_within_le {tree : Json} {n : Nat}
    (hnodes : ∀ c, Site.IsIn tree c → c.value.node?.isSome = true → c.within.length ≤ n) {b : Site}
    (hb : Site.IsIn tree b) : b.within.length ≤ n := by
  rcases Site.within_eq_around_or b with hwithin | hnode
  · rw [hwithin]
    rcases hb with rfl | hb
    · exact Nat.zero_le n
    · rcases Site.exists_node_around hb with hsame | ⟨c, hc, hcnode, hsame⟩
      · rw [hsame]
        exact Nat.zero_le n
      · rw [hsame]
        exact hnodes c (hc.imp id And.left) hcnode
  · exact hnodes b hb hnode

/-- Without nested imports every value counts: a path with too many nodes is enough. -/
theorem not_admitted_iff_of_flat {options : Options} {tree : Json}
    (hflat : options.nestedImports = false) :
    ¬ Admitted options tree ↔ ∃ b, Site.IsIn tree b ∧ options.maxDepth < b.within.length := by
  have hreaches : ∀ b, (Site.root tree).Reaches (harvestSkips options) b ↔
      (Site.root tree).Reaches (fun _ _ => false) b := by
    intro b
    rw [reaches_harvestSkips_iff, hflat]
    rfl
  have hhalts : ∀ b : Site, b.halts (harvestSkips options) options.maxDepth =
      b.isTooDeep options.maxDepth := by
    intro b
    rw [Bool.eq_iff_iff, halts_harvestSkips_iff, hflat]
    simp
  constructor
  · intro hnot
    by_contra hnone
    have hshallow : ∀ b, Site.IsIn tree b → b.isTooDeep options.maxDepth = false := by
      intro b hb
      refine Site.isTooDeep_eq_false_iff.2 fun _ => ?_
      by_contra hlen
      exact hnone ⟨b, hb, by omega⟩
    refine hnot ⟨hshallow _ (Or.inl rfl), ?_, ?_⟩
    · intro b hb
      rw [hhalts]
      exact hshallow b (Or.inr ((hreaches b).1 hb))
    · intro b hb
      rcases reaches_harvestSkips_of_onSpine options hb with rfl | hb
      · exact hshallow _ (Or.inl rfl)
      · exact hshallow _ (Or.inr ((hreaches _).1 hb))
  · rintro ⟨b, hb, hlen⟩ hadmitted
    have hshallow : ∀ c, Site.IsIn tree c → c.value.node?.isSome = true →
        c.within.length ≤ options.maxDepth := by
      intro c hc hnode
      have hdeep : c.isTooDeep options.maxDepth = false := by
        rcases hc with rfl | hc
        · exact hadmitted.root
        · rw [← hhalts]
          exact hadmitted.walked c ((hreaches c).2 hc)
      exact Site.isTooDeep_eq_false_iff.1 hdeep hnode
    exact absurd (Site.length_within_le hshallow hb) (Nat.not_le.2 hlen)

/-- With nested imports the walk counts no import statement and nothing inside one, but the outline
counts the import statements on the spine. -/
theorem not_admitted_iff_of_nested {options : Options} {tree : Json}
    (hnested : options.nestedImports = true) :
    ¬ Admitted options tree ↔
      ∃ b, (b = Site.root tree ∨ (Site.root tree).Reaches importSkips b) ∧
        b.value.node?.isSome = true ∧ options.maxDepth < b.within.length ∧
        (b = Site.root tree ∨ b.value.isImport = false ∨
          ∃ packages, SpineSite.OnSpine tree ⟨b, packages⟩) := by
  have hreaches : ∀ b, (Site.root tree).Reaches (harvestSkips options) b ↔
      (Site.root tree).Reaches importSkips b := by
    intro b
    rw [reaches_harvestSkips_iff, hnested]
    rfl
  constructor
  · intro hnot
    by_contra hnone
    have hshallow : ∀ b, (b = Site.root tree ∨ (Site.root tree).Reaches importSkips b) →
        (b = Site.root tree ∨ b.value.isImport = false ∨
          ∃ packages, SpineSite.OnSpine tree ⟨b, packages⟩) →
        b.isTooDeep options.maxDepth = false := by
      intro b hb hcounts
      refine Site.isTooDeep_eq_false_iff.2 fun hnode => ?_
      by_contra hlen
      exact hnone ⟨b, hb, hnode, by omega, hcounts⟩
    refine hnot ⟨hshallow _ (Or.inl rfl) (Or.inl rfl), ?_, ?_⟩
    · -- the walk only stops at what it does not skip, and import statements are skipped
      intro b hb
      refine halts_harvestSkips_eq_false_iff.2 fun hskip => ?_
      rw [hnested, Bool.true_and] at hskip
      exact hshallow b (Or.inr ((hreaches b).1 hb)) (Or.inr (Or.inl hskip))
    · intro b hb
      rcases reaches_harvestSkips_of_onSpine options hb with rfl | hreached
      · exact hshallow _ (Or.inl rfl) (Or.inl rfl)
      · exact hshallow _ (Or.inr ((hreaches _).1 hreached)) (Or.inr (Or.inr ⟨b.packages, hb⟩))
  · rintro ⟨b, hb, hnode, hlen, hcounts⟩ hadmitted
    have hshallow : b.isTooDeep options.maxDepth = false := by
      rcases hb with rfl | hb
      · exact hadmitted.root
      rcases hcounts with rfl | hother | ⟨packages, hspine⟩
      · exact hadmitted.root
      · have hhalts := hadmitted.walked b ((hreaches b).2 hb)
        exact halts_harvestSkips_eq_false_iff.1 hhalts (by rw [hother, Bool.and_false])
      · exact hadmitted.outlined ⟨b, packages⟩ hspine
    exact absurd (Site.isTooDeep_eq_false_iff.1 hshallow hnode) (by omega)

/-- After a walk that ends, what is too deep on the spine is an import statement with exactly as
many nodes around it as may be open. -/
theorem isImport_of_isTooDeep_of_onSpine {options : Options} {tree : Json}
    (hroot : (Site.root tree).isTooDeep options.maxDepth = false)
    (hwalked : ∀ b, (Site.root tree).Reaches (harvestSkips options) b →
      b.halts (harvestSkips options) options.maxDepth = false)
    {b : SpineSite} (hb : SpineSite.OnSpine tree b)
    (hdeep : b.site.isTooDeep options.maxDepth = true) :
    b.site.value.isImport = true ∧ b.site.around.length = options.maxDepth := by
  rcases reaches_harvestSkips_of_onSpine options hb with rfl | hreached
  · rw [show (SpineSite.root tree).site = Site.root tree from rfl, hroot] at hdeep
    cases hdeep
  have hskip : (options.nestedImports && b.site.value.isImport) = true := by
    by_contra hskip
    have hhalts := halts_harvestSkips_eq_false_iff.1 (hwalked b.site hreached)
    rw [hhalts (by simpa using hskip)] at hdeep
    cases hdeep
  simp only [Bool.and_eq_true] at hskip
  refine ⟨hskip.2, ?_⟩
  have hge : options.maxDepth ≤ b.site.around.length := by
    simp only [Site.isTooDeep, Bool.and_eq_true, decide_eq_true_eq] at hdeep
    exact hdeep.2
  -- the innermost node around it has been entered, so one node fewer lies around that
  have hle : b.site.around.length ≤ options.maxDepth := by
    rcases Site.exists_node_around hreached with hsame | ⟨c, hc, hcnode, hsame⟩
    · rw [hsame]
      exact Nat.zero_le _
    · have hshallow : c.isTooDeep options.maxDepth = false := by
        rcases hc with rfl | ⟨hc, hcskip⟩
        · exact hroot
        · have hhalts := hwalked c hc
          simpa [Site.halts, hcskip] using hhalts
      rw [hsame]
      exact Site.isTooDeep_eq_false_iff.1 hshallow hcnode
  omega

/-! ## The trees on which indexing fails -/

/-- Indexing fails, with the limit in its message, if a path from the root holds more nodes than the
limit: without nested imports a path to any value, with nested imports a path to a node that is not
inside an import statement and is the root, no import statement, or one on the spine. On all other
trees it succeeds. If the walk has ended, the outline can only fail at an import statement, and only
at the first depth beyond the limit. -/
theorem index_eq_error_iff (options : Options) (filename : String) (tree : Json)
    (htree : tree.treeError? = none) :
    (options.nestedImports = false →
      (index options filename tree = .error (.treeTooDeep options.maxDepth) ↔
        ∃ b, Site.IsIn tree b ∧ options.maxDepth < b.within.length)) ∧
    (options.nestedImports = true →
      (index options filename tree = .error (.treeTooDeep options.maxDepth) ↔
        ∃ b, (b = Site.root tree ∨ (Site.root tree).Reaches importSkips b) ∧
          b.value.node?.isSome = true ∧ options.maxDepth < b.within.length ∧
          (b = Site.root tree ∨ b.value.isImport = false ∨
            ∃ packages, SpineSite.OnSpine tree ⟨b, packages⟩))) ∧
    (index options filename tree ≠ .error (.treeTooDeep options.maxDepth) →
      ∃ summary, index options filename tree = .ok summary) ∧
    ∀ w o,
      walk (harvester options) options.maxDepth Arena.root tree ⟨[], .new, ∅⟩ = (.complete, w) →
      Outline.visit Arena.root options.maxDepth tree (.new w.scopes) = (.tooDeep, o) →
      ∃ pre b post, (SpineSite.root tree).spine = pre ++ b :: post ∧
        o = pre.foldl (Outline.note Arena.root) (.new w.scopes) ∧
        b.site.value.isImport = true ∧ b.site.around.length = options.maxDepth := by
  have hiff := index_eq_error_iff_not_admitted options filename htree
  refine ⟨?_, ?_, ?_, ?_⟩
  · intro hflat
    rw [hiff, not_admitted_iff_of_flat hflat]
  · intro hnested
    rw [hiff, not_admitted_iff_of_nested hnested]
  · intro hne
    have hadmitted : Admitted options tree := by
      by_contra hnot
      exact hne (hiff.2 hnot)
    exact ⟨_, index_of_admitted htree hadmitted filename⟩
  · -- what the walk went through is not too deep, which leaves what it skipped
    intro w o hwalk hvisit
    obtain ⟨hroot, hwalked⟩ := (walk_harvester_complete_iff options tree).1 (by rw [hwalk])
    obtain ⟨pre, b, post, hspine, ho, hdeep⟩ := Outline.exists_of_visit_tooDeep hvisit
    have hb : SpineSite.OnSpine tree b := SpineSite.mem_spine_iff.1 (by simp [hspine])
    obtain ⟨himport, hlen⟩ := isImport_of_isTooDeep_of_onSpine hroot hwalked hb hdeep
    exact ⟨pre, b, post, hspine, ho, himport, hlen⟩

/-- A source that holds an import statement and nothing else. -/
def importSource : Json :=
  .obj [("stats", .arr [importOf "c" "B"]), ("type", .str "Source")]

/-- With one node allowed, the walk ends and the outline fails at the import statement. -/
theorem index_eq_error_iff_importSource :
    importSource.treeError? = none ∧
      index { maxDepth := 1 } "A.scala" importSource = .error (.treeTooDeep 1) ∧
      ∃ b, (b = Site.root importSource ∨ (Site.root importSource).Reaches importSkips b) ∧
        b.value.node?.isSome = true ∧ 1 < b.within.length ∧
        (b = Site.root importSource ∨ b.value.isImport = false ∨
          ∃ packages, SpineSite.OnSpine importSource ⟨b, packages⟩) := by
  have hindex : index { maxDepth := 1 } "A.scala" importSource = .error (.treeTooDeep 1) := by rfl
  obtain ⟨-, hnested, -, -⟩ := index_eq_error_iff { maxDepth := 1 } "A.scala" importSource rfl
  exact ⟨rfl, hindex, (hnested rfl).1 hindex⟩

end SymbolIndex
