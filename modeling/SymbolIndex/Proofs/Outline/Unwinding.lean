import SymbolIndex.Proofs.Outline.Declarations

/-!
# Visits that fail

One outline may visit trees one after another, and a visit may fail inside any number of packages.
It then leaves no package open, and what it has recorded until then is kept. This file says what
every visit of such a sequence adds:

- `Outline.visits` : a sequence of visits that goes on after a failure
- `Outline.Idle` : no package and no node is open
- `Outline.Idle.mem_tables_visit_iff` : what a visit adds to the tables, whatever they hold
- `Tables.IsFull` : the tables of a visit without a limit
- `Outline.visit_after_visits` : each tree adds what it adds to empty tables, which is a part of its
  full tables and all of them if the visit does not fail
-/

namespace SymbolIndex

/-- Tables are equal if the same names are in them. -/
theorem Tables.eq_of_mem_iff {t u : Tables} (h : ∀ part q, q ∈ t.get part ↔ q ∈ u.get part) :
    t = u := by
  have hget : ∀ part, t.get part = u.get part := fun part => StringSet.eq_of_mem_iff (h part)
  cases t
  cases u
  rw [mk.injEq]
  exact ⟨hget .packages, hget .classes, hget .traits, hget .objects, hget .vals, hget .types⟩

/-- A value on the spine is declared under a qualified name, which belongs in a table. -/
def SpineSite.Enters (b : SpineSite) (part : Tables.Part) (q : String) : Prop :=
  ∃ node name, b.site.value.node? = some node ∧ node.Declares name part ∧
    q = ".".intercalate (b.packages ++ [name])

namespace Outline

/-- The state after visits of trees one after another. A visit that fails does not end the
sequence. -/
def visits (scope maxDepth : Nat) (trees : List Json) (o : Outline) : Outline :=
  trees.foldl (fun o tree => (visit scope maxDepth tree o).2) o

/-! ## Nothing is left open -/

/-- No package and no node is open. -/
structure Idle (o : Outline) : Prop where
  packages : o.packages = []
  depth : o.depth = 0

theorem idle_new (scopes : Arena) : (new scopes).Idle :=
  ⟨rfl, rfl⟩

theorem Idle.qualify {o : Outline} (ho : o.Idle) (name : String) : o.qualify name = name := by
  rw [Outline.qualify, ho.packages]
  simp

section Visit

variable {scope maxDepth : Nat} {tree : Json} {o : Outline}

/-- A visit of a tree notes the values on its spine, up to the first node that is too deep. -/
theorem Idle.visit_eq (ho : o.Idle) :
    visit scope maxDepth tree o = outcome scope maxDepth (SpineSite.root tree).spine o :=
  visit_eq_outcome scope maxDepth (SpineSite.root tree) ⟨ho.packages, ho.depth⟩

/-- A visit closes what it has opened, also when it fails. -/
theorem Idle.visit (ho : o.Idle) : (Outline.visit scope maxDepth tree o).2.Idle := by
  rw [ho.visit_eq]
  obtain ⟨hpackages, hdepth⟩ := packages_foldl_note scope o
    ((SpineSite.root tree).spine.takeWhile fun b => !b.site.isTooDeep maxDepth)
  exact ⟨hpackages.trans ho.packages, hdepth.trans ho.depth⟩

/-- Visits leave no package and no node open, even if they fail. -/
theorem Idle.visits (ho : o.Idle) (trees : List Json) : (visits scope maxDepth trees o).Idle := by
  induction trees generalizing o with
  | nil => exact ho
  | cons tree trees ih => exact ih ho.visit

/-! ## What is added -/

/-- The values on the spine of a tree that a visit gets to. -/
def noted (maxDepth : Nat) (tree : Json) : List SpineSite :=
  (SpineSite.root tree).spine.takeWhile fun b => !b.site.isTooDeep maxDepth

/-- What a visit adds to the tables has nothing to do with what they hold. -/
theorem Idle.mem_tables_visit_iff (ho : o.Idle) {part : Tables.Part} {q : String} :
    q ∈ (Outline.visit scope maxDepth tree o).2.tables.get part ↔
      q ∈ o.tables.get part ∨ ∃ b ∈ noted maxDepth tree, b.Enters part q := by
  rw [ho.visit_eq, outcome, mem_tables_foldl_note, or_comm]
  rfl

/-- The tables after a first visit hold what is declared by the values that it gets to. -/
theorem mem_tables_visit_new_iff {scopes : Arena} {part : Tables.Part} {q : String} :
    q ∈ (Outline.visit scope maxDepth tree (new scopes)).2.tables.get part ↔
      ∃ b ∈ noted maxDepth tree, b.Enters part q := by
  rw [(idle_new scopes).mem_tables_visit_iff]
  exact or_iff_right (Tables.not_mem_get_empty part q)

end Visit
end Outline

/-! ## Without a limit -/

/-- The tables that are filled by a visit without a limit: from some limit on every visit ends, and
with these tables. -/
def Tables.IsFull (tree : Json) (full : Tables) : Prop :=
  ∃ enough, ∀ maxDepth, enough ≤ maxDepth → ∀ scope scopes,
    ∃ o, Outline.visit scope maxDepth tree (.new scopes) = (.complete, o) ∧ o.tables = full

/-- Some limit is enough for finitely many values. -/
theorem SpineSite.exists_enough (bs : List SpineSite) :
    ∃ enough, ∀ maxDepth, enough ≤ maxDepth → ∀ b ∈ bs, b.site.isTooDeep maxDepth = false := by
  induction bs with
  | nil => exact ⟨0, fun _ _ b hb => absurd hb List.not_mem_nil⟩
  | cons b bs ih =>
    obtain ⟨enough, henough⟩ := ih
    refine ⟨max enough (b.site.around.length + 1), fun maxDepth hle c hc => ?_⟩
    rcases List.mem_cons.1 hc with rfl | hc
    · have hdepth : ¬ maxDepth ≤ c.site.around.length := by omega
      simp [Site.isTooDeep, hdepth]
    · exact henough maxDepth (by omega) c hc

namespace Outline

/-- A visit in which no node is too deep notes all values on the spine. -/
theorem noted_eq_spine {maxDepth : Nat} {tree : Json}
    (h : ∀ b ∈ (SpineSite.root tree).spine, b.site.isTooDeep maxDepth = false) :
    noted maxDepth tree = (SpineSite.root tree).spine :=
  List.takeWhile_eq_self_iff.2 fun b hb => by simp [h b hb]

theorem noted_of_complete {scope maxDepth : Nat} {tree : Json} {o o' : Outline} (ho : o.Idle)
    (h : visit scope maxDepth tree o = (.complete, o')) :
    noted maxDepth tree = (SpineSite.root tree).spine := by
  rw [ho.visit_eq] at h
  exact noted_eq_spine (eq_foldl_of_outcome h).2

theorem visit_of_forall_not_tooDeep {scope maxDepth : Nat} {tree : Json} {o : Outline} (ho : o.Idle)
    (h : ∀ b ∈ (SpineSite.root tree).spine, b.site.isTooDeep maxDepth = false) :
    (visit scope maxDepth tree o).1 = .complete := by
  have hnone : ((SpineSite.root tree).spine.any fun b => b.site.isTooDeep maxDepth) = false :=
    List.any_eq_false.2 fun b hb => by simp [h b hb]
  rw [ho.visit_eq, outcome, hnone]
  rfl

/-- Without a limit, a visit fills the tables with everything that is declared on the spine. -/
theorem exists_isFull (tree : Json) :
    ∃ full, Tables.IsFull tree full ∧
      ∀ part q, q ∈ full.get part ↔ ∃ b, SpineSite.OnSpine tree b ∧ b.Enters part q := by
  obtain ⟨enough, henough⟩ := SpineSite.exists_enough (SpineSite.root tree).spine
  have htables : ∀ maxDepth, enough ≤ maxDepth → ∀ scope scopes part q,
      q ∈ (visit scope maxDepth tree (new scopes)).2.tables.get part ↔
        ∃ b, SpineSite.OnSpine tree b ∧ b.Enters part q := by
    intro maxDepth hle scope scopes part q
    simp only [mem_tables_visit_new_iff, noted_eq_spine (henough maxDepth hle),
      SpineSite.mem_spine_iff]
  refine ⟨(visit 0 enough tree (new .new)).2.tables, ⟨enough, ?_⟩, htables enough le_rfl 0 .new⟩
  intro maxDepth hle scope scopes
  refine ⟨(visit scope maxDepth tree (new scopes)).2, Prod.ext ?_ rfl, Tables.eq_of_mem_iff ?_⟩
  · exact visit_of_forall_not_tooDeep (idle_new scopes) (henough maxDepth hle)
  · intro part q
    rw [htables maxDepth hle, htables enough le_rfl]

/-- After every visit of a sequence, some of which may have failed, no package and no node is open,
so that names are not qualified. A visit adds to the tables what it adds to empty ones, and ends as
it does then. That is a part of what a visit without a limit finds along the whole spine, and all of
it if the visit does not fail. -/
theorem visit_after_visits (scope maxDepth : Nat) (scopes : Arena) (done : List Json)
    (tree : Json) :
    ∃ e after, visit scope maxDepth tree (visits scope maxDepth done (new scopes)) = (e, after) ∧
      after.packages = [] ∧ after.depth = 0 ∧ (∀ name, after.qualify name = name) ∧
      ∀ others, ∃ alone full, visit scope maxDepth tree (new others) = (e, alone) ∧
        (∀ part q, q ∈ after.tables.get part ↔
          q ∈ (visits scope maxDepth done (new scopes)).tables.get part ∨
          q ∈ alone.tables.get part) ∧
        Tables.IsFull tree full ∧
        (∀ part q, q ∈ full.get part ↔ ∃ b, SpineSite.OnSpine tree b ∧ b.Enters part q) ∧
        (∀ part q, q ∈ alone.tables.get part → q ∈ full.get part) ∧
        (e = .complete → alone.tables = full) := by
  have hbefore : (visits scope maxDepth done (new scopes)).Idle := (idle_new scopes).visits done
  have hafter : (visit scope maxDepth tree (visits scope maxDepth done (new scopes))).2.Idle :=
    hbefore.visit
  obtain ⟨full, hfull, hmem⟩ := exists_isFull tree
  refine ⟨_, _, rfl, hafter.packages, hafter.depth, hafter.qualify, fun others => ?_⟩
  refine ⟨(visit scope maxDepth tree (new others)).2, full, Prod.ext ?_ rfl, ?_, hfull,
    hmem, ?_, ?_⟩
  · rw [(idle_new others).visit_eq, hbefore.visit_eq]
    rfl
  · intro part q
    rw [hbefore.mem_tables_visit_iff, mem_tables_visit_new_iff]
  · intro part q hq
    obtain ⟨b, hb, henters⟩ := mem_tables_visit_new_iff.1 hq
    have hspine : b ∈ (SpineSite.root tree).spine := (List.takeWhile_sublist _).subset hb
    exact (hmem part q).2 ⟨b, SpineSite.mem_spine_iff.1 hspine, henters⟩
  · intro hcomplete
    have hnoted := noted_of_complete hbefore (Prod.ext hcomplete rfl)
    refine Tables.eq_of_mem_iff fun part q => ?_
    simp only [mem_tables_visit_new_iff, hnoted, SpineSite.mem_spine_iff, hmem]

end Outline
end SymbolIndex
