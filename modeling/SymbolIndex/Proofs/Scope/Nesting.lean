import SymbolIndex.Proofs.Sorted.Table
import SymbolIndex.Scope.History

/-!
# Nesting of scopes

How the open scopes lie inside each other does not depend on what they import. This file separates
the two:

- `Arena.skeleton` : names and enclosing scopes, without imports
- `Arena.Nested` : only the root has no enclosing scope, and enclosing scopes are older
- `Arena.ParentsLive` : enclosing scopes are open, which is less
- `Arena.get?_addImport` : which scopes an import reaches
- `Arena.nested_perform` : every change that is not refused keeps scopes nested
-/

namespace SymbolIndex

/-- A binding that is made twice is made once. -/
theorem Scope.bind_bind (s : Scope) (b : Binding) : (s.bind b).bind b = s.bind b := by
  have himports : (s.imports.insert b.path).insert b.path = s.imports.insert b.path :=
    StringSet.eq_of_mem_iff fun x => by simp
  have hsymbols : ∀ symbol : String,
      (s.symbols.insert symbol b.path).insert symbol b.path = s.symbols.insert symbol b.path := by
    intro symbol
    refine Table.eq_of_find?_eq fun key => ?_
    by_cases hkey : symbol = key <;> simp [hkey]
  obtain ⟨path, bound⟩ := b
  cases bound with
  | none => simp [bind, himports]
  | some symbol =>
    by_cases hempty : symbol = ""
    · simp [bind, himports, hempty]
    · simp [bind, himports, hempty, hsymbols]

namespace Arena

/-! ## Skeletons -/

/-- The names of the open scopes and the scopes that enclose them. -/
def skeleton (a : Arena) : List (String × Option Nat) :=
  a.scopes.map fun s => (s.name, s.parent)

@[simp] theorem length_skeleton (a : Arena) : a.skeleton.length = a.size := by
  simp [skeleton, size]

theorem size_eq_of_skeleton {a b : Arena} (h : a.skeleton = b.skeleton) : a.size = b.size := by
  rw [← length_skeleton a, ← length_skeleton b, h]

theorem getElem?_skeleton (a : Arena) (id : Nat) :
    a.skeleton[id]? = (a.get? id).map fun s => (s.name, s.parent) := by
  simp [skeleton, get?]

theorem get?_isSome_iff {a : Arena} {id : Nat} : (∃ s, a.get? id = some s) ↔ id < a.size := by
  simp [get?, size, List.getElem?_eq_some_iff]

@[simp] theorem size_push (a : Arena) (name : String) (parent : Nat) :
    (a.push name parent).size = a.size + 1 := by
  simp [push, size]

@[simp] theorem skeleton_push (a : Arena) (name : String) (parent : Nat) :
    (a.push name parent).skeleton = a.skeleton ++ [(name, some parent)] := by
  simp [push, skeleton, Scope.new]

theorem skeleton_modify (a : Arena) (id : Nat) (b : Binding) :
    (a.modify id (·.bind b)).skeleton = a.skeleton := by
  refine List.ext_getElem? fun i => ?_
  rw [getElem?_skeleton, getElem?_skeleton]
  simp only [modify, get?, List.getElem?_modify]
  cases a.scopes[i]? with
  | none => rfl
  | some s =>
    by_cases h : id = i
    · simp [h, Scope.bind]
    · simp [h]

/-- Imports do not change names or nesting. -/
@[simp] theorem skeleton_addImport (a : Arena) (id : Nat) (b : Binding) :
    (a.addImport id b).skeleton = a.skeleton := by
  unfold addImport
  generalize a.lineage id = ids
  induction ids generalizing a with
  | nil => rfl
  | cons i ids ih =>
    rw [List.foldl_cons, ih, skeleton_modify]

@[simp] theorem skeleton_addImports (a : Arena) (id : Nat) (bs : List Binding) :
    (a.addImports id bs).skeleton = a.skeleton := by
  unfold addImports
  induction bs generalizing a with
  | nil => rfl
  | cons b bs ih =>
    rw [List.foldl_cons, ih, skeleton_addImport]

@[simp] theorem skeleton_recordImport (a : Arena) (id : Nat) (statement : Json) :
    (a.recordImport id statement).skeleton = a.skeleton :=
  skeleton_addImports a id statement.importBindings

/-! ## Nested scopes -/

/-- The first scope is the root and has no enclosing scope; every other scope lies inside an older
one. -/
structure Nested (a : Arena) : Prop where
  root : ∃ name, a.skeleton[root]? = some (name, none)
  inner : ∀ id name parent, a.skeleton[id]? = some (name, parent) → id ≠ Arena.root →
    ∃ p, parent = some p ∧ p < id

theorem Nested.of_skeleton {a b : Arena} (ha : a.Nested) (h : b.skeleton = a.skeleton) :
    b.Nested := by
  obtain ⟨hroot, hinner⟩ := ha
  refine ⟨?_, ?_⟩
  · rw [h]
    exact hroot
  · rw [h]
    exact hinner

theorem nested_new : new.Nested := by
  refine ⟨⟨rootName, rfl⟩, ?_⟩
  intro id name parent h hid
  have hlt : id < 1 := (List.getElem?_eq_some_iff.1 h).1
  exact absurd (Nat.lt_one_iff.1 hlt) hid

theorem Nested.root_lt_size {a : Arena} (h : a.Nested) : Arena.root < a.size := by
  obtain ⟨name, hroot⟩ := h.root
  rw [← length_skeleton]
  exact (List.getElem?_eq_some_iff.1 hroot).1

/-- A scope that is opened inside an open one keeps the nesting. -/
theorem Nested.push {a : Arena} (h : a.Nested) (name : String) {parent : Nat}
    (hp : parent < a.size) : (a.push name parent).Nested := by
  have hpos := h.root_lt_size
  rw [← length_skeleton] at hpos hp
  refine ⟨?_, ?_⟩
  · obtain ⟨n, hroot⟩ := h.root
    refine ⟨n, ?_⟩
    rw [skeleton_push, List.getElem?_append_left hpos]
    exact hroot
  · intro id n p hid hne
    rw [skeleton_push] at hid
    by_cases hlt : id < a.skeleton.length
    · rw [List.getElem?_append_left hlt] at hid
      exact h.inner id n p hid hne
    · rw [List.getElem?_append_right (Nat.le_of_not_lt hlt)] at hid
      obtain ⟨hzero, heq⟩ := List.getElem?_eq_some_iff.1 hid
      refine ⟨parent, ?_, by omega⟩
      have hindex : id - a.skeleton.length = 0 := by simpa using hzero
      simp only [hindex, List.getElem_cons_zero] at heq
      exact (Prod.mk.inj heq).2.symm

theorem skeleton_pop (a : Arena) {id : Nat} (h : id ≠ root) :
    (a.pop id).skeleton = a.skeleton.take id := by
  simp [pop, h, skeleton, List.map_take]

/-- Closing a scope closes what was opened after it, so nothing loses the scope around it. -/
theorem Nested.pop {a : Arena} (h : a.Nested) (id : Nat) : (a.pop id).Nested := by
  by_cases hid : id = Arena.root
  · simpa [Arena.pop, hid] using h
  · have hpos : Arena.root < id := Nat.pos_of_ne_zero hid
    refine ⟨?_, ?_⟩
    · obtain ⟨n, hroot⟩ := h.root
      refine ⟨n, ?_⟩
      rw [skeleton_pop a hid, List.getElem?_take_of_lt hpos]
      exact hroot
    · intro i n p hi hne
      rw [skeleton_pop a hid, List.getElem?_take] at hi
      split at hi
      · exact h.inner i n p hi hne
      · cases hi

/-- A change is allowed if its scope is open and, when it closes one, if that is the newest or the
root. -/
theorem refusal?_eq_none_iff {a : Arena} {closes : Bool} {id : Nat} :
    a.refusal? closes id = none ↔
      id < a.size ∧ (closes = true → id = root ∨ id + 1 = a.size) := by
  have hlive : a.isLive id = true ↔ id < a.size := by simp [isLive]
  unfold refusal?
  split
  · rename_i hold
    simp only [Bool.and_eq_true, decide_eq_true_eq] at hold
    constructor
    · intro h
      cases h
    · intro h
      rcases h.2 hold.1.1 with hroot | hnewest
      · exact absurd hroot hold.1.2
      · exact absurd hnewest hold.2
  · rename_i hold
    have hnewest : closes = true → id = root ∨ id + 1 = a.size := by
      intro hcloses
      by_contra hnot
      exact hold (by simpa [hcloses] using hnot)
    split
    · rename_i h
      exact ⟨fun _ => ⟨hlive.1 h, hnewest⟩, fun _ => rfl⟩
    · rename_i h
      constructor
      · intro hnone
        cases hnone
      · intro hboth
        exact absurd (hlive.2 hboth.1) h

/-- A change is made if it is about an open scope, and closes only the newest scope or the root. -/
theorem perform_eq_ok_iff {a b : Arena} {action : Action} :
    a.perform action = .ok b ↔
      action.scope < a.size ∧
        (action.closes = true → action.scope = root ∨ action.scope + 1 = a.size) ∧
        b = a.act action := by
  rw [← and_assoc, ← refusal?_eq_none_iff]
  unfold perform
  cases a.refusal? action.closes action.scope with
  | none => simp [eq_comm]
  | some r => simp

/-- Every change of the scopes that is not refused keeps them nested. -/
theorem nested_perform {a b : Arena} {action : Action} (ha : a.Nested)
    (h : a.perform action = .ok b) : b.Nested := by
  obtain ⟨hlive, -, rfl⟩ := perform_eq_ok_iff.1 h
  cases action with
  | push name parent => exact ha.push name hlive
  | pop id => exact ha.pop id
  | addImport id b => exact ha.of_skeleton (skeleton_addImport a id b)
  | recordImport id statement => exact ha.of_skeleton (skeleton_recordImport a id statement)

/-! ## Lineages -/

/-- Lineages depend on the skeleton only. -/
theorem lineageWithin_congr {a b : Arena} (h : a.skeleton = b.skeleton) (fuel id : Nat) :
    a.lineageWithin fuel id = b.lineageWithin fuel id := by
  induction fuel generalizing id with
  | zero => rfl
  | succ fuel ih =>
    have hget : (a.get? id).map (fun s => (s.name, s.parent)) =
        (b.get? id).map fun s => (s.name, s.parent) := by
      rw [← getElem?_skeleton, ← getElem?_skeleton, h]
    unfold lineageWithin
    cases ha : a.get? id with
    | none =>
      cases hb : b.get? id with
      | none => rfl
      | some t => simp [ha, hb] at hget
    | some s =>
      cases hb : b.get? id with
      | none => simp [ha, hb] at hget
      | some t =>
        have hparent : s.parent = t.parent := by
          simp only [ha, hb, Option.map_some, Option.some.injEq, Prod.mk.injEq] at hget
          exact hget.2
        simp only [hparent, ih]

/-- The enclosing scopes are a matter of the nesting alone. -/
theorem lineage_congr {a b : Arena} (h : a.skeleton = b.skeleton) (id : Nat) :
    a.lineage id = b.lineage id := by
  rw [lineage, lineage, size_eq_of_skeleton h, lineageWithin_congr h]

theorem Nested.parent_lt {a : Arena} (h : a.Nested) {id p : Nat} {s : Scope}
    (hget : a.get? id = some s) (hparent : s.parent = some p) : p < id := by
  have hsk : a.skeleton[id]? = some (s.name, some p) := by
    rw [getElem?_skeleton, hget, Option.map_some, hparent]
  by_cases hid : id = Arena.root
  · obtain ⟨n, hroot⟩ := h.root
    rw [hid, hroot] at hsk
    cases hsk
  · obtain ⟨q, hq, hlt⟩ := h.inner id s.name (some p) hsk hid
    cases hq
    exact hlt

/-- The scope around an open scope is open too. -/
def ParentsLive (a : Arena) : Prop :=
  ∀ s ∈ a.scopes, ∀ p ∈ s.parent, p < a.size

instance (a : Arena) : Decidable a.ParentsLive :=
  inferInstanceAs (Decidable (∀ s ∈ a.scopes, ∀ p ∈ s.parent, p < a.size))

theorem ParentsLive.parent_lt_size {a : Arena} (ha : a.ParentsLive) {id p : Nat} {s : Scope}
    (hget : a.get? id = some s) (hparent : s.parent = some p) : p < a.size :=
  ha s (List.mem_of_getElem? hget) p hparent

theorem Nested.parentsLive {a : Arena} (h : a.Nested) : a.ParentsLive := by
  intro s hs p hparent
  obtain ⟨id, hget⟩ := List.mem_iff_getElem?.1 hs
  exact Nat.lt_trans (h.parent_lt hget hparent) (get?_isSome_iff.1 ⟨s, hget⟩)

theorem ParentsLive.of_skeleton {a b : Arena} (ha : a.ParentsLive) (h : b.skeleton = a.skeleton) :
    b.ParentsLive := by
  intro s hs p hparent
  have hmem : (s.name, s.parent) ∈ a.skeleton := by
    rw [← h]
    exact List.mem_map_of_mem hs
  obtain ⟨t, ht, heq⟩ := List.mem_map.1 hmem
  rw [size_eq_of_skeleton h]
  exact ha t ht p ((Prod.mk.inj heq).2 ▸ hparent)

/-- More fuel than the index gives nothing more, since enclosing scopes have smaller indices. -/
theorem Nested.lineageWithin_eq {a : Arena} (h : a.Nested) {fuel fuel' id : Nat}
    (hf : id < fuel) (hf' : id < fuel') : a.lineageWithin fuel id = a.lineageWithin fuel' id := by
  induction fuel generalizing fuel' id with
  | zero => exact absurd hf (Nat.not_lt_zero id)
  | succ fuel ih =>
    cases fuel' with
    | zero => exact absurd hf' (Nat.not_lt_zero id)
    | succ fuel' =>
      unfold lineageWithin
      cases hget : a.get? id with
      | none => rfl
      | some s =>
        cases hparent : s.parent with
        | none => simp only [hparent]
        | some p =>
          have hlt : p < id := h.parent_lt hget hparent
          have hrest : a.lineageWithin fuel p = a.lineageWithin fuel' p :=
            ih (by omega) (by omega)
          simp only [hparent, hrest]

theorem lineageWithin_of_parent {a : Arena} {id p : Nat} {s : Scope} (hget : a.get? id = some s)
    (hparent : s.parent = some p) (fuel : Nat) :
    a.lineageWithin (fuel + 1) id = id :: a.lineageWithin fuel p := by
  rw [lineageWithin]
  simp only [hget, hparent]

theorem exists_size_eq_succ {a : Arena} {id : Nat} {s : Scope} (hget : a.get? id = some s) :
    ∃ n, a.size = n + 1 ∧ id ≤ n := by
  have hlive : id < a.size := get?_isSome_iff.1 ⟨s, hget⟩
  exact ⟨a.size - 1, by omega, by omega⟩

/-- The lineage of a scope is the scope and the lineage of the one that encloses it. -/
theorem Nested.lineage_eq_cons {a : Arena} (h : a.Nested) {id p : Nat} {s : Scope}
    (hget : a.get? id = some s) (hparent : s.parent = some p) :
    a.lineage id = id :: a.lineage p := by
  obtain ⟨n, hsize, hle⟩ := exists_size_eq_succ hget
  have hlt : p < id := h.parent_lt hget hparent
  rw [lineage, lineage, hsize, lineageWithin_of_parent hget hparent,
    h.lineageWithin_eq (by omega : p < n) (by omega : p < n + 1)]

theorem lineage_eq_singleton {a : Arena} {id : Nat} {s : Scope} (hget : a.get? id = some s)
    (hparent : s.parent = none) : a.lineage id = [id] := by
  obtain ⟨n, hsize, -⟩ := exists_size_eq_succ hget
  rw [lineage, hsize, lineageWithin]
  simp only [hget, hparent]

theorem lineage_eq_nil {a : Arena} {id : Nat} (h : a.size ≤ id) : a.lineage id = [] := by
  have hget : a.get? id = none := List.getElem?_eq_none h
  unfold lineage
  generalize a.size = n
  cases n with
  | zero => rfl
  | succ n =>
    rw [lineageWithin]
    simp only [hget]

/-- A lineage goes strictly outwards. -/
theorem Nested.lineage_pairwise {a : Arena} (h : a.Nested) (id : Nat) :
    (a.lineage id).Pairwise (· > ·) ∧ ∀ i ∈ a.lineage id, i ≤ id := by
  induction id using Nat.strongRecOn with
  | ind id ih =>
    cases hget : a.get? id with
    | none =>
      have hnil : a.lineage id = [] := lineage_eq_nil (List.getElem?_eq_none_iff.1 hget)
      simp [hnil]
    | some s =>
      cases hparent : s.parent with
      | none => simp [lineage_eq_singleton hget hparent]
      | some p =>
        have hlt : p < id := h.parent_lt hget hparent
        obtain ⟨hpair, hle⟩ := ih p hlt
        rw [h.lineage_eq_cons hget hparent]
        refine ⟨List.pairwise_cons.2 ⟨?_, hpair⟩, ?_⟩
        · intro i hi
          exact Nat.lt_of_le_of_lt (hle i hi) hlt
        · intro i hi
          rcases List.mem_cons.1 hi with rfl | hi
          · exact Nat.le_refl i
          · exact Nat.le_of_lt (Nat.lt_of_le_of_lt (hle i hi) hlt)

/-- The root encloses every open scope. -/
theorem Nested.root_mem_lineage {a : Arena} (h : a.Nested) {id : Nat} (hid : id < a.size) :
    Arena.root ∈ a.lineage id := by
  induction id using Nat.strongRecOn with
  | ind id ih =>
    obtain ⟨s, hget⟩ := get?_isSome_iff.2 hid
    cases hparent : s.parent with
    | none =>
      have hroot : id = Arena.root := by
        by_contra hne
        have hsk : a.skeleton[id]? = some (s.name, none) := by
          rw [getElem?_skeleton, hget, Option.map_some, hparent]
        obtain ⟨p, hp, -⟩ := h.inner id s.name none hsk hne
        cases hp
      rw [lineage_eq_singleton hget hparent, hroot]
      exact List.mem_singleton_self _
    | some p =>
      have hlt : p < id := h.parent_lt hget hparent
      rw [h.lineage_eq_cons hget hparent]
      exact List.mem_cons_of_mem _ (ih p hlt (Nat.lt_trans hlt hid))

/-! ## What an import reaches -/

theorem get?_modify (a : Arena) (id i : Nat) (f : Scope → Scope) :
    (a.modify id f).get? i = if id = i then (a.get? i).map f else a.get? i := by
  simp only [modify, get?, List.getElem?_modify]
  by_cases h : id = i
  · simp [h]
  · simp [h]

/-- An import reaches the scope in which it stands and those that enclose it, and no other. -/
theorem get?_addImport (a : Arena) (id i : Nat) (b : Binding) :
    (a.addImport id b).get? i =
      if i ∈ a.lineage id then (a.get? i).map (·.bind b) else a.get? i := by
  unfold addImport
  generalize a.lineage id = ids
  induction ids generalizing a with
  | nil => simp
  | cons j ids ih =>
    rw [List.foldl_cons, ih, get?_modify]
    by_cases hij : j = i
    · -- it may be reached again, but that changes nothing more
      subst hij
      simp [Function.comp_def, Scope.bind_bind]
    · have hne : i ≠ j := fun h => hij h.symm
      simp [hij, hne]

/-- Imports are added to the scope and to those that enclose it, and to no others. -/
theorem get?_addImports (a : Arena) (id i : Nat) (bs : List Binding) :
    (a.addImports id bs).get? i =
      if i ∈ a.lineage id then (a.get? i).map (fun s => bs.foldl Scope.bind s) else a.get? i := by
  unfold addImports
  induction bs generalizing a with
  | nil => simp
  | cons b bs ih =>
    rw [List.foldl_cons, ih, lineage_congr (skeleton_addImport a id b), get?_addImport]
    by_cases hi : i ∈ a.lineage id
    · simp [hi, Function.comp_def]
    · simp [hi]

end Arena
end SymbolIndex
