import SymbolIndex.Proofs.Scope.Nesting

/-!
# Scopes opened inside a scope

A walk opens scopes one inside another, below the scope in which it starts, and closes them again.
This file says what the open scopes look like meanwhile:

- `Arena.openAll` : one scope after another, each inside the one before
- `Arena.qualifiedName_openAll` : the qualified name of the innermost of them
- `Arena.below` : the scopes that were there before
- `Arena.below_addImport` : an import in the innermost scope counts, for the scopes that were there
  before, as an import in the scope in which the others were opened
-/

namespace SymbolIndex
namespace Arena

/-! ## The open scopes -/

/-- The innermost scope when scopes with these names, innermost first, are open inside `s`. -/
def innermost (a : Arena) (s : Nat) : List String → Nat
  | [] => s
  | _ :: keys => a.size + keys.length

/-- The scopes after some have been opened one inside another, the first of them inside `s`. Their
names are listed innermost first. -/
def openAll (a : Arena) (s : Nat) : List String → Arena
  | [] => a
  | key :: keys => (a.openAll s keys).push key (a.innermost s keys)

@[simp] theorem size_openAll (a : Arena) (s : Nat) (keys : List String) :
    (a.openAll s keys).size = a.size + keys.length := by
  induction keys with
  | nil => rfl
  | cons key keys ih => simp [openAll, ih, Nat.add_assoc]

theorem innermost_lt {a : Arena} {s : Nat} (hs : s < a.size) (keys : List String) :
    a.innermost s keys < a.size + keys.length := by
  cases keys with
  | nil => exact hs
  | cons key keys =>
    simp only [innermost, List.length_cons]
    omega

theorem Nested.openAll {a : Arena} (h : a.Nested) {s : Nat} (hs : s < a.size)
    (keys : List String) : (a.openAll s keys).Nested := by
  induction keys with
  | nil => exact h
  | cons key keys ih =>
    refine ih.push key ?_
    rw [size_openAll]
    exact innermost_lt hs keys

/-! ## Names -/

theorem get?_push_of_lt {a : Arena} {name : String} {parent id : Nat} (hid : id < a.size) :
    (a.push name parent).get? id = a.get? id :=
  List.getElem?_append_left hid

theorem get?_push_size (a : Arena) (name : String) (parent : Nat) :
    (a.push name parent).get? a.size = some (Scope.new name (some parent)) :=
  List.getElem?_concat_length

theorem ParentsLive.push {a : Arena} (ha : a.ParentsLive) (name : String) {parent : Nat}
    (hp : parent < a.size) : (a.push name parent).ParentsLive := by
  intro s hs p hparent
  rw [size_push]
  rcases List.mem_append.1 hs with hold | hnew
  · exact Nat.lt_succ_of_lt (ha s hold p hparent)
  · cases List.mem_singleton.1 hnew
    cases hparent
    exact Nat.lt_succ_of_lt hp

/-- Opening a scope does not change what encloses the older ones. -/
theorem ParentsLive.lineageWithin_push {a : Arena} (ha : a.ParentsLive) (name : String)
    (parent fuel : Nat) {id : Nat} (hid : id < a.size) :
    (a.push name parent).lineageWithin fuel id = a.lineageWithin fuel id := by
  induction fuel generalizing id with
  | zero => rfl
  | succ fuel ih =>
    obtain ⟨s, hget⟩ := get?_isSome_iff.2 hid
    have hget' : (a.push name parent).get? id = some s := by
      rw [get?_push_of_lt hid, hget]
    cases hparent : s.parent with
    | none =>
      rw [lineageWithin, lineageWithin]
      simp only [hget, hget', hparent]
    | some p =>
      rw [lineageWithin_of_parent hget' hparent, lineageWithin_of_parent hget hparent,
        ih (ha.parent_lt_size hget hparent)]

/-- A new scope is enclosed by the one it was opened in and by those around that. -/
theorem ParentsLive.lineage_push_size {a : Arena} (ha : a.ParentsLive) (name : String)
    {parent : Nat} (hp : parent < a.size) :
    (a.push name parent).lineage a.size = a.size :: a.lineage parent := by
  rw [lineage, size_push, lineageWithin_of_parent (get?_push_size a name parent) rfl,
    ha.lineageWithin_push name parent a.size hp, lineage]

/-- The names of the scope and of those that enclose it, innermost first. -/
def namesFrom (a : Arena) (id : Nat) : List String :=
  (a.lineage id).filterMap fun id => (a.get? id).map (·.name)

theorem namesFrom_congr {a b : Arena} (h : a.skeleton = b.skeleton) (id : Nat) :
    a.namesFrom id = b.namesFrom id := by
  unfold namesFrom
  rw [lineage_congr h]
  congr 1
  funext i
  have hget : (a.get? i).map (fun s => (s.name, s.parent)) =
      (b.get? i).map fun s => (s.name, s.parent) := by
    rw [← getElem?_skeleton, ← getElem?_skeleton, h]
  simpa [Function.comp_def] using congrArg (Option.map Prod.fst) hget

theorem qualifiedName_congr {a b : Arena} (h : a.skeleton = b.skeleton) (id : Nat) :
    a.qualifiedName id = b.qualifiedName id :=
  congrArg (".".intercalate ·) (namesFrom_congr h id)

theorem Nested.namesFrom_push_size {a : Arena} (h : a.Nested) (name : String) {parent : Nat}
    (hp : parent < a.size) :
    (a.push name parent).namesFrom a.size = name :: a.namesFrom parent := by
  have hold : (a.lineage parent).filterMap (fun id => ((a.push name parent).get? id).map (·.name)) =
      a.namesFrom parent := by
    refine List.filterMap_congr fun id hid => ?_
    have hle : id ≤ parent := (h.lineage_pairwise parent).2 id hid
    rw [get?_push_of_lt (Nat.lt_of_le_of_lt hle hp)]
  unfold namesFrom at hold ⊢
  rw [h.parentsLive.lineage_push_size name hp, List.filterMap_cons, get?_push_size, hold]
  rfl

/-- The names of scopes that were opened one inside another stand in front of those around them. -/
theorem Nested.namesFrom_openAll {a : Arena} (h : a.Nested) {s : Nat} (hs : s < a.size)
    (keys : List String) :
    (a.openAll s keys).namesFrom (a.innermost s keys) = keys ++ a.namesFrom s := by
  induction keys with
  | nil => rfl
  | cons key keys ih =>
    have hlt : a.innermost s keys < (a.openAll s keys).size := by
      rw [size_openAll]
      exact innermost_lt hs keys
    have hpush := (h.openAll hs keys).namesFrom_push_size key hlt
    rw [size_openAll, ih] at hpush
    exact hpush

theorem Nested.namesFrom_ne_nil {a : Arena} (h : a.Nested) {id : Nat} (hid : id < a.size) :
    a.namesFrom id ≠ [] := by
  obtain ⟨s, hget⟩ := get?_isSome_iff.2 hid
  have hself : id ∈ a.lineage id := by
    cases hparent : s.parent with
    | none => simp [lineage_eq_singleton hget hparent]
    | some p => simp [h.lineage_eq_cons hget hparent]
  intro hnil
  have hmem : s.name ∈ a.namesFrom id :=
    List.mem_filterMap.2 ⟨id, hself, by rw [hget]; rfl⟩
  rw [hnil] at hmem
  cases hmem

/-- Joining a part first makes no difference. -/
theorem intercalate_append_intercalate (sep : String) (xs : List String) {ys : List String}
    (h : ys ≠ []) : sep.intercalate (xs ++ [sep.intercalate ys]) = sep.intercalate (xs ++ ys) := by
  cases xs with
  | nil => simp
  | cons x xs =>
    rw [String.intercalate_append_of_ne_nil (List.cons_ne_nil x xs) (List.cons_ne_nil _ _),
      String.intercalate_append_of_ne_nil (List.cons_ne_nil x xs) h, String.intercalate_singleton]

/-- The qualified name of the innermost scope: the names of the scopes that were opened, innermost
first, and then the qualified name of the scope in which the first of them was opened. -/
theorem Nested.qualifiedName_openAll {a : Arena} (h : a.Nested) {s : Nat} (hs : s < a.size)
    (keys : List String) :
    (a.openAll s keys).qualifiedName (a.innermost s keys) =
      ".".intercalate (keys ++ [a.qualifiedName s]) := by
  calc
    (a.openAll s keys).qualifiedName (a.innermost s keys)
        = ".".intercalate ((a.openAll s keys).namesFrom (a.innermost s keys)) := rfl
    _ = ".".intercalate (keys ++ a.namesFrom s) := by rw [h.namesFrom_openAll hs]
    _ = ".".intercalate (keys ++ [a.qualifiedName s]) :=
          (intercalate_append_intercalate "." keys (h.namesFrom_ne_nil hs)).symm

/-! ## The scopes that were there before -/

def below (a : Arena) (n : Nat) : Arena :=
  ⟨a.scopes.take n⟩

theorem get?_below (a : Arena) (n i : Nat) :
    (a.below n).get? i = if i < n then a.get? i else none := by
  simp [below, get?, List.getElem?_take]

theorem ext_get? {a b : Arena} (h : ∀ i, a.get? i = b.get? i) : a = b := by
  have hscopes : a.scopes = b.scopes := List.ext_getElem? h
  cases a
  cases b
  cases hscopes
  rfl

theorem skeleton_below (a : Arena) (n : Nat) : (a.below n).skeleton = a.skeleton.take n := by
  simp [below, skeleton, List.map_take]

theorem below_size (a : Arena) : a.below a.size = a := by
  simp [below, size]

theorem below_push {a : Arena} {n : Nat} (h : n ≤ a.size) (name : String) (parent : Nat) :
    (a.push name parent).below n = a.below n := by
  simp only [below, push, List.take_append_of_le_length h]

theorem below_pop {a : Arena} {n id : Nat} (h : n ≤ id) : (a.pop id).below n = a.below n := by
  unfold pop
  split
  · rfl
  · simp only [below, List.take_take, Nat.min_eq_left h]

theorem skeleton_openAll_take (a : Arena) (s : Nat) (keys : List String) :
    (a.openAll s keys).skeleton.take a.size = a.skeleton := by
  induction keys with
  | nil =>
    rw [← length_skeleton]
    exact List.take_length
  | cons key keys ih =>
    have hle : a.size ≤ (a.openAll s keys).skeleton.length := by simp
    rw [openAll, skeleton_push, List.take_append_of_le_length hle, ih]

/-- Of the scopes that were there before, the innermost scope lies inside `s` and what encloses
`s`. -/
theorem Nested.mem_lineage_openAll {a : Arena} (h : a.Nested) {s : Nat} (hs : s < a.size)
    (keys : List String) {i : Nat} (hi : i < a.size) :
    i ∈ (a.openAll s keys).lineage (a.innermost s keys) ↔ i ∈ a.lineage s := by
  induction keys with
  | nil => exact Iff.rfl
  | cons key keys ih =>
    have hlt : a.innermost s keys < (a.openAll s keys).size := by
      rw [size_openAll]
      exact innermost_lt hs keys
    have hcons : (a.openAll s (key :: keys)).lineage (a.innermost s (key :: keys)) =
        (a.size + keys.length) :: (a.openAll s keys).lineage (a.innermost s keys) := by
      have hpush := (h.openAll hs keys).parentsLive.lineage_push_size key hlt
      rw [size_openAll] at hpush
      exact hpush
    rw [hcons, List.mem_cons, ih]
    constructor
    · rintro (hself | hmem)
      · omega
      · exact hmem
    · exact Or.inr

/-- For the scopes that were there before, an import in the innermost scope is an import in the
scope in which the others were opened. -/
theorem Nested.below_addImport {base a : Arena} (h : base.Nested) {s : Nat} (hs : s < base.size)
    {keys : List String} (ha : a.skeleton = (base.openAll s keys).skeleton) (b : Binding) :
    (a.addImport (base.innermost s keys) b).below base.size =
      (a.below base.size).addImport s b := by
  have hbelow : (a.below base.size).skeleton = base.skeleton := by
    rw [skeleton_below, ha, skeleton_openAll_take]
  refine ext_get? fun i => ?_
  rw [get?_addImport, get?_below, get?_below, get?_addImport, lineage_congr ha,
    lineage_congr hbelow]
  by_cases hi : i < base.size
  · simp only [hi, if_true, h.mem_lineage_openAll hs keys hi]
  · simp [hi]

/-- Of imports in scopes opened inside `s`, the older scopes see the same as of imports in `s`. -/
theorem Nested.below_addImports {base a : Arena} (h : base.Nested) {s : Nat} (hs : s < base.size)
    {keys : List String} (ha : a.skeleton = (base.openAll s keys).skeleton) (bs : List Binding) :
    (a.addImports (base.innermost s keys) bs).below base.size =
      (a.below base.size).addImports s bs := by
  induction bs generalizing a with
  | nil => rfl
  | cons b bs ih =>
    have hstep : (a.addImport (base.innermost s keys) b).skeleton =
        (base.openAll s keys).skeleton := by
      rw [skeleton_addImport, ha]
    simp only [Arena.addImports, List.foldl_cons] at ih ⊢
    rw [ih hstep, h.below_addImport hs ha]

end Arena
end SymbolIndex
