/-!
# Sets of strings

A set is kept as the strictly increasing list of its members, in the order of code points.

- `insertSorted` : insertion into a strictly increasing list
- `StringSet` : the list together with the proof that it is strictly increasing
- `mem_insert` : what insertion does to membership
-/

namespace SymbolIndex

/-! ## Strictly increasing lists -/

/-- Puts `x` where it belongs; a member is not repeated. -/
def insertSorted (x : String) : List String → List String
  | [] => [x]
  | y :: ys => if x < y then x :: y :: ys else if x = y then y :: ys else y :: insertSorted x ys

/-- The members are those from before and the new one. -/
theorem mem_insertSorted {x z : String} {ys : List String} :
    z ∈ insertSorted x ys ↔ z = x ∨ z ∈ ys := by
  induction ys with
  | nil => simp [insertSorted]
  | cons y ys ih =>
    simp only [insertSorted]
    split
    · simp
    · split
      · rename_i h; subst h; simp
      · simp only [List.mem_cons, ih]
        constructor
        · rintro (h | h | h) <;> simp [h]
        · rintro (h | h | h) <;> simp [h]

theorem lt_of_not_lt_of_ne {x y : String} (h : ¬ x < y) (hne : x ≠ y) : y < x := by
  rcases Std.lt_trichotomy x y with h' | h' | h'
  · exact absurd h' h
  · exact absurd h' hne
  · exact h'

/-- A strictly increasing list stays one. -/
theorem pairwise_insertSorted {x : String} {ys : List String} (h : ys.Pairwise (· < ·)) :
    (insertSorted x ys).Pairwise (· < ·) := by
  induction ys with
  | nil => simp [insertSorted]
  | cons y ys ih =>
    rw [List.pairwise_cons] at h
    simp only [insertSorted]
    split
    · rename_i hlt
      refine List.pairwise_cons.2 ⟨?_, List.pairwise_cons.2 h⟩
      intro z hz
      rcases List.mem_cons.1 hz with rfl | hz
      · exact hlt
      · exact String.lt_trans hlt (h.1 z hz)
    · rename_i hnlt
      split
      · exact List.pairwise_cons.2 h
      · rename_i hne
        refine List.pairwise_cons.2 ⟨?_, ih h.2⟩
        intro z hz
        rcases mem_insertSorted.1 hz with rfl | hz
        · exact lt_of_not_lt_of_ne hnlt hne
        · exact h.1 z hz

/-! ## The type -/

/-- A finite set of strings. -/
structure StringSet where
  /-- The members in increasing order. -/
  toList : List String
  sorted : toList.Pairwise (· < ·)
  deriving DecidableEq

namespace StringSet

def empty : StringSet :=
  ⟨[], List.Pairwise.nil⟩

instance : EmptyCollection StringSet := ⟨empty⟩

instance : Inhabited StringSet := ⟨empty⟩

instance : Membership String StringSet := ⟨fun s x => x ∈ s.toList⟩

def insert (s : StringSet) (x : String) : StringSet :=
  ⟨insertSorted x s.toList, pairwise_insertSorted s.sorted⟩

@[simp] theorem mem_empty (x : String) : ¬ x ∈ (∅ : StringSet) :=
  List.not_mem_nil

@[simp] theorem mem_insert (s : StringSet) (x y : String) : y ∈ s.insert x ↔ y = x ∨ y ∈ s :=
  mem_insertSorted

end StringSet
end SymbolIndex
