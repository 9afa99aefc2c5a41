import SymbolIndex.Proofs.Scope.Nesting
import Mathlib.Data.Fintype.Pigeonhole

/-!
# Scopes inside a scope

An import goes outwards from scope to scope, and the loop that does so stops after as many steps as
there are open scopes. This file shows that it stops early nowhere, whatever scopes are said to
enclose each other:

- `Arena.Inside` : a scope is another one or lies inside it
- `Arena.Outward` : the same, with the number of steps that lead outwards
- `Arena.Outward.exists_lt_size` : fewer steps than open scopes are enough
- `Arena.mem_lineage_iff` : the loop passes exactly the scopes in which a scope lies
-/

namespace SymbolIndex
namespace Arena

/-- The scope with the second index is the one with the first, or lies inside it. -/
inductive Inside (a : Arena) (x : Nat) : Nat → Prop where
  | self (hx : x < a.size) : Inside a x x
  | inner {id parent : Nat} {s : Scope} (hs : a.get? id = some s) (hparent : s.parent = some parent)
      (h : Inside a x parent) : Inside a x id

/-- The scope `x` is reached from the scope with the second index by going outwards so many
times. -/
inductive Outward (a : Arena) (x : Nat) : Nat → Nat → Prop where
  | self (hx : x < a.size) : Outward a x 0 x
  | inner {steps id parent : Nat} {s : Scope} (hs : a.get? id = some s)
      (hparent : s.parent = some parent) (h : Outward a x steps parent) : Outward a x (steps + 1) id

variable {a : Arena} {x y id : Nat}

theorem Inside.live (h : a.Inside x id) : x < a.size := by
  induction h with
  | self hx => exact hx
  | inner _ _ _ ih => exact ih

/-- A scope lies inside another one if that is reached by going outwards. -/
theorem inside_iff_exists_outward : a.Inside x id ↔ ∃ steps, a.Outward x steps id := by
  constructor
  · intro h
    induction h with
    | self hx => exact ⟨0, .self hx⟩
    | inner hs hparent _ ih =>
      obtain ⟨steps, h⟩ := ih
      exact ⟨steps + 1, .inner hs hparent h⟩
  · rintro ⟨steps, h⟩
    induction h with
    | self hx => exact .self hx
    | inner hs hparent _ ih => exact .inner hs hparent ih

theorem Outward.live {steps : Nat} (h : a.Outward x steps id) : id < a.size := by
  cases h with
  | self hx => exact hx
  | inner hs _ _ => exact get?_isSome_iff.1 ⟨_, hs⟩

theorem Outward.trans {m n : Nat} (h : a.Outward y m id) (h' : a.Outward x n y) :
    a.Outward x (m + n) id := by
  induction h with
  | self hx => simpa using h'
  | @inner steps id parent s hs hparent _ ih =>
    rw [Nat.add_right_comm]
    exact .inner hs hparent ih

/-- On the way outwards a scope is passed at every step. -/
theorem Outward.exists_between {n : Nat} (h : a.Outward x n id) {m : Nat} (hm : m ≤ n) :
    ∃ y, a.Outward y m id ∧ a.Outward x (n - m) y := by
  induction h generalizing m with
  | self hx =>
    obtain rfl : m = 0 := Nat.le_zero.1 hm
    exact ⟨x, .self hx, .self hx⟩
  | @inner steps id parent s hs hparent h ih =>
    cases m with
    | zero =>
      have hid : id < a.size := get?_isSome_iff.1 ⟨s, hs⟩
      exact ⟨id, .self hid, .inner hs hparent h⟩
    | succ m =>
      obtain ⟨y, hy, hx⟩ := ih (Nat.le_of_succ_le_succ hm)
      refine ⟨y, .inner hs hparent hy, ?_⟩
      rwa [Nat.add_sub_add_right]

/-- The shortest way outwards passes no scope twice, so it has fewer steps than there are scopes. -/
theorem Outward.exists_lt_size {n : Nat} (h : a.Outward x n id) :
    ∃ steps < a.size, a.Outward x steps id := by
  classical
  have hex : ∃ steps, a.Outward x steps id := ⟨n, h⟩
  refine ⟨Nat.find hex, ?_, Nat.find_spec hex⟩
  by_contra hlong
  choose y hid hx using fun i : Fin (Nat.find hex + 1) =>
    (Nat.find_spec hex).exists_between (Nat.le_of_lt_succ i.isLt)
  let passed : Fin (Nat.find hex + 1) → Fin a.size := fun i => ⟨y i, (hx i).live⟩
  have hcard : Fintype.card (Fin a.size) < Fintype.card (Fin (Nat.find hex + 1)) := by
    rw [Fintype.card_fin, Fintype.card_fin]
    exact Nat.lt_succ_of_le (Nat.le_of_not_lt hlong)
  obtain ⟨i, j, hne, heq⟩ := Fintype.exists_ne_map_eq_of_card_lt passed hcard
  have hsame : y i = y j := congrArg Fin.val heq
  -- what lies between the two visits can be left out
  have hshort : ∀ i j : Fin (Nat.find hex + 1), i < j → y i ≠ y j := by
    intro i j hij hsame
    have hway : a.Outward x (i + (Nat.find hex - j)) id := (hid i).trans (hsame ▸ hx j)
    exact Nat.find_min hex (by omega) hway
  rcases lt_or_gt_of_ne hne with hij | hij
  · exact hshort i j hij hsame
  · exact hshort j i hij hsame.symm

/-- The fuel bounds how many times one goes outwards. -/
theorem mem_lineageWithin_iff {fuel : Nat} :
    x ∈ a.lineageWithin fuel id ↔ ∃ steps < fuel, a.Outward x steps id := by
  induction fuel generalizing id with
  | zero => simp [lineageWithin]
  | succ fuel ih =>
    cases hget : a.get? id with
    | none =>
      -- outside the arena there is no way outwards, not even of length zero
      have hdead : ¬ id < a.size := fun h => by
        obtain ⟨s, hs⟩ := get?_isSome_iff.2 h
        rw [hget] at hs
        cases hs
      rw [lineageWithin]
      simp only [hget, List.not_mem_nil, false_iff]
      rintro ⟨steps, -, h⟩
      exact hdead h.live
    | some s =>
      have hid : id < a.size := get?_isSome_iff.1 ⟨s, hget⟩
      cases hparent : s.parent with
      | none =>
        rw [lineageWithin]
        simp only [hget, hparent, List.mem_singleton]
        constructor
        · rintro rfl
          exact ⟨0, Nat.zero_lt_succ fuel, .self hid⟩
        · rintro ⟨steps, -, h⟩
          cases h with
          | self hx => rfl
          | inner hs hp _ =>
            rw [hget, Option.some.injEq] at hs
            subst hs
            rw [hparent] at hp
            cases hp
      | some p =>
        rw [lineageWithin_of_parent hget hparent, List.mem_cons, ih]
        constructor
        · rintro (rfl | ⟨steps, hlt, h⟩)
          · exact ⟨0, Nat.zero_lt_succ fuel, .self hid⟩
          · exact ⟨steps + 1, Nat.succ_lt_succ hlt, .inner hget hparent h⟩
        · rintro ⟨steps, hlt, h⟩
          cases h with
          | self hx => exact Or.inl rfl
          | inner hs hp h =>
            rw [hget, Option.some.injEq] at hs
            subst hs
            rw [hparent, Option.some.injEq] at hp
            subst hp
            exact Or.inr ⟨_, Nat.lt_of_succ_lt_succ hlt, h⟩

/-- The loop outwards from a scope passes exactly the scopes in which it lies. -/
theorem mem_lineage_iff : x ∈ a.lineage id ↔ a.Inside x id := by
  rw [lineage, mem_lineageWithin_iff, inside_iff_exists_outward]
  constructor
  · rintro ⟨steps, -, h⟩
    exact ⟨steps, h⟩
  · rintro ⟨steps, h⟩
    exact h.exists_lt_size

end Arena
end SymbolIndex
