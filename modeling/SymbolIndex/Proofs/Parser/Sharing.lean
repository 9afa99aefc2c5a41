import SymbolIndex.Proofs.Parser.Memo
import Mathlib.Algebra.BigOperators.Group.List.Basic
import Mathlib.Algebra.Ring.Nat
import Mathlib.Data.List.Forall2
import Mathlib.Data.List.Infix

/-!
# Callers that share a memory

A call of a parser with a memory is not one step: the memory is free between looking a source up and
remembering its tree. This file lets callers take such steps in any order:

- `Caller` : the calls that a caller has still to make, and the answers it has got
- `Caller.advance` : one step of a caller
- `Sharing.run` : a schedule, which names the callers one after another
- `Sharing.Sound` : the memory is sound, and every answer so far is that of the parser
- `Sharing.Sound.run` : every schedule keeps it so
- `Sharing.Feasible` : a schedule with a limit on the calls that are under way at once
- `Sharing.exists_feasible_concat` : a schedule can go on until all callers are done
-/

namespace SymbolIndex

/-! ## One caller -/

structure Caller where
  /-- The sources that it has still to look up. -/
  calls : List String
  /-- The source that was looked up in vain and is being parsed. -/
  missed : Option String := none
  /-- The sources with their answers so far. -/
  answers : List (String × Except ParserFault Json) := []

namespace Caller

/-- One step: a source that was looked up in vain is parsed and remembered; otherwise the next
source is looked up. -/
def advance (f : String → Except ParserFault Json) (m : Memo) (c : Caller) :
    Option (Memo × Caller) :=
  match c.missed with
  | some source =>
    some (m.keep source (f source),
      { c with missed := none, answers := c.answers ++ [(source, f source)] })
  | none =>
    match c.calls with
    | [] => none
    | source :: calls =>
      match m.lookup (sourceDigest source) with
      | some (tree, m) => some (m, { calls, answers := c.answers ++ [(source, .ok tree)] })
      | none => some (m, { calls, missed := some source, answers := c.answers })

/-- What a step does. -/
theorem advance_cases {f : String → Except ParserFault Json} {m m' : Memo} {c c' : Caller}
    (h : c.advance f m = some (m', c')) :
    (∃ source, c.missed = some source ∧ m' = m.keep source (f source) ∧
      c' = { c with missed := none, answers := c.answers ++ [(source, f source)] }) ∨
    (∃ source calls tree, c.missed = none ∧ c.calls = source :: calls ∧
      m.lookup (sourceDigest source) = some (tree, m') ∧
      c' = { calls, answers := c.answers ++ [(source, .ok tree)] }) ∨
    ∃ source calls, c.missed = none ∧ c.calls = source :: calls ∧ m' = m ∧
      c' = { calls, missed := some source, answers := c.answers } := by
  unfold advance at h
  split at h
  · rename_i source hmissed
    cases h
    exact Or.inl ⟨source, hmissed, rfl, rfl⟩
  · rename_i hmissed
    split at h
    · cases h
    · rename_i source calls hcalls
      split at h
      · rename_i tree memo hfound
        cases h
        exact Or.inr (Or.inl ⟨source, calls, tree, hmissed, hcalls, hfound, rfl⟩)
      · cases h
        exact Or.inr (Or.inr ⟨source, calls, hmissed, hcalls, rfl, rfl⟩)

def IsDone (c : Caller) : Prop :=
  c.calls = [] ∧ c.missed = none

/-- A caller that has still to be answered can make a step. -/
theorem exists_advance (f : String → Except ParserFault Json) (m : Memo) {c : Caller}
    (h : ¬ c.IsDone) : ∃ m' c', c.advance f m = some (m', c') := by
  unfold advance
  cases hmissed : c.missed with
  | some source => exact ⟨_, _, rfl⟩
  | none =>
    cases hcalls : c.calls with
    | nil => exact absurd ⟨hcalls, hmissed⟩ h
    | cons source calls =>
      cases hfound : m.lookup (sourceDigest source) with
      | some found =>
        simp only [hfound]
        exact ⟨_, _, rfl⟩
      | none =>
        simp only [hfound]
        exact ⟨_, _, rfl⟩

/-- Whether a call is under way, as a number. -/
def busy (c : Caller) : Nat :=
  if c.missed.isSome then 1 else 0

/-- How many steps a caller takes at most. -/
def rank (c : Caller) : Nat :=
  2 * c.calls.length + c.busy

theorem rank_lt_of_advance {f : String → Except ParserFault Json} {m m' : Memo} {c c' : Caller}
    (h : c.advance f m = some (m', c')) : c'.rank < c.rank := by
  rcases advance_cases h with ⟨source, hmissed, -, rfl⟩ |
    ⟨source, calls, tree, hmissed, hcalls, -, rfl⟩ | ⟨source, calls, hmissed, hcalls, -, rfl⟩
  · simp [rank, busy, hmissed]
  · simp [rank, busy, hmissed, hcalls]
  · simp [rank, busy, hmissed, hcalls]
    omega

/-- The calls of a caller are those that it has made and those that it has still to make, and what
it has been told is what `f` gives. -/
structure Faithful (f : String → Except ParserFault Json) (calls : List String) (c : Caller) :
    Prop where
  calls_eq : calls = c.answers.map Prod.fst ++ c.missed.toList ++ c.calls
  answered : ∀ source result, (source, result) ∈ c.answers → result = f source

section Faithful

variable {f : String → Except ParserFault Json} {used : Set String} {m m' : Memo} {c c' : Caller}
  {calls : List String}

/-- No step spoils the memory or gives a wrong answer, whatever the other callers have done
before. -/
theorem Faithful.advance (hdigest : Set.InjOn sourceDigest used) (hm : m.Sound f used)
    (hc : c.Faithful f calls) (hused : ∀ source ∈ calls, source ∈ used)
    (h : c.advance f m = some (m', c')) :
    m'.Sound f used ∧ m'.capacity = m.capacity ∧ c'.Faithful f calls := by
  have hanswered : ∀ {source : String} {result : Except ParserFault Json}, result = f source →
      ∀ s r, (s, r) ∈ c.answers ++ [(source, result)] → r = f s := by
    intro source result hresult s r hmem
    rcases List.mem_append.1 hmem with hmem | hmem
    · exact hc.answered s r hmem
    · cases List.mem_singleton.1 hmem
      exact hresult
  rcases advance_cases h with ⟨source, hmissed, rfl, rfl⟩ |
    ⟨source, rest, tree, hmissed, hcalls, hfound, rfl⟩ | ⟨source, rest, hmissed, hcalls, rfl, rfl⟩
  · have hsource : source ∈ used := by
      refine hused source ?_
      rw [hc.calls_eq, hmissed]
      simp
    refine ⟨(hm.keep hsource).1, (hm.keep hsource).2, ?_, hanswered rfl⟩
    rw [hc.calls_eq, hmissed]
    simp
  · have hsource : source ∈ used := by
      refine hused source ?_
      rw [hc.calls_eq, hcalls]
      simp
    have htree : f source = .ok tree := hm.eq_of_lookup hdigest hsource hfound
    refine ⟨(hm.lookup hfound).2.1, (hm.lookup hfound).2.2, ?_, hanswered htree.symm⟩
    rw [hc.calls_eq, hmissed, hcalls]
    simp
  · refine ⟨hm, rfl, ?_, hc.answered⟩
    rw [hc.calls_eq, hmissed, hcalls]
    simp

end Faithful
end Caller

/-! ## Many callers -/

/-- A memory and the callers that share it. -/
structure Sharing where
  memo : Memo
  callers : List Caller

namespace Sharing

/-- An empty memory and callers that have got no answer yet. -/
def start (capacity : Nat) (lists : List (List String)) : Sharing :=
  ⟨.new capacity, lists.map fun calls => { calls }⟩

def advance (f : String → Except ParserFault Json) (s : Sharing) (i : Nat) : Option Sharing :=
  s.callers[i]?.bind fun c =>
    (c.advance f s.memo).map fun (memo, c) => ⟨memo, s.callers.set i c⟩

/-- One step of each of the callers that a schedule names, in turn. -/
def run (f : String → Except ParserFault Json) : List Nat → Sharing → Option Sharing
  | [], s => some s
  | i :: schedule, s => (s.advance f i).bind (run f schedule)

theorem run_append (f : String → Except ParserFault Json) (schedule rest : List Nat) (s : Sharing) :
    run f (schedule ++ rest) s = (run f schedule s).bind (run f rest) := by
  induction schedule generalizing s with
  | nil => rfl
  | cons i schedule ih =>
    simp only [List.cons_append, run]
    cases s.advance f i with
    | none => rfl
    | some t => exact ih t

/-- A step of the whole is a step of one caller with the memory that all share. -/
theorem advance_eq_some_iff {f : String → Except ParserFault Json} {s t : Sharing} {i : Nat} :
    s.advance f i = some t ↔ ∃ c memo c', s.callers[i]? = some c ∧
      c.advance f s.memo = some (memo, c') ∧ t = ⟨memo, s.callers.set i c'⟩ := by
  unfold advance
  constructor
  · intro h
    rcases Option.bind_eq_some_iff.1 h with ⟨c, hc, h⟩
    rcases Option.map_eq_some_iff.1 h with ⟨⟨memo, c'⟩, hstep, ht⟩
    exact ⟨c, memo, c', hc, hstep, ht.symm⟩
  · rintro ⟨c, memo, c', hc, hstep, rfl⟩
    rw [hc, Option.bind_some, hstep]
    rfl

/-- The memory is sound, and every caller has been told what `f` gives. -/
structure Sound (f : String → Except ParserFault Json) (used : Set String) (capacity : Nat)
    (lists : List (List String)) (s : Sharing) : Prop where
  memo : s.memo.Sound f used
  capacity_eq : s.memo.capacity = capacity
  callers : List.Forall₂ (Caller.Faithful f) lists s.callers

section Sound

variable {f : String → Except ParserFault Json} {used : Set String} {capacity : Nat}
  {lists : List (List String)} {s t : Sharing}

theorem sound_start (f : String → Except ParserFault Json) (used : Set String) (capacity : Nat)
    (lists : List (List String)) : (start capacity lists).Sound f used capacity lists where
  memo := Memo.sound_new f used capacity
  capacity_eq := rfl
  callers := by
    simp only [start, List.forall₂_map_right_iff]
    refine List.forall₂_same.2 fun calls _ => ⟨rfl, ?_⟩
    intro source result h
    cases h

/-- A caller in a list of callers, with its own calls, may be replaced. -/
theorem forall₂_set {α β : Type} {r : α → β → Prop} {xs : List α} {ys : List β}
    (h : List.Forall₂ r xs ys) {i : Nat} {y : β} (hy : ys[i]? = some y) :
    ∃ x ∈ xs, r x y ∧ ∀ y', r x y' → List.Forall₂ r xs (ys.set i y') := by
  induction h generalizing i with
  | nil => cases hy
  | @cons x z xs zs hxz hrest ih =>
    cases i with
    | zero =>
      cases hy
      exact ⟨x, List.mem_cons_self, hxz, fun y' hxy' => .cons hxy' hrest⟩
    | succ i =>
      rcases ih hy with ⟨x', hx', hxy, hset⟩
      exact ⟨x', List.mem_cons_of_mem x hx', hxy, fun y' hxy' => .cons hxz (hset y' hxy')⟩

/-- One step keeps the memory sound and every caller told what `f` gives. -/
theorem Sound.advance (hdigest : Set.InjOn sourceDigest used)
    (hused : ∀ calls ∈ lists, ∀ source ∈ calls, source ∈ used)
    (hs : s.Sound f used capacity lists) {i : Nat} (h : s.advance f i = some t) :
    t.Sound f used capacity lists := by
  rcases advance_eq_some_iff.1 h with ⟨c, memo, c', hc, hstep, rfl⟩
  rcases forall₂_set hs.callers hc with ⟨calls, hcalls, hfaithful, hset⟩
  rcases hfaithful.advance hdigest hs.memo (hused calls hcalls) hstep with
    ⟨hmemo, hcapacity, hfaithful'⟩
  exact ⟨hmemo, hcapacity.trans hs.capacity_eq, hset c' hfaithful'⟩

/-- Every schedule keeps the memory sound and the answers right. -/
theorem Sound.run (hdigest : Set.InjOn sourceDigest used)
    (hused : ∀ calls ∈ lists, ∀ source ∈ calls, source ∈ used)
    (hs : s.Sound f used capacity lists) {schedule : List Nat} (h : run f schedule s = some t) :
    t.Sound f used capacity lists := by
  induction schedule generalizing s with
  | nil =>
    cases h
    exact hs
  | cons i schedule ih =>
    rcases Option.bind_eq_some_iff.1 h with ⟨s', hstep, hrest⟩
    exact ih (hs.advance hdigest hused hstep) hrest

end Sound

/-! ## Schedules come to an end -/

theorem sum_map_set {α : Type} (g : α → Nat) {xs : List α} {i : Nat} {x : α} (hx : xs[i]? = some x)
    (y : α) : ((xs.set i y).map g).sum + g x = (xs.map g).sum + g y := by
  induction xs generalizing i with
  | nil => cases hx
  | cons z xs ih =>
    cases i with
    | zero =>
      cases hx
      simp only [List.set_cons_zero, List.map_cons, List.sum_cons]
      omega
    | succ i =>
      have hrest := ih hx
      simp only [List.set_cons_succ, List.map_cons, List.sum_cons]
      omega

def busy (s : Sharing) : Nat :=
  (s.callers.map Caller.busy).sum

/-- How many steps are left at most. -/
def rank (s : Sharing) : Nat :=
  (s.callers.map Caller.rank).sum

def IsDone (s : Sharing) : Prop :=
  ∀ c ∈ s.callers, c.IsDone

theorem rank_start (capacity : Nat) (lists : List (List String)) :
    (start capacity lists).rank = 2 * lists.flatten.length := by
  induction lists with
  | nil => rfl
  | cons calls lists ih =>
    simp only [start, rank, List.map_cons, List.sum_cons, List.flatten_cons, List.length_append,
      Caller.rank, Caller.busy] at ih ⊢
    simp only [ih]
    simp
    omega

theorem rank_lt_of_advance {f : String → Except ParserFault Json} {s t : Sharing} {i : Nat}
    (h : s.advance f i = some t) : t.rank < s.rank := by
  rcases advance_eq_some_iff.1 h with ⟨c, memo, c', hc, hstep, rfl⟩
  have hsum := sum_map_set Caller.rank hc c'
  have hlt := Caller.rank_lt_of_advance hstep
  simp only [rank]
  omega

/-- No schedule is longer than the number of steps that are left. -/
theorem length_add_rank_le {f : String → Except ParserFault Json} {s t : Sharing}
    {schedule : List Nat} (h : run f schedule s = some t) :
    schedule.length + t.rank ≤ s.rank := by
  induction schedule generalizing s with
  | nil =>
    cases h
    simp
  | cons i schedule ih =>
    rcases Option.bind_eq_some_iff.1 h with ⟨s', hstep, hrest⟩
    have hlt := rank_lt_of_advance hstep
    have hle := ih hrest
    rw [List.length_cons]
    omega

/-- The schedule can be followed with no more than `jobs` calls under way at any time. -/
def Feasible (f : String → Except ParserFault Json) (jobs : Nat) (s : Sharing)
    (schedule : List Nat) : Prop :=
  ∀ before, before <+: schedule → ∃ t, run f before s = some t ∧ t.busy ≤ jobs

/-- The caller can make its step with at most one more call under way, its own. -/
theorem exists_advance_of_not_isDone {f : String → Except ParserFault Json} {s : Sharing}
    {c : Caller} (hc : c ∈ s.callers) (h : ¬ c.IsDone) :
    ∃ i t, s.advance f i = some t ∧ t.busy + c.busy ≤ s.busy + 1 := by
  rcases List.mem_iff_getElem?.1 hc with ⟨i, hi⟩
  rcases c.exists_advance f s.memo h with ⟨memo, c', hstep⟩
  refine ⟨i, ⟨memo, s.callers.set i c'⟩, advance_eq_some_iff.2 ⟨c, memo, c', hi, hstep, rfl⟩, ?_⟩
  have hsum := sum_map_set Caller.busy hi c'
  have hle : c'.busy ≤ 1 := by
    unfold Caller.busy
    split
    · exact le_rfl
    · exact Nat.zero_le 1
  simp only [busy]
  omega

/-- A caller that is under way takes no further place, and one that is not can start if there is no
other. -/
theorem exists_advance_within {f : String → Except ParserFault Json} {s : Sharing} {jobs : Nat}
    (hjobs : 0 < jobs) (hbusy : s.busy ≤ jobs) (h : ¬ s.IsDone) :
    ∃ i t, s.advance f i = some t ∧ t.busy ≤ jobs := by
  by_cases hunder : ∃ c ∈ s.callers, c.missed.isSome = true
  · rcases hunder with ⟨c, hc, hmissed⟩
    have hnot : ¬ c.IsDone := by
      rintro ⟨-, hnone⟩
      rw [hnone] at hmissed
      cases hmissed
    rcases exists_advance_of_not_isDone (f := f) hc hnot with ⟨i, t, hstep, hle⟩
    have hone : c.busy = 1 := if_pos hmissed
    exact ⟨i, t, hstep, by omega⟩
  · have hzero : s.busy = 0 := by
      refine List.sum_eq_zero fun n hn => ?_
      rcases List.mem_map.1 hn with ⟨c, hc, rfl⟩
      exact if_neg fun hmissed => hunder ⟨c, hc, hmissed⟩
    unfold IsDone at h
    push Not at h
    rcases h with ⟨c, hc, hnot⟩
    rcases exists_advance_of_not_isDone (f := f) hc hnot with ⟨i, t, hstep, hle⟩
    exact ⟨i, t, hstep, by omega⟩

/-- A schedule is over only when all callers are done. -/
theorem exists_feasible_concat {f : String → Except ParserFault Json} {s t : Sharing} {jobs : Nat}
    (hjobs : 0 < jobs) {schedule : List Nat} (hfeasible : s.Feasible f jobs schedule)
    (hrun : run f schedule s = some t) (h : ¬ t.IsDone) :
    ∃ i, s.Feasible f jobs (schedule ++ [i]) := by
  rcases hfeasible schedule (List.prefix_refl schedule) with ⟨t', hrun', hbusy⟩
  rw [hrun] at hrun'
  cases hrun'
  rcases exists_advance_within (f := f) hjobs hbusy h with ⟨i, t', hstep, hbusy'⟩
  refine ⟨i, ?_⟩
  intro before hbefore
  rcases List.prefix_concat_iff.1 hbefore with rfl | hbefore
  · refine ⟨t', ?_, hbusy'⟩
    rw [run_append, hrun, Option.bind_some, run, hstep]
    rfl
  · exact hfeasible before hbefore

/-! ## A caller on its own -/

/-- A call that is not interrupted is a call of the parser with a memory. -/
theorem run_alone (f : String → Except ParserFault Json) (w : World) (source : String) :
    ∃ schedule result memo,
      Parser.memoized (Parser.pure f) source w = (result, { w with memo }) ∧
      run f schedule ⟨w.memo, [{ calls := [source] }]⟩ =
        some ⟨memo, [{ calls := [], answers := [(source, result)] }]⟩ := by
  unfold Parser.memoized
  cases hfound : w.memo.lookup (sourceDigest source) with
  | some found =>
    obtain ⟨tree, memo⟩ := found
    refine ⟨[0], .ok tree, memo, by simp only [hfound], ?_⟩
    simp [run, advance, Caller.advance, hfound]
  | none =>
    refine ⟨[0, 0], f source, w.memo.keep source (f source), ?_, ?_⟩
    · simp only [hfound, Parser.pure]
      cases f source with
      | ok tree => rfl
      | error fault => rfl
    · simp [run, advance, Caller.advance, hfound]

end Sharing
end SymbolIndex
