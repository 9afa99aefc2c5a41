import SymbolIndex.Parser.Basic
import SymbolIndex.Proofs.Sorted.Table
import Mathlib.Data.List.Nodup
import Mathlib.Data.Set.Function

/-!
# Remembered trees are right

- `Parser.pure` : a parser whose answers depend on the source alone
- `Memo.Sound` : what is remembered of such a parser
- `Memo.Sound.lookup`, `Memo.Sound.keep` : looking up and remembering keep it so
- `Memo.Sound.memoized` : remembering changes no answer
-/

namespace SymbolIndex

/-- The parser that answers by a function and leaves the world alone. -/
def Parser.pure (f : String → Except ParserFault Json) : Parser :=
  fun source w => (f source, w)

namespace Memo

/-- Remembers the tree of a source, if there is one. -/
def keep (m : Memo) (source : String) : Except ParserFault Json → Memo
  | .ok tree => m.put (sourceDigest source) tree
  | .error _ => m

/-- The memory is not overfull, no digest occurs twice, and each tree is what `f` gives for a source
that has been used. -/
structure Sound (f : String → Except ParserFault Json) (used : Set String) (m : Memo) : Prop where
  bounded : m.entries.length ≤ m.capacity
  distinct : (m.entries.map Prod.fst).Nodup
  remembered : ∀ key tree, (key, tree) ∈ m.entries →
    ∃ source ∈ used, key = sourceDigest source ∧ f source = .ok tree

section Sound

variable {f : String → Except ParserFault Json} {used : Set String} {m : Memo}

theorem sound_new (f : String → Except ParserFault Json) (used : Set String) (capacity : Nat) :
    (new capacity).Sound f used where
  bounded := Nat.zero_le capacity
  distinct := List.nodup_nil
  remembered _ _ h := by cases h

/-- A digest that is put in front does not occur again. -/
theorem nodup_cons_without (hdistinct : (m.entries.map Prod.fst).Nodup) (key : String)
    (tree : Json) :
    (((key, tree) :: without key m.entries).map Prod.fst).Nodup := by
  rw [List.map_cons, List.nodup_cons]
  refine ⟨?_, hdistinct.sublist (List.filter_sublist.map Prod.fst)⟩
  intro hkey
  rcases List.mem_map.1 hkey with ⟨e, he, hekey⟩
  have hne : e.1 ≠ key := by simpa using (List.mem_filter.1 he).2
  exact hne hekey

/-- The tree that is found was there, and moves to the front. -/
theorem Sound.lookup (h : m.Sound f used) {key : String} {tree : Json} {m' : Memo}
    (hfound : m.lookup key = some (tree, m')) :
    (key, tree) ∈ m.entries ∧ m'.Sound f used ∧ m'.capacity = m.capacity := by
  rcases Option.map_eq_some_iff.1 hfound with ⟨tree', hfind, heq⟩
  cases heq
  have hmem : (key, tree) ∈ m.entries := mem_of_find? hfind
  refine ⟨hmem, ⟨?_, nodup_cons_without h.distinct key tree, ?_⟩, rfl⟩
  · -- what moves to the front is missing further back
    have hshorter : (without key m.entries).length < m.entries.length :=
      List.length_filter_lt_length_iff_exists.2 ⟨(key, tree), hmem, by simp⟩
    exact hshorter.trans_le h.bounded
  · intro key' tree' he
    rcases List.mem_cons.1 he with heq | he
    · cases heq
      exact h.remembered key tree hmem
    · exact h.remembered key' tree' (List.mem_filter.1 he).1

/-- A sound memory stays sound if a tree of `f` is remembered. -/
theorem Sound.keep (h : m.Sound f used) {source : String} (hused : source ∈ used) :
    (m.keep source (f source)).Sound f used ∧ (m.keep source (f source)).capacity = m.capacity := by
  cases hf : f source with
  | error fault => exact ⟨h, rfl⟩
  | ok tree =>
    refine ⟨⟨List.length_take_le _ _, ?_, ?_⟩, rfl⟩
    · have hall := nodup_cons_without h.distinct (sourceDigest source) tree
      exact hall.sublist ((List.take_sublist m.capacity _).map Prod.fst)
    · intro key tree' he
      rcases List.mem_cons.1 (List.mem_of_mem_take he) with heq | he
      · cases heq
        exact ⟨source, hused, rfl, hf⟩
      · exact h.remembered key tree' (List.mem_filter.1 he).1

/-- A remembered tree is that of the source that is looked up, if no two sources in use have the
same digest. -/
theorem Sound.eq_of_lookup (h : m.Sound f used) (hdigest : Set.InjOn sourceDigest used)
    {source : String} (hused : source ∈ used) {tree : Json} {m' : Memo}
    (hfound : m.lookup (sourceDigest source) = some (tree, m')) : f source = .ok tree := by
  rcases h.remembered _ tree (h.lookup hfound).1 with ⟨source', hused', hkey, hf⟩
  rw [hdigest hused hused' hkey]
  exact hf

/-- Remembering changes no answer. -/
theorem Sound.memoized {w : World} (h : w.memo.Sound f used) (hdigest : Set.InjOn sourceDigest used)
    {source : String} (hused : source ∈ used) :
    ∃ memo, Parser.memoized (Parser.pure f) source w = (f source, { w with memo }) ∧
      memo.Sound f used := by
  unfold Parser.memoized
  cases hfound : w.memo.lookup (sourceDigest source) with
  | some found =>
    obtain ⟨tree, memo⟩ := found
    refine ⟨memo, ?_, (h.lookup hfound).2.1⟩
    simp only [hfound, h.eq_of_lookup hdigest hused hfound]
  | none =>
    refine ⟨w.memo.keep source (f source), ?_, (h.keep hused).1⟩
    simp only [hfound, Parser.pure]
    cases f source with
    | ok tree => rfl
    | error fault => rfl

end Sound
end Memo
end SymbolIndex
