import Mathlib.Data.List.TakeWhile
import SymbolIndex.Text.Blank

/-!
# Text between white space

- `Text.AllBlank` : nothing but white space
- `Text.exists_trimChars`, `Text.trimChars_of_padded` : trimmed text, and text with white space
  around it
- `Text.SplitInto` : the words of a text, one after another
- `Text.words_eq_iff` : these are the words that splitting gives
- `Text.words_eq_nil_iff` : only blank text has none
-/

namespace SymbolIndex
namespace Text

def AllBlank (cs : List Char) : Prop :=
  ∀ c ∈ cs, isBlank c = true

instance : DecidablePred AllBlank := fun cs =>
  inferInstanceAs (Decidable (∀ c ∈ cs, isBlank c = true))

/-! ## Trimming -/

theorem allBlank_takeWhile (cs : List Char) : AllBlank (cs.takeWhile isBlank) := by
  intro c hc
  exact List.mem_takeWhile_imp hc

/-- Trimming takes away nothing but white space at both ends. -/
theorem exists_trimChars (cs : List Char) :
    ∃ left right, AllBlank left ∧ AllBlank right ∧ cs = left ++ trimChars cs ++ right := by
  let behind := cs.dropWhile isBlank
  have hfront : cs = cs.takeWhile isBlank ++ behind := (List.takeWhile_append_dropWhile).symm
  have hback : behind = trimChars cs ++ (behind.reverse.takeWhile isBlank).reverse := by
    have hsplit : behind.reverse.takeWhile isBlank ++ behind.reverse.dropWhile isBlank =
        behind.reverse :=
      List.takeWhile_append_dropWhile
    have hreverse := congrArg List.reverse hsplit
    rw [List.reverse_append, List.reverse_reverse] at hreverse
    exact hreverse.symm
  refine ⟨cs.takeWhile isBlank, (behind.reverse.takeWhile isBlank).reverse,
    allBlank_takeWhile cs, ?_, ?_⟩
  · intro c hc
    exact allBlank_takeWhile _ c (List.mem_reverse.1 hc)
  · rw [List.append_assoc, ← hback]
    exact hfront

theorem dropWhile_of_allBlank {left rest : List Char} (hleft : AllBlank left)
    (hrest : ∀ c ∈ rest.head?, isBlank c = false) : (left ++ rest).dropWhile isBlank = rest := by
  rw [List.dropWhile_append_of_pos hleft]
  cases rest with
  | nil => rfl
  | cons c rest => exact List.dropWhile_cons_of_neg (by simp [hrest c rfl])

/-- Text without white space is what is left when white space around it is trimmed. -/
theorem trimChars_of_padded {left core right : List Char} (hleft : AllBlank left)
    (hright : AllBlank right) (hcore : core ≠ []) (hsolid : ∀ c ∈ core, isBlank c = false) :
    trimChars (left ++ core ++ right) = core := by
  have hhead : ∀ c ∈ (core ++ right).head?, isBlank c = false := by
    intro c hc
    cases core with
    | nil => exact absurd rfl hcore
    | cons d core =>
      obtain rfl : d = c := by simpa using hc
      exact hsolid d List.mem_cons_self
  have hlast : ∀ c ∈ core.reverse.head?, isBlank c = false := by
    intro c hc
    exact hsolid c (List.mem_reverse.1 (List.mem_of_mem_head? hc))
  have hright' : AllBlank right.reverse := by
    intro c hc
    exact hright c (List.mem_reverse.1 hc)
  rw [trimChars, List.append_assoc, dropWhile_of_allBlank hleft hhead, List.reverse_append,
    dropWhile_of_allBlank hright' hlast, List.reverse_reverse]

/-! ## Words -/

/-- The words of a text: pieces without white space that are as long as possible. -/
inductive SplitInto : List Char → List (List Char) → Prop where
  | done : SplitInto [] []
  | blank {c : Char} {cs : List Char} {ws : List (List Char)} (hc : isBlank c = true)
      (rest : SplitInto cs ws) : SplitInto (c :: cs) ws
  | word {w cs : List Char} {ws : List (List Char)} (hw : w ≠ [])
      (hsolid : ∀ c ∈ w, isBlank c = false)
      (hend : ∀ c ∈ cs.head?, isBlank c = true) (rest : SplitInto cs ws) :
        SplitInto (w ++ cs) (w :: ws)

/-- Every text has words. -/
theorem exists_splitInto (cs : List Char) : ∃ ws, SplitInto cs ws := by
  induction hn : cs.length using Nat.strong_induction_on generalizing cs with
  | _ n ih =>
    cases cs with
    | nil => exact ⟨[], .done⟩
    | cons c cs =>
      subst hn
      by_cases hc : isBlank c = true
      · obtain ⟨ws, hws⟩ := ih cs.length (Nat.lt_succ_self _) cs rfl
        exact ⟨ws, .blank hc hws⟩
      · -- the word goes up to the next white space
        let p : Char → Bool := fun d => !isBlank d
        have hp : p c = true := by simpa [p] using hc
        have hshort : ((c :: cs).dropWhile p).length < (c :: cs).length := by
          rw [List.dropWhile_cons_of_pos hp]
          exact Nat.lt_succ_of_le (List.length_dropWhile_le p cs)
        obtain ⟨ws, hws⟩ := ih _ hshort _ rfl
        refine ⟨(c :: cs).takeWhile p :: ws, ?_⟩
        have hword : SplitInto ((c :: cs).takeWhile p ++ (c :: cs).dropWhile p)
            ((c :: cs).takeWhile p :: ws) := by
          refine .word ?_ ?_ ?_ hws
          · rw [List.takeWhile_cons_of_pos hp]
            exact List.cons_ne_nil _ _
          · intro d hd
            have hd := List.mem_takeWhile_imp hd
            simpa [p] using hd
          · intro d hd
            have hstop := List.head?_dropWhile_not p (c :: cs)
            rw [Option.mem_def.1 hd] at hstop
            simpa [p] using hstop
        rw [List.takeWhile_append_dropWhile] at hword
        exact hword

/-- The pieces between white space are the words and perhaps empty pieces. -/
theorem SplitInto.eq_filter {cs : List Char} {ws : List (List Char)} (h : SplitInto cs ws) :
    (cs.splitOnP isBlank).filter (fun w => !w.isEmpty) = ws := by
  induction h with
  | done => rfl
  | @blank c cs ws hc _ ih =>
    rw [List.splitOnP_cons_eq_if_modifyHead, if_pos hc]
    exact ih
  | @word w cs ws hw hsolid hend _ ih =>
    have hkept : (!w.isEmpty) = true := by simpa using hw
    cases cs with
    | nil =>
      have hnone : ws = [] := by
        rw [← ih]
        rfl
      rw [List.append_nil, List.splitOnP_eq_singleton hsolid, hnone, List.filter_cons, if_pos hkept]
      rfl
    | cons c cs =>
      have hc : isBlank c = true := hend c rfl
      rw [List.splitOnP_cons_eq_if_modifyHead, if_pos hc] at ih
      rw [List.splitOnP_append_cons_of_forall_mem hsolid c hc, List.filter_cons, if_pos hkept]
      exact congrArg (w :: ·) ih

/-- Splitting gives the words of a text. -/
theorem words_eq_iff {s : String} {ws : List String} :
    words s = ws ↔ SplitInto s.toList (ws.map String.toList) := by
  have hback : ∀ ws : List (List Char), (ws.map String.ofList).map String.toList = ws := by
    intro ws
    simp [Function.comp_def]
  constructor
  · rintro rfl
    obtain ⟨ws, hws⟩ := exists_splitInto s.toList
    rw [words, hws.eq_filter, hback]
    exact hws
  · intro h
    rw [words, h.eq_filter]
    simp [Function.comp_def]

/-- A text without words is blank. -/
theorem splitInto_nil_iff {cs : List Char} : SplitInto cs [] ↔ AllBlank cs := by
  constructor
  · intro h
    generalize hws : ([] : List (List Char)) = ws at h
    induction h with
    | done =>
      intro c hc
      cases hc
    | @blank d cs ws hd _ ih =>
      intro c hc
      rcases List.mem_cons.1 hc with rfl | hc
      · exact hd
      · exact ih hws c hc
    | word _ _ _ _ _ => cases hws
  · intro h
    induction cs with
    | nil => exact .done
    | cons d cs ih =>
      refine .blank (h d List.mem_cons_self) (ih ?_)
      intro c hc
      exact h c (List.mem_cons_of_mem d hc)

/-- Only blank text has no words. -/
theorem words_eq_nil_iff {s : String} : words s = [] ↔ AllBlank s.toList :=
  words_eq_iff.trans splitInto_nil_iff

end Text
end SymbolIndex
