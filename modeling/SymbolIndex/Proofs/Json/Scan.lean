import Mathlib.Logic.Basic
import SymbolIndex.Proofs.Json.Advance

/-!
# Brackets and string literals

The reading machine counts open arrays and objects by its frames. The same number can be read off
the text by a scan that knows nothing of documents but brackets and string literals. The two agree
after every byte of a document.

- `Json.Scan`, `Json.openedAfter` : the scan, and the number that it has counted after some bytes
- `Json.State.scan` : what a scan has seen when the machine is in a state
- `Json.State.Doomed` : a code unit holds something that is no digit, which the machine notices late
- `Json.State.scan_step` : one byte
- `Json.not_doomed_of_run` : the machine does notice
-/

namespace SymbolIndex
namespace Json

/-! ## The scan -/

/-- Where a byte of a text stands. -/
inductive Place where
  | outside
  | inside
  /-- Inside a string literal, right behind a backslash that escapes the byte. -/
  | escaped
  deriving DecidableEq

def Place.next (p : Place) (b : UInt8) : Place :=
  match p with
  | .outside => if b == ascii '"' then .inside else .outside
  | .inside => if b == ascii '"' then .outside else if b == ascii '\\' then .escaped else .inside
  | .escaped => .inside

def isOpening (b : UInt8) : Bool :=
  b == ascii '[' || b == ascii '\x7b'

def isClosing (b : UInt8) : Bool :=
  b == ascii ']' || b == ascii '\x7d'

/-- What has been seen of a text: the place that has been reached, and the number of arrays and
objects that are open there. -/
structure Scan where
  place : Place
  opened : Nat

/-- The scan of one more byte. Brackets inside string literals do not count. -/
def Scan.next (c : Scan) (b : UInt8) : Scan :=
  { place := c.place.next b
    opened :=
      if c.place = .outside then
        if isOpening b then c.opened + 1 else if isClosing b then c.opened - 1 else c.opened
      else c.opened }

/-- Inside a string literal nothing is counted. -/
theorem Scan.next_of_place_ne {p : Place} (hp : p ≠ .outside) (n : Nat) (b : UInt8) :
    Scan.next ⟨p, n⟩ b = ⟨p.next b, n⟩ := by
  simp [Scan.next, hp]

def openedAfter (seen : List UInt8) : Nat :=
  (seen.foldl Scan.next ⟨.outside, 0⟩).opened

/-- Whether a scan passes over a byte outside string literals. -/
def isInert (b : UInt8) : Bool :=
  !(b == ascii '"' || isOpening b || isClosing b)

theorem Scan.next_of_isInert {b : UInt8} (h : isInert b = true) (n : Nat) :
    Scan.next ⟨.outside, n⟩ b = ⟨.outside, n⟩ := by
  simp only [isInert, Bool.not_eq_true', Bool.or_eq_false_iff] at h
  obtain ⟨⟨hquote, hopening⟩, hclosing⟩ := h
  simp [Scan.next, Place.next, hquote, hopening, hclosing]

theorem isInert_of_beq {b c : UInt8} (hc : isInert c = true) (h : (b == c) = true) :
    isInert b = true := by
  obtain rfl : b = c := by simpa using h
  exact hc

theorem isInert_of_isSpace {b : UInt8} (h : isSpace b = true) : isInert b = true := by
  simp only [isSpace, Bool.or_eq_true] at h
  rcases h with ((h | h) | h) | h
  all_goals exact isInert_of_beq rfl h

/-- A scan passes over digits. -/
theorem isInert_of_digit? {b : UInt8} {d : Nat} (h : digit? b = some d) : isInert b = true := by
  have hother : ∀ c : Char, (ascii c).toNat < 0x30 ∨ 0x39 < (ascii c).toNat →
      (b == ascii c) = false := fun c => beq_eq_false_of_digit? h
  simp [isInert, isOpening, isClosing, hother '"' (by decide), hother '[' (by decide),
    hother '\x7b' (by decide), hother ']' (by decide), hother '\x7d' (by decide)]

/-! ## What the machine has counted -/

def StringState.place : StringState → Place
  | .plain _ | .unit _ _ _ | .pair _ _ => .inside
  | .escape _ | .pairEscape _ _ => .escaped

/-- The digits of a code unit include a byte that is none. This is noticed only after the fourth. -/
def StringState.Doomed : StringState → Prop
  | .unit _ _ digits => unitValue? digits = none
  | _ => False

namespace State

def opened : State → Nat
  | .value frames | .word _ _ frames | .text _ frames | .number _ frames => frames.length
  | .item _ _ frames | .afterItem _ frames | .member _ _ frames | .keyText _ _ frames
  | .colon _ _ frames | .afterMember _ frames => frames.length + 1
  | .done _ => 0

def place : State → Place
  | .keyText t _ _ | .text t _ => t.place
  | _ => .outside

/-- What a scan has seen when the machine is in the state. -/
def scan (s : State) : Scan :=
  ⟨s.place, s.opened⟩

/-- The rest of a word is not empty and holds nothing that a scan takes notice of. -/
def Proper : State → Prop
  | .word rest _ _ => rest ≠ [] ∧ ∀ b ∈ rest, isInert b = true
  | _ => True

/-- A text is read that can no longer be completed. -/
def Doomed : State → Prop
  | .keyText t _ _ | .text t _ => t.Doomed
  | _ => False

/-- A complete value leaves the scan outside string literals. -/
theorem scan_deliver (v : Json) (frames : List Frame) :
    (deliver v frames).scan = ⟨.outside, frames.length⟩ := by
  cases frames with
  | nil => rfl
  | cons f frames => cases f <;> rfl

theorem proper_deliver (v : Json) (frames : List Frame) : (deliver v frames).Proper := by
  cases frames with
  | nil => trivial
  | cons f frames => cases f <;> trivial

end State

/-! ## Text -/

namespace StringState

theorem place_ne_outside (t : StringState) : t.place ≠ .outside := by
  cases t <;> simp [place]

/-- Hexadecimal digits neither end a text nor escape what follows. -/
theorem next_of_unitValue? {b : UInt8} {older : List UInt8} (h : unitValue? (b :: older) ≠ none) :
    Place.next .inside b = .inside := by
  by_cases hquote : b = ascii '"'
  · subst hquote
    simp [unitValue?, ascii, Hex.digit?] at h
  · by_cases hslash : b = ascii '\\'
    · subst hslash
      simp [unitValue?, ascii, Hex.digit?] at h
    · simp [Place.next, hquote, hslash]

/-- A code unit is accepted only if all its digits are such. -/
theorem unitValue?_of_unitRead {bytes digits : List UInt8} {lead : Option Nat} {t : StringState}
    (h : unitRead bytes lead digits = .ok t) : unitValue? digits ≠ none ∧ t.place = .inside := by
  unfold unitRead at h
  split at h
  · cases h
  all_goals
    rename_i hvalue
    refine ⟨by simp [hvalue], ?_⟩
    repeat' split at h
    all_goals cases h
    all_goals rfl

theorem place_step_plain {bytes : List UInt8} {u : StringState} {b : UInt8}
    (h : (plain bytes).step b = .ok (.inl u)) : u.place = (plain bytes).place.next b := by
  simp only [step] at h
  split at h
  · split at h <;> cases h
  · rename_i hquote
    have hquote : (b == ascii '"') = false := eq_false_of_ne_true hquote
    split at h
    · rename_i hslash
      have hslash : (b == ascii '\\') = true := hslash
      cases h
      simp [place, Place.next, hquote, hslash]
    · rename_i hslash
      have hslash : (b == ascii '\\') = false := eq_false_of_ne_true hslash
      split at h
      · cases h
      · cases h
        simp [place, Place.next, hquote, hslash]

/-- A quotation mark among the digits of a code unit would end the scanned text, but then the unit
is doomed. -/
theorem place_step_unit {bytes digits : List UInt8} {lead : Option Nat} {u : StringState}
    {b : UInt8} (h : (unit bytes lead digits).step b = .ok (.inl u)) (hu : ¬ u.Doomed) :
    u.place = (unit bytes lead digits).place.next b := by
  simp only [step] at h
  split at h
  · cases h
    exact (next_of_unitValue? hu).symm
  · cases hread : unitRead bytes lead (b :: digits) with
    | error e =>
      rw [hread] at h
      cases h
    | ok r =>
      rw [hread] at h
      cases h
      obtain ⟨hvalue, hplace⟩ := unitValue?_of_unitRead hread
      rw [hplace]
      exact (next_of_unitValue? hvalue).symm

/-- A byte that stays inside a text leads to the place where the scan is, unless the text can no
longer be completed. -/
theorem place_step {t u : StringState} {b : UInt8} (h : t.step b = .ok (.inl u)) (hu : ¬ u.Doomed) :
    u.place = t.place.next b := by
  cases t with
  | plain bytes => exact place_step_plain h
  | escape bytes =>
    simp only [step] at h
    split at h
    · cases h
      rfl
    · split at h
      · cases h
        rfl
      · cases h
  | unit bytes lead digits => exact place_step_unit h hu
  | pair bytes lead =>
    simp only [step] at h
    split at h
    · rename_i hslash
      obtain rfl : b = 0x5C := by simpa using hslash
      cases h
      rfl
    · cases h
  | pairEscape bytes lead =>
    simp only [step] at h
    split at h
    · cases h
      rfl
    · cases h

/-- A text ends with a quotation mark that is not escaped. -/
theorem place_step_end {t : StringState} {b : UInt8} {body : String}
    (h : t.step b = .ok (.inr body)) :
    t.place.next b = .outside := by
  cases t with
  | plain bytes =>
    simp only [step] at h
    split at h
    · rename_i hquote
      obtain rfl : b = 0x22 := by simpa using hquote
      rfl
    · repeat' split at h
      all_goals cases h
  | escape bytes =>
    simp only [step] at h
    repeat' split at h
    all_goals cases h
  | unit bytes lead digits =>
    simp only [step] at h
    split at h
    · cases h
    · cases hread : unitRead bytes lead (b :: digits) with
      | error e =>
        rw [hread] at h
        cases h
      | ok r =>
        rw [hread] at h
        cases h
  | pair bytes lead =>
    simp only [step] at h
    split at h <;> cases h
  | pairEscape bytes lead =>
    simp only [step] at h
    split at h <;> cases h

/-- A bad digit stays among the digits. -/
theorem Doomed.step {t u : StringState} {b : UInt8} (ht : t.Doomed) (h : t.step b = .ok (.inl u)) :
    u.Doomed := by
  cases t with
  | unit bytes lead digits =>
    have hdigits : unitValue? digits = none := ht
    have hnone : unitValue? (b :: digits) = none := by simp [unitValue?, hdigits]
    simp only [StringState.step] at h
    split at h
    · cases h
      exact hnone
    · simp only [unitRead, hnone] at h
      cases h
  | _ => cases ht

/-- A text with a bad digit does not end. -/
theorem Doomed.step_ne_end {t : StringState} (ht : t.Doomed) (b : UInt8) (body : String) :
    t.step b ≠ .ok (.inr body) := by
  intro h
  cases t with
  | unit bytes lead digits =>
    simp only [StringState.step] at h
    split at h
    · cases h
    · cases hread : unitRead bytes lead (b :: digits) <;> rw [hread] at h <;> cases h
  | _ => cases ht

end StringState

/-! ## One byte -/

/-- A scan passes over everything that belongs to a number. -/
theorem NumberState.isInert_of_step {n m : NumberState} {b : UInt8} (h : n.step b = .more m) :
    isInert b = true := by
  -- a number goes on with a digit, a point, an exponent or its sign, and none of these is a bracket
  cases hdigit : digit? b with
  | some d => exact isInert_of_digit? hdigit
  | none =>
    have hafter : ∀ l allowed, afterDigits l b allowed = .more m → isInert b = true := by
      intro l allowed hmore
      unfold afterDigits at hmore
      split at hmore
      · rename_i hpoint
        rw [Bool.and_eq_true] at hpoint
        exact isInert_of_beq rfl hpoint.2
      · split at hmore
        · rename_i hmark
          rw [isMark, Bool.or_eq_true] at hmark
          rcases hmark with hmark | hmark
          all_goals exact isInert_of_beq rfl hmark
        · cases hmore
    cases n with
    | zero _ | whole _ _ | wholeFull _ | fraction _ | fractionFull _ =>
      simp only [step, hdigit] at h
      exact hafter _ _ h
    | mark l =>
      simp only [step, hdigit] at h
      split at h
      · rename_i hplus
        exact isInert_of_beq rfl hplus
      · split at h
        · rename_i hminus
          exact isInert_of_beq rfl hminus
        · cases h
    | _ =>
      simp only [step, hdigit] at h
      cases h

namespace State

/-- The first byte of a value. -/
theorem Starts.scan {limit : Option Nat} {b : UInt8} {frames : List Frame} {t : State}
    (h : Starts limit frames b t) :
    t.Proper ∧ t.scan = Scan.next ⟨.outside, frames.length⟩ b := by
  cases h with
  | text | list hroom | object hroom => exact ⟨trivial, rfl⟩
  | yes | no | null => exact ⟨⟨by decide, List.all_eq_true.1 (by decide)⟩, rfl⟩
  | minus => exact ⟨trivial, rfl⟩
  | zero hdigit | whole hdigit hd =>
    exact ⟨trivial, (Scan.next_of_isInert (isInert_of_digit? hdigit) _).symm⟩

theorem place_of_isPause {s : State} (hs : s.isPause = true) : s.place = .outside := by
  cases s with
  | keyText _ _ _ | text _ _ => cases hs
  | _ => rfl

/-- A byte of a text that can still be completed. -/
theorem scan_keyText {b : UInt8} {u v : StringState} {fields : List (String × Json)}
    {frames : List Frame} (h : u.step b = .ok (.inl v)) (hv : ¬ v.Doomed) :
    (keyText v fields frames).scan = (keyText u fields frames).scan.next b := by
  refine Eq.trans ?_ (Scan.next_of_place_ne u.place_ne_outside (frames.length + 1) b).symm
  rw [← StringState.place_step h hv]
  rfl

theorem scan_text {b : UInt8} {u v : StringState} {frames : List Frame}
    (h : u.step b = .ok (.inl v)) (hv : ¬ v.Doomed) :
    (text v frames).scan = (text u frames).scan.next b := by
  refine Eq.trans ?_ (Scan.next_of_place_ne u.place_ne_outside frames.length b).symm
  rw [← StringState.place_step h hv]
  rfl

/-- The quotation mark at the end of a text. -/
theorem next_of_textEnd {b : UInt8} {u : StringState} {body : String}
    (h : u.step b = .ok (.inr body)) (n : Nat) : Scan.next ⟨u.place, n⟩ b = ⟨.outside, n⟩ := by
  rw [Scan.next_of_place_ne u.place_ne_outside, StringState.place_step_end h]

/-- A byte that is no part of a number leads to the state in which the scan is, unless a text can no
longer be completed. -/
theorem scan_advance {limit : Option Nat} {b : UInt8} {s t : State} (hs : s.Proper)
    (hnumber : ∀ n frames, s ≠ .number n frames) (h : advance limit b s = .ok t) (ht : ¬ t.Doomed) :
    t.Proper ∧ t.scan = s.scan.next b := by
  cases advance_eq_ok_iff.1 h with
  | blank hb hpause =>
    refine ⟨hs, ?_⟩
    rw [scan, place_of_isPause hpause]
    exact (Scan.next_of_isInert (isInert_of_isSpace hb) s.opened).symm
  | value hstart => exact hstart.scan
  | item hstart => exact hstart.scan
  | noItem | listEnd | noMember | objectEnd => exact ⟨proper_deliver _ _, scan_deliver _ _⟩
  | nextItem | key | colon | nextMember => exact ⟨trivial, rfl⟩
  | keyText hstep => exact ⟨trivial, scan_keyText hstep ht⟩
  | keyEnd hstep => exact ⟨trivial, (next_of_textEnd hstep _).symm⟩
  | noLetter => exact absurd rfl hs.1
  | letter hrest =>
    obtain ⟨hb, hinert⟩ := List.forall_mem_cons.1 hs.2
    exact ⟨⟨hrest, hinert⟩, (Scan.next_of_isInert hb _).symm⟩
  | lastLetter =>
    have hb := hs.2 b List.mem_cons_self
    exact ⟨proper_deliver _ _, (scan_deliver _ _).trans (Scan.next_of_isInert hb _).symm⟩
  | text hstep => exact ⟨trivial, scan_text hstep ht⟩
  | textEnd hstep =>
    exact ⟨proper_deliver _ _, (scan_deliver _ _).trans (next_of_textEnd hstep _).symm⟩
  | number => exact absurd rfl (hnumber _ _)

theorem deliver_ne_number (v : Json) (frames : List Frame) (n : NumberState) (outer : List Frame) :
    deliver v frames ≠ .number n outer := by
  cases frames with
  | nil => exact State.noConfusion
  | cons f frames => cases f <;> exact State.noConfusion

/-- One byte, the one that ends a number included. -/
theorem scan_step {limit : Option Nat} {b : UInt8} {s t : State} (hs : s.Proper)
    (h : step limit b s = .ok t) (ht : ¬ t.Doomed) : t.Proper ∧ t.scan = s.scan.next b := by
  unfold step at h
  split at h
  · rename_i n frames
    split at h
    · rename_i m hmore
      cases h
      exact ⟨trivial, (Scan.next_of_isInert (NumberState.isInert_of_step hmore) frames.length).symm⟩
    · cases h
    · split at h
      · -- the byte is read as what follows the number
        rename_i v _
        have hread := scan_advance (proper_deliver (.num v) frames) (deliver_ne_number _ _) h ht
        rw [scan_deliver] at hread
        exact hread
      · cases h
  · rename_i hnumber
    exact scan_advance hs hnumber h ht

end State

/-! ## Runs -/

theorem run_cons_eq_ok_iff {limit : Option Nat} {s : State} {b : UInt8} {rest : List UInt8}
    {v : Json} :
    run limit s (b :: rest) = .ok v ↔ ∃ t, s.step limit b = .ok t ∧ run limit t rest = .ok v := by
  rw [run]
  cases s.step limit b with
  | error e => simp
  | ok t => simp

/-- A document cannot end inside a text that can no longer be completed. -/
theorem not_doomed_of_run {limit : Option Nat} {s : State} {bytes : List UInt8} {v : Json}
    (h : run limit s bytes = .ok v) : ¬ s.Doomed := by
  induction bytes generalizing s with
  | nil =>
    intro hs
    cases s with
    | keyText _ _ _ | text _ _ => cases h
    | _ => cases hs
  | cons b rest ih =>
    obtain ⟨t, hstep, hrun⟩ := run_cons_eq_ok_iff.1 h
    intro hs
    -- such a text stays what it is until the machine stops
    refine ih hrun ?_
    cases s with
    | keyText text fields frames =>
      have hadvance : State.advance limit b (.keyText text fields frames) = .ok t := hstep
      cases State.advance_eq_ok_iff.1 hadvance with
      | blank hb hpause => cases hpause
      | keyText htext => exact StringState.Doomed.step hs htext
      | keyEnd htext => exact absurd htext (StringState.Doomed.step_ne_end hs b _)
    | text text frames =>
      have hadvance : State.advance limit b (.text text frames) = .ok t := hstep
      cases State.advance_eq_ok_iff.1 hadvance with
      | blank hb hpause => cases hpause
      | text htext => exact StringState.Doomed.step hs htext
      | textEnd htext => exact absurd htext (StringState.Doomed.step_ne_end hs b _)
    | _ => cases hs

end Json
end SymbolIndex
