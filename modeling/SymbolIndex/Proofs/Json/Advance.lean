import Mathlib.Tactic.SplitIfs
import SymbolIndex.Json.Reader

/-!
# What one byte does

The steps of the reading machine that do not fail, as a relation between states. What is kept by
every step is shown for each of its rules.

- `Json.State.Starts` : the first byte of a value
- `Json.State.Advances` : a byte in a state in which no number is being read
- `Json.State.start_eq_ok_iff`, `Json.State.advance_eq_ok_iff` : the machine follows these rules
-/

namespace SymbolIndex
namespace Json

theorem beq_eq_false_of_digit? {b c : UInt8} {d : Nat} (h : digit? b = some d)
    (hc : c.toNat < 0x30 ∨ 0x39 < c.toNat) : (b == c) = false := by
  have hrange : 0x30 ≤ b.toNat ∧ b.toNat ≤ 0x39 := by
    unfold digit? at h
    split at h
    · rename_i hb
      simpa [UInt8.le_iff_toNat_le] using hb
    · cases h
  rw [beq_eq_false_iff_ne]
  rintro rfl
  omega

namespace State

variable {limit : Option Nat} {b : UInt8} {frames : List Frame} {items : List Json}
  {fields : List (String × Json)} {key : String} {s t : State}

/-! ## The first byte of a value -/

/-- The first byte of a value, and the state that it leads to. -/
inductive Starts (limit : Option Nat) (frames : List Frame) : UInt8 → State → Prop where
  | text : Starts limit frames (ascii '"') (.text (.plain []) frames)
  | list (hroom : mayOpen limit frames = true) :
      Starts limit frames (ascii '[') (.item true [] frames)
  | object (hroom : mayOpen limit frames = true) :
      Starts limit frames (ascii '\x7b') (.member true [] frames)
  | yes : Starts limit frames (ascii 't') (.word ("rue".toList.map ascii) (.bool true) frames)
  | no : Starts limit frames (ascii 'f') (.word ("alse".toList.map ascii) (.bool false) frames)
  | null : Starts limit frames (ascii 'n') (.word ("ull".toList.map ascii) .null frames)
  | minus : Starts limit frames (ascii '-') (.number .sign frames)
  | zero {b : UInt8} (hdigit : digit? b = some 0) :
      Starts limit frames b (.number (.zero false) frames)
  | whole {b : UInt8} {d : Nat} (hdigit : digit? b = some d) (hd : d ≠ 0) :
      Starts limit frames b (.number (.whole false d) frames)

theorem starts_of_start (h : start limit b frames = .ok t) : Starts limit frames b t := by
  unfold start at h
  split_ifs at h with hquote hlist hroom hobject hroom ht hf hn hminus
  · obtain rfl := eq_of_beq hquote
    cases h
    exact .text
  · obtain rfl := eq_of_beq hlist
    cases h
    exact .list hroom
  · obtain rfl := eq_of_beq hobject
    cases h
    exact .object hroom
  · obtain rfl := eq_of_beq ht
    cases h
    exact .yes
  · obtain rfl := eq_of_beq hf
    cases h
    exact .no
  · obtain rfl := eq_of_beq hn
    cases h
    exact .null
  · obtain rfl := eq_of_beq hminus
    cases h
    exact .minus
  · split at h
    · rename_i hdigit
      cases h
      exact .zero hdigit
    · rename_i hd hdigit
      cases h
      exact .whole hdigit fun hzero => hd (hzero ▸ rfl)
    · cases h

theorem start_of_digit {d : Nat} (h : digit? b = some d) : start limit b frames =
    .ok (.number (if d = 0 then .zero false else .whole false d) frames) := by
  have hother : ∀ c : Char, (ascii c).toNat < 0x30 ∨ 0x39 < (ascii c).toNat →
      (b == ascii c) = false := fun c => beq_eq_false_of_digit? h
  simp only [start, hother '"' (by decide), hother '[' (by decide), hother '\x7b' (by decide),
    hother 't' (by decide), hother 'f' (by decide), hother 'n' (by decide), hother '-' (by decide),
    Bool.false_eq_true, if_false, h]
  cases d with
  | zero => rfl
  | succ d => rfl

/-- The first byte of a value leads where the rules say, and nowhere else. -/
theorem start_eq_ok_iff : start limit b frames = .ok t ↔ Starts limit frames b t := by
  refine ⟨starts_of_start, ?_⟩
  intro h
  cases h with
  | list hroom | object hroom =>
    unfold start
    rw [hroom]
    rfl
  | zero hdigit => exact start_of_digit hdigit
  | whole hdigit hd => rw [start_of_digit hdigit, if_neg hd]
  | _ => rfl

theorem Starts.isSpace_eq_false (h : Starts limit frames b t) : isSpace b = false := by
  cases h with
  | zero hdigit | whole hdigit hd =>
    have hother : ∀ c : UInt8, c.toNat < 0x30 ∨ 0x39 < c.toNat → (b == c) = false :=
      fun c => beq_eq_false_of_digit? hdigit
    simp [isSpace, hother 0x20 (by decide), hother 0x0A (by decide), hother 0x09 (by decide),
      hother 0x0D (by decide)]
  | _ => decide

theorem Starts.beq_listEnd (h : Starts limit frames b t) : (b == ascii ']') = false := by
  cases h with
  | zero hdigit | whole hdigit hd => exact beq_eq_false_of_digit? hdigit (by decide)
  | _ => decide

/-! ## Bytes between values -/

/-- Blanks may stand here. -/
def isPause : State → Bool
  | .keyText _ _ _ | .word _ _ _ | .text _ _ | .number _ _ => false
  | _ => true

theorem advance_of_isSpace (hb : isSpace b = true) (hs : s.isPause = true) :
    advance limit b s = .ok s := by
  cases s with
  | keyText _ _ _ | word _ _ _ | text _ _ | number _ _ => cases hs
  | _ => simp [advance, hb]

/-- A byte in a state in which no number is being read, and the state that it leads to. -/
inductive Advances (limit : Option Nat) : UInt8 → State → State → Prop where
  | blank {b : UInt8} {s : State} (hb : isSpace b = true) (hs : s.isPause = true) :
      Advances limit b s s
  | value {b : UInt8} {frames : List Frame} {t : State} (h : Starts limit frames b t) :
      Advances limit b (.value frames) t
  | item {b : UInt8} {fresh : Bool} {items : List Json} {frames : List Frame} {t : State}
      (h : Starts limit (.item items :: frames) b t) : Advances limit b (.item fresh items frames) t
  | noItem {items : List Json} {frames : List Frame} :
      Advances limit (ascii ']') (.item true items frames) (deliver (.arr items.reverse) frames)
  | nextItem {items : List Json} {frames : List Frame} :
      Advances limit (ascii ',') (.afterItem items frames) (.item false items frames)
  | listEnd {items : List Json} {frames : List Frame} :
      Advances limit (ascii ']') (.afterItem items frames) (deliver (.arr items.reverse) frames)
  | key {fresh : Bool} {fields : List (String × Json)} {frames : List Frame} :
      Advances limit (ascii '"') (.member fresh fields frames) (.keyText (.plain []) fields frames)
  | noMember {fields : List (String × Json)} {frames : List Frame} :
      Advances limit (ascii '\x7d') (.member true fields frames) (deliver (.obj fields) frames)
  | keyText {b : UInt8} {u v : StringState} {fields : List (String × Json)} {frames : List Frame}
      (h : u.step b = .ok (.inl v)) :
      Advances limit b (.keyText u fields frames) (.keyText v fields frames)
  | keyEnd {b : UInt8} {u : StringState} {key : String} {fields : List (String × Json)}
      {frames : List Frame} (h : u.step b = .ok (.inr key)) :
      Advances limit b (.keyText u fields frames) (.colon key fields frames)
  | colon {key : String} {fields : List (String × Json)} {frames : List Frame} :
      Advances limit (ascii ':') (.colon key fields frames) (.value (.member fields key :: frames))
  | nextMember {fields : List (String × Json)} {frames : List Frame} :
      Advances limit (ascii ',') (.afterMember fields frames) (.member false fields frames)
  | objectEnd {fields : List (String × Json)} {frames : List Frame} :
      Advances limit (ascii '\x7d') (.afterMember fields frames) (deliver (.obj fields) frames)
  | noLetter {b : UInt8} {meaning : Json} {frames : List Frame} :
      Advances limit b (.word [] meaning frames) (deliver meaning frames)
  | letter {b : UInt8} {rest : List UInt8} {meaning : Json} {frames : List Frame} (h : rest ≠ []) :
      Advances limit b (.word (b :: rest) meaning frames) (.word rest meaning frames)
  | lastLetter {b : UInt8} {meaning : Json} {frames : List Frame} :
      Advances limit b (.word [b] meaning frames) (deliver meaning frames)
  | text {b : UInt8} {u v : StringState} {frames : List Frame} (h : u.step b = .ok (.inl v)) :
      Advances limit b (.text u frames) (.text v frames)
  | textEnd {b : UInt8} {u : StringState} {body : String} {frames : List Frame}
      (h : u.step b = .ok (.inr body)) :
        Advances limit b (.text u frames) (deliver (.str body) frames)
  | number {b : UInt8} {n : NumberState} {frames : List Frame} :
      Advances limit b (.number n frames) (.number n frames)

/-! ## State by state -/

theorem advances_value (h : advance limit b (.value frames) = .ok t) :
    Advances limit b (.value frames) t := by
  simp only [advance] at h
  split_ifs at h with hspace
  · cases h
    exact .blank hspace rfl
  · exact .value (starts_of_start h)

theorem advances_item {fresh : Bool} (h : advance limit b (.item fresh items frames) = .ok t) :
    Advances limit b (.item fresh items frames) t := by
  simp only [advance] at h
  split_ifs at h with hspace hend hfresh
  · cases h
    exact .blank hspace rfl
  · obtain rfl := eq_of_beq hend
    cases h
    cases hfresh
    exact .noItem
  · exact .item (starts_of_start h)

theorem advances_afterItem (h : advance limit b (.afterItem items frames) = .ok t) :
    Advances limit b (.afterItem items frames) t := by
  simp only [advance] at h
  split_ifs at h with hspace hcomma hend
  · cases h
    exact .blank hspace rfl
  · obtain rfl := eq_of_beq hcomma
    cases h
    exact .nextItem
  · obtain rfl := eq_of_beq hend
    cases h
    exact .listEnd

theorem advances_member {fresh : Bool} (h : advance limit b (.member fresh fields frames) = .ok t) :
    Advances limit b (.member fresh fields frames) t := by
  simp only [advance] at h
  split_ifs at h with hspace hquote hend hfresh
  · cases h
    exact .blank hspace rfl
  · obtain rfl := eq_of_beq hquote
    cases h
    exact .key
  · obtain rfl := eq_of_beq hend
    cases h
    cases hfresh
    exact .noMember

theorem advances_keyText {u : StringState}
    (h : advance limit b (.keyText u fields frames) = .ok t) :
    Advances limit b (.keyText u fields frames) t := by
  simp only [advance] at h
  rcases hstep : u.step b with e | (v | key) <;> rw [hstep] at h <;> cases h
  · exact .keyText hstep
  · exact .keyEnd hstep

theorem advances_colon (h : advance limit b (.colon key fields frames) = .ok t) :
    Advances limit b (.colon key fields frames) t := by
  simp only [advance] at h
  split_ifs at h with hspace hcolon
  · cases h
    exact .blank hspace rfl
  · obtain rfl := eq_of_beq hcolon
    cases h
    exact .colon

theorem advances_afterMember (h : advance limit b (.afterMember fields frames) = .ok t) :
    Advances limit b (.afterMember fields frames) t := by
  simp only [advance] at h
  split_ifs at h with hspace hcomma hend
  · cases h
    exact .blank hspace rfl
  · obtain rfl := eq_of_beq hcomma
    cases h
    exact .nextMember
  · obtain rfl := eq_of_beq hend
    cases h
    exact .objectEnd

theorem advances_word {rest : List UInt8} {meaning : Json}
    (h : advance limit b (.word rest meaning frames) = .ok t) :
    Advances limit b (.word rest meaning frames) t := by
  cases rest with
  | nil =>
    cases h
    exact .noLetter
  | cons c rest =>
    simp only [advance] at h
    split_ifs at h with hletter hlast
    · obtain rfl := eq_of_beq hletter
      cases h
      cases List.isEmpty_iff.1 hlast
      exact .lastLetter
    · obtain rfl := eq_of_beq hletter
      cases h
      exact .letter (by simpa using hlast)

theorem advances_text {u : StringState} (h : advance limit b (.text u frames) = .ok t) :
    Advances limit b (.text u frames) t := by
  simp only [advance] at h
  rcases hstep : u.step b with e | (v | body) <;> rw [hstep] at h <;> cases h
  · exact .text hstep
  · exact .textEnd hstep

theorem advances_of_advance (h : advance limit b s = .ok t) : Advances limit b s t := by
  cases s with
  | value frames => exact advances_value h
  | item fresh items frames => exact advances_item h
  | afterItem items frames => exact advances_afterItem h
  | member fresh fields frames => exact advances_member h
  | keyText u fields frames => exact advances_keyText h
  | colon key fields frames => exact advances_colon h
  | afterMember fields frames => exact advances_afterMember h
  | word rest meaning frames => exact advances_word h
  | text u frames => exact advances_text h
  | number n frames =>
    cases h
    exact .number
  | done v =>
    simp only [advance] at h
    split_ifs at h with hspace
    cases h
    exact .blank hspace rfl

/-- A byte leads where the rules say, and nowhere else. -/
theorem advance_eq_ok_iff : advance limit b s = .ok t ↔ Advances limit b s t := by
  refine ⟨advances_of_advance, ?_⟩
  intro h
  cases h with
  | blank hb hs => exact advance_of_isSpace hb hs
  | value hstart => simp [advance, hstart.isSpace_eq_false, start_eq_ok_iff.2 hstart]
  | item hstart =>
    simp [advance, hstart.isSpace_eq_false, hstart.beq_listEnd, start_eq_ok_iff.2 hstart]
  | keyText hstep | keyEnd hstep | text hstep | textEnd hstep => simp [advance, hstep, Except.map]
  | letter hrest => simp [advance, hrest]
  | lastLetter => simp [advance]
  | _ => rfl

end State
end Json
end SymbolIndex
