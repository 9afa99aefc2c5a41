import Mathlib.Tactic.IntervalCases
import SymbolIndex.Json.Printer
import SymbolIndex.Json.Reader
import SymbolIndex.Proofs.Text.Utf8

/-!
# Documents survive their text

Reading what has been written gives the document back, in whatever layout, with the fields of
objects in the order of their keys. Numbers have to be integers that are kept exactly.

- `Json.Integral` : all numbers are such integers
- `Json.arranged` : the fields of every object sorted by key, of equal keys the last one
- `Json.depth` : how many arrays and objects are nested
- `Json.State.Expects` : the states in which a value may start
- `Json.run_writeString`, `Json.run_integer` : how the reading machine gets through a text and a
  number
- `Json.run_write` : how it gets through a value
- `Json.readText_render` : reading what has been written
- `Json.newline_not_mem_write` : what is written on one line stays on it
-/

namespace SymbolIndex

/-- An integer that a document keeps exactly. -/
def Number.IsExact : Number → Prop
  | .int i => -(minIntSize : Int) ≤ i ∧ i ≤ (maxInt : Int)
  | .real _ => False

namespace Json

open Utf8 (bytes)

/-! ## Documents -/

mutual

/-- Every number in the value is an integer that is kept exactly. -/
def Integral : Json → Prop
  | .num n => n.IsExact
  | .arr items => IntegralItems items
  | .obj fields => IntegralFields fields
  | _ => True

def IntegralItems : List Json → Prop
  | [] => True
  | x :: xs => x.Integral ∧ IntegralItems xs

def IntegralFields : List (String × Json) → Prop
  | [] => True
  | (_, x) :: rest => x.Integral ∧ IntegralFields rest

end

theorem integralItems_iff {items : List Json} : IntegralItems items ↔ ∀ x ∈ items, x.Integral := by
  induction items with
  | nil => simp [IntegralItems]
  | cons x xs ih => simp [IntegralItems, ih]

theorem integralFields_iff {fields : List (String × Json)} :
    IntegralFields fields ↔ ∀ e ∈ fields, e.2.Integral := by
  induction fields with
  | nil => simp [IntegralFields]
  | cons e rest ih => simp [IntegralFields, ih]

theorem integralFields_append {fields rest : List (String × Json)} :
    IntegralFields (fields ++ rest) ↔ IntegralFields fields ∧ IntegralFields rest := by
  simp only [integralFields_iff, List.mem_append, or_imp, forall_and]

mutual

/-- The value with the fields of every object sorted by key. Of several fields with the same key the
last one counts. -/
def arranged : Json → Json
  | .arr items => .arr (arrangedItems items)
  | .obj fields => .obj (arrangedFields fields [])
  | v => v

def arrangedItems : List Json → List Json
  | [] => []
  | x :: xs => x.arranged :: arrangedItems xs

/-- The fields of an object, each arranged and bound among those that have been bound before. -/
def arrangedFields : List (String × Json) → List (String × Json) → List (String × Json)
  | [], bound => bound
  | (k, x) :: rest, bound => arrangedFields rest (Assoc.insert k x.arranged bound)

end

mutual

/-- How many arrays and objects are open at once inside the value. -/
def depth : Json → Nat
  | .arr items => depthItems items + 1
  | .obj fields => depthFields fields + 1
  | _ => 0

def depthItems : List Json → Nat
  | [] => 0
  | x :: xs => max x.depth (depthItems xs)

def depthFields : List (String × Json) → Nat
  | [] => 0
  | (_, x) :: rest => max x.depth (depthFields rest)

end

/-! ## Characters -/

theorem run_cons {limit : Option Nat} {s t : State} {c : Char} (hc : c.toNat < 128)
    (hstep : s.step limit (ascii c) = .ok t) (rest : List Char) :
    run limit s (bytes (c :: rest)) = run limit t (bytes rest) := by
  have hbyte : UInt8.ofNat c.toNat = ascii c := rfl
  rw [Utf8.bytes_cons, Utf8.encodeChar_of_lt hc, hbyte, List.cons_append, List.nil_append,
    run, hstep]

namespace State

/-- A value may start here. It goes to the frames. -/
inductive Expects : State → List Frame → Prop where
  | value (frames : List Frame) : Expects (.value frames) frames
  | item (fresh : Bool) (items : List Json) (frames : List Frame) :
      Expects (.item fresh items frames) (.item items :: frames)

/-- Where a value may start, its first byte is read as such. -/
theorem Expects.step {s : State} {frames : List Frame} (h : s.Expects frames) (limit : Option Nat)
    {b : UInt8} (hspace : isSpace b = false) (hend : (b == ascii ']') = false) :
    s.step limit b = start limit b frames := by
  cases h with
  | value => simp [State.step, advance, hspace]
  | item => simp [State.step, advance, hspace, hend]

/-- Blanks are passed over. -/
def Idle (s : State) : Prop :=
  ∀ limit b, isSpace b = true → s.step limit b = .ok s

theorem Expects.idle {s : State} {frames : List Frame} (h : s.Expects frames) : s.Idle := by
  intro limit b hspace
  cases h with
  | value => simp [State.step, advance, hspace]
  | item => simp [State.step, advance, hspace]

theorem idle_afterItem (items : List Json) (frames : List Frame) :
    (afterItem items frames).Idle := by
  intro limit b hspace
  simp [step, advance, hspace]

theorem idle_member (fresh : Bool) (fields : List (String × Json)) (frames : List Frame) :
    (member fresh fields frames).Idle := by
  intro limit b hspace
  simp [step, advance, hspace]

theorem idle_afterMember (fields : List (String × Json)) (frames : List Frame) :
    (afterMember fields frames).Idle := by
  intro limit b hspace
  simp [step, advance, hspace]

/-- After a value the machine is inside no number. -/
theorem step_deliver (limit : Option Nat) (b : UInt8) (v : Json) (frames : List Frame) :
    (deliver v frames).step limit b = advance limit b (deliver v frames) := by
  cases frames with
  | nil => rfl
  | cons f frames => cases f <;> rfl

theorem finish_deliver (v : Json) (frames : List Frame) :
    (deliver v frames).finish = (deliver v frames).close := by
  cases frames with
  | nil => rfl
  | cons f frames => cases f <;> rfl

end State

/-- Line breaks and indentation are passed over. -/
theorem run_lineBreak {s : State} (hs : s.Idle) (limit : Option Nat) (layout : Layout) (level : Nat)
    (rest : List Char) :
    run limit s (bytes (layout.lineBreak level rest)) = run limit s (bytes rest) := by
  have hspaces : ∀ n, run limit s (bytes (List.replicate n ' ' ++ rest)) =
      run limit s (bytes rest) := by
    intro n
    induction n with
    | zero => rfl
    | succ n ih =>
      rw [List.replicate_succ, List.cons_append,
        run_cons (by decide) (hs limit (ascii ' ') rfl), ih]
  cases layout with
  | oneLine => rfl
  | indented width =>
    rw [Layout.lineBreak, run_cons (by decide) (hs limit (ascii '\n') rfl), hspaces]

/-! ## Text -/

/-- The bytes that a state inside a text takes up without leaving the text. -/
def StringState.feed : StringState → List UInt8 → Option StringState
  | t, [] => some t
  | t, b :: rest =>
    match t.step b with
    | .ok (.inl t) => feed t rest
    | _ => none

/-- A family of states of the machine that reads a text, and the states after it. -/
def Hosts (limit : Option Nat) (inside : StringState → State) (after : String → State) : Prop :=
  ∀ t b, (inside t).step limit b = (t.step b).map (Sum.elim inside after)

theorem hosts_text (limit : Option Nat) (frames : List Frame) :
    Hosts limit (.text · frames) fun s => .deliver (.str s) frames := by
  intro t b
  show (t.step b).map _ = _
  rcases t.step b with e | (t | s) <;> rfl

theorem hosts_keyText (limit : Option Nat) (fields : List (String × Json)) (frames : List Frame) :
    Hosts limit (.keyText · fields frames) fun s => .colon s fields frames := by
  intro t b
  show (t.step b).map _ = _
  rcases t.step b with e | (t | s) <;> rfl

/-- Bytes without a meaning of their own are taken up as they are. -/
theorem feed_plain {bs : List UInt8} (h : ∀ b ∈ bs, b ≠ 0x22 ∧ b ≠ 0x5C ∧ 0x20 ≤ b)
    (acc : List UInt8) : (StringState.plain acc).feed bs = some (.plain (bs.reverse ++ acc)) := by
  induction bs generalizing acc with
  | nil => rfl
  | cons b bs ih =>
    obtain ⟨hquote, hslash, hcontrol⟩ := h b List.mem_cons_self
    have hnot : ¬ b < 0x20 := by
      rw [UInt8.not_lt]
      exact hcontrol
    have hstep : (StringState.plain acc).step b = .ok (.inl (.plain (b :: acc))) := by
      simp [StringState.step, hquote, hslash, hnot]
    rw [StringState.feed, hstep]
    simp only
    rw [ih fun b' hb' => h b' (List.mem_cons_of_mem b hb')]
    simp

/-- A control character is written by the digits of its code. -/
theorem feed_control {n : Nat} (hn : n < 32) (acc : List UInt8) :
    (StringState.plain acc).feed
        (bytes ['\\', 'u', '0', '0', Hex.digit (n / 16), Hex.digit (n % 16)]) =
      some (.plain (StringState.push acc n)) := by
  have hdigits : ∀ n < 32, (Hex.digit (n / 16)).toNat < 128 ∧ (Hex.digit (n % 16)).toNat < 128 ∧
      StringState.unitValue? [ascii (Hex.digit (n % 16)), ascii (Hex.digit (n / 16)), 0x30, 0x30] =
        some n := by decide
  obtain ⟨hhigh, hlow, hvalue⟩ := hdigits n hn
  have hbytes : bytes ['\\', 'u', '0', '0', Hex.digit (n / 16), Hex.digit (n % 16)] =
      [0x5C, 0x75, 0x30, 0x30, ascii (Hex.digit (n / 16)), ascii (Hex.digit (n % 16))] := by
    simp only [Utf8.bytes_cons, Utf8.encodeChar_of_lt hhigh, Utf8.encodeChar_of_lt hlow]
    rfl
  have hlast : (StringState.unit acc none [ascii (Hex.digit (n / 16)), 0x30, 0x30]).step
      (ascii (Hex.digit (n % 16))) = .ok (.inl (.plain (StringState.push acc n))) := by
    have htrail : ¬ 0xDC00 ≤ n := by omega
    have hlead : ¬ 0xD800 ≤ n := by omega
    simp [StringState.step, StringState.unitRead, hvalue, htrail, hlead, Except.map]
  rw [hbytes]
  show StringState.feed (.unit acc none [ascii (Hex.digit (n / 16)), 0x30, 0x30])
    [ascii (Hex.digit (n % 16))] = _
  rw [StringState.feed, hlast]
  rfl

/-- A character that needs no escape has only bytes that stand for themselves. -/
theorem stands_of_mem_encodeChar {c : Char} (hquote : c ≠ '"') (hslash : c ≠ '\\')
    (hcontrol : ¬ c.toNat < 32) {b : UInt8} (hb : b ∈ String.utf8EncodeChar c) :
    b ≠ 0x22 ∧ b ≠ 0x5C ∧ 0x20 ≤ b := by
  by_cases hascii : c.toNat < 128
  · rw [Utf8.encodeChar_of_lt hascii, List.mem_singleton] at hb
    subst hb
    have hvalue : (UInt8.ofNat c.toNat).toNat = c.toNat := by
      rw [UInt8.toNat_ofNat']
      omega
    refine ⟨?_, ?_, ?_⟩
    · intro heq
      refine hquote (Char.toNat_inj.1 ?_)
      rw [← hvalue, heq]
      rfl
    · intro heq
      refine hslash (Char.toNat_inj.1 ?_)
      rw [← hvalue, heq]
      rfl
    · rw [UInt8.le_iff_toNat_le, hvalue]
      exact Nat.le_of_not_lt hcontrol
  · -- no byte of a longer sequence is mistaken for a quote, a backslash or a control character
    have hlarge := Utf8.le_of_mem_encodeChar (Nat.le_of_not_lt hascii) hb
    refine ⟨?_, ?_, ?_⟩
    · rintro rfl
      exact absurd hlarge (by decide)
    · rintro rfl
      exact absurd hlarge (by decide)
    · rw [UInt8.le_iff_toNat_le]
      exact Nat.le_trans (by decide) hlarge

/-- However a character is written inside a text, its bytes are read. -/
theorem feed_escape (c : Char) (acc : List UInt8) :
    (StringState.plain acc).feed (bytes (escape c)) =
      some (.plain ((String.utf8EncodeChar c).reverse ++ acc)) := by
  unfold escape
  split
  · rfl
  · rfl
  · rfl
  · rfl
  · rfl
  · rfl
  · rfl
  · rename_i hquote hslash _ _ _ _ _
    split
    · rename_i hcontrol
      rw [feed_control hcontrol, StringState.push, Char.ofNat_toNat]
    · rename_i hcontrol
      have hone : bytes [c] = String.utf8EncodeChar c := by simp [bytes]
      rw [hone]
      exact feed_plain (fun b hb => stands_of_mem_encodeChar hquote hslash hcontrol hb) acc

section Hosts

variable {limit : Option Nat} {inside : StringState → State} {after : String → State}

/-- What a text takes up by itself it takes up inside a document. -/
theorem Hosts.run_feed (h : Hosts limit inside after) {t t' : StringState} {bs : List UInt8}
    (hfeed : t.feed bs = some t') (rest : List UInt8) :
    run limit (inside t) (bs ++ rest) = run limit (inside t') rest := by
  induction bs generalizing t with
  | nil =>
    cases hfeed
    rfl
  | cons b bs ih =>
    rw [StringState.feed] at hfeed
    split at hfeed
    · rename_i u hstep
      rw [List.cons_append, run, h, hstep]
      exact ih hfeed
    · cases hfeed

/-- The machine gets through the inside of a text and the quote behind it. -/
theorem Hosts.run_escapeAll (h : Hosts limit inside after) (cs read rest : List Char) :
    run limit (inside (.plain (bytes read).reverse)) (bytes (escapeAll cs ('"' :: rest))) =
      run limit (after (String.ofList (read ++ cs))) (bytes rest) := by
  induction cs generalizing read with
  | nil =>
    refine run_cons (by decide) ?_ rest
    rw [h]
    have hstep : (StringState.plain (bytes read).reverse).step (ascii '"') =
        .ok (.inr (String.ofList read)) := by
      have hquote : (ascii '"' == 0x22) = true := rfl
      simp only [StringState.step, hquote, if_true, List.reverse_reverse, Utf8.decode?_bytes]
    rw [hstep, List.append_nil]
    rfl
  | cons c cs ih =>
    have hread : (String.utf8EncodeChar c).reverse ++ (bytes read).reverse =
        (bytes (read ++ [c])).reverse := by
      rw [Utf8.bytes_append, List.reverse_append]
      simp [bytes]
    rw [escapeAll, Utf8.bytes_append, h.run_feed (feed_escape c _), hread, ih, List.append_assoc,
      List.singleton_append]

/-- A text that has been written between quotes is read back. -/
theorem run_writeString (h : Hosts limit inside after) {s : State}
    (hstep : s.step limit (ascii '"') = .ok (inside (.plain []))) (text : String)
    (rest : List Char) :
    run limit s (bytes (writeString text rest)) = run limit (after text) (bytes rest) := by
  rw [writeString, run_cons (by decide) hstep]
  have hrun := h.run_escapeAll text.toList [] rest
  rw [List.nil_append, String.ofList_toList] at hrun
  exact hrun

end Hosts

/-! ## Numbers -/

/-- The state inside a number after the digits of `n`. -/
def NumberState.ofNat (negative : Bool) (n : Nat) : NumberState :=
  if n = 0 then .zero negative else .whole negative n

/-- A written digit is read back. -/
theorem digit?_digitChar {d : Nat} (hd : d < 10) :
    (Nat.digitChar d).toNat < 128 ∧ digit? (ascii (Nat.digitChar d)) = some d := by
  have hall : ∀ d < 10,
      (Nat.digitChar d).toNat < 128 ∧ digit? (ascii (Nat.digitChar d)) = some d := by decide
  exact hall d hd

/-- The machine gets through the digits of a natural number that is kept, once it knows the
first. -/
theorem run_toDigits {limit : Option Nat} {s : State} {negative : Bool} {frames : List Frame}
    (hs : ∀ d < 10,
      s.step limit (ascii (Nat.digitChar d)) = .ok (.number (.ofNat negative d) frames))
    (n : Nat) (hn : n ≤ Number.maxInt) (rest : List Char) :
    run limit s (bytes (Nat.toDigits 10 n ++ rest)) =
      run limit (.number (.ofNat negative n) frames) (bytes rest) := by
  induction n using Nat.strong_induction_on generalizing rest with
  | _ n ih =>
    by_cases hsmall : n < 10
    · rw [Nat.toDigits_of_lt_base hsmall, List.singleton_append]
      exact run_cons (digit?_digitChar hsmall).1 (hs n hsmall) rest
    · -- the last digit goes to what the digits before it have left, which is not zero
      have hlast := digit?_digitChar (Nat.mod_lt n (by decide : 0 < 10))
      have hbefore : n / 10 ≠ 0 := by omega
      have hstep : (State.number (.ofNat negative (n / 10)) frames).step limit
          (ascii (Nat.digitChar (n % 10))) = .ok (.number (.ofNat negative n) frames) := by
        have hjoin : 10 * (n / 10) + n % 10 = n := Nat.div_add_mod n 10
        have hne : n ≠ 0 := by omega
        simp [State.step, NumberState.ofNat, hbefore, NumberState.step, hlast.2, hjoin, hn, hne]
      rw [Nat.toDigits_of_base_le (by decide) (Nat.le_of_not_lt hsmall), List.append_assoc,
        List.singleton_append, ih (n / 10) (by omega) (by omega), run_cons hlast.1 hstep]

/-- What may stand behind a value that has been written. -/
def Ends (rest : List Char) : Prop :=
  ∀ c ∈ rest.head?, c ∈ [',', ']', '\x7d', '\n']

theorem ends_nil : Ends [] := by
  simp [Ends]

theorem ends_lineBreak (layout : Layout) (level : Nat) {rest : List Char} (h : Ends rest) :
    Ends (layout.lineBreak level rest) := by
  cases layout with
  | oneLine => exact h
  | indented width => simp [Ends, Layout.lineBreak]

theorem ends_writeItems (layout : Layout) (level : Nat) (items : List Json) {rest : List Char}
    (h : Ends rest) : Ends (writeItems layout level items rest) := by
  cases items with
  | nil => simpa only [writeItems] using h
  | cons => simp [Ends, writeItems]

theorem ends_writeFields (layout : Layout) (level : Nat) (fields : List (String × Json))
    {rest : List Char} (h : Ends rest) : Ends (writeFields layout level fields rest) := by
  cases fields with
  | nil => simpa only [writeFields] using h
  | cons => simp [Ends, writeFields]

/-- What may stand behind a value is one byte that is no part of a number. -/
theorem ascii_of_mem_ends {c : Char} (hc : c ∈ [',', ']', '\x7d', '\n']) :
    c.toNat < 128 ∧ digit? (ascii c) = none ∧ (ascii c == 0x2E) = false ∧
      NumberState.isMark (ascii c) = false := by
  simp only [List.mem_cons, List.not_mem_nil, or_false] at hc
  rcases hc with rfl | rfl | rfl | rfl <;> decide

theorem NumberState.step_ofNat_done (negative : Bool) (n : Nat) {c : Char}
    (hc : c ∈ [',', ']', '\x7d', '\n']) :
    (NumberState.ofNat negative n).step (ascii c) = .done := by
  obtain ⟨-, hdigit, hpoint, hmark⟩ := ascii_of_mem_ends hc
  unfold NumberState.ofNat
  split <;> simp [NumberState.step, hdigit, afterDigits, hpoint, hmark]

/-- A number ends where something other than a digit follows. -/
theorem run_number_end {limit : Option Nat} {negative : Bool} {n : Nat} {x : Number}
    (hx : (NumberState.ofNat negative n).value = .ok x) (frames : List Frame) {rest : List Char}
    (hrest : Ends rest) :
    run limit (.number (.ofNat negative n) frames) (bytes rest) =
      run limit (.deliver (.num x) frames) (bytes rest) := by
  cases rest with
  | nil =>
    have hfinish : (State.number (.ofNat negative n) frames).finish =
        (State.deliver (.num x) frames).finish := by
      rw [State.finish_deliver, State.finish, hx]
      rfl
    show run limit _ [] = run limit _ []
    rw [run, run, hfinish]
  | cons c rest =>
    have hc := hrest c rfl
    have hstep : (State.number (.ofNat negative n) frames).step limit (ascii c) =
        (State.deliver (.num x) frames).step limit (ascii c) := by
      rw [State.step_deliver, State.step, NumberState.step_ofNat_done negative n hc, hx]
    have hbyte : UInt8.ofNat c.toNat = ascii c := rfl
    rw [Utf8.bytes_cons, Utf8.encodeChar_of_lt (ascii_of_mem_ends hc).1, hbyte, List.cons_append,
      List.nil_append, run, run, hstep]

/-- Natural numbers up to the largest one are exact. -/
theorem NumberState.value_ofNat (n : Nat) (hn : n ≤ Number.maxInt) :
    (NumberState.ofNat false n).value = .ok (.int n) := by
  unfold NumberState.ofNat
  split
  · subst n
    rfl
  · simp [NumberState.value, Number.ofInteger?, hn]

/-- So are negative numbers down to the least one. -/
theorem NumberState.value_ofNat_negative {n : Nat} (hzero : n ≠ 0) (hn : n ≤ Number.minIntSize) :
    (NumberState.ofNat true n).value = .ok (.int (-(n : Int))) := by
  simp [NumberState.ofNat, NumberState.value, Number.ofInteger?, hzero, hn]

/-- An integer that has been written is read back. -/
theorem run_integer {limit : Option Nat} {s : State} {frames : List Frame} (hs : s.Expects frames)
    {i : Int} (hi : (Number.int i).IsExact) {rest : List Char} (hrest : Ends rest) :
    run limit s (bytes (integer i ++ rest)) =
      run limit (.deliver (.num (.int i)) frames) (bytes rest) := by
  obtain ⟨hlow, hhigh⟩ := hi
  have hsizes : Number.minIntSize ≤ Number.maxInt := by decide
  unfold integer
  split
  · rename_i hneg
    have hsize : i.natAbs ≤ Number.minIntSize := by omega
    have hvalue : -(i.natAbs : Int) = i := by omega
    have hdigit : ∀ d < 10, (State.number .sign frames).step limit (ascii (Nat.digitChar d)) =
        .ok (.number (.ofNat true d) frames) := by
      intro d hd
      interval_cases d <;> rfl
    rw [List.cons_append, run_cons (by decide) (hs.step limit rfl rfl),
      run_toDigits hdigit _ (by omega),
      run_number_end (NumberState.value_ofNat_negative (by omega) hsize) frames hrest, hvalue]
  · have hsize : i.natAbs ≤ Number.maxInt := by omega
    have hvalue : (i.natAbs : Int) = i := by omega
    have hdigit : ∀ d < 10, s.step limit (ascii (Nat.digitChar d)) =
        .ok (.number (.ofNat false d) frames) := by
      intro d hd
      have hplain : ∀ d < 10, isSpace (ascii (Nat.digitChar d)) = false ∧
          (ascii (Nat.digitChar d) == ascii ']') = false := by decide
      rw [hs.step limit (hplain d hd).1 (hplain d hd).2]
      interval_cases d <;> rfl
    rw [run_toDigits hdigit _ hsize,
      run_number_end (NumberState.value_ofNat _ hsize) frames hrest, hvalue]

/-! ## Values -/

/-- The machine gets through a word. -/
theorem run_word {limit : Option Nat} {s : State} {frames : List Frame} {v : Json} {c : Char}
    (cs : List Char) (hc : c.toNat < 128) (hcs : ∀ d ∈ cs, d.toNat < 128) (hne : cs ≠ [])
    (hs : s.step limit (ascii c) = .ok (.word (cs.map ascii) v frames)) (rest : List Char) :
    run limit s (bytes (c :: (cs ++ rest))) = run limit (.deliver v frames) (bytes rest) := by
  rw [run_cons hc hs]
  clear hs
  induction cs with
  | nil => exact absurd rfl hne
  | cons d cs ih =>
    have hd := hcs d List.mem_cons_self
    cases cs with
    | nil =>
      refine run_cons hd ?_ rest
      simp [State.step, State.advance]
    | cons e cs =>
      have hstep : (State.word ((d :: e :: cs).map ascii) v frames).step limit (ascii d) =
          .ok (.word ((e :: cs).map ascii) v frames) := by
        simp [State.step, State.advance]
      rw [List.cons_append, run_cons hd hstep]
      exact ih (fun d' hd' => hcs d' (List.mem_cons_of_mem d hd')) (by simp)

/-- With `opened` arrays and objects around it, a value of this depth stays within the limit. -/
def Fits (limit : Option Nat) (opened depth : Nat) : Prop :=
  ∀ n ∈ limit, opened + depth ≤ n

namespace Fits

variable {limit : Option Nat} {opened d e : Nat}

theorem mayOpen {frames : List Frame} (h : Fits limit frames.length (d + 1)) :
    State.mayOpen limit frames = true := by
  cases limit with
  | none => rfl
  | some n =>
    have hn := h n rfl
    simp only [State.mayOpen, decide_eq_true_eq]
    omega

theorem inside (h : Fits limit opened (d + 1)) : Fits limit (opened + 1) d := by
  intro n hn
  have := h n hn
  omega

theorem left (h : Fits limit opened (max d e)) : Fits limit opened d := by
  intro n hn
  have := h n hn
  omega

theorem right (h : Fits limit opened (max d e)) : Fits limit opened e := by
  intro n hn
  have := h n hn
  omega

end Fits

namespace State.Expects

variable {s : State} {frames : List Frame} {limit : Option Nat} {d : Nat}

theorem step_openList (hs : s.Expects frames) (hfits : Fits limit frames.length (d + 1)) :
    s.step limit (ascii '[') = .ok (.item true [] frames) := by
  rw [hs.step limit rfl rfl]
  simp [State.start, ascii, hfits.mayOpen]

theorem step_openObject (hs : s.Expects frames) (hfits : Fits limit frames.length (d + 1)) :
    s.step limit (ascii '\x7b') = .ok (.member true [] frames) := by
  rw [hs.step limit rfl rfl]
  simp [State.start, ascii, hfits.mayOpen]

end State.Expects

/-- The machine gets through a key and what stands between it and its value. -/
theorem run_key (limit : Option Nat) (layout : Layout) (fresh : Bool) (key : String)
    (fields : List (String × Json)) (frames : List Frame) (rest : List Char) :
    run limit (.member fresh fields frames) (bytes (writeString key (layout.colon rest))) =
      run limit (.value (.member fields key :: frames)) (bytes rest) := by
  rw [run_writeString (hosts_keyText limit fields frames) rfl]
  cases layout with
  | oneLine => exact run_cons (by decide) rfl rest
  | indented width =>
    rw [Layout.colon, run_cons (by decide) rfl]
    exact run_cons (by decide) rfl rest

-- The recursion follows the printer. What makes it go through is that the text behind the value is
-- arbitrary but for its first character, which must not prolong a number.
mutual

/-- A value that has been written is read and goes to the frames, whatever follows it. -/
theorem run_write (limit : Option Nat) (layout : Layout) (level : Nat) :
    ∀ (v : Json) {s : State} {frames : List Frame}, s.Expects frames → v.Integral →
      Fits limit frames.length v.depth → ∀ {rest : List Char}, Ends rest →
      run limit s (bytes (v.write layout level rest)) =
        run limit (.deliver v.arranged frames) (bytes rest)
  | .null, s, frames, hs, _, _, rest, _ => by
    rw [write]
    exact run_word ['u', 'l', 'l'] (by decide) (by simp) (by simp) (hs.step limit rfl rfl) rest
  | .bool true, s, frames, hs, _, _, rest, _ => by
    rw [write]
    exact run_word ['r', 'u', 'e'] (by decide) (by simp) (by simp) (hs.step limit rfl rfl) rest
  | .bool false, s, frames, hs, _, _, rest, _ => by
    rw [write]
    exact run_word ['a', 'l', 's', 'e'] (by decide) (by simp) (by simp) (hs.step limit rfl rfl) rest
  | .num (.int i), s, frames, hs, hv, _, rest, hrest => by
    rw [Integral] at hv
    rw [write, number]
    exact run_integer hs hv hrest
  | .num (.real x), s, frames, _, hv, _, rest, _ => by
    rw [Integral] at hv
    exact hv.elim
  | .str text, s, frames, hs, _, _, rest, _ => by
    rw [write]
    exact run_writeString (hosts_text limit frames) (hs.step limit rfl rfl) text rest
  | .arr [], s, frames, hs, _, hfits, rest, _ => by
    rw [write, run_cons (by decide) (hs.step_openList hfits)]
    exact run_cons (by decide) rfl rest
  | .arr (x :: xs), s, frames, hs, hv, hfits, rest, hrest => by
    rw [Integral, IntegralItems] at hv
    rw [depth, depthItems] at hfits
    have hfirst : (State.item true [] frames).Expects (.item [] :: frames) := .item true [] frames
    -- the first element is read after the bracket, the others each after a comma
    have hend : Ends (layout.lineBreak level (']' :: rest)) :=
      ends_lineBreak layout level (by simp [Ends])
    have hitem := run_write limit layout (level + 1) x hfirst hv.1 hfits.inside.left
      (ends_writeItems layout (level + 1) xs hend)
    have hitems := run_writeItems limit layout (level + 1) xs [x.arranged] frames hv.2
      hfits.inside.right hend
    rw [write, run_cons (by decide) (hs.step_openList hfits), run_lineBreak hfirst.idle, hitem,
      State.deliver, hitems, run_lineBreak (State.idle_afterItem _ _)]
    refine run_cons (by decide) ?_ rest
    simp [State.step, State.advance, isSpace, ascii, arranged, arrangedItems]
  | .obj [], s, frames, hs, _, hfits, rest, _ => by
    rw [write, run_cons (by decide) (hs.step_openObject hfits)]
    exact run_cons (by decide) rfl rest
  | .obj ((k, x) :: fields), s, frames, hs, hv, hfits, rest, hrest => by
    rw [Integral, IntegralFields] at hv
    rw [depth, depthFields] at hfits
    have hend : Ends (layout.lineBreak level ('\x7d' :: rest)) :=
      ends_lineBreak layout level (by simp [Ends])
    -- a value is read in the frame of its key, which the reader is in after the colon
    have hfield := run_write limit layout (level + 1) x (.value (.member [] k :: frames)) hv.1
      hfits.inside.left (ends_writeFields layout (level + 1) fields hend)
    have hfields := run_writeFields limit layout (level + 1) fields (Assoc.insert k x.arranged [])
      frames hv.2 hfits.inside.right hend
    rw [write, run_cons (by decide) (hs.step_openObject hfits),
      run_lineBreak (State.idle_member _ _ _), run_key, hfield, State.deliver, hfields,
      run_lineBreak (State.idle_afterMember _ _)]
    refine run_cons (by decide) ?_ rest
    simp [State.step, State.advance, isSpace, ascii, arranged, arrangedFields]

/-- The further elements of an array are read back one after another. -/
theorem run_writeItems (limit : Option Nat) (layout : Layout) (level : Nat) :
    ∀ (xs items : List Json) (frames : List Frame), IntegralItems xs →
      Fits limit (frames.length + 1) (depthItems xs) → ∀ {rest : List Char}, Ends rest →
      run limit (.afterItem items frames) (bytes (writeItems layout level xs rest)) =
        run limit (.afterItem ((arrangedItems xs).reverse ++ items) frames) (bytes rest)
  | [], items, frames, _, _, rest, _ => by
    rw [writeItems, arrangedItems, List.reverse_nil, List.nil_append]
  | x :: xs, items, frames, hv, hfits, rest, hrest => by
    rw [IntegralItems] at hv
    rw [depthItems] at hfits
    have hnext : (State.item false items frames).Expects (.item items :: frames) :=
      .item false items frames
    have hitem := run_write limit layout level x hnext hv.1 hfits.left
      (ends_writeItems layout level xs hrest)
    have hitems :=
      run_writeItems limit layout level xs (x.arranged :: items) frames hv.2 hfits.right
      hrest
    rw [writeItems, run_cons (by decide) rfl, run_lineBreak hnext.idle, hitem, State.deliver,
      hitems, arrangedItems, List.reverse_cons, List.append_assoc, List.singleton_append]

/-- So are the further fields of an object, each in place of an earlier one with its key. -/
theorem run_writeFields (limit : Option Nat) (layout : Layout) (level : Nat) :
    ∀ (fields bound : List (String × Json)) (frames : List Frame), IntegralFields fields →
      Fits limit (frames.length + 1) (depthFields fields) → ∀ {rest : List Char}, Ends rest →
      run limit (.afterMember bound frames) (bytes (writeFields layout level fields rest)) =
        run limit (.afterMember (arrangedFields fields bound) frames) (bytes rest)
  | [], bound, frames, _, _, rest, _ => by
    rw [writeFields, arrangedFields]
  | (k, x) :: fields, bound, frames, hv, hfits, rest, hrest => by
    rw [IntegralFields] at hv
    rw [depthFields] at hfits
    have hfield :=
      run_write limit layout level x (.value (.member bound k :: frames)) hv.1 hfits.left
      (ends_writeFields layout level fields hrest)
    have hfields :=
      run_writeFields limit layout level fields (Assoc.insert k x.arranged bound) frames
      hv.2 hfits.right hrest
    rw [writeFields, run_cons (by decide) rfl, run_lineBreak (State.idle_member _ _ _), run_key,
      hfield, State.deliver, hfields, arrangedFields]

end

/-- Reading what has been written gives the document back, its fields sorted. -/
theorem readText_render {v : Json} (hv : v.Integral) (layout : Layout) (limit : Option Nat)
    (hdepth : ∀ n ∈ limit, v.depth ≤ n) : readText limit (v.render layout) = .ok v.arranged := by
  have hfits : Fits limit 0 v.depth := by
    intro n hn
    simpa using hdepth n hn
  have hbytes : Utf8.encode (v.render layout) = bytes (v.write layout 0 []) := by
    rw [Utf8.encode_eq, render, String.toList_ofList]
  rw [readText, read, hbytes, run_write limit layout 0 v (.value []) hv hfits ends_nil]
  rfl

/-! ## One line -/

/-- A line feed is always escaped. -/
theorem newline_not_mem_escape (c : Char) : '\n' ∉ escape c := by
  unfold escape
  split
  · decide
  · decide
  · decide
  · decide
  · decide
  · decide
  · decide
  · rename_i hnewline _ _
    split
    · rename_i hcontrol
      have hdigits : ∀ n < 32,
          '\n' ∉ ['\\', 'u', '0', '0', Hex.digit (n / 16), Hex.digit (n % 16)] := by
        decide
      exact hdigits c.toNat hcontrol
    · rw [List.mem_singleton]
      exact fun heq => hnewline heq.symm

theorem newline_not_mem_writeString (s : String) {rest : List Char} (hrest : '\n' ∉ rest) :
    '\n' ∉ writeString s rest := by
  have hall : ∀ cs, '\n' ∉ escapeAll cs ('"' :: rest) := by
    intro cs
    induction cs with
    | nil => simpa [escapeAll] using hrest
    | cons c cs ih => simp [escapeAll, newline_not_mem_escape, ih]
  simp [writeString, hall]

theorem newline_not_mem_integer (i : Int) : '\n' ∉ integer i := by
  have hdigits : ∀ n, '\n' ∉ Nat.toDigits 10 n := by
    intro n hmem
    exact absurd (Nat.isDigit_of_mem_toDigits (by decide) (by decide) hmem) (by decide)
  unfold integer
  split <;> simp [hdigits]

mutual

/-- A value that is written on one line holds no line feed. -/
theorem newline_not_mem_write (level : Nat) : ∀ (v : Json), v.Integral → ∀ {rest : List Char},
    '\n' ∉ rest → '\n' ∉ v.write .oneLine level rest
  | .null, _, rest, hrest => by simpa [write] using hrest
  | .bool true, _, rest, hrest => by simpa [write] using hrest
  | .bool false, _, rest, hrest => by simpa [write] using hrest
  | .num (.int i), _, rest, hrest => by simp [write, number, newline_not_mem_integer, hrest]
  | .num (.real x), hv, _, _ => by
    rw [Integral] at hv
    exact hv.elim
  | .str s, _, rest, hrest => by
    rw [write]
    exact newline_not_mem_writeString s hrest
  | .arr [], _, rest, hrest => by simpa [write] using hrest
  | .arr (x :: xs), hv, rest, hrest => by
    rw [Integral, IntegralItems] at hv
    have hend : '\n' ∉ ']' :: rest := List.not_mem_cons_of_ne_of_not_mem (by decide) hrest
    have hitems := newline_not_mem_writeItems (level + 1) xs hv.2 hend
    have hitem := newline_not_mem_write (level + 1) x hv.1 hitems
    simpa [write, Layout.lineBreak] using hitem
  | .obj [], _, rest, hrest => by simpa [write] using hrest
  | .obj ((k, x) :: fields), hv, rest, hrest => by
    rw [Integral, IntegralFields] at hv
    have hend : '\n' ∉ '\x7d' :: rest := List.not_mem_cons_of_ne_of_not_mem (by decide) hrest
    have hfields := newline_not_mem_writeFields (level + 1) fields hv.2 hend
    have hfield := newline_not_mem_write (level + 1) x hv.1 hfields
    have hcolon := List.not_mem_cons_of_ne_of_not_mem (by decide : '\n' ≠ ':') hfield
    have hkey := newline_not_mem_writeString k hcolon
    simpa [write, Layout.lineBreak, Layout.colon] using hkey

theorem newline_not_mem_writeItems (level : Nat) : ∀ (xs : List Json), IntegralItems xs →
    ∀ {rest : List Char}, '\n' ∉ rest → '\n' ∉ writeItems .oneLine level xs rest
  | [], _, rest, hrest => by simpa [writeItems] using hrest
  | x :: xs, hv, rest, hrest => by
    rw [IntegralItems] at hv
    have hitems := newline_not_mem_writeItems level xs hv.2 hrest
    have hitem := newline_not_mem_write level x hv.1 hitems
    simpa [writeItems, Layout.lineBreak] using hitem

theorem newline_not_mem_writeFields (level : Nat) : ∀ (fields : List (String × Json)),
    IntegralFields fields → ∀ {rest : List Char}, '\n' ∉ rest →
    '\n' ∉ writeFields .oneLine level fields rest
  | [], _, rest, hrest => by simpa [writeFields] using hrest
  | (k, x) :: fields, hv, rest, hrest => by
    rw [IntegralFields] at hv
    have hfields := newline_not_mem_writeFields level fields hv.2 hrest
    have hfield := newline_not_mem_write level x hv.1 hfields
    have hcolon := List.not_mem_cons_of_ne_of_not_mem (by decide : '\n' ≠ ':') hfield
    have hkey := newline_not_mem_writeString k hcolon
    simpa [writeFields, Layout.lineBreak, Layout.colon] using hkey

end

end Json
end SymbolIndex
