import SymbolIndex.Json.Basic
import SymbolIndex.Json.Fault
import SymbolIndex.Text.Utf8
import SymbolIndex.Text.Hex

/-!
# Reading documents

A machine that takes one byte at a time. Its state says what has been opened and what may come next,
so that a run is a recursion over the bytes.

- `Json.Frame` : an array or object that waits for a value
- `Json.StringState`, `Json.NumberState` : the inside of a text and of a number
- `Json.State` : the whole machine
- `Json.State.step`, `Json.State.finish` : one byte, and the end of the bytes
- `Json.read` : the document that the bytes hold, or the first fault
-/

namespace SymbolIndex
namespace Json

/-! ## Bytes -/

/-- The byte of a character below 128. -/
def ascii (c : Char) : UInt8 :=
  UInt8.ofNat c.toNat

/-- Space, tab, line feed and carriage return. -/
def isSpace (b : UInt8) : Bool :=
  b == 0x20 || b == 0x0A || b == 0x09 || b == 0x0D

def digit? (b : UInt8) : Option Nat :=
  if 0x30 ≤ b && b ≤ 0x39 then some (b.toNat - 0x30) else none

/-- Why and where a run stops: `back` bytes before the end of what has been read. -/
structure Halt where
  cause : Cause
  back : Nat

/-! ## Text -/

/-- The inside of a text. `bytes` is what has been read of it, the newest byte first. -/
inductive StringState where
  /-- Between characters. -/
  | plain (bytes : List UInt8)
  /-- After a backslash. -/
  | escape (bytes : List UInt8)
  /-- Inside the four digits of a code unit, the newest first; `lead` is the unit before it, if that
  is the first half of a pair. -/
  | unit (bytes : List UInt8) (lead : Option Nat) (digits : List UInt8)
  /-- After the first half of a pair. -/
  | pair (bytes : List UInt8) (lead : Nat)
  /-- After the first half of a pair and a backslash. -/
  | pairEscape (bytes : List UInt8) (lead : Nat)

namespace StringState

/-- The byte that a one-letter escape stands for. -/
def letter? (b : UInt8) : Option UInt8 :=
  if b == 0x22 then some 0x22
  else if b == 0x5C then some 0x5C
  else if b == 0x2F then some 0x2F
  else if b == 0x62 then some 0x08
  else if b == 0x66 then some 0x0C
  else if b == 0x6E then some 0x0A
  else if b == 0x72 then some 0x0D
  else if b == 0x74 then some 0x09
  else none

/-- The number that hexadecimal digits spell, the newest digit first. -/
def unitValue? : List UInt8 → Option Nat
  | [] => some 0
  | b :: older =>
    match Hex.digit? (Char.ofNat b.toNat), unitValue? older with
    | some d, some n => some (16 * n + d)
    | _, _ => none

/-- Adds the UTF-8 bytes of a code point, the newest first. -/
def push (bytes : List UInt8) (code : Nat) : List UInt8 :=
  (String.utf8EncodeChar (Char.ofNat code)).reverse ++ bytes

def unitRead (bytes : List UInt8) (lead : Option Nat) (digits : List UInt8) :
    Except Halt StringState :=
  match unitValue? digits, lead with
  | none, _ => .error ⟨.invalidEscape, 0⟩
  | some n, none =>
    -- a second half without a first
    if 0xDC00 ≤ n && n ≤ 0xDFFF then .error ⟨.loneSurrogate, 0⟩
    else if 0xD800 ≤ n && n ≤ 0xDBFF then .ok (.pair bytes n)
    else .ok (.plain (push bytes n))
  | some n, some l =>
    -- each half carries ten bits of what exceeds `0x10000`
    if 0xDC00 ≤ n && n ≤ 0xDFFF then
      .ok (.plain (push bytes (0x10000 + (l - 0xD800) * 0x400 + (n - 0xDC00))))
    else .error ⟨.loneSurrogate, 0⟩

/-- What a byte does inside a text: it goes on, or ends with the text read. -/
def step (b : UInt8) : StringState → Except Halt (StringState ⊕ String)
  | .plain bytes =>
    if b == 0x22 then
      match Utf8.decode? bytes.reverse with
      | some s => .ok (.inr s)
      -- the fault is put at the first byte that is ill-formed, not at the quote
      | none => .error ⟨.invalidCodePoint, bytes.length - Utf8.soundLength bytes.reverse⟩
    else if b == 0x5C then .ok (.inl (.escape bytes))
    else if b < 0x20 then .error ⟨.controlCharacter, 0⟩
    else .ok (.inl (.plain (b :: bytes)))
  | .escape bytes =>
    if b == 0x75 then .ok (.inl (.unit bytes none []))
    else
      match letter? b with
      | some c => .ok (.inl (.plain (c :: bytes)))
      | none => .error ⟨.invalidEscape, 0⟩
  | .unit bytes lead digits =>
    if digits.length < 3 then .ok (.inl (.unit bytes lead (b :: digits)))
    else (unitRead bytes lead (b :: digits)).map .inl
  | .pair bytes lead =>
    if b == 0x5C then .ok (.inl (.pairEscape bytes lead)) else .error ⟨.unfinishedSurrogate, 0⟩
  | .pairEscape bytes lead =>
    if b == 0x75 then .ok (.inl (.unit bytes (some lead) []))
    else .error ⟨.unfinishedSurrogate, 0⟩

end StringState

/-! ## Numbers -/

/-- What has been read of a number: the sign and `significand · 10 ^ power`. Digits are kept while
the significand is at most `Number.maxInt`. -/
structure Literal where
  negative : Bool
  significand : Nat
  power : Int

inductive NumberState where
  /-- After the minus sign. -/
  | sign
  /-- After a leading zero. -/
  | zero (negative : Bool)
  /-- Inside the digits before the point, all of them kept. -/
  | whole (negative : Bool) (significand : Nat)
  /-- Inside the digits before the point, further ones no longer kept. -/
  | wholeFull (l : Literal)
  /-- After the point. -/
  | point (l : Literal)
  /-- Inside the digits after the point. -/
  | fraction (l : Literal)
  /-- Inside the digits after the point, further ones no longer kept. -/
  | fractionFull (l : Literal)
  /-- After the exponent mark. -/
  | mark (l : Literal)
  /-- After the sign of the exponent. -/
  | markSign (l : Literal) (negative : Bool)
  /-- Inside the digits of the exponent. -/
  | exponent (l : Literal) (negative : Bool) (size : Nat)
  /-- Inside the digits of an exponent so large that the number is zero. -/
  | vanished (negative : Bool)

namespace NumberState

/-- The largest exponent that is kept, `2 ^ 31 - 1`. -/
def maxExponent : Nat := 2147483647

/-- What a byte does inside a number. -/
inductive Move where
  | more (s : NumberState)
  /-- The byte is not part of the number. -/
  | done
  | halt (cause : Cause)

def isMark (b : UInt8) : Bool :=
  b == 0x65 || b == 0x45

def addFraction (l : Literal) (d : Nat) : NumberState :=
  let n := 10 * l.significand + d
  if n ≤ Number.maxInt then .fraction ⟨l.negative, n, l.power - 1⟩ else .fractionFull l

/-- A digit of the exponent. A number that is not zero must not grow beyond the largest exponent. -/
def addExponent (l : Literal) (negative : Bool) (size d : Nat) : Move :=
  let n := 10 * size + d
  if n ≤ maxExponent then .more (.exponent l negative n)
  else if l.significand ≠ 0 ∧ !negative then .halt .numberOutOfRange
  else .more (.vanished l.negative)

/-- What a byte that is no digit does after digits. -/
def afterDigits (l : Literal) (b : UInt8) (pointAllowed : Bool) : Move :=
  if pointAllowed && b == 0x2E then .more (.point l)
  else if isMark b then .more (.mark l)
  else .done

def step (b : UInt8) (s : NumberState) : Move :=
  match s, digit? b with
  | .sign, some 0 => .more (.zero true)
  | .sign, some d => .more (.whole true d)
  | .sign, none => .halt .invalidNumber
  | .zero _, some _ => .halt .invalidNumber
  | .zero negative, none => afterDigits ⟨negative, 0, 0⟩ b true
  | .whole negative n, some d =>
    -- a digit that is not kept still makes the number ten times as large
    if 10 * n + d ≤ Number.maxInt then .more (.whole negative (10 * n + d))
    else .more (.wholeFull ⟨negative, n, 1⟩)
  | .whole negative n, none => afterDigits ⟨negative, n, 0⟩ b true
  | .wholeFull l, some _ => .more (.wholeFull { l with power := l.power + 1 })
  | .wholeFull l, none => afterDigits l b true
  | .point l, some d => .more (addFraction l d)
  | .point _, none => .halt .invalidNumber
  | .fraction l, some d => .more (addFraction l d)
  | .fraction l, none => afterDigits l b false
  -- after the point it makes no difference
  | .fractionFull l, some _ => .more (.fractionFull l)
  | .fractionFull l, none => afterDigits l b false
  | .mark l, some d => .more (.exponent l false d)
  | .mark l, none =>
    if b == 0x2B then .more (.markSign l false)
    else if b == 0x2D then .more (.markSign l true)
    else .halt .invalidNumber
  | .markSign l negative, some d => .more (.exponent l negative d)
  | .markSign _ _, none => .halt .invalidNumber
  | .exponent l negative size, some d => addExponent l negative size d
  | .exponent _ _ _, none => .done
  | .vanished negative, some _ => .more (.vanished negative)
  | .vanished _, none => .done

def value (s : NumberState) : Except Cause Number :=
  let decimal (l : Literal) : Except Cause Number :=
    match Number.ofDecimal? l.negative l.significand l.power with
    | some n => .ok n
    | none => .error .numberOutOfRange
  match s with
  | .zero negative =>
    match Number.ofInteger? negative 0 with
    | some n => .ok n
    | none => .error .numberOutOfRange
  | .whole negative n =>
    match Number.ofInteger? negative n with
    | some n => .ok n
    | none => .error .numberOutOfRange
  | .wholeFull l | .fraction l | .fractionFull l => decimal l
  | .exponent l negative size =>
    decimal { l with power := l.power + (if negative then -(size : Int) else size) }
  | .vanished negative => .ok (.real (.zero negative))
  | .sign | .point _ | .mark _ | .markSign _ _ => .error .eofInValue

end NumberState

/-! ## The machine -/

/-- An open array or object that waits for its next value. Elements are kept newest first. -/
inductive Frame where
  | item (items : List Json)
  | member (fields : List (String × Json)) (key : String)

/-- The state between two bytes. The frames are those that enclose the current place, innermost
first. -/
inductive State where
  /-- A value must start. -/
  | value (frames : List Frame)
  /-- Inside an array where an element must start; it may end here if it has just been opened. -/
  | item (fresh : Bool) (items : List Json) (frames : List Frame)
  /-- After an element of an array. -/
  | afterItem (items : List Json) (frames : List Frame)
  /-- Inside an object where a key must start; it may end here if it has just been opened. -/
  | member (fresh : Bool) (fields : List (String × Json)) (frames : List Frame)
  /-- Inside a key. -/
  | keyText (s : StringState) (fields : List (String × Json)) (frames : List Frame)
  /-- After a key. -/
  | colon (key : String) (fields : List (String × Json)) (frames : List Frame)
  /-- After a field of an object. -/
  | afterMember (fields : List (String × Json)) (frames : List Frame)
  /-- Inside one of the words `true`, `false` and `null`. -/
  | word (rest : List UInt8) (meaning : Json) (frames : List Frame)
  /-- Inside a text. -/
  | text (s : StringState) (frames : List Frame)
  /-- Inside a number. -/
  | number (s : NumberState) (frames : List Frame)
  /-- After the document. -/
  | done (v : Json)

namespace State

/-- A complete value goes to the innermost open array or object. -/
def deliver (v : Json) : List Frame → State
  | [] => .done v
  | .item items :: frames => .afterItem (v :: items) frames
  | .member fields key :: frames => .afterMember (Assoc.insert key v fields) frames

def mayOpen (limit : Option Nat) (frames : List Frame) : Bool :=
  match limit with
  | none => true
  | some n => frames.length < n

/-- The state after the first byte of a value. -/
def start (limit : Option Nat) (b : UInt8) (frames : List Frame) : Except Halt State :=
  if b == ascii '"' then .ok (.text (.plain []) frames)
  else if b == ascii '[' then
    if mayOpen limit frames then .ok (.item true [] frames) else .error ⟨.tooDeep, 0⟩
  else if b == ascii '\x7b' then
    if mayOpen limit frames then .ok (.member true [] frames) else .error ⟨.tooDeep, 0⟩
  else if b == ascii 't' then .ok (.word ("rue".toList.map ascii) (.bool true) frames)
  else if b == ascii 'f' then .ok (.word ("alse".toList.map ascii) (.bool false) frames)
  else if b == ascii 'n' then .ok (.word ("ull".toList.map ascii) .null frames)
  else if b == ascii '-' then .ok (.number .sign frames)
  else
    match digit? b with
    | some 0 => .ok (.number (.zero false) frames)
    | some d => .ok (.number (.whole false d) frames)
    | none => .error ⟨.expectedValue, 0⟩

/-- One byte in a state in which no number is being read. -/
def advance (limit : Option Nat) (b : UInt8) (s : State) : Except Halt State :=
  match s with
  | .value frames => if isSpace b then .ok s else start limit b frames
  | .item fresh items frames =>
    if isSpace b then .ok s
    else if b == ascii ']' then
      if fresh then .ok (deliver (.arr items.reverse) frames) else .error ⟨.trailingComma, 0⟩
    else start limit b (.item items :: frames)
  | .afterItem items frames =>
    if isSpace b then .ok s
    else if b == ascii ',' then .ok (.item false items frames)
    else if b == ascii ']' then .ok (deliver (.arr items.reverse) frames)
    else .error ⟨.expectedListEnd, 0⟩
  | .member fresh fields frames =>
    if isSpace b then .ok s
    else if b == ascii '"' then .ok (.keyText (.plain []) fields frames)
    else if b == ascii '\x7d' then
      if fresh then .ok (deliver (.obj fields) frames) else .error ⟨.trailingComma, 0⟩
    else .error ⟨.keyNotString, 0⟩
  | .keyText t fields frames =>
    (t.step b).map fun
      | .inl t => .keyText t fields frames
      | .inr key => .colon key fields frames
  | .colon key fields frames =>
    if isSpace b then .ok s
    else if b == ascii ':' then .ok (.value (.member fields key :: frames))
    else .error ⟨.expectedColon, 0⟩
  | .afterMember fields frames =>
    if isSpace b then .ok s
    else if b == ascii ',' then .ok (.member false fields frames)
    else if b == ascii '\x7d' then .ok (deliver (.obj fields) frames)
    else .error ⟨.expectedObjectEnd, 0⟩
  | .word [] meaning frames => .ok (deliver meaning frames)
  | .word (c :: cs) meaning frames =>
    if b == c then .ok (if cs.isEmpty then deliver meaning frames else .word cs meaning frames)
    else .error ⟨.expectedIdent, 0⟩
  | .text t frames =>
    (t.step b).map fun
      | .inl t => .text t frames
      | .inr body => deliver (.str body) frames
  | .number n frames => .ok (.number n frames)
  | .done _ => if isSpace b then .ok s else .error ⟨.trailingCharacters, 0⟩

/-- One byte. The byte that ends a number is read again as what follows the number. -/
def step (limit : Option Nat) (b : UInt8) (s : State) : Except Halt State :=
  match s with
  | .number n frames =>
    match n.step b with
    | .more n => .ok (.number n frames)
    | .halt cause => .error ⟨cause, 0⟩
    | .done =>
      match n.value with
      | .ok v => advance limit b (deliver (.num v) frames)
      -- the number ends before the byte that has been read
      | .error cause => .error ⟨cause, 1⟩
  | _ => advance limit b s

/-- The end of the bytes, in a state in which no number is being read. -/
def close : State → Except Cause Json
  | .value _ => .error .eofInValue
  -- after a comma it is the next value that is missing
  | .item fresh _ _ => .error (if fresh then .eofInList else .eofInValue)
  | .afterItem _ _ => .error .eofInList
  | .member fresh _ _ => .error (if fresh then .eofInObject else .eofInValue)
  | .keyText _ _ _ => .error .eofInString
  | .colon _ _ _ => .error .eofInObject
  | .afterMember _ _ => .error .eofInObject
  | .word _ _ _ => .error .eofInValue
  | .text _ _ => .error .eofInString
  | .number _ _ => .error .eofInValue
  | .done v => .ok v

def finish (s : State) : Except Cause Json :=
  match s with
  | .number n frames => n.value.bind fun v => close (deliver (.num v) frames)
  | _ => close s

end State

/-! ## Runs -/

/-- A cause with the number of bytes from its place to the end. -/
structure Stop where
  cause : Cause
  unread : Nat

def run (limit : Option Nat) : State → List UInt8 → Except Stop Json
  | s, [] =>
    match s.finish with
    | .ok v => .ok v
    | .error cause => .error ⟨cause, 0⟩
  | s, b :: rest =>
    match s.step limit b with
    | .ok s => run limit s rest
    | .error h => .error ⟨h.cause, rest.length + h.back⟩

/-- The document that the bytes hold. A limit bounds how many arrays and objects may be open at
once. -/
def read (limit : Option Nat) (bytes : List UInt8) : Except Fault Json :=
  match run limit (.value []) bytes with
  | .ok v => .ok v
  | .error stop => .error (.after stop.cause (bytes.take (bytes.length - stop.unread)))

def readText (limit : Option Nat) (text : String) : Except Fault Json :=
  read limit (Utf8.encode text)

end Json
end SymbolIndex
