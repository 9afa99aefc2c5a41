import SymbolIndex.Number.Binary64
import SymbolIndex.Text.Hex

/-!
# Scalars of a settings file

Scanners take characters from the front and return the rest, or nothing if the characters do not
start with what is wanted.

- `Toml.Scalar` : text, integers, doubles, truth values and points in time
- `Toml.text` : the four kinds of quoted text
- `Toml.moment`, `Toml.float`, `Toml.integer` : what starts with a digit or a sign
- `Toml.scalar` : any scalar
-/

namespace SymbolIndex
namespace Toml

/-- A value without parts. What a double or a point in time says is not kept. -/
inductive Scalar where
  | text (s : String)
  | integer (i : Int)
  | float
  | boolean (b : Bool)
  | moment
  deriving DecidableEq, Repr

/-- Takes a value from the front of the characters. -/
abbrev Scanner (α : Type) := List Char → Option (α × List Char)

/-! ## Characters -/

def isSpace (c : Char) : Bool :=
  c == ' ' || c == '\t'

def skipSpaces (cs : List Char) : List Char :=
  cs.dropWhile isSpace

/-- Whether a character may stand in text: a tab, or anything that is no control character. -/
def isPrintable (c : Char) : Bool :=
  c == '\t' || (0x20 ≤ c.toNat && c.toNat ≠ 0x7F)

/-- The rest after a line end, which is a line feed with or without a carriage return. -/
def newline? : List Char → Option (List Char)
  | '\n' :: rest => some rest
  | '\r' :: '\n' :: rest => some rest
  | _ => none

def digit? (c : Char) : Option Nat :=
  if '0' ≤ c && c ≤ '9' then some (c.toNat - 0x30) else none

/-! ## Text -/

def hexValue? (digits : List Char) : Option Nat :=
  digits.foldl (fun n c => n.bind fun n => (Hex.digit? c).map (16 * n + ·)) (some 0)

def charOf? (code : Nat) : Option Char :=
  if code.isValidChar then some (Char.ofNat code) else none

def letter? (c : Char) : Option Char :=
  match c with
  | 'b' => some '\x08'
  | 't' => some '\t'
  | 'n' => some '\n'
  | 'f' => some '\x0c'
  | 'r' => some '\r'
  | '"' => some '"'
  | '\\' => some '\\'
  | _ => none

/-- Text in double quotes, after the opening quote. What has been read is kept newest first. -/
def basic (acc : List Char) : Scanner String
  | '"' :: rest => some (String.ofList acc.reverse, rest)
  | '\\' :: 'u' :: a :: b :: c :: d :: rest =>
    match (hexValue? [a, b, c, d]).bind charOf? with
    | some x => basic (x :: acc) rest
    | none => none
  | '\\' :: 'U' :: a :: b :: c :: d :: e :: f :: g :: h :: rest =>
    match (hexValue? [a, b, c, d, e, f, g, h]).bind charOf? with
    | some x => basic (x :: acc) rest
    | none => none
  | '\\' :: c :: rest =>
    match letter? c with
    | some x => basic (x :: acc) rest
    | none => none
  | c :: rest => if isPrintable c && c ≠ '\\' then basic (c :: acc) rest else none
  | [] => none

/-- Text in single quotes, after the opening quote. -/
def literal (acc : List Char) : Scanner String
  | '\'' :: rest => some (String.ofList acc.reverse, rest)
  | c :: rest => if isPrintable c then literal (c :: acc) rest else none
  | [] => none

/-- Text in three double quotes, after the opening quotes. Up to two quotes may stand before the
closing ones. While `skipping`, blanks and line ends are passed over. -/
def multiBasic (skipping : Bool) (acc : List Char) : Scanner String
  | '"' :: '"' :: '"' :: '"' :: '"' :: rest =>
    some (String.ofList ('"' :: '"' :: acc).reverse, rest)
  | '"' :: '"' :: '"' :: '"' :: rest => some (String.ofList ('"' :: acc).reverse, rest)
  | '"' :: '"' :: '"' :: rest => some (String.ofList acc.reverse, rest)
  | '\r' :: '\n' :: rest => multiBasic skipping (if skipping then acc else '\n' :: acc) rest
  | '\n' :: rest => multiBasic skipping (if skipping then acc else '\n' :: acc) rest
  | '\\' :: 'u' :: a :: b :: c :: d :: rest =>
    match (hexValue? [a, b, c, d]).bind charOf? with
    | some x => multiBasic false (x :: acc) rest
    | none => none
  | '\\' :: 'U' :: a :: b :: c :: d :: e :: f :: g :: h :: rest =>
    match (hexValue? [a, b, c, d, e, f, g, h]).bind charOf? with
    | some x => multiBasic false (x :: acc) rest
    | none => none
  | '\\' :: c :: rest =>
    match letter? c with
    | some x => multiBasic false (x :: acc) rest
    | none =>
      -- a backslash at the end of a line joins it with the next text
      if (newline? (skipSpaces (c :: rest))).isSome then multiBasic true acc (c :: rest) else none
  | c :: rest =>
    if skipping && isSpace c then multiBasic true acc rest
    else if isPrintable c && c ≠ '\\' then multiBasic false (c :: acc) rest
    else none
  | [] => none

/-- Text in three single quotes, after the opening quotes. -/
def multiLiteral (acc : List Char) : Scanner String
  | '\'' :: '\'' :: '\'' :: '\'' :: '\'' :: rest =>
    some (String.ofList ('\'' :: '\'' :: acc).reverse, rest)
  | '\'' :: '\'' :: '\'' :: '\'' :: rest => some (String.ofList ('\'' :: acc).reverse, rest)
  | '\'' :: '\'' :: '\'' :: rest => some (String.ofList acc.reverse, rest)
  | '\r' :: '\n' :: rest => multiLiteral ('\n' :: acc) rest
  | '\n' :: rest => multiLiteral ('\n' :: acc) rest
  | c :: rest => if isPrintable c then multiLiteral (c :: acc) rest else none
  | [] => none

def dropNewline (cs : List Char) : List Char :=
  (newline? cs).getD cs

/-- Quoted text of any kind. A line end right after three quotes does not count. -/
def text : Scanner String
  | '"' :: '"' :: '"' :: rest => multiBasic false [] (dropNewline rest)
  | '"' :: rest => basic [] rest
  | '\'' :: '\'' :: '\'' :: rest => multiLiteral [] (dropNewline rest)
  | '\'' :: rest => literal [] rest
  | _ => none

/-! ## Numbers -/

/-- Digits of a base, which single underscores may divide. The first is read already; digits are
kept newest first. -/
def digitRun (value? : Char → Option Nat) (acc : List Nat) : List Char → List Nat × List Char
  | '_' :: c :: rest =>
    match value? c with
    | some d => digitRun value? (d :: acc) rest
    | none => (acc, '_' :: c :: rest)
  | c :: rest =>
    match value? c with
    | some d => digitRun value? (d :: acc) rest
    | none => (acc, c :: rest)
  | [] => (acc, [])

/-- At least one digit of a base, newest first. -/
def digits1 (value? : Char → Option Nat) : Scanner (List Nat)
  | c :: rest => (value? c).map fun d => digitRun value? [d] rest
  | [] => none

/-- The number that digits spell, newest first. -/
def ofDigits (base : Nat) (digits : List Nat) : Nat :=
  digits.foldr (fun d n => base * n + d) 0

def digitBelow (base : Nat) (c : Char) : Option Nat :=
  (Hex.digit? c).filter (· < base)

/-- A sign, if there is one: whether it is a minus. -/
def sign : List Char → Bool × List Char
  | '-' :: rest => (true, rest)
  | '+' :: rest => (false, rest)
  | cs => (false, cs)

/-- Decimal digits that do not start with a zero unless it is the only one. -/
def wholeDigits : Scanner (List Nat)
  | '0' :: rest => some ([0], rest)
  | cs => digits1 digit? cs

def isInt64 (i : Int) : Bool :=
  -9223372036854775808 ≤ i && i ≤ 9223372036854775807

def int64? (i : Int) (rest : List Char) : Option (Int × List Char) :=
  if isInt64 i then some (i, rest) else none

/-- An integer in base 10, or in base 16, 8 or 2 with a mark and without a sign. -/
def integer : Scanner Int
  | '0' :: 'x' :: rest =>
    (digits1 (digitBelow 16) rest).bind fun (ds, r) => int64? (ofDigits 16 ds) r
  | '0' :: 'o' :: rest => (digits1 (digitBelow 8) rest).bind fun (ds, r) => int64? (ofDigits 8 ds) r
  | '0' :: 'b' :: rest => (digits1 (digitBelow 2) rest).bind fun (ds, r) => int64? (ofDigits 2 ds) r
  | cs =>
    let (negative, cs) := sign cs
    (wholeDigits cs).bind fun (ds, r) =>
      let n : Int := ofDigits 10 ds
      int64? (if negative then -n else n) r

/-- The exponent of a double: a mark, an optional sign and digits. -/
def exponent : Scanner Int
  | c :: rest =>
    if c == 'e' || c == 'E' then
      let (negative, rest) := sign rest
      (digits1 digit? rest).map fun (ds, r) =>
        let n : Int := ofDigits 10 ds
        (if negative then -n else n, r)
    else none
  | [] => none

/-- Beyond this power of ten a decimal of either sign of the exponent is infinite or zero. -/
def powerBound : Nat := 400

def isFinite (digits : List Nat) (power : Int) : Bool :=
  let n := ofDigits 10 digits
  let size : Int := digits.length
  if n = 0 ∨ size + power < -powerBound then true
  else if (powerBound : Int) < power then false
  else if 0 ≤ power then (Binary64.nearest? (n * Nat.pow 10 power.toNat) 1).isSome
  else (Binary64.nearest? n (Nat.pow 10 (-power).toNat)).isSome

/-- A double: digits with a fraction, an exponent or both. A positive one must be finite. -/
def decimal : Scanner Unit := fun cs =>
  let (negative, cs) := sign cs
  (wholeDigits cs).bind fun (whole, rest) =>
    let checked (digits : List Nat) (power : Int) (r : List Char) : Option (Unit × List Char) :=
      if negative || isFinite digits power then some ((), r) else none
    match rest with
    | '.' :: afterPoint =>
      (digits1 digit? afterPoint).bind fun (part, r) =>
        match exponent r with
        | some (e, r) => checked (part ++ whole) (e - part.length) r
        | none => checked (part ++ whole) (-(part.length : Int)) r
    | _ => (exponent rest).bind fun (e, r) => checked whole e r

/-- A double, or one of the words for infinity and for no number. -/
def float : Scanner Unit := fun cs =>
  match (sign cs).2 with
  | 'i' :: 'n' :: 'f' :: rest => some ((), rest)
  | 'n' :: 'a' :: 'n' :: rest => some ((), rest)
  | _ => decimal cs

/-! ## Points in time -/

/-- Two digits with a value in a range. -/
def twoDigits (low high : Nat) : Scanner Nat
  | a :: b :: rest =>
    match digit? a, digit? b with
    | some x, some y =>
      let n := 10 * x + y
      if low ≤ n && n ≤ high then some (n, rest) else none
    | _, _ => none
  | _ => none

def expect (c : Char) : List Char → Option (List Char)
  | d :: rest => if d == c then some rest else none
  | [] => none

def daysIn (year month : Nat) : Nat :=
  if month = 2 then
    if (year % 4 = 0 ∧ year % 100 ≠ 0) ∨ year % 400 = 0 then 29 else 28
  else if month = 4 ∨ month = 6 ∨ month = 9 ∨ month = 11 then 30
  else 31

def date : Scanner Unit := fun cs => do
  let (century, cs) ← twoDigits 0 99 cs
  let (years, cs) ← twoDigits 0 99 cs
  let cs ← expect '-' cs
  let (month, cs) ← twoDigits 1 12 cs
  let cs ← expect '-' cs
  let (_, cs) ← twoDigits 1 (daysIn (100 * century + years) month) cs
  return ((), cs)

def secondFraction : List Char → List Char
  | '.' :: c :: rest =>
    if (digit? c).isSome then rest.dropWhile (digit? · |>.isSome) else '.' :: c :: rest
  | cs => cs

/-- A time of day; the last minute may have a leap second. -/
def time : Scanner Unit := fun cs => do
  let (_, cs) ← twoDigits 0 23 cs
  let cs ← expect ':' cs
  let (_, cs) ← twoDigits 0 59 cs
  let cs ← expect ':' cs
  let (_, cs) ← twoDigits 0 60 cs
  return ((), secondFraction cs)

def offset : Scanner Unit
  | 'Z' :: rest => some ((), rest)
  | 'z' :: rest => some ((), rest)
  | c :: rest =>
    if c == '+' || c == '-' then do
      let (_, rest) ← twoDigits 0 23 rest
      let rest ← expect ':' rest
      let (_, rest) ← twoDigits 0 59 rest
      return ((), rest)
    else none
  | [] => none

/-- The time of day after a date, and the distance from universal time, if they are given. -/
def afterDate (cs : List Char) : List Char :=
  match cs with
  | c :: rest =>
    if c == 'T' || c == 't' || c == ' ' then
      match time rest with
      | some (_, rest) =>
        match offset rest with
        | some (_, rest) => rest
        | none => rest
      -- a blank or a letter that starts no time belongs to what follows
      | none => cs
    else cs
  | [] => cs

/-- A date, a time of day, or both. -/
def moment : Scanner Unit := fun cs =>
  match date cs with
  | some (_, rest) => some ((), afterDate rest)
  | none => time cs

/-! ## Scalars -/

/-- A point in time, a double or an integer. -/
def numeric : Scanner Scalar := fun cs =>
  -- a date starts like an integer, and so does a double
  match moment cs with
  | some (_, rest) => some (.moment, rest)
  | none =>
    match float cs with
    | some (_, rest) => some (.float, rest)
    | none => (integer cs).map fun (i, rest) => (.integer i, rest)

def scalar : Scanner Scalar
  | 't' :: 'r' :: 'u' :: 'e' :: rest => some (.boolean true, rest)
  | 'f' :: 'a' :: 'l' :: 's' :: 'e' :: rest => some (.boolean false, rest)
  | cs =>
    match text cs with
    | some (s, rest) => some (.text s, rest)
    | none => numeric cs

end Toml
end SymbolIndex
