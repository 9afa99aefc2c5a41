import SymbolIndex.Number.Binary64
import SymbolIndex.Shell.Arithmetic

/-!
# Numbers with decimals in commands

- `Shell.Precision` : how many bits numbers have, and how small and large they can be
- `Shell.Rounded` : a finite number of a precision
- `Shell.Real` : numbers of a precision, infinities and what is no number
- `Shell.Real.scan` : the number at the front of a text
- `Shell.Real.fixed`, `Shell.Real.scientific`, `Shell.Real.general` : its digits in decimal notation
- `Shell.Real.hexadecimal` : its digits to the base sixteen
-/

namespace SymbolIndex
namespace Shell

/-- How many bits a mantissa has, and the least and the largest exponent of its last bit. -/
structure Precision where
  bits : Nat
  least : Int
  most : Int
  deriving DecidableEq, Repr, Inhabited

namespace Precision

def double : Precision :=
  ⟨53, Binary64.minExponent, Binary64.maxExponent⟩

def extended : Precision :=
  ⟨64, -16445, 16320⟩

/-- The exponent at which the integer part of a ratio has all bits, or the least exponent. -/
def exponentFor (p : Precision) (num den : Nat) : Int :=
  -- the two logarithms are off by less than one each, so that this is the exponent or one less
  let e : Int := (num.log2 : Int) - (den.log2 : Int) - p.bits
  let (n, d) := Binary64.shifted num den e
  max p.least (if n / d < Nat.pow 2 p.bits then e else e + 1)

end Precision

/-- A finite number `± mantissa · 2 ^ exponent` of a precision. -/
structure Rounded where
  precision : Precision
  negative : Bool
  mantissa : Nat
  exponent : Int
  deriving DecidableEq, Repr, Inhabited

namespace Rounded

def zero (p : Precision) : Rounded :=
  ⟨p, false, 0, p.least⟩

def isZero (x : Rounded) : Bool :=
  x.mantissa == 0

/-- The non-negative number nearest to a ratio; none if that is beyond the largest one. -/
def nearest? (p : Precision) (num den : Nat) : Option Rounded :=
  if num = 0 then some (zero p)
  else
    let e := p.exponentFor num den
    let (n, d) := Binary64.shifted num den e
    let m := Binary64.roundDiv n d
    -- rounding up may carry into one more bit, in which case all others are zero
    let (m, e) := if m < Nat.pow 2 p.bits then (m, e) else (m / 2, e + 1)
    if e ≤ p.most then some ⟨p, false, m, e⟩ else none

def ratio (x : Rounded) : Nat × Nat :=
  if 0 ≤ x.exponent then (x.mantissa * Nat.pow 2 x.exponent.toNat, 1)
  else (x.mantissa, Nat.pow 2 (-x.exponent).toNat)

end Rounded

inductive Real where
  | finite (x : Rounded)
  | infinite (negative : Bool)
  | notANumber (negative : Bool)
  deriving Inhabited

namespace Real

def isNegative : Real → Bool
  | .finite x => x.negative
  | .infinite negative | .notANumber negative => negative

/-! ## Reading -/

/-- Whether a text starts with a word, whatever the case of its letters. -/
def startsWith (word : String) (cs : List Char) : Bool :=
  (cs.take word.length).map Char.toLower == word.toList

/-- The largest exponent that makes a difference to a number of a few digits. -/
def maxPower : Nat := 20000

/-- The exponent at the front of a text, after one of two letters. One that is larger than `most` is
as good as that. -/
def exponent (most : Nat) (letter : Char) (cs : List Char) : Int × List Char :=
  match cs with
  | c :: rest =>
    if c.toLower == letter then
      let (negative, body) : Bool × List Char :=
        match rest with
        | '-' :: rest => (true, rest)
        | '+' :: rest => (false, rest)
        | rest => (false, rest)
      let digits := body.takeWhile Char.isDigit
      let n : Int := min (digitsValue 10 digits) most
      if digits.isEmpty then (0, cs) else (if negative then -n else n, body.drop digits.length)
    else (0, cs)
  | [] => (0, [])

/-- The digits in front, the number of them behind a point, and the rest. -/
def digitsWithPoint (base : Nat) (cs : List Char) : List Char × Nat × List Char :=
  let whole := cs.takeWhile (isDigitOf base)
  match cs.drop whole.length with
  | '.' :: rest =>
    let part := rest.takeWhile (isDigitOf base)
    if whole.isEmpty && part.isEmpty then ([], 0, cs)
    else (whole ++ part, part.length, rest.drop part.length)
  | rest => (whole, 0, rest)

/-- A number times a power of a base, with a sign; infinite if it is too large. -/
def ofScaled (p : Precision) (negative : Bool) (n base : Nat) (power : Int) : Real :=
  let num := n * Nat.pow base power.toNat
  let den := Nat.pow base (-power).toNat
  match Rounded.nearest? p num den with
  | some x => .finite { x with negative }
  | none => .infinite negative

def isScaled (x : Rounded) (n base : Nat) (power : Int) : Bool :=
  let (num, den) := x.ratio
  num * Nat.pow base (-power).toNat == n * Nat.pow base power.toNat * den

/-- What belongs to a word for no number: letters, digits and lines in parentheses. -/
def payloadLength (cs : List Char) : Nat :=
  match cs with
  | '(' :: rest =>
    let inside := rest.takeWhile fun c => c.isAlphanum || c == '_'
    if (rest.drop inside.length).head? == some ')' then inside.length + 2 else 0
  | _ => 0

structure Scanned where
  value : Real
  rest : List Char
  /-- Whether there is one. -/
  found : Bool
  /-- Whether its size can be told. -/
  fits : Bool

/-- The number of a precision at the front of a text, behind blanks and a sign. -/
def scan (p : Precision) (cs : List Char) : Scanned :=
  let body := cs.dropWhile isSpaceChar
  let (negative, body) : Bool × List Char :=
    match body with
    | '-' :: rest => (true, rest)
    | '+' :: rest => (false, rest)
    | rest => (false, rest)
  if startsWith "infinity" body then ⟨.infinite negative, body.drop 8, true, true⟩
  else if startsWith "inf" body then ⟨.infinite negative, body.drop 3, true, true⟩
  else if startsWith "nan" body then
    ⟨.notANumber negative, body.drop (3 + payloadLength (body.drop 3)), true, true⟩
  else
    let (isHex, digits, places, rest) : Bool × List Char × Nat × List Char :=
      match body with
      | '0' :: x :: more =>
        let (digits, places, rest) := digitsWithPoint 16 more
        if x.toLower == 'x' && !digits.isEmpty then (true, digits, places, rest)
        else (false, digitsWithPoint 10 body)
      | _ => (false, digitsWithPoint 10 body)
    if digits.isEmpty then ⟨.finite (.zero p), cs, false, true⟩
    else
      let (power, rest) := exponent (maxPower + 4 * digits.length) (if isHex then 'p' else 'e') rest
      let n := digitsValue (if isHex then 16 else 10) digits
      let base := if isHex then 2 else 10
      let power := if isHex then power - 4 * places else power - places
      let value := ofScaled p negative n base power
      -- what is too close to zero is known less well
      let fits :=
        match value with
        | .finite x => n == 0 || Nat.pow 2 (p.bits - 1) ≤ x.mantissa || isScaled x n base power
        | _ => false
      ⟨value, rest, true, fits⟩

/-! ## Writing -/

def decimal (n : Nat) : List Char :=
  Nat.toDigits 10 n

/-- Digits with a point in front of the last `places` ones. -/
def withPoint (digits : List Char) (places : Nat) (keepsPoint : Bool) : List Char :=
  let digits := List.replicate (places + 1 - digits.length) '0' ++ digits
  let n := digits.length - places
  digits.take n ++ (if places == 0 && !keepsPoint then [] else '.' :: digits.drop n)

def fixed (x : Rounded) (places : Nat) (keepsPoint : Bool) : List Char :=
  let (num, den) := x.ratio
  withPoint (decimal (Binary64.roundDiv (num * Nat.pow 10 places) den)) places keepsPoint

/-- A ratio divided by a power of ten and rounded. -/
def rounded (num den : Nat) (power : Int) : Nat :=
  Binary64.roundDiv (num * Nat.pow 10 (-power).toNat) (den * Nat.pow 10 power.toNat)

def leadingPower (num den : Nat) : Int :=
  let guess : Int := ((decimal num).length : Int) - ((decimal den).length : Int)
  -- the guess is right or one too large
  if num * Nat.pow 10 (-guess).toNat < den * Nat.pow 10 guess.toNat then guess - 1 else guess

/-- The digits, one in front of the point and `places` behind it, and the power of ten. -/
def scaled (x : Rounded) (places : Nat) : List Char × Int :=
  let (num, den) := x.ratio
  if num = 0 then (List.replicate (places + 1) '0', 0)
  else
    let power := leadingPower num den
    let ds := decimal (rounded num den (power - places))
    if ds.length = places + 2 then (ds.dropLast, power + 1) else (ds, power)

def powerText (power : Int) : List Char :=
  let ds := decimal power.natAbs
  (if power < 0 then '-' else '+') :: (if ds.length < 2 then '0' :: ds else ds)

/-- One digit in front of the point, so many behind it, and a power of ten. -/
def scientific (x : Rounded) (places : Nat) (keepsPoint : Bool) : List Char :=
  let (ds, power) := scaled x places
  withPoint ds places keepsPoint ++ 'e' :: powerText power

/-- Hexadecimal digits behind `0x`, as many behind the point as asked for or as it takes, and a
power of two. -/
def hexadecimal (x : Rounded) (places : Option Nat) (keepsPoint : Bool) : List Char :=
  let most := (x.precision.bits - 1) / 4
  let kept := min (places.getD most) most
  let n := Binary64.roundDiv x.mantissa (Nat.pow 16 (most - kept))
  let behind := Nat.toDigits 16 (n % Nat.pow 16 kept)
  let behind := if kept = 0 then [] else List.replicate (kept - behind.length) '0' ++ behind
  let behind :=
    match places with
    | none => (behind.reverse.dropWhile (· == '0')).reverse
    | some p => behind ++ List.replicate (p - kept) '0'
  let power : Int := if x.isZero then 0 else x.exponent + 4 * most
  Nat.toDigits 16 (n / Nat.pow 16 kept) ++
    (if behind.isEmpty && !keepsPoint then [] else '.' :: behind) ++
    'p' :: (if power < 0 then '-' else '+') :: decimal power.natAbs

/-- Digits without zeros at the end, and without a point that nothing follows. -/
def stripZeros (cs : List Char) : List Char :=
  if cs.contains '.' then
    ((cs.reverse.dropWhile (· == '0')).dropWhile (· == '.')).reverse
  else cs

/-- So many digits, with a power of ten if the number is very small or large. -/
def general (x : Rounded) (precision : Nat) (keepsZeros : Bool) : List Char :=
  let p := max precision 1
  let (ds, power) := scaled x (p - 1)
  let strip (cs : List Char) : List Char := if keepsZeros then cs else stripZeros cs
  if -4 ≤ power && power < p then strip (fixed x ((p : Int) - 1 - power).toNat keepsZeros)
  else strip (withPoint ds (p - 1) keepsZeros) ++ 'e' :: powerText power

end Real
end Shell
end SymbolIndex
