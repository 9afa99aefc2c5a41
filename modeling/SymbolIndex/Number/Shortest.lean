import SymbolIndex.Number.Binary64

/-!
# Shortest decimals

The decimal with the fewest digits that rounds to a given double, and of those the nearest.

- `Decimal` : a significand and a power of ten
- `Decimal.shortest` : the decimal of a positive double
- `Decimal.plain`, `Decimal.scientific` : its two layouts
- `Binary64.text` : doubles in documents
-/

namespace SymbolIndex

/-- The number `significand · 10 ^ power`. -/
structure Decimal where
  significand : Nat
  power : Int
  deriving DecidableEq, Repr, Inhabited

namespace Decimal

/-! ## Search -/

/-- An interval of ratios over one denominator, with a point in it. The ends belong to the interval
when it is closed. -/
structure Target where
  low : Nat
  point : Nat
  high : Nat
  den : Nat
  closed : Bool

/-- The decimals that round to a positive double. The gap below a power of two is half as wide as
the one above it. -/
def Target.ofBinary64 (x : Binary64) : Target :=
  -- in quarters of a unit in the last place, so that both ends are whole
  let e := x.exponent - 2
  let factor := if 0 ≤ e then Nat.pow 2 e.toNat else 1
  let den := if 0 ≤ e then 1 else Nat.pow 2 (-e).toNat
  let below := if x.mantissa = Nat.pow 2 52 ∧ Binary64.minExponent < x.exponent then 1 else 2
  { low := (4 * x.mantissa - below) * factor
    point := 4 * x.mantissa * factor
    high := (4 * x.mantissa + 2) * factor
    den := den
    closed := x.mantissa % 2 == 0 }

def digitCount (n : Nat) : Nat :=
  (Nat.toDigits 10 n).length

/-- The power of ten of the leading digit of `num / den`. -/
def leadingPower (num den : Nat) : Int :=
  if den ≤ num then (digitCount (num / den) : Int) - 1
  else -(digitCount ((den + num - 1) / num - 1) : Int)

/-- The factors that bring a decimal with this power of ten and a ratio over `den` to one
denominator: the first for the significand, the second for the numerator. -/
def scaling (den : Nat) (power : Int) : Nat × Nat :=
  if 0 ≤ power then (den * Nat.pow 10 power.toNat, 1) else (den, Nat.pow 10 (-power).toNat)

def Target.holds (t : Target) (power : Int) (significand : Nat) : Bool :=
  let (a, b) := scaling t.den power
  let v := significand * a
  if t.closed then t.low * b ≤ v && v ≤ t.high * b else t.low * b < v && v < t.high * b

/-- The best decimal with this power of ten, if one of the two neighbours of the point lies in the
interval: the nearer one, or the even one of two equally near. -/
def Target.onGrid? (t : Target) (power : Int) : Option Nat :=
  let (a, b) := scaling t.den power
  let below := t.point * b / a
  let rest := t.point * b % a
  -- if any point of the grid lies in the interval, then so does one of these two
  match t.holds power below, t.holds power (below + 1) with
  | true, true =>
    if 2 * rest < a then some below
    else if a < 2 * rest then some (below + 1)
    else some (below + below % 2)
  | true, false => some below
  | false, true => some (below + 1)
  | false, false => none

/-- Searches the grids from `power` down, for at most `fuel` steps. -/
def Target.search (t : Target) : Nat → Int → Decimal
  | 0, power => ⟨t.point * (scaling t.den power).2 / (scaling t.den power).1, power⟩
  | fuel + 1, power =>
    match t.onGrid? power with
    | some significand => ⟨significand, power⟩
    | none => t.search fuel (power - 1)

/-- Moves trailing zeros of the significand into the power of ten. -/
def stripZeros : Nat → Decimal → Decimal
  | 0, d => d
  | fuel + 1, d =>
    if d.significand ≠ 0 ∧ d.significand % 10 = 0 then
      stripZeros fuel ⟨d.significand / 10, d.power + 1⟩
    else d

/-- The shortest decimal that rounds to a positive double, without trailing zeros. Seventeen digits
always suffice. -/
def shortest (x : Binary64) : Decimal :=
  let t := Target.ofBinary64 x
  let d := t.search 17 (leadingPower t.point t.den)
  stripZeros (digitCount d.significand) d

/-! ## Layout -/

def digits (d : Decimal) : List Char :=
  Nat.toDigits 10 d.significand

/-- The power of ten of the leading digit. -/
def leading (d : Decimal) : Int :=
  d.power + d.digits.length - 1

/-- Positional notation with at least one decimal. -/
def plain (d : Decimal) : List Char :=
  let ds := d.digits
  if d.leading < 0 then
    '0' :: '.' :: (List.replicate (-d.leading - 1).toNat '0' ++ ds)
  else
    let whole := d.leading.toNat + 1
    if ds.length ≤ whole then ds ++ List.replicate (whole - ds.length) '0' ++ ['.', '0']
    else ds.take whole ++ '.' :: ds.drop whole

/-- One digit before the point, and a signed power of ten. -/
def scientific (d : Decimal) : List Char :=
  let p := d.leading
  let exponent := (if p < 0 then '-' else '+') :: Nat.toDigits 10 p.natAbs
  match d.digits with
  | [] => 'e' :: exponent
  | [c] => c :: 'e' :: exponent
  | c :: cs => c :: '.' :: cs ++ 'e' :: exponent

end Decimal

namespace Binary64

def signed (x : Binary64) (magnitude : List Char) : List Char :=
  if x.negative then '-' :: magnitude else magnitude

/-- Doubles in documents are positional while the leading digit stands between `10 ^ -5` and
`10 ^ 15`, and scientific beyond. -/
def text (x : Binary64) : List Char :=
  if x.isZero then x.signed ['0', '.', '0']
  else
    let d := Decimal.shortest x
    x.signed (if -5 ≤ d.leading ∧ d.leading ≤ 15 then d.plain else d.scientific)

end Binary64
end SymbolIndex
