/-!
# Double precision numbers

Finite numbers `± mantissa · 2 ^ exponent` with 53 bits of mantissa, in exact integer arithmetic.

- `Binary64` : sign, mantissa and exponent
- `nearest?` : the magnitude closest to a ratio, a half going to the even mantissa
- `ofNat?`, `mul?`, `div?` : each rounds once
- `scale10?` : a number times a power of ten, one rounding for each factor
-/

namespace SymbolIndex

/-- A finite double precision number. A mantissa below `2 ^ 52` occurs with the least exponent
only. -/
structure Binary64 where
  negative : Bool
  mantissa : Nat
  exponent : Int
  deriving DecidableEq, Repr, Inhabited

namespace Binary64

/-- The least exponent of a mantissa. -/
def minExponent : Int := -1074

/-- The largest exponent of a mantissa. -/
def maxExponent : Int := 971

def zero (negative : Bool) : Binary64 :=
  ⟨negative, 0, minExponent⟩

/-- Whether the number is zero, of either sign. -/
def isZero (x : Binary64) : Bool :=
  x.mantissa == 0

def neg (x : Binary64) : Binary64 :=
  { x with negative := !x.negative }

/-! ## Rounding -/

/-- The ratio `num / den` divided by `2 ^ e`, as a ratio. -/
def shifted (num den : Nat) (e : Int) : Nat × Nat :=
  if 0 ≤ e then (num, den * Nat.pow 2 e.toNat) else (num * Nat.pow 2 (-e).toNat, den)

/-- The quotient rounded to the nearest integer, a half going to the even one. -/
def roundDiv (num den : Nat) : Nat :=
  let q := num / den
  let r := num % den
  if 2 * r < den then q
  else if den < 2 * r then q + 1
  else q + q % 2

/-- The exponent at which the integer part of `num / den` has 53 bits, or the least exponent. -/
def exponentFor (num den : Nat) : Int :=
  -- the two logarithms are off by less than one each, so that this is the exponent or one less
  let e : Int := (num.log2 : Int) - (den.log2 : Int) - 53
  let (n, d) := shifted num den e
  max minExponent (if n / d < Nat.pow 2 53 then e else e + 1)

/-- The non-negative number nearest to `num / den`; none if that is beyond the largest one. -/
def nearest? (num den : Nat) : Option Binary64 :=
  if num = 0 then some (zero false)
  else
    let e := exponentFor num den
    let (n, d) := shifted num den e
    let m := roundDiv n d
    -- rounding up may carry into a 54th bit, in which case all others are zero
    let (m, e) := if m < Nat.pow 2 53 then (m, e) else (m / 2, e + 1)
    if e ≤ maxExponent then some ⟨false, m, e⟩ else none

def ratio (x : Binary64) : Nat × Nat :=
  if 0 ≤ x.exponent then (x.mantissa * Nat.pow 2 x.exponent.toNat, 1)
  else (x.mantissa, Nat.pow 2 (-x.exponent).toNat)

/-! ## Operations -/

def ofNat? (n : Nat) : Option Binary64 :=
  nearest? n 1

/-- The product of two magnitudes, rounded; none if it is too large. -/
def mul? (x y : Binary64) : Option Binary64 :=
  let (a, b) := x.ratio
  let (c, d) := y.ratio
  nearest? (a * c) (b * d)

/-- The quotient of two magnitudes, rounded; none if it is too large. -/
def div? (x y : Binary64) : Option Binary64 :=
  let (a, b) := x.ratio
  let (c, d) := y.ratio
  nearest? (a * d) (b * c)

/-! ## Powers of ten -/

/-- The largest power of ten that is a finite number. -/
def maxPower : Nat := 308

/-- Divides `steps` times by the largest power of ten, or until nothing is left. -/
def shrink : Nat → Binary64 → Option Binary64
  | 0, x => some x
  | steps + 1, x =>
    if x.isZero then some x
    else
      match (ofNat? (Nat.pow 10 maxPower)).bind x.div? with
      | some y => shrink steps y
      | none => none

/-- The magnitude of `x` times `10 ^ power`. The factor is itself rounded, and a factor below
`10 ^ -308` is taken in several steps, each of which rounds; none if the result is too large. -/
def scale10? (x : Binary64) (power : Int) : Option Binary64 :=
  let size := power.natAbs
  if size ≤ maxPower then
    (ofNat? (Nat.pow 10 size)).bind fun factor => if 0 ≤ power then x.mul? factor else x.div? factor
  else if x.isZero then some x
  else if 0 ≤ power then none
  else
    let steps := (size - 1) / maxPower
    (shrink steps x).bind fun y =>
      if y.isZero then some y
      else (ofNat? (Nat.pow 10 (size - steps * maxPower))).bind y.div?

end Binary64
end SymbolIndex
