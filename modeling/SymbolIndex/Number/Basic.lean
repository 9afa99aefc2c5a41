import SymbolIndex.Number.Binary64

/-!
# Numbers of a document

A number is an integer between `-2 ^ 63` and `2 ^ 64 - 1`, kept exactly, or a double.

- `Number` : the two kinds
- `Number.ofInteger?` : what an integer literal stands for
- `Number.ofDecimal?` : what a literal with a fraction or an exponent stands for
-/

namespace SymbolIndex

/-- A number as a document holds it. -/
inductive Number where
  | int (value : Int)
  | real (value : Binary64)
  deriving DecidableEq, Repr, Inhabited

namespace Number

/-- The largest integer that is kept exactly, `2 ^ 64 - 1`. -/
def maxInt : Nat := 18446744073709551615

/-- The magnitude of the least integer that is kept exactly, `2 ^ 63`. -/
def minIntSize : Nat := 9223372036854775808

/-- The significand times a power of ten; none if it is too large for a double. -/
def ofDecimal? (negative : Bool) (significand : Nat) (power : Int) : Option Number :=
  ((Binary64.ofNat? significand).bind (Binary64.scale10? · power)).map fun x =>
    .real { x with negative := negative }

/-- An integer literal: exact if it is small enough, else the nearest double. Zero with a minus sign
is the double zero of that sign. -/
def ofInteger? (negative : Bool) (significand : Nat) : Option Number :=
  if !negative then
    if significand ≤ maxInt then some (.int significand) else ofDecimal? false significand 0
  else if significand = 0 then some (.real (.zero true))
  else if significand ≤ minIntSize then some (.int (-(significand : Int)))
  else ofDecimal? true significand 0

end Number
end SymbolIndex
