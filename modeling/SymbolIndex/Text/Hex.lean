/-!
# Hexadecimal bytes

Two lowercase hexadecimal digits a byte.

- `Hex.encode`, `Hex.decode?`
-/

namespace SymbolIndex
namespace Hex

/-- The lowercase digit of a number below sixteen. -/
def digit (n : Nat) : Char :=
  if n < 10 then Char.ofNat (0x30 + n) else Char.ofNat (0x57 + n)

/-- The number that a digit of either case stands for. -/
def digit? (c : Char) : Option Nat :=
  let n := c.toNat
  if 0x30 ≤ n && n ≤ 0x39 then some (n - 0x30)
  else if 0x61 ≤ n && n ≤ 0x66 then some (n - 0x57)
  else if 0x41 ≤ n && n ≤ 0x46 then some (n - 0x37)
  else none

def byte (b : UInt8) : List Char :=
  [digit (b.toNat / 16), digit (b.toNat % 16)]

def encode (bytes : List UInt8) : String :=
  String.ofList (bytes.flatMap byte)

def decodeChars? : List Char → Option (List UInt8)
  | [] => some []
  | [_] => none
  | a :: b :: rest =>
    match digit? a, digit? b, decodeChars? rest with
    | some x, some y, some bytes => some (UInt8.ofNat (16 * x + y) :: bytes)
    | _, _, _ => none

/-- The bytes that the text spells, if it consists of pairs of hexadecimal digits. -/
def decode? (s : String) : Option (List UInt8) :=
  decodeChars? s.toList

end Hex
end SymbolIndex
