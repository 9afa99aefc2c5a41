import SymbolIndex.Text.Utf8

/-!
# Bytes as text

A text whose characters all lie below 256 stands for bytes, one for each character. Programs that
count and compare bytes work on such texts.

- `Octets.ofBytes`, `Octets.toBytes` : from and to bytes
- `Octets.ofText`, `Octets.toText` : from and to the text that the bytes encode
-/

namespace SymbolIndex
namespace Octets

def ofByte (b : UInt8) : Char :=
  Char.ofNat b.toNat

def toByte (c : Char) : UInt8 :=
  UInt8.ofNat c.toNat

def ofBytes (bytes : List UInt8) : String :=
  String.ofList (bytes.map ofByte)

def toBytes (s : String) : List UInt8 :=
  s.toList.map toByte

/-- A character for each byte of the UTF-8 form of a text. -/
def ofText (s : String) : String :=
  ofBytes (Utf8.encode s)

/-- The text whose UTF-8 form the characters stand for. -/
def toText (s : String) : String :=
  Utf8.decodeLossy (toBytes s)

end Octets
end SymbolIndex
