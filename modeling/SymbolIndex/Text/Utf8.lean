/-!
# Text as bytes

- `Utf8.encode` : the bytes of a text
- `Utf8.decode?` : the text of well-formed bytes
- `Utf8.soundLength` : how many bytes precede the first ill-formed part
- `Utf8.decodeLossy` : the text of any bytes, with a replacement character for each ill-formed part
-/

namespace SymbolIndex
namespace Utf8

def encode (s : String) : List UInt8 :=
  s.toUTF8.data.toList

def decode? (bytes : List UInt8) : Option String :=
  String.fromUTF8? ⟨bytes.toArray⟩

/-! ## Ill-formed bytes

A sequence starts with a lead byte, which fixes its length and the range of the byte after it; all
further bytes are continuation bytes. An ill-formed part is the longest start of a sequence that the
bytes hold, or one byte that starts none. -/

/-- How a lead byte goes on: the number of continuation bytes and the range of the first of them. -/
structure Lead where
  more : Nat
  low : UInt8
  high : UInt8

/-- What a byte promises as the start of a sequence of two or more bytes. -/
def lead? (b : UInt8) : Option Lead :=
  if 0xC2 ≤ b && b ≤ 0xDF then some ⟨1, 0x80, 0xBF⟩
  -- no longer than needed
  else if b == 0xE0 then some ⟨2, 0xA0, 0xBF⟩
  -- no halves of pairs
  else if b == 0xED then some ⟨2, 0x80, 0x9F⟩
  else if 0xE1 ≤ b && b ≤ 0xEF then some ⟨2, 0x80, 0xBF⟩
  else if b == 0xF0 then some ⟨3, 0x90, 0xBF⟩
  -- nothing above `0x10FFFF`
  else if b == 0xF4 then some ⟨3, 0x80, 0x8F⟩
  else if 0xF1 ≤ b && b ≤ 0xF3 then some ⟨3, 0x80, 0xBF⟩
  else none

/-- A sequence that has begun: the value so far and what is still to come. -/
structure Pending where
  value : Nat
  more : Nat
  low : UInt8
  high : UInt8

/-- The value of a lead byte without its length bits. -/
def leadValue (b : UInt8) (more : Nat) : Nat :=
  b.toNat % Nat.pow 2 (6 - more)

/-- One byte outside a sequence: it is a character, opens a sequence, or is replaced. -/
def begin (acc : List Char) (b : UInt8) : List Char × Option Pending :=
  if b < 0x80 then (Char.ofNat b.toNat :: acc, none)
  else
    match lead? b with
    | some l => (acc, some ⟨leadValue b l.more, l.more, l.low, l.high⟩)
    | none => ('�' :: acc, none)

/-- Decodes the bytes, newest character first. -/
def decodeFrom (acc : List Char) : Option Pending → List UInt8 → List Char
  | none, [] => acc
  | some _, [] => '�' :: acc
  | none, b :: rest =>
    let (acc, pending) := begin acc b
    decodeFrom acc pending rest
  | some p, b :: rest =>
    if p.low ≤ b && b ≤ p.high then
      let value := 64 * p.value + b.toNat % 64
      if p.more ≤ 1 then decodeFrom (Char.ofNat value :: acc) none rest
      else decodeFrom acc (some ⟨value, p.more - 1, 0x80, 0xBF⟩) rest
    else
      -- the byte is no part of the sequence and may start one of its own
      let (acc, pending) := begin ('�' :: acc) b
      decodeFrom acc pending rest

/-- The number of bytes in front of the first ill-formed part. `good` bytes are known to be
well-formed and `total` bytes have been read. -/
def soundFrom (good total : Nat) : Option Pending → List UInt8 → Nat
  | none, [] => total
  | some _, [] => good
  | none, b :: rest =>
    if b < 0x80 then soundFrom (total + 1) (total + 1) none rest
    else
      match lead? b with
      | some l =>
        soundFrom total (total + 1) (some ⟨leadValue b l.more, l.more, l.low, l.high⟩) rest
      | none => total
  | some p, b :: rest =>
    if p.low ≤ b && b ≤ p.high then
      if p.more ≤ 1 then soundFrom (total + 1) (total + 1) none rest
      else soundFrom good (total + 1) (some ⟨0, p.more - 1, 0x80, 0xBF⟩) rest
    else good

/-- The length of the longest well-formed start of the bytes. -/
def soundLength (bytes : List UInt8) : Nat :=
  soundFrom 0 0 none bytes

/-- The text of any bytes, each ill-formed part replaced by U+FFFD. -/
def decodeLossy (bytes : List UInt8) : String :=
  String.ofList (decodeFrom [] none bytes).reverse

end Utf8
end SymbolIndex
