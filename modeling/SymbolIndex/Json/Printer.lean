import SymbolIndex.Json.Basic
import SymbolIndex.Number.Shortest
import SymbolIndex.Text.Hex

/-!
# Documents as text

- `Layout` : on one line, or with one member a line
- `Json.write` : the characters of a value in front of further characters
- `Json.compact`, `Json.pretty` : the text of a value
-/

namespace SymbolIndex

/-- How members are laid out: all on one line, or each on a line of its own, indented by a number of
spaces for each level. -/
inductive Layout where
  | oneLine
  | indented (width : Nat)
  deriving DecidableEq, Repr

namespace Layout

/-- What stands before a member or a closing bracket at a level. -/
def lineBreak (layout : Layout) (level : Nat) (rest : List Char) : List Char :=
  match layout with
  | .oneLine => rest
  | .indented width => '\n' :: (List.replicate (width * level) ' ' ++ rest)

def colon (layout : Layout) (rest : List Char) : List Char :=
  match layout with
  | .oneLine => ':' :: rest
  | .indented _ => ':' :: ' ' :: rest

end Layout

namespace Json

/-! ## Scalars -/

/-- One character inside a text: quotes, backslashes and control characters are escaped. -/
def escape (c : Char) : List Char :=
  match c with
  | '"' => ['\\', '"']
  | '\\' => ['\\', '\\']
  | '\x08' => ['\\', 'b']
  | '\x0c' => ['\\', 'f']
  | '\n' => ['\\', 'n']
  | '\r' => ['\\', 'r']
  | '\t' => ['\\', 't']
  | _ =>
    if c.toNat < 0x20 then
      ['\\', 'u', '0', '0', Hex.digit (c.toNat / 16), Hex.digit (c.toNat % 16)]
    else [c]

def escapeAll : List Char → List Char → List Char
  | [], rest => rest
  | c :: cs, rest => escape c ++ escapeAll cs rest

def writeString (s : String) (rest : List Char) : List Char :=
  '"' :: escapeAll s.toList ('"' :: rest)

def integer (i : Int) : List Char :=
  if i < 0 then '-' :: Nat.toDigits 10 i.natAbs else Nat.toDigits 10 i.natAbs

def number : Number → List Char
  | .int i => integer i
  | .real x => x.text

/-! ## Values -/

mutual

/-- The text of a value that opened at a level, followed by `rest`. -/
def write (layout : Layout) (level : Nat) : Json → List Char → List Char
  | .null, rest => 'n' :: 'u' :: 'l' :: 'l' :: rest
  | .bool true, rest => 't' :: 'r' :: 'u' :: 'e' :: rest
  | .bool false, rest => 'f' :: 'a' :: 'l' :: 's' :: 'e' :: rest
  | .num n, rest => number n ++ rest
  | .str s, rest => writeString s rest
  | .arr [], rest => '[' :: ']' :: rest
  | .arr (x :: xs), rest =>
    '[' :: layout.lineBreak (level + 1) (write layout (level + 1) x
      (writeItems layout (level + 1) xs (layout.lineBreak level (']' :: rest))))
  | .obj [], rest => '\x7b' :: '\x7d' :: rest
  | .obj ((k, v) :: fields), rest =>
    '\x7b' :: layout.lineBreak (level + 1) (writeString k (layout.colon (write layout (level + 1) v
      (writeFields layout (level + 1) fields (layout.lineBreak level ('\x7d' :: rest))))))

/-- The further elements of an array, each after a comma. -/
def writeItems (layout : Layout) (level : Nat) : List Json → List Char → List Char
  | [], rest => rest
  | x :: xs, rest =>
    ',' :: layout.lineBreak level (write layout level x (writeItems layout level xs rest))

/-- The further fields of an object, each after a comma. -/
def writeFields (layout : Layout) (level : Nat) : List (String × Json) → List Char → List Char
  | [], rest => rest
  | (k, v) :: fields, rest =>
    ',' :: layout.lineBreak level (writeString k (layout.colon (write layout level v
      (writeFields layout level fields rest))))

end

def render (layout : Layout) (v : Json) : String :=
  String.ofList (v.write layout 0 [])

def compact (v : Json) : String :=
  v.render .oneLine

/-- The text of a value with one member a line, indented by `width` a level. -/
def pretty (width : Nat) (v : Json) : String :=
  v.render (.indented width)

end Json
end SymbolIndex
