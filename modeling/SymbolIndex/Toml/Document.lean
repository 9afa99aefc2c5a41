import SymbolIndex.Sorted.Table
import SymbolIndex.Toml.Scalar

/-!
# Settings files

A settings file consists of tables, each opened by a header and filled by entries. Keys may be
dotted, in which case they reach into tables of their own.

- `Toml.Value` : scalars, arrays and tables
- `Toml.Item` : what a key stands for while the file is being read
- `Toml.Item.reach` : changes the table that a dotted key leads to
- `Toml.Progress` : the tables so far
- `Toml.read` : the table that a text holds, or nothing if it is no settings file
-/

namespace SymbolIndex
namespace Toml

/-- A value of a settings file. -/
inductive Value where
  | scalar (s : Scalar)
  | array (items : List Value)
  | table (entries : List (String × Value))
  deriving Inhabited

/-! ## Tables under construction -/

/-- What a key stands for while the file is being read. -/
inductive Item where
  | value (v : Value)
  /-- A table is implied while no header of its own has been seen, and dotted if a dotted key made
  it. -/
  | table (implied dotted : Bool) (entries : List (String × Item))
  /-- Tables that share a header, newest first. -/
  | tables (elements : List (List (String × Item)))
  deriving Inhabited

mutual

def Item.finish : Item → Value
  | .value v => v
  | .table _ _ entries => .table (finishEntries entries)
  | .tables elements => .array (finishAll elements).reverse

def finishEntries : List (String × Item) → List (String × Value)
  | [] => []
  | (k, i) :: rest => (k, i.finish) :: finishEntries rest

def finishAll : List (List (String × Item)) → List Value
  | [] => []
  | entries :: rest => .table (finishEntries entries) :: finishAll rest

end

/-- A change of a table, given its marks and its entries; nothing if it is not allowed. -/
abbrev Change := Bool → Bool → List (String × Item) → Option Item

/-- Changes the table that the keys lead to. Missing tables are implied; those that a dotted key
implies are dotted. A dotted key must not enter a table with a header of its own, and of tables that
share a header the newest is entered. -/
def Item.reach (viaDots : Bool) (change : Change) : List String → Item → Option Item
  | [], .table implied dotted entries => change implied dotted entries
  | k :: ks, .table implied dotted entries =>
    let set (child : Item) : Item := .table implied dotted (Assoc.insert k child entries)
    match Assoc.find? k entries with
    | none => (Item.reach viaDots change ks (.table true viaDots [])).map set
    | some (.value _) => none
    | some (.tables []) => none
    | some (.tables (newest :: older)) =>
      -- the tables that share a header have headers of their own, all of them
      match Item.reach viaDots change ks (.table false false newest) with
      | some (.table _ _ newest) => some (set (.tables (newest :: older)))
      | _ => none
    | some (.table childImplied childDotted childEntries) =>
      if viaDots && !childImplied then none
      else (Item.reach viaDots change ks (.table childImplied childDotted childEntries)).map set
  | _, _ => none

/-- Adds an entry under a key, the last part of which must be new. A plain key belongs to a table
with a header, a dotted key to tables that dotted keys made. -/
def addEntry (path : List String) (last : String) (v : Value) (table : Item) : Option Item :=
  Item.reach true
    (fun implied dotted entries =>
      -- dotted keys must not add to what a header opened, nor plain keys to what dotted keys made
      if dotted == path.isEmpty || (Assoc.find? last entries).isSome then none
      else some (.table implied dotted (Assoc.insert last (.value v) entries)))
    path table

/-- Opens the table of a header. It must be new, or implied by another header. -/
def openTable (path : List String) (last : String) (root : Item) : Option Item :=
  Item.reach false
    (fun implied dotted entries =>
      let set (i : Item) : Option Item := some (.table implied dotted (Assoc.insert last i entries))
      match Assoc.find? last entries with
      | none => set (.table false false [])
      -- a header that comes after those of its inner tables
      | some (.table true false inner) => set (.table false false inner)
      | some _ => none)
    path root

/-- Opens one more of the tables that share a header. -/
def openElement (path : List String) (last : String) (root : Item) : Option Item :=
  Item.reach false
    (fun implied dotted entries =>
      let set (i : Item) : Option Item := some (.table implied dotted (Assoc.insert last i entries))
      match Assoc.find? last entries with
      | none => set (.tables [[]])
      | some (.tables older) => set (.tables ([] :: older))
      | some _ => none)
    path root

/-- Splits a dotted key into the tables on its way and its last part. -/
def splitKey (keys : List String) : Option (List String × String) :=
  keys.getLast?.map fun last => (keys.dropLast, last)

/-! ## Keys -/

/-- The length that a dotted key must not reach. -/
def maxKeyLength : Nat := 80

/-- A character of a key without quotes. -/
def isBare (c : Char) : Bool :=
  ('a' ≤ c && c ≤ 'z') || ('A' ≤ c && c ≤ 'Z') || ('0' ≤ c && c ≤ '9') || c == '_' || c == '-'

def simpleKey : Scanner String
  | '"' :: rest => basic [] rest
  | '\'' :: rest => literal [] rest
  | cs =>
    match cs.takeWhile isBare with
    | [] => none
    | name => some (String.ofList name, cs.dropWhile isBare)

/-- The parts of a key, divided by dots; blanks around them do not count. -/
def keyParts : Nat → Scanner (List String)
  | 0, _ => none
  | fuel + 1, cs =>
    (simpleKey (skipSpaces cs)).bind fun (name, rest) =>
      match skipSpaces rest with
      | '.' :: rest => (keyParts fuel rest).map fun (names, rest) => (name :: names, rest)
      | rest => some ([name], rest)

def key : Scanner (List String) :=
  keyParts (maxKeyLength - 1)

/-- A key, an equals sign and a value. -/
def entry (value : Scanner Value) : Scanner (List String × Value) := fun cs => do
  let (keys, cs) ← key cs
  let cs ← expect '=' cs
  let (v, cs) ← value (skipSpaces cs)
  return ((keys, v), cs)

/-! ## Comments and line ends -/

def isComment (c : Char) : Bool :=
  isPrintable c

def skipComment : List Char → List Char
  | '#' :: rest => rest.dropWhile isComment
  | cs => cs

/-- The rest after the end of a line, before which blanks and a comment may stand. -/
def lineEnd? (cs : List Char) : Option (List Char) :=
  match skipComment (skipSpaces cs) with
  | [] => some []
  | cs => newline? cs

/-- The characters after blanks, comments and line ends, at most `fuel` of them. -/
def skipBlank : Nat → List Char → List Char
  | 0, cs => cs
  | fuel + 1, cs =>
    match skipComment (skipSpaces cs) with
    | [] => []
    | cs =>
      match newline? cs with
      | some rest => skipBlank fuel rest
      | none => cs

/-! ## Values -/

/-- The elements of an array up to the closing bracket; a comma may follow the last one. Elements
are kept newest first. -/
def elements (value : Scanner Value) : Nat → List Value → Scanner (List Value)
  | 0, _, _ => none
  | fuel + 1, acc, cs =>
    match skipBlank cs.length cs with
    -- nothing was opened, or a comma stands before the bracket
    | ']' :: rest => some (acc.reverse, rest)
    | cs =>
      (value cs).bind fun (v, rest) =>
        match skipBlank rest.length rest with
        | ',' :: rest => elements value fuel (v :: acc) rest
        | ']' :: rest => some ((v :: acc).reverse, rest)
        | _ => none

/-- The entries of a table in braces up to the closing brace, after the first has been announced. -/
def members (value : Scanner Value) : Nat → Item → Scanner Item
  | 0, _, _ => none
  | fuel + 1, table, cs =>
    (entry value cs).bind fun ((keys, v), rest) =>
      (splitKey keys).bind fun (path, last) =>
        (addEntry path last v table).bind fun table =>
          match skipSpaces rest with
          | ',' :: rest => members value fuel table rest
          | '\x7d' :: rest => some (table, rest)
          | _ => none

/-- A table in braces, after the opening brace. -/
def inlineTable (value : Scanner Value) : Scanner Value := fun cs =>
  match skipSpaces cs with
  | '\x7d' :: rest => some (.table [], rest)
  | cs =>
    (members value (cs.length + 1) (.table true false []) cs).map fun (t, rest) => (t.finish, rest)

/-- How deep arrays and tables in braces may be nested. -/
def maxNesting : Nat := 79

/-- A value in which arrays and tables in braces are nested at most as deep as given. -/
def value : Nat → Scanner Value
  | 0, cs => (scalar cs).map fun (s, rest) => (.scalar s, rest)
  | depth + 1, cs =>
    match cs with
    | '[' :: rest =>
      (elements (value depth) (rest.length + 1) [] rest).map fun (vs, r) => (.array vs, r)
    | '\x7b' :: rest => inlineTable (value depth) rest
    | _ => (scalar cs).map fun (s, rest) => (.scalar s, rest)

/-! ## Files -/

/-- The tables so far, and the key of the one that is being filled. -/
structure Progress where
  root : Item
  path : List String

namespace Progress

def start : Progress :=
  ⟨.table false false [], []⟩

def add (p : Progress) (keys : List String) (v : Value) : Option Progress := do
  let (path, last) ← splitKey keys
  let root ← Item.reach false
    (fun implied dotted entries => addEntry path last v (.table implied dotted entries))
      p.path p.root
  return { p with root }

def enter (p : Progress) (keys : List String)
    (opening : List String → String → Item → Option Item) : Option Progress := do
  let (path, last) ← splitKey keys
  let root ← opening path last p.root
  return ⟨root, keys⟩

end Progress

def lines : Nat → Progress → List Char → Option Item
  | 0, _, _ => none
  | fuel + 1, p, cs =>
    match skipSpaces cs with
    | [] => some p.root
    | '[' :: '[' :: rest => do
      let (keys, rest) ← key rest
      let rest ← expect ']' rest
      let rest ← expect ']' rest
      let rest ← lineEnd? rest
      let p ← p.enter keys openElement
      lines fuel p rest
    | '[' :: rest => do
      let (keys, rest) ← key rest
      let rest ← expect ']' rest
      let rest ← lineEnd? rest
      let p ← p.enter keys openTable
      lines fuel p rest
    | c :: rest =>
      if c == '#' || c == '\n' || c == '\r' then
        (lineEnd? (c :: rest)).bind fun rest => lines fuel p rest
      else do
        let ((keys, v), rest) ← entry (value maxNesting) (c :: rest)
        let rest ← lineEnd? rest
        let p ← p.add keys v
        lines fuel p rest

/-- The characters without a byte order mark in front of them. -/
def dropMark : List Char → List Char
  | '\ufeff' :: rest => rest
  | cs => cs

/-- The table that a text holds, or nothing if it is no settings file. -/
def read (text : String) : Option Value :=
  let cs := dropMark text.toList
  (lines (cs.length + 1) .start cs).map Item.finish

end Toml
end SymbolIndex
