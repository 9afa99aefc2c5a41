import SymbolIndex.Record.Message
import SymbolIndex.Text.Quoted

/-!
# Records out of documents

- `DecodeFault` : why a document is not the record that is wanted
- `Decode.record` : a record by name or by position
- `Summary.decode`, `Request.decode`, `Response.decode`
-/

namespace SymbolIndex

/-- Why a document is not the record that is wanted. -/
inductive DecodeFault where
  | missingField (name : String)
  | invalidType (found : Json) (expected : String)
  | invalidValue (found : Json) (expected : String)
  | invalidLength (length : Nat) (expected : String)

namespace DecodeFault

def describe : Json → String
  | .null => "null"
  | .bool b => "boolean `" ++ (if b then "true" else "false") ++ "`"
  | .num (.int i) => "integer `" ++ String.ofList (Json.integer i) ++ "`"
  | .num (.real x) => "floating point `" ++ String.ofList x.text ++ "`"
  | .str s => "string " ++ Text.quoted s
  | .arr _ => "sequence"
  | .obj _ => "map"

def message : DecodeFault → String
  | .missingField name => "missing field `" ++ name ++ "`"
  | .invalidType found expected => "invalid type: " ++ describe found ++ ", expected " ++ expected
  | .invalidValue found expected => "invalid value: " ++ describe found ++ ", expected " ++ expected
  | .invalidLength length expected =>
    "invalid length " ++ toString length ++ ", expected " ++ expected

end DecodeFault

/-- A value out of a document. -/
abbrev Decode (α : Type) := Json → Except DecodeFault α

namespace Decode

/-! ## Parts -/

def text : Decode String
  | .str s => .ok s
  | v => .error (.invalidType v "a string")

/-- A text, or null if it is missing. -/
def optionalText : Decode (Option String)
  | .null => .ok none
  | v => (text v).map some

def bool : Decode Bool
  | .bool b => .ok b
  | v => .error (.invalidType v "a boolean")

/-- A number that is not negative. -/
def nat : Decode Nat
  | .num (.int (.ofNat n)) => .ok n
  | .num (.int (.negSucc n)) => .error (.invalidValue (.num (.int (.negSucc n))) "u64")
  | v => .error (.invalidType v "u64")

def list {α : Type} (item : Decode α) : Decode (List α)
  | .arr xs => xs.mapM item
  | v => .error (.invalidType v "a sequence")

/-- A table, with its entries in the order in which they are written. -/
def table {α : Type} (item : Decode α) : Decode (Table α)
  | .obj fields =>
    fields.foldlM (fun t e => (item e.2).map (t.insert e.1)) ∅
  | v => .error (.invalidType v "a map")

/-! ## Records -/

/-- A record type: its name, its fields in order, and what a field adds to what is known. -/
structure Shape (α : Type) where
  name : String
  fields : List String
  /-- How many of the first fields must be given. -/
  required : Nat
  start : α
  put : α → String → Json → Except DecodeFault α

/-- A record, given by the names of its fields or by their order. Fields that it does not have are
ignored by name and refused by order. -/
def record {α : Type} (shape : Shape α) : Decode α
  | .obj entries => do
    let a ← entries.foldlM
      (fun a e => if shape.fields.contains e.1 then shape.put a e.1 e.2 else .ok a)
      shape.start
    match (shape.fields.take shape.required).find? fun f => !(Assoc.keys entries).contains f with
    | some f => .error (.missingField f)
    | none => .ok a
  | .arr items => do
    let a ← (shape.fields.zip items).foldlM (fun a e => shape.put a e.1 e.2) shape.start
    if items.length < shape.required then
      .error (.invalidLength items.length
        ("struct " ++ shape.name ++ " with " ++ toString shape.fields.length ++ " elements"))
    else if shape.fields.length < items.length then
      .error (.invalidLength items.length "fewer elements in array")
    else .ok a
  | v => .error (.invalidType v ("struct " ++ shape.name))

end Decode

namespace Summary

def fieldNames : List String :=
  ["filename", "error", "tree", "packages", "imports", "classes", "traits", "objects", "vals",
    "types", "names", "extends"]

def put (s : Summary) (key : String) (v : Json) : Except DecodeFault Summary :=
  match key with
  | "filename" => (Decode.text v).map fun x => { s with filename := x }
  | "error" => (Decode.optionalText v).map fun x => { s with error := x }
  | "tree" => (Decode.optionalText v).map fun x => { s with tree := x }
  | "packages" => (Decode.list Decode.text v).map fun x => { s with packages := x }
  | "imports" => (Decode.list Decode.text v).map fun x => { s with imports := x }
  | "classes" => (Decode.list Decode.text v).map fun x => { s with classes := x }
  | "traits" => (Decode.list Decode.text v).map fun x => { s with traits := x }
  | "objects" => (Decode.list Decode.text v).map fun x => { s with objects := x }
  | "vals" => (Decode.list Decode.text v).map fun x => { s with vals := x }
  | "types" => (Decode.list Decode.text v).map fun x => { s with types := x }
  | "names" => (Decode.list Decode.text v).map fun x => { s with names := x }
  | "extends" => (Decode.table (Decode.list Decode.text) v).map fun x => { s with supertypes := x }
  | _ => .ok s

def decode : Decode Summary :=
  Decode.record ⟨"FileSummary", fieldNames, 1, { filename := "" }, put⟩

end Summary

namespace Request

def put (r : Request) (key : String) (v : Json) : Except DecodeFault Request :=
  match key with
  | "filenames" => (Decode.list Decode.text v).map fun x => { r with filenames := x }
  | "wantParseTree" => (Decode.bool v).map fun x => { r with wantParseTree := x }
  | _ => .ok r

def decode : Decode Request :=
  Decode.record ⟨"ParseRequest", ["filenames", "wantParseTree"], 1, { filenames := [] }, put⟩

end Request

namespace Response

def put (r : Response) (key : String) (v : Json) : Except DecodeFault Response :=
  match key with
  | "files" => (Decode.list Summary.decode v).map fun x => { r with files := x }
  | "elapsedMillis" => (Decode.nat v).map fun x => { r with elapsedMillis := x }
  | "error" => (Decode.optionalText v).map fun x => { r with error := x }
  | _ => .ok r

def decode : Decode Response :=
  Decode.record ⟨"ParseResponse", ["files", "elapsedMillis", "error"], 2,
    { files := [], elapsedMillis := 0 }, put⟩

end Response
end SymbolIndex
