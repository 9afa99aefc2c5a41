import SymbolIndex.Settings.Basic
import SymbolIndex.Toml.Document

/-!
# Settings out of a file

- `Settings.ofToml?` : the settings that a settings file holds, or nothing if they are malformed
- `Settings.ofText?` : the settings that a text holds
-/

namespace SymbolIndex
namespace Toml

def Value.bool? : Value → Option Bool
  | .scalar (.boolean b) => some b
  | _ => none

def Value.nat? : Value → Option Nat
  | .scalar (.integer (.ofNat n)) => some n
  | _ => none

def Value.text? : Value → Option String
  | .scalar (.text s) => some s
  | _ => none

def Value.texts? : Value → Option (List String)
  | .array items => items.mapM Value.text?
  | _ => none

/-- One of several words: the word itself, or a table with the word as its only key and nothing in
it. -/
def Value.word? : Value → Option String
  | .scalar (.text s) => some s
  | .table [(key, .table [])] => some key
  | .table [(key, .array [])] => some key
  | _ => none

/-- A section, given by the names of its fields or by their order. Other fields are ignored, and
what is not given stays as it is. A point in time counts as a section that gives nothing. -/
def Value.section? {α : Type} (fields : List String) (put : α → String → Value → Option α)
    (start : α) : Value → Option α
  | .table entries =>
    entries.foldlM (fun a e => if fields.contains e.1 then put a e.1 e.2 else some a) start
  | .array items => (fields.zip items).foldlM (fun a e => put a e.1 e.2) start
  | .scalar .moment => some start
  | .scalar _ => none

end Toml

namespace Settings

def putIndex (o : Options) (key : String) (v : Toml.Value) : Option Options :=
  match key with
  | "nested_imports" => v.bool?.map fun x => { o with nestedImports := x }
  | "annotate_name_types" => v.bool?.map fun x => { o with annotateNameTypes := x }
  | "max_depth" => v.nat?.map fun x => { o with maxDepth := x }
  | "want_parse_tree" => v.bool?.map fun x => { o with wantParseTree := x }
  | _ => some o

def putParser (p : ParserSettings) (key : String) (v : Toml.Value) : Option ParserSettings :=
  match key with
  | "kind" => (v.word?.bind ParserKind.ofWord?).map fun x => { p with kind := x }
  | "command" => v.texts?.map fun x => { p with command := x }
  | "timeout_secs" => v.nat?.map fun x => { p with timeoutSecs := x }
  | "memoize" => v.bool?.map fun x => { p with memoize := x }
  | "memo_capacity" => v.nat?.map fun x => { p with memoCapacity := x }
  | _ => some p

def putBatch (jobs : Nat) (key : String) (v : Toml.Value) : Option Nat :=
  match key with
  | "jobs" => v.nat?
  | _ => some jobs

def indexFields : List String :=
  ["nested_imports", "annotate_name_types", "max_depth", "want_parse_tree"]

def parserFields : List String :=
  ["kind", "command", "timeout_secs", "memoize", "memo_capacity"]

def putSection (s : Settings) (key : String) (v : Toml.Value) : Option Settings :=
  match key with
  | "index" => (v.section? indexFields putIndex {}).map fun x => { s with index := x }
  | "parser" => (v.section? parserFields putParser {}).map fun x => { s with parser := x }
  | "batch" => (v.section? ["jobs"] putBatch 0).map fun x => { s with jobs := x }
  | _ => some s

def ofToml? (v : Toml.Value) : Option Settings :=
  v.section? ["index", "parser", "batch"] putSection {}

def ofText? (text : String) : Option Settings :=
  (Toml.read text).bind ofToml?

end Settings
end SymbolIndex
