import SymbolIndex.Json.Basic

/-!
# Summaries

- `Summary` : what is recorded of one file
- `Summary.toJson` : its document form
-/

namespace SymbolIndex

/-- What is recorded of one file. -/
structure Summary where
  filename : String
  /-- Why the file could not be indexed. -/
  error : Option String := none
  /-- The printed tree. -/
  tree : Option String := none
  packages : List String := []
  imports : List String := []
  classes : List String := []
  traits : List String := []
  objects : List String := []
  vals : List String := []
  types : List String := []
  names : List String := []
  /-- The supertypes of each declaration. -/
  supertypes : Table (List String) := ∅
  deriving Inhabited

namespace Summary

def failed (filename error : String) : Summary :=
  { filename, error := some error }

def isError (s : Summary) : Bool :=
  s.error.isSome

/-- A field that is left out when it is missing. -/
def optionalText (key : String) : Option String → List (String × Json)
  | none => []
  | some s => [(key, .str s)]

/-- A field that is left out when it is empty. -/
def texts (key : String) : List String → List (String × Json)
  | [] => []
  | xs => [(key, .strings xs)]

/-- The field of supertypes, which is left out when it is empty. -/
def heritage (key : String) (t : Table (List String)) : List (String × Json) :=
  match t.entries with
  | [] => []
  | entries => [(key, .obj (entries.map fun e => (e.1, .strings e.2)))]

def written (s : Summary) : List (String × Json) :=
  ("filename", .str s.filename) ::
    optionalText "error" s.error ++
    optionalText "tree" s.tree ++
    texts "packages" s.packages ++
    texts "imports" s.imports ++
    texts "classes" s.classes ++
    texts "traits" s.traits ++
    texts "objects" s.objects ++
    texts "vals" s.vals ++
    texts "types" s.types ++
    texts "names" s.names ++
    heritage "extends" s.supertypes

def toJson (s : Summary) : Json :=
  .obj s.written

end Summary
end SymbolIndex
