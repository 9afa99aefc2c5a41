import SymbolIndex.Scope.Basic
import SymbolIndex.Tree.Name

/-!
# Import statements

An import statement holds importers; each has a prefix and a list of importees.

- `importeeBinding?` : the binding of one importee
- `Json.importerBindings` : the bindings of one importer
- `Json.importBindings` : the bindings of a statement
- `Arena.recordImport` : a statement recorded in a scope
-/

namespace SymbolIndex

/-- What an importee binds under a prefix. A hidden name still counts as imported, and so does a
wildcard, but neither has a short name. A renamed importee is known by its first name. -/
def importeeBinding? (prefixName : String) (importee : Json) : Option Binding :=
  match importee.node? with
  | none => none
  | some node =>
    let name? := (node.child? "name").bind Node.value?
    match node.kind with
    | .importeeName | .importeeRename =>
      name?.map fun name => ⟨prefixName ++ "." ++ name, some name⟩
    | .importeeUnimport => name?.map fun name => ⟨prefixName ++ "." ++ name, none⟩
    | .importeeWildcard => some ⟨prefixName ++ "._", none⟩
    | _ => none

/-- The bindings of an importer, in order; none if its prefix has no name. -/
def Json.importerBindings (importer : Json) : List Binding :=
  match importer.node? with
  | none => []
  | some node =>
    match node.name? "ref" with
    | none => []
    | some prefixName => (node.seq "importees").filterMap (importeeBinding? prefixName)

def Json.importBindings (statement : Json) : List Binding :=
  match statement.node? with
  | none => []
  | some node => (node.seq "importers").flatMap Json.importerBindings

def Arena.recordImport (a : Arena) (id : Nat) (statement : Json) : Arena :=
  a.addImports id statement.importBindings

end SymbolIndex
