import SymbolIndex.Scope.Basic
import SymbolIndex.Tree.Name

/-!
# Supertypes of declarations

- `DeclKind` : classes, traits and objects
- `Heritage` : the supertypes of each declaration, as written
- `Heritage.record` : adds the supertypes of a declaration
- `Heritage.resolve` : replaces short names by what a scope binds them to
-/

namespace SymbolIndex

/-- The declarations that have supertypes. -/
inductive DeclKind where
  | classDecl
  | traitDecl
  | objectDecl
  deriving DecidableEq, Repr

namespace DeclKind

def word : DeclKind → String
  | .classDecl => "class"
  | .traitDecl => "trait"
  | .objectDecl => "object"

/-- The key of a declaration: its kind and its qualified name. -/
def key (kind : DeclKind) (qualified : String) : String :=
  kind.word ++ " " ++ qualified

end DeclKind

/-- The named supertypes of a declaration, in the order of its template. -/
def Node.supertypes (declaration : Node) : List String :=
  match declaration.child? "templ" with
  | none => []
  | some templ => (templ.seq "inits").filterMap fun init => init.node?.bind (·.name? "tpe")

/-- The supertypes of each declaration. -/
structure Heritage where
  entries : Table (List String)
  deriving Inhabited

namespace Heritage

def empty : Heritage :=
  ⟨∅⟩

def get? (h : Heritage) (key : String) : Option (List String) :=
  h.entries.find? key

/-- Adds the supertypes of a declaration after those already under its key. A declaration without
named supertypes adds nothing. -/
def record (h : Heritage) (kind : DeclKind) (qualified : String) (declaration : Node) : Heritage :=
  match declaration.supertypes with
  | [] => h
  | names =>
    let key := kind.key qualified
    ⟨h.entries.insert key ((h.get? key).getD [] ++ names)⟩

/-- Replaces each supertype by what the scope binds it to. -/
def resolve (h : Heritage) (scopes : Arena) (scope : Nat) : Heritage :=
  ⟨h.entries.map fun names => names.map (scopes.resolve scope)⟩

end Heritage
end SymbolIndex
