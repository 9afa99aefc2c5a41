import SymbolIndex.Sorted.Table

/-!
# Scopes

Scopes form a tree of which the scopes that are open are kept, the root first. What is imported in a
scope counts for all scopes that enclose it.

- `Binding` : an imported path and the short name it is bound to
- `Scope` : a name, the enclosing scope, imports and short names
- `Arena` : the open scopes
- `Arena.push`, `Arena.pop`, `Arena.addImport` : how the scopes change
- `Arena.resolve`, `Arena.qualifiedName` : what they say
-/

namespace SymbolIndex

/-- An imported path, with the short name that stands for it. -/
structure Binding where
  path : String
  symbol : Option String
  deriving DecidableEq, Repr

structure Scope where
  name : String
  /-- The index of the enclosing scope. -/
  parent : Option Nat
  /-- The paths imported in the scope or inside it. -/
  imports : StringSet
  /-- The path that each short name was last bound to. -/
  symbols : Table String
  deriving Inhabited

namespace Scope

def new (name : String) (parent : Option Nat) : Scope :=
  ⟨name, parent, ∅, ∅⟩

/-- The scope with one more import. An empty short name binds nothing. -/
def bind (s : Scope) (b : Binding) : Scope :=
  { s with
    imports := s.imports.insert b.path
    symbols :=
      match b.symbol with
      | some symbol => if symbol = "" then s.symbols else s.symbols.insert symbol b.path
      | none => s.symbols }

end Scope

def rootName : String := "root"

/-- The open scopes, the root first. -/
structure Arena where
  scopes : List Scope
  deriving Inhabited

namespace Arena

def new : Arena :=
  ⟨[Scope.new rootName none]⟩

def root : Nat := 0

def size (a : Arena) : Nat :=
  a.scopes.length

def isLive (a : Arena) (id : Nat) : Bool :=
  id < a.size

def get? (a : Arena) (id : Nat) : Option Scope :=
  a.scopes[id]?

/-- Opens a scope inside `parent`; its index is the number of scopes before. -/
def push (a : Arena) (name : String) (parent : Nat) : Arena :=
  ⟨a.scopes ++ [Scope.new name (some parent)]⟩

/-- Closes the scope and those opened after it; the root stays open. -/
def pop (a : Arena) (id : Nat) : Arena :=
  if id = root then a else ⟨a.scopes.take id⟩

/-- The scope and those that enclose it, innermost first, at most `fuel` of them. -/
def lineageWithin (a : Arena) : Nat → Nat → List Nat
  | 0, _ => []
  | fuel + 1, id =>
    match a.get? id with
    | none => []
    | some s =>
      match s.parent with
      | none => [id]
      | some parent => id :: a.lineageWithin fuel parent

/-- The scope and those that enclose it, innermost first. There are no more of them than open
scopes. -/
def lineage (a : Arena) (id : Nat) : List Nat :=
  a.lineageWithin a.size id

def modify (a : Arena) (id : Nat) (f : Scope → Scope) : Arena :=
  ⟨a.scopes.modify id f⟩

/-- Adds an import to the scope and to those that enclose it. -/
def addImport (a : Arena) (id : Nat) (b : Binding) : Arena :=
  (a.lineage id).foldl (fun a id => a.modify id (·.bind b)) a

def addImports (a : Arena) (id : Nat) (bs : List Binding) : Arena :=
  bs.foldl (fun a b => a.addImport id b) a

/-- The path that a short name stands for in the scope, or the name itself. -/
def resolve (a : Arena) (id : Nat) (symbol : String) : String :=
  ((a.get? id).bind (·.symbols.find? symbol)).getD symbol

/-- The names of the scope and of those that enclose it, innermost first, joined by dots. -/
def qualifiedName (a : Arena) (id : Nat) : String :=
  ".".intercalate ((a.lineage id).filterMap fun id => (a.get? id).map (·.name))

/-- The paths imported in the scope or inside it. -/
def imports (a : Arena) (id : Nat) : StringSet :=
  ((a.get? id).map (·.imports)).getD ∅

/-- One scope for each name, each inside the one before, with the index of the last. -/
def pushAll (a : Arena) (id : Nat) : List String → Arena × Nat
  | [] => (a, id)
  | name :: names => (a.push name id).pushAll a.size names

end Arena
end SymbolIndex
