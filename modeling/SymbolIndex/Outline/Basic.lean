import SymbolIndex.Outline.Heritage
import SymbolIndex.Scope.Import

/-!
# The outline of a tree

The outline follows packages and statement lists only, and records declarations by their qualified
names.

- `Tables` : the declarations found, by kind
- `Outline` : the state of a visit
- `Outline.qualify` : a name inside the packages that are open
- `Outline.visit` : the visit of a tree
-/

namespace SymbolIndex

/-- The qualified names of what was declared. -/
structure Tables where
  packages : StringSet
  classes : StringSet
  traits : StringSet
  objects : StringSet
  vals : StringSet
  types : StringSet
  deriving DecidableEq, Inhabited

def Tables.empty : Tables :=
  ⟨∅, ∅, ∅, ∅, ∅, ∅⟩

/-- The name that a value definition gives to its first pattern, if that is a variable. -/
def Node.valName? (node : Node) : Option String :=
  match (node.seq "pats").head?.bind Json.node? with
  | none => none
  | some pat => if pat.kind = .patVar then pat.name? "name" else none

/-- The state of a visit. -/
structure Outline where
  /-- The packages that are open, innermost first. -/
  packages : List String
  /-- The number of nodes that are open. -/
  depth : Nat
  tables : Tables
  heritage : Heritage
  scopes : Arena
  deriving Inhabited

namespace Outline

def new (scopes : Arena) : Outline :=
  ⟨[], 0, .empty, .empty, scopes⟩

/-- The name inside the packages that are open. -/
def qualify (o : Outline) (name : String) : String :=
  ".".intercalate (o.packages.reverse ++ [name])

def declare (o : Outline) (f : Tables → Tables) : Outline :=
  { o with tables := f o.tables }

/-! ## What single nodes declare -/

/-- The package that a node opens: its qualified name is recorded. -/
def openPackage (o : Outline) (name : String) : Outline :=
  let qualified := o.qualify name
  { o.declare (fun t => { t with packages := t.packages.insert qualified }) with
    packages := name :: o.packages }

def closePackage (o : Outline) : Outline :=
  { o with packages := o.packages.tail }

/-- A package object, which is an object and a package. -/
def openPackageObject (o : Outline) (name : String) : Outline :=
  let qualified := o.qualify name
  (o.declare fun t => { t with objects := t.objects.insert qualified }).openPackage name

/-- A class, trait or object with its supertypes; nothing if it has no name. -/
def declareType (o : Outline) (kind : DeclKind) (node : Node) : Outline :=
  match node.name? "name" with
  | none => o
  | some name =>
    let qualified := o.qualify name
    let o := { o with heritage := o.heritage.record kind qualified node }
    o.declare fun t =>
      match kind with
      | .classDecl => { t with classes := t.classes.insert qualified }
      | .traitDecl => { t with traits := t.traits.insert qualified }
      | .objectDecl => { t with objects := t.objects.insert qualified }

def declareVal (o : Outline) (node : Node) : Outline :=
  match node.valName? with
  | none => o
  | some name =>
    let qualified := o.qualify name
    o.declare fun t => { t with vals := t.vals.insert qualified }

def declareAlias (o : Outline) (node : Node) : Outline :=
  match node.name? "name" with
  | none => o
  | some name =>
    let qualified := o.qualify name
    o.declare fun t => { t with types := t.types.insert qualified }

def recordImport (o : Outline) (scope : Nat) (node : Node) : Outline :=
  { o with scopes := o.scopes.recordImport scope node.toJson }

/-! ## The visit -/

mutual

/-- Visits a value. Imports are recorded in `scope`, and at most `maxDepth` nodes may be open at
once. -/
def visit (scope maxDepth : Nat) : Json → Outline → Traversal × Outline
  | .obj fields, o =>
    match (Json.obj fields).node? with
    | none => (.complete, o)
    | some node =>
      if maxDepth ≤ o.depth then (.tooDeep, o)
      else
        let inner := { o with depth := o.depth + 1 }
        let (e, o) : Traversal × Outline :=
          match node.kind with
          | .pkg =>
            -- newer trees have a body, older ones have their statements in the package itself
            let contents (o : Outline) : Traversal × Outline :=
              match node.field? "body" with
              | some _ => visitAt scope maxDepth "body" fields o
              | none => visitStats scope maxDepth fields o
            match node.name? "ref" with
            | none => contents inner
            | some name =>
              let (e, o) := contents (inner.openPackage name)
              (e, o.closePackage)
          | .pkgObject =>
            match node.name? "name" with
            | none => (.complete, inner)
            | some name =>
              let (e, o) := visitAt scope maxDepth "templ" fields (inner.openPackageObject name)
              (e, o.closePackage)
          | .importStat => (.complete, inner.recordImport scope node)
          | .defnObject => (.complete, inner.declareType .objectDecl node)
          | .defnClass => visitStats scope maxDepth fields (inner.declareType .classDecl node)
          | .defnTrait => visitStats scope maxDepth fields (inner.declareType .traitDecl node)
          | .defnVal => (.complete, inner.declareVal node)
          | .defnType => (.complete, inner.declareAlias node)
          | _ => visitStats scope maxDepth fields inner
        (e, { o with depth := o.depth - 1 })
  | _, o => (.complete, o)

def visitAt (scope maxDepth : Nat) (key : String) :
    List (String × Json) → Outline → Traversal × Outline
  | [], o => (.complete, o)
  | (k, v) :: rest, o =>
    if k = key then visit scope maxDepth v o else visitAt scope maxDepth key rest o

def visitStats (scope maxDepth : Nat) : List (String × Json) → Outline → Traversal × Outline
  | [], o => (.complete, o)
  | (k, .arr items) :: rest, o =>
    if k = "stats" then visitAll scope maxDepth items o else visitStats scope maxDepth rest o
  | (k, _) :: rest, o =>
    if k = "stats" then (.complete, o) else visitStats scope maxDepth rest o

def visitAll (scope maxDepth : Nat) : List Json → Outline → Traversal × Outline
  | [], o => (.complete, o)
  | x :: xs, o =>
    match visit scope maxDepth x o with
    | (.complete, o) => visitAll scope maxDepth xs o
    | (.tooDeep, o) => (.tooDeep, o)

end

end Outline
end SymbolIndex
