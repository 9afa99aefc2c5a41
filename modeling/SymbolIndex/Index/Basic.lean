import SymbolIndex.Fault.Basic
import SymbolIndex.Index.Options
import SymbolIndex.Outline.Basic
import SymbolIndex.Record.Summary
import SymbolIndex.Walk.Basic

/-!
# Indexing a tree

A walk collects the names and, if wanted, all imports; then the outline collects packages, imports
and declarations; last, supertypes are resolved through the imports of the whole file.

- `harvester` : the visitor that collects names
- `summarize` : the summary of what was collected
- `index` : the summary of a tree
-/

namespace SymbolIndex

def Json.isImport (v : Json) : Bool :=
  (v.node?.map fun n => n.kind == .importStat).getD false

/-- What is recorded of an offered value: its name, if it has one that counts. -/
def harvestedName? (options : Options) (o : Offer) : Option String :=
  (o.child.name?.filter isIndexed).map fun name =>
    if options.annotateNameTypes then name ++ "<" ++ o.path ++ ">" else name

/-- The visitor that collects names. With nested imports it also records import statements in the
scope in which they stand, and does not enter them. -/
def harvester (options : Options) : Visitor StringSet where
  visit o scopes names :=
    if o.child.isNull then (.skip, scopes, names)
    else if options.nestedImports && o.child.isImport then
      (.skip, scopes.recordImport o.scope o.child, names)
    else
      match harvestedName? options o with
      | some name => (.enter, scopes, names.insert name)
      | none => (.enter, scopes, names)

def treeIndent : Nat := 4

def summarize (options : Options) (filename : String) (tree : Json) (names : StringSet)
    (outline : Outline) : Summary :=
  { filename
    tree := if options.wantParseTree then some (tree.pretty treeIndent) else none
    packages := outline.tables.packages.toList
    imports := (outline.scopes.imports Arena.root).toList
    classes := outline.tables.classes.toList
    traits := outline.tables.traits.toList
    objects := outline.tables.objects.toList
    vals := outline.tables.vals.toList
    types := outline.tables.types.toList
    names := names.toList
    supertypes := (outline.heritage.resolve outline.scopes Arena.root).entries }

/-- The summary of a tree. A tree that stands for a failed parse gives a summary with its
message. -/
def index (options : Options) (filename : String) (tree : Json) : Except Fault Summary :=
  match tree.treeError? with
  | some error => .ok (.failed filename error)
  | none =>
    match walk (harvester options) options.maxDepth Arena.root tree ⟨[], .new, ∅⟩ with
    | (.tooDeep, _) => .error (.treeTooDeep options.maxDepth)
    | (.complete, w) =>
      match Outline.visit Arena.root options.maxDepth tree (.new w.scopes) with
      | (.tooDeep, _) => .error (.treeTooDeep options.maxDepth)
      | (.complete, outline) => .ok (summarize options filename tree w.seen outline)

end SymbolIndex
