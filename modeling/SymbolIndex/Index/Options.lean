/-!
# Options of indexing

- `Options` : what indexing records, and how deep it goes
-/

namespace SymbolIndex

/-- What indexing records, and how deep it goes. -/
structure Options where
  /-- Whether imports count wherever they stand. -/
  nestedImports : Bool := true
  /-- Whether names carry the tags of the nodes that enclose them. -/
  annotateNameTypes : Bool := false
  /-- How many nodes may be open at once. -/
  maxDepth : Nat := 512
  /-- Whether the printed tree is part of the summary. -/
  wantParseTree : Bool := false
  deriving DecidableEq, Repr, Inhabited

end SymbolIndex
