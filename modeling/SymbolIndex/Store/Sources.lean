import SymbolIndex.Store.Basic

/-!
# Source files

- `Entry.sources` : the source files of an entry
- `Store.collect` : the source files below a path, sorted
- `Store.expand` : paths with directories replaced by their source files
-/

namespace SymbolIndex

/-- Directories with these names hold no sources. -/
def builtDirs : List String :=
  ["target", "node_modules", "bazel-out"]

/-- Whether a directory is passed over: hidden ones and those with built files. -/
def isSkippedDir (name : String) : Bool :=
  name.toList.head? == some '.' || builtDirs.contains name

mutual

/-- The paths of the source files of the entry at a path. -/
def Entry.sources (path : String) : Entry → List String
  | .dir entries => sourcesIn path entries
  | e => if e.isFile && Path.isSource path then [path] else []

/-- The paths of the source files of the entries of the directory at a path. -/
def sourcesIn (path : String) : List (String × Entry) → List String
  | [] => []
  | (name, e) :: rest =>
    (if e.isDir && isSkippedDir name then [] else e.sources (Path.join path name)) ++
      sourcesIn path rest

end

namespace Store

/-- The paths of the source files below a path, in increasing order. -/
def collect (s : Store) (path : String) : List String :=
  match s.lookup path with
  | .error _ => []
  | .ok e => (e.sources path).mergeSort fun a b => decide (a ≤ b)

/-- Each directory is replaced by its source files; other paths are kept. -/
def expand (s : Store) (paths : List String) : List String :=
  paths.flatMap fun path => if s.isDir path then s.collect path else [path]

end Store
end SymbolIndex
