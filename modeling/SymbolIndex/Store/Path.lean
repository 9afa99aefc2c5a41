/-!
# Paths

- `Path.names` : the names that a path consists of
- `Path.fileName?`, `Path.extension?` : of the last name
- `Path.join` : a name below a path
- `Path.isSource` : whether a path is that of a source file
- `Path.channel?` : the channel of a process that a place stands for
-/

namespace SymbolIndex
namespace Path

/-- The names between slashes, without empty ones. -/
def names (path : String) : List String :=
  ((path.toList.splitOn '/').filter (fun n => !n.isEmpty)).map String.ofList

/-- The names that say where to go; a dot says nothing. -/
def steps (path : String) : List String :=
  (names path).filter (· ≠ ".")

def isAbsolute (path : String) : Bool :=
  path.toList.head? == some '/'

def endsWithSlash (path : String) : Bool :=
  path.toList.getLast? == some '/'

/-- The last name of a path. A dot for the directory itself does not count, and there is none if the
path ends by going up. -/
def fileName? (path : String) : Option String :=
  (steps path).getLast?.filter (· ≠ "..")

/-- What follows the last dot of a name, unless the name starts with that dot. -/
def extension? (name : String) : Option String :=
  let reversed := name.toList.reverse
  match reversed.dropWhile (· ≠ '.') with
  | _ :: _ :: _ => some (String.ofList (reversed.takeWhile (· ≠ '.')).reverse)
  | _ => none

def isSource (path : String) : Bool :=
  (fileName? path).bind extension? == some "scala"

def join (path name : String) : String :=
  if path = "" then name else if endsWithSlash path then path ++ name else path ++ "/" ++ name

/-- Whether a path has more than one part: the root and a dot at the front count. -/
def isCompound (path : String) : Bool :=
  let front := isAbsolute path || (names path).head? == some "."
  1 < (steps path).length + if front then 1 else 0

/-- The number that a name spells in the usual way. -/
def number? (name : String) : Option Nat :=
  name.toNat?.filter fun n => toString n == name

/-- The channel of a process that a place, given by its names from the root down, stands for. -/
def channel? (place : List String) : Option Nat :=
  match place with
  | ["dev", "stdin"] => some 0
  | ["dev", "stdout"] => some 1
  | ["dev", "stderr"] => some 2
  | ["dev", "fd", n] | ["proc", "self", "fd", n] => number? n
  | _ => none

end Path
end SymbolIndex
