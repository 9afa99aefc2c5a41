import SymbolIndex.Host
import SymbolIndex.Shell.Run
import SymbolIndex.Shell.Standard

/-!
# A host without a system

The host on which the program runs where there is no system to ask: programs are looked for among
the entries of the store, and a shell and some tools take the place of those of a system.

- `Shell.find?` : the path of the program that a name stands for
- `Shell.startPath` : the path that is started
- `Shell.refusal?` : why there is no memory for so many trees
- `Shell.host` : the host
-/

namespace SymbolIndex
namespace Shell

/-! ## Programs -/

/-- The variables that are set if nothing else is said. -/
def defaultEnvironment : Environment :=
  [("HOME", "/root"), ("PATH", "/usr/local/sbin:/usr/local/bin:/usr/sbin:/usr/bin:/sbin:/bin")]

def environmentWith (given : Environment) : Environment :=
  given ++ defaultEnvironment.filter fun e => (Assoc.find? e.1 given).isNone

/-- Whether a path leads to a file that can be started. -/
def isProgram (store : Store) (path : String) : Bool :=
  match store.lookup path with
  | .ok e => store.isExecutable e
  | .error _ => false

/-- The directories that programs are looked for in. A tilde at the front stands for the home
directory. -/
def searchDirs (environment : Environment) : List String :=
  let dirs := ((Assoc.find? "PATH" environment).getD "").toList.splitOn ':'
  dirs.map fun cs =>
    let dir := String.ofList cs
    match Path.isAbsolute dir, Path.names dir with
    | false, "~" :: rest =>
      match Assoc.find? "HOME" environment with
      | none | some "" => dir
      | some home => (rest.filter (· ≠ ".")).foldl Path.join home
    | _, _ => dir

/-- The path of the program that a name stands for. A name of several parts is a path to a
program. -/
def find? (environment : Environment) (store : Store) (name : String) : Option String :=
  if name = "" then none
  else if Path.isCompound name then
    let path :=
      if Path.isAbsolute name then name
      else "/" ++ "/".intercalate (store.home ++ Path.steps name)
    if isProgram store path then some path else none
  else
    let below (dir : String) : String := if Path.isAbsolute name then name else Path.join dir name
    ((searchDirs environment).map below).find? (isProgram store)

/-- The path that is started. One without a slash is looked for once more, and tildes mean nothing
then. -/
def startPath (environment : Environment) (store : Store) (path : String) (args : List String) :
    Except LoadFault String :=
  if path.toList.contains '/' then (canStart store path args).map fun _ => path
  else
    let dirs := ((Assoc.find? "PATH" environment).getD "").toList.splitOn ':'
    dirs.foldr (fun dir otherwise =>
      let path := Path.join (String.ofList dir) path
      match canStart store path args with
      | .ok _ => .ok path
      -- such a program is passed over
      | .error .notFound | .error .denied => otherwise
      | .error f => .error f) (.error .notFound)

def Outcome.ending (o : Outcome) : Ending :=
  match o.ended with
  | none => .expired
  | some (.killed _) => .ended none o.output o.errors
  | some (.exited status) => .ended (some status) o.output o.errors

def run (environment : Environment) (store : Store) (path : String) (args : List String)
    (input : List UInt8) (millis : Nat) : Ending × Store :=
  match startPath environment store path args with
  | .error f => (.refused f.cause, store)
  | .ok path =>
    let o := execute store environment path args input millis
    (o.ending, o.store)

/-! ## Memory -/

/-- The places of a table for so many trees: a power of two, of which at least one in eight stays
free. -/
def tablePlaces (trees : Nat) : Nat :=
  if trees < 4 then 4 else if trees < 8 then 8 else (trees * 8 / 7).nextPowerOfTwo

/-- The bytes of a table for so many trees: at each place an entry of sixteen bytes and a mark, and
some more marks behind the last one. -/
def tableBytes (trees : Nat) : Nat :=
  17 * tablePlaces trees + 16

def countableBytes : Nat := 9223372036854775807

def memoryBytes : Nat := 68719476736

def refusal? (trees : Nat) : Option Breakdown :=
  if countableBytes < tableBytes trees then some .overflow
  else if memoryBytes < tableBytes trees then some .exhausted
  else none

/-! ## The host -/

/-- The host with variables that programs are given besides those that are always set. -/
def host (given : Environment) : Host where
  find? := find? (environmentWith given)
  run := run (environmentWith given)
  refusal? := refusal?

end Shell
end SymbolIndex
