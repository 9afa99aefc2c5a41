import SymbolIndex.CommandLine.Run
import SymbolIndex.Shell.Host

/-!
# The program

Brings the files that a command line mentions into a store, runs the command line there, and writes
what it leaves behind.

- `fetch` : a path of the disk, brought into a store
- `main` : the program
-/

namespace SymbolIndex
namespace Disk

def placeOf (names : List String) : String :=
  "/" ++ "/".intercalate names

/-- The names in a directory, or nothing if there is no such directory. -/
def namesIn (place : String) : IO (Option (List String)) :=
  try
    let entries ← ((← IO.currentDir) / place).readDir
    return some (entries.toList.map (·.fileName))
  catch _ => return none

/-- A file of the disk, or nothing if there is no such file. One that names what runs it counts as
executable. -/
def fileAt (place : String) : IO (Option File) :=
  try
    let bytes := (← IO.FS.readBinFile place).toList
    return some { bytes, executable := (Shell.interpreter? bytes).isSome }
  catch _ => return none

partial def load (store : Store) (names : List String) : IO Store := do
  match ← namesIn (placeOf names) with
  | some inner =>
    let known := (store.root.at? names).isSome
    let store := if known then store else { store with root := store.root.put names (.dir []) }
    inner.foldlM (fun store name => load store (names ++ [name])) store
  | none =>
    match ← fileAt (placeOf names) with
    | some f => return (store.newFile names f).2
    | none => return store

/-- Brings the names of a path into a store, each directory on the way first. The place that they
start at is given by its names, innermost first. -/
def fetchNames (store : Store) (place : List String) : List String → IO Store
  | [] => return store
  | n :: ns => do
    if n = "." then fetchNames store place ns
    else if n = ".." then fetchNames store place.tail ns
    else
      let place := n :: place
      let names := place.reverse
      if ns.isEmpty then load store names
      else
        match ← namesIn (placeOf names), ← fileAt (placeOf names) with
        | none, none => return store
        | none, some f => return (store.newFile names f).2
        | some _, _ =>
          let known := (store.root.at? names).isSome
          let store := if known then store
            else { store with root := store.root.put names (.dir []) }
          fetchNames store place ns

/-- The channel of the program itself that a path spells. -/
def channel? (path : String) : Option Nat :=
  if Path.isAbsolute path then Path.channel? (Path.names path) else none

/-- Brings a path of the disk into a store. The channels of the program are not part of the disk. -/
def fetch (store : Store) (path : String) : IO Store :=
  if (channel? path).isSome then return store
  else fetchNames store (store.start path) (Path.names path)

def fetchAll (store : Store) (paths : List String) : IO Store :=
  paths.foldlM fetch store

/-- The input of the program itself, if one of some paths leads to it. -/
def inputFor (paths : List String) : IO (List UInt8) := do
  if paths.any fun path => path = "-" || channel? path == some 0 then
    return (← (← IO.getStdin).readBinToEnd).toList
  else return []

/-- The store in which a program starts: it knows the working directory by name only. -/
def start : IO Store := do
  let home := Path.names (toString (← IO.currentDir))
  return { Store.empty with root := Store.empty.root.put home (.dir []), home }

def mentioned (request : String) : List String :=
  if Service.isDocument request then
    match Request.ofText request with
    | .ok r => r.filenames
    | .error _ => []
  else [request]

def directoryOf (path : String) : String :=
  let above := "/".intercalate (Path.names path).dropLast
  if Path.isAbsolute path then "/" ++ above else above

end Disk

namespace CommandLine

/-- The exit status that stands for a process that was killed because it ran out of memory. -/
def killedStatus : Nat := 134

def Outcome.deliver (o : Outcome) (output : Option String) : IO UInt32 := do
  if let some path := output then
    if let .ok bytes := o.store.read path then
      IO.FS.writeBinFile path ⟨bytes.toArray⟩
  let stdout ← IO.getStdout
  stdout.putStr o.stdout
  stdout.flush
  return UInt32.ofNat (o.exit.getD killedStatus)

partial def converse (parser : Parser) (options : Options) (pool : Pool) (s : Service.Session) :
    IO UInt32 := do
  let line ← (← IO.getStdin).getLine
  let stdout ← IO.getStdout
  if line.isEmpty then return 0
  let mentioned := Disk.mentioned (Text.trim line)
  let store ← Disk.fetchAll s.world.store mentioned
  let bytes := (Service.lines (Utf8.encode line)).headD []
  match Service.turn parser options pool bytes
    { s with sink := {}, world := { s.world with store } } with
  | .next s =>
    stdout.putStr s.sink.written
    stdout.flush
    converse parser options pool s
  | .over (.ok _) _ => return 0
  | .over (.error f) s =>
    Outcome.deliver
      (.ofRan (⟨.error (.fault (.ofIo "<stdio>" f)), s.sink, s.world.store⟩ : Ran Unit)) none

def Invocation.perform (i : Invocation) (given : Environment) : IO UInt32 := do
  let host := Shell.host given
  let store ← Disk.fetch (← Disk.start) (i.config.getD Settings.defaultFile)
  match i.task with
  | .index paths output _ =>
    let store ← Disk.fetchAll store (paths ++ (output.map Disk.directoryOf).toList)
    (i.run host given (← Disk.inputFor (i.config.toList ++ paths)) store).deliver output
  | .request path _ =>
    let input ← Disk.inputFor (i.config.toList ++ [path])
    let store ← if path = "-" then pure store else Disk.fetch store path
    let world : World := { store := withChannels input store, memo := .new 0, input := some input }
    let body := (requestText path world).1
    let store ← Disk.fetchAll store (Disk.mentioned (Text.trim (body.toOption.getD "")))
    (i.run host given input store).deliver none
  | .serve =>
    match Settings.layered store i.config (Assoc.find? · given) i.overrides with
    | .error _ => (i.run host given [] store).deliver none
    | .ok s =>
      match Parser.ofSettings host s.parser store with
      | .error _ => (i.run host given [] store).deliver none
      | .ok (parser, world) => converse parser s.index (host.pool s.jobs) { world }

end CommandLine
end SymbolIndex

open SymbolIndex in
def main (args : List String) : IO UInt32 := do
  let names := [Settings.commandVariable, Settings.jobsVariable, Settings.timeoutVariable]
  let values ← names.mapM fun n => do return (← IO.getEnv n).map fun value => (n, value)
  let given : Environment := values.filterMap id
  match CommandLine.parse args with
  | .ok i => i.perform given
  | .error _ => (CommandLine.run args (Shell.host given) given [] Store.empty).deliver none
