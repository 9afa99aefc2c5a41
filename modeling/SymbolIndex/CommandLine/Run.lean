import SymbolIndex.CommandLine.Usage
import SymbolIndex.Service
import SymbolIndex.Store.Sources

/-!
# Running tasks

- `runIndex`, `runIndexToFile` : the response to files and directories
- `runRequest` : the response to a request in a file
- `runService`, `runServiceOnInput` : the line service
- `CommandLine.run` : a whole command line
-/

namespace SymbolIndex

/-- What a task leaves behind: its result, what was written, and the files. -/
structure Ran (α : Type) where
  result : Except Failure α
  sink : Sink
  store : Store

def writeResponse (pretty : Bool) (r : Response) (sink : Sink) (store : Store) : Ran Response :=
  match sink.put (emit pretty r.toJson) with
  | .ok sink => ⟨.ok r, sink, store⟩
  | .error f => ⟨.error (.fault (.internal ("writing response: " ++ f.message))), sink, store⟩

def runIndex (host : Host) (s : Settings) (inputs : List String) (pretty : Bool) (sink : Sink)
    (store : Store) (input : Option (List UInt8)) : Ran Response :=
  if inputs.isEmpty then
    ⟨.error (.fault (.invalidArguments "no input files or directories given")), sink, store⟩
  else
    match Parser.ofSettings host s.parser store with
    | .error f => ⟨.error f, sink, store⟩
    | .ok (parser, w) =>
      let request : Request := { filenames := store.expand inputs }
      let (response, w) := answer parser s.index (host.pool s.jobs) request { w with input }
      writeResponse pretty response sink w.store

/-- Indexes files and the source files of directories, and puts the response into a file. The file
is opened and emptied before anything else. What has been opened is written to in the end, from its
start on, whatever has been added to it meanwhile and wherever the path leads by then. -/
def runIndexToFile (host : Host) (s : Settings) (inputs : List String) (output : String)
    (pretty : Bool) (store : Store) (input : Option (List UInt8)) : Ran Response :=
  match store.create output false with
  | .error f => ⟨.error (.fault (.ofIo output f)), {}, store⟩
  | .ok (opened, emptied) =>
    let ran := runIndex host s inputs pretty {} emptied input
    match ran.store.write opened 0 (Utf8.encode ran.sink.written) with
    | .ok store => { ran with store }
    | .error f =>
      { ran with result := .error (.fault (.internal ("writing response: " ++ f.message))) }

/-- The text of a request: a file, or the input if the path is a dash. -/
def requestText (path : String) (w : World) : Except Fault String × World :=
  if path = "-" then
    match Utf8.decode? (w.input.getD []) with
    | some text => (.ok text, { w with input := some [] })
    | none => (.error (.ofIo "<stdin>" .notText), w)
  else
    match w.readText path with
    | (.ok text, w) => (.ok text, w)
    | (.error f, w) => (.error (.ofIo path f), w)

def runRequest (host : Host) (s : Settings) (path : String) (pretty : Bool) (sink : Sink)
    (store : Store) (input : Option (List UInt8)) : Ran Response :=
  match requestText path { store, memo := .new 0, input } with
  | (.error f, _) => ⟨.error (.fault f), sink, store⟩
  | (.ok body, read) =>
    match Parser.ofSettings host s.parser store with
    | .error f => ⟨.error f, sink, store⟩
    | .ok (parser, w) =>
      match answerText parser s.index (host.pool s.jobs) body { w with input := read.input } with
      | (.error f, w) => ⟨.error (.fault f), sink, w.store⟩
      | (.ok response, w) => writeResponse pretty response sink w.store

def Ran.ofService : Except IoFault Service.Stats × Service.Session → Ran Service.Stats
  | (.ok stats, session) => ⟨.ok stats, session.sink, session.world.store⟩
  | (.error f, session) => ⟨.error (.fault (.ofIo "<stdio>" f)), session.sink, session.world.store⟩

def runService (host : Host) (s : Settings) (input : List UInt8) (sink : Sink) (store : Store) :
    Ran Service.Stats :=
  match Parser.ofSettings host s.parser store with
  | .error f => ⟨.error f, sink, store⟩
  | .ok (parser, w) =>
    .ofService (Service.serve parser s.index (host.pool s.jobs) input sink w)

/-- Runs the line service on the input of the program itself. -/
def runServiceOnInput (host : Host) (s : Settings) (input : List UInt8) (sink : Sink)
    (store : Store) : Ran Service.Stats :=
  match Parser.ofSettings host s.parser store with
  | .error f => ⟨.error f, sink, store⟩
  | .ok (parser, w) =>
    let w := { w with input := some input }
    .ofService (Service.serveInput parser s.index (host.pool s.jobs) sink w)

namespace CommandLine

structure Outcome where
  /-- The exit status; there is none if the process is killed. -/
  exit : Option Nat
  stdout : String
  store : Store

/-- The outcome of a task. A fault is written after what was written before it. -/
def Outcome.ofRan {α : Type} (r : Ran α) : Outcome :=
  match r.result with
  | .ok _ => ⟨some 0, r.sink.written, r.store⟩
  | .error (.fault f) => ⟨some f.code, r.sink.written ++ emit true f.toJson, r.store⟩
  | .error (.breakdown b) => ⟨b.code?, r.sink.written, r.store⟩

def versionLine : String := "scalaidx 0.1.0\n"

def helpText : String :=
  "Symbol indexer for Scala sources\n\n" ++
  "Usage: scalaidx [OPTIONS] <COMMAND>\n\n" ++
  "Commands:\n" ++
  "  index    Index files and directories\n" ++
  "  request  Answer a batch request\n" ++
  "  serve    Answer requests line by line\n" ++
  "  help     Print this message\n"

/-- The channels of the program itself, each with the places that stand for it. -/
def channelPlaces : List (Nat × List (List String)) :=
  [(0, "stdin"), (1, "stdout"), (2, "stderr")].map fun (n, name) =>
    (n, [["dev", name], ["dev", "fd", toString n], ["proc", "self", "fd", toString n]])

/-- The store with files for the input and the output of the program itself. -/
def withChannels (input : List UInt8) (store : Store) : Store :=
  channelPlaces.foldl (fun s (n, places) =>
    let id := s.unused
    let root := places.foldl (fun r place => r.put place (.file id)) s.root
    { s.setFile id { bytes := if n = 0 then input else [] } with root }) store

/-- What has been written to the file that stands for the output. -/
def channelText (store : Store) : String :=
  match store.root.at? ["dev", "stdout"] with
  | some (.file id) => Utf8.decodeLossy (store.file id).bytes
  | _ => ""

def Invocation.run (i : Invocation) (host : Host) (given : Environment) (input : List UInt8)
    (store : Store) : Outcome :=
  let store := withChannels input store
  match Settings.layered store i.config (Assoc.find? · given) i.overrides with
  | .error f => .ofRan (⟨.error (.fault f), {}, store⟩ : Ran Unit)
  | .ok s =>
    -- the settings may have been read from the input
    let left := if i.config.bind store.channel? == some 0 then [] else input
    match i.task with
    | .index paths none pretty => .ofRan (runIndex host s paths pretty {} store (some left))
    | .index paths (some output) pretty =>
      let ran := runIndexToFile host s paths output pretty store (some left)
      .ofRan { ran with sink := { written := channelText ran.store } }
    | .request path pretty => .ofRan (runRequest host s path pretty {} store (some left))
    | .serve => .ofRan (runServiceOnInput host s left {} store)

/-- Runs a whole command line with variables, input and files. -/
def run (args : List String) (host : Host) (given : Environment) (input : List UInt8)
    (store : Store) : Outcome :=
  match parse args with
  | .error .usage => ⟨some 2, "", store⟩
  | .error .help => ⟨some 0, helpText, store⟩
  | .error .version => ⟨some 0, versionLine, store⟩
  | .ok i => i.run host given input store

end CommandLine
end SymbolIndex
