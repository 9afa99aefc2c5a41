import SymbolIndex.Batch
import SymbolIndex.Sink
import SymbolIndex.Text.Blank

/-!
# The line service

Each line is a request: a path, or a document that lists files. Each is answered by a line.

- `Service.lines` : the lines of the input
- `Service.respond` : the answer to a line, and whether it is about an error
- `Service.turn` : what one line does
- `Service.serve` : the answers to all lines, up to a line that ends the session
- `Service.serveInput` : the same for the input of the program itself, which requests may read, too
-/

namespace SymbolIndex
namespace Service

/-- How many requests were answered, and how many of them by an error. -/
structure Stats where
  requests : Nat := 0
  errors : Nat := 0
  deriving DecidableEq, Repr, Inhabited

/-- The line that ends the session. -/
def sentinel : String := "<<EOF>>"

/-- The lines of the input, without line feeds. Nothing follows the last line feed. -/
def lines (input : List UInt8) : List (List UInt8) :=
  let pieces := input.splitOn 0x0A
  if pieces.getLast? = some [] then pieces.dropLast else pieces

def isDocument (request : String) : Bool :=
  request.toList.head? == some '\x7b'

/-- The answer to a request, and whether it is about an error. -/
def respond (parser : Parser) (options : Options) (pool : Pool) (request : String) (w : World) :
    Json × Bool × World :=
  if isDocument request then
    match answerText parser options pool request w with
    | (.ok response, w) => (response.toJson, false, w)
    | (.error f, w) => (.obj [("error", .str f.message)], true, w)
  else
    let (summary, w) := indexFile parser options request w
    (summary.toJson, summary.isError, w)

structure Session where
  stats : Stats := {}
  sink : Sink := {}
  world : World

/-- Answers one request; the fault is that of writing the answer. The request counts in any case. -/
def Session.serve (s : Session) (parser : Parser) (options : Options) (pool : Pool)
    (request : String) : Option IoFault × Session :=
  let (v, isError, world) := respond parser options pool request s.world
  let stats : Stats := ⟨s.stats.requests + 1, s.stats.errors + if isError then 1 else 0⟩
  match s.sink.put (emit false v) with
  | .error f => (some f, { s with stats, world })
  | .ok sink =>
    match sink.flush with
    | .error f => (some f, { stats, sink, world })
    | .ok _ => (none, { stats, sink, world })

/-- What a line does to a session: it goes on, or it is over. -/
inductive Turn where
  | next (s : Session)
  | over (result : Except IoFault Stats) (s : Session)

/-- One line of the input. A blank line is passed over, and a line that is no text ends the session
with a fault. -/
def turn (parser : Parser) (options : Options) (pool : Pool) (line : List UInt8) (s : Session) :
    Turn :=
  match Utf8.decode? line with
  | none => .over (.error .notText) s
  | some text =>
    let request := Text.trim text
    if request = "" then .next s
    else if request = sentinel then .over (.ok s.stats) s
    else
      match s.serve parser options pool request with
      | (none, s) => .next s
      | (some f, s) => .over (.error f) s

def serveLines (parser : Parser) (options : Options) (pool : Pool) :
    List (List UInt8) → Session → Except IoFault Stats × Session
  | [], s => (.ok s.stats, s)
  | line :: rest, s =>
    match turn parser options pool line s with
    | .next s => serveLines parser options pool rest s
    | .over result s => (result, s)

def serve (parser : Parser) (options : Options) (pool : Pool) (input : List UInt8) (sink : Sink)
    (w : World) : Except IoFault Stats × Session :=
  serveLines parser options pool (lines input) { sink, world := w }

/-! ## The input of the program itself -/

def blockSize : Nat := 8192

/-- Answers the lines of what has been read, and reads on. Requests may take away what is left of
the input. -/
def serveBlocks (parser : Parser) (options : Options) (pool : Pool) :
    Nat → List UInt8 → Session → Except IoFault Stats × Session
  | 0, _, s => (.ok s.stats, s)
  | fuel + 1, read, s =>
    let line := read.takeWhile (· != 0x0A)
    match read.drop line.length, s.world.input.getD [] with
    | _ :: rest, _ =>
      match turn parser options pool line s with
      | .next s => serveBlocks parser options pool fuel rest s
      | .over result s => (result, s)
    | [], [] =>
      if line.isEmpty then (.ok s.stats, s)
      else
        match turn parser options pool line s with
        | .next s => (.ok s.stats, s)
        | .over result s => (result, s)
    | [], left =>
      let world := { s.world with input := some (left.drop blockSize) }
      serveBlocks parser options pool fuel (read ++ left.take blockSize) { s with world }

/-- Answers all lines of the input of the program itself. -/
def serveInput (parser : Parser) (options : Options) (pool : Pool) (sink : Sink) (w : World) :
    Except IoFault Stats × Session :=
  -- each step takes a line or a block
  serveBlocks parser options pool (2 * (w.input.getD []).length + 2) [] { sink, world := w }

end Service
end SymbolIndex
