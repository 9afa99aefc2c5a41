import SymbolIndex.Shell.Signal

/-!
# Streams and files

- `Shell.readPiece`, `Shell.readUpTo`, `Shell.drain` : reading: what is there, up to a byte, or
  everything
- `Shell.writeTo`, `Shell.writeText` : writing
- `Shell.openPipe` : a new pipe
- `Shell.currentStore`, `Shell.alterStore` : the files, and how they are changed
- `Shell.standing?`, `Shell.openPath` : what a path leads to, which may be a channel
- `Shell.complain`, `Shell.fail`, `Shell.say` : what is told
-/

namespace SymbolIndex
namespace Shell

/-! ## Streams -/

def openStream (s : Stream) : Act Nat := do
  let id ← asksSystem fun y => y.streams.size
  changeSystem fun y => { y with streams := y.streams.push s }
  return id

def setStream (id : Nat) (s : Stream) : Act Unit :=
  changeSystem fun y => { y with streams := y.streams.setIfInBounds id s }

def streamAt (id : Nat) : Act Stream :=
  asksSystem fun y => (y.streams[id]?).getD .directory

def Process.stream? (p : Process) (channel : Nat) : Option Nat :=
  (p.channels.find? (·.1 == channel)).map Prod.snd

def streamOf? (channel : Nat) : Act (Option (Nat × Stream)) := do
  match ← asks (·.stream? channel) with
  | none => return none
  | some id => return some (id, ← streamAt id)

def Process.connect (channel id : Nat) (p : Process) : Process :=
  { p with channels := (channel, id) :: p.channels.filter (·.1 != channel) }

def Process.disconnect (channel : Nat) (p : Process) : Process :=
  { p with channels := p.channels.filter (·.1 != channel) }

def Process.hold (ids : List Nat) (p : Process) : Process :=
  { p with saved := ids ++ p.saved }

def Process.release (ids : List Nat) (p : Process) : Process :=
  { p with saved := p.saved.filter fun id => !ids.contains id }

def Process.maxChannels? (p : Process) : Option Nat :=
  (p.limits.find? (·.1 == 'n')).bind fun l => l.2.soft

def Process.freeChannel (p : Process) (others : Nat) : Nat :=
  let numbers := List.range (p.channels.length + others + 1)
  ((numbers.filter fun n => !p.channels.any (·.1 == n))[others]?).getD 0

/-- Whether the process may not have so many more channels. -/
def Process.lacksChannels (p : Process) (count : Nat) : Bool :=
  (p.maxChannels?.map fun most => decide (most < p.freeChannel (count - 1) + 1)).getD false

/-- Makes a pipe and gives the streams of its ends: the one at which it is read comes first. -/
def openPipe : Act (Nat × Nat) := do
  let pipe ← asksSystem fun y => y.pipes.size
  changeSystem fun y => { y with pipes := y.pipes.push {} }
  let outlet ← openStream (.outlet pipe)
  return (outlet, ← openStream (.inlet pipe))

def pipeAt (n : Nat) : Act Pipe :=
  asksSystem fun y => (y.pipes[n]?).getD {}

def setPipe (n : Nat) (p : Pipe) : Act Unit :=
  changeSystem fun y => { y with pipes := y.pipes.setIfInBounds n p }

/-! ## The store -/

/-- Puts what has been added to a file into the store. -/
def Addition.putInto (a : Addition) (s : Store) : Store :=
  s.writeFile a.file a.start a.pieces.reverse.flatten

/-- The system with everything in the store that has been added to files. -/
def System.settle (y : System) : System :=
  { y with kept := y.added.foldl (fun s a => a.putInto s) y.kept, added := [] }

def currentStore : Act Store := do
  let added ← asksSystem System.added
  if !added.isEmpty then
    changeSystem System.settle
    charge (added.foldl (fun n a => n + a.stop / 16) 0)
  asksSystem System.kept

def alterStore (f : Store → Store) : Act Unit := do
  let _ ← currentStore
  changeSystem fun y => { y with kept := f y.kept, count := y.count + 1, moved := y.count + 1 }

def subjectAt (s : Store) (place : List String) : Subject :=
  match s.root.at? place with
  | some (.file id) => .file id
  | _ => .place place

def noteChange (subject : Subject) : Act Unit :=
  changeSystem fun y => { y with
    count := y.count + 1
    changes := ⟨subject, y.clock, y.count + 1⟩ :: y.changes.filter (·.subject != subject) }

/-- Whether what was known about a file after so many changes still holds. -/
def System.isCurrent (y : System) (file count : Nat) : Bool :=
  let last := y.changes.find? (·.subject == .file file)
  y.moved ≤ count && (last.map fun c => decide (c.count ≤ count)).getD true

def restOf (f : OpenFile) : Act (List UInt8) := do
  let known ← asksSystem fun y => f.rest.filter fun r => y.isCurrent f.file r.1
  match known with
  | some (_, rest) => return rest
  | none =>
    charge (f.offset / 16)
    return ((← currentStore).file f.file).bytes.drop f.offset

/-- Notes that bytes have been read from a file, and what is left then. -/
def advance (id : Nat) (f : OpenFile) (taken : Nat) (left : List UInt8) : Act Unit := do
  let count ← asksSystem System.count
  setStream id (.file { f with offset := f.offset + taken, rest := some (count, left) })

/-! ## Writing -/

/-- What a signal does to the process that causes it: the process may live on if it does not heed
it. -/
def strike (signal : Nat) : Act Unit := do
  match (← asks id).reaction signal with
  | .die => throw (.killed signal)
  | .note => change (·.heed signal)
  | .halt | .nothing => return ()

/-- Writes bytes to a pipe, as far as somebody reads them. -/
def writePipe (pipe : Nat) : Nat → List UInt8 → Act (Except Trouble Unit)
  | 0, _ => expire
  | fuel + 1, bytes => do
    if bytes.isEmpty then return .ok ()
    pause (.room pipe)
    if ← asksSystem System.broken then
      strike 13
      return .error .broken
    let (p, rest) := (← pipeAt pipe).write bytes
    setPipe pipe p
    writePipe pipe fuel rest

/-- The largest size of files that the process may make. -/
def Process.maxFile? (p : Process) : Option Nat :=
  (p.limits.find? (·.1 == 'f')).bind fun l => l.2.soft

def fileSize (file : Nat) : Act Nat := do
  match ← asksSystem fun y => y.added.find? (·.file == file) with
  | some a => return a.stop
  | none =>
    let size := ((← asksSystem System.kept).file file).bytes.length
    charge (size / 16)
    return size

/-- Puts bytes into a file. What comes behind its end is put into the store later. -/
def putInto (file start size : Nat) (bytes : List UInt8) : Act Unit := do
  noteChange (.file file)
  let stop := start + bytes.length
  if start = size then
    changeSystem fun y =>
      let others := y.added.filter (·.file != file)
      match y.added.find? (·.file == file) with
      | some a => { y with added := { a with stop, pieces := bytes :: a.pieces } :: others }
      | none => { y with added := ⟨file, start, stop, [bytes]⟩ :: others }
  else
    let _ ← currentStore
    charge (size / 16)
    changeSystem fun y => { y with kept := y.kept.writeFile file start bytes }

/-- Writes bytes to a file, as far as it may grow. -/
def writeFile (id : Nat) (f : OpenFile) (bytes : List UInt8) : Act (Except Trouble Unit) := do
  if !f.access.writes then return .error .badChannel
  let size ← fileSize f.file
  let start := if f.access.appends then size else f.offset
  let room? := (← asks Process.maxFile?).map (· - start)
  let fitting := (room?.map bytes.take).getD bytes
  if !fitting.isEmpty then
    charge (fitting.length / 2)
    putInto f.file start size fitting
    setStream id (.file { f with offset := start + fitting.length, rest := none })
  if fitting.length < bytes.length then
    strike 25
    return .error .tooLarge
  return .ok ()

def writeTo (id : Nat) (bytes : List UInt8) : Act (Except Trouble Unit) := do
  if bytes.isEmpty then return .ok ()
  spend (8 + bytes.length / 8)
  match ← streamAt id with
  | .sink pieces =>
    charge bytes.length
    setStream id (.sink (bytes :: pieces))
    return .ok ()
  | .inlet pipe => writePipe pipe ((← asksSystem System.work) + 1) bytes
  | .file f => writeFile id f bytes
  | .device d access =>
    if !access.writes then return .error .badChannel
    if d = .full then return .error .noSpace
    return .ok ()
  | .text _ | .outlet _ | .directory => return .error .badChannel

def writeBytes (channel : Nat) (bytes : List UInt8) : Act (Except Trouble Unit) := do
  if bytes.isEmpty then return .ok ()
  match ← asks (·.stream? channel) with
  | none => return .error .badChannel
  | some id => writeTo id bytes

def writeText (channel : Nat) (text : String) : Act (Except Trouble Unit) :=
  writeBytes channel (Octets.toBytes text)

/-! ## Reading -/

/-- Reads what is there at once, up to a number of bytes. There is nothing at the end only. -/
def readPiece (id most : Nat) : Act (Except Trouble (List UInt8)) := do
  yield
  match ← streamAt id with
  | .text bytes =>
    let taken := bytes.take most
    charge (8 + taken.length / 16)
    setStream id (.text (bytes.drop most))
    return .ok taken
  | .outlet pipe =>
    pause (.data pipe false)
    let (taken, left) := (← pipeAt pipe).read most
    setPipe pipe left
    charge (8 + taken.length / 16)
    return .ok taken
  | .file f =>
    if !f.access.reads then return .error .badChannel
    let rest ← restOf f
    let taken := rest.take most
    charge (8 + taken.length / 16)
    advance id f taken.length (rest.drop most)
    return .ok taken
  | .device d access =>
    if !access.reads then return .error .badChannel
    if d = .null then return .ok []
    charge (8 + most / 16)
    return .ok (List.replicate most 0)
  | .directory => return .error .isDirectory
  | .sink _ | .inlet _ => return .error .badChannel

/-- How many bytes are read at once by those who want everything. -/
def largePiece : Nat := 131072

/-- Everything that is left to read from a stream, in pieces. -/
def drainPieces (id : Nat) : Nat → List (List UInt8) → Act (Except Trouble (List (List UInt8)))
  | 0, _ => expire
  | fuel + 1, pieces => do
    match ← readPiece id largePiece with
    | .error t => return .error t
    | .ok [] => return .ok pieces.reverse
    | .ok bytes => drainPieces id fuel (bytes :: pieces)

def drainStream (id : Nat) : Act (Except Trouble (List UInt8)) := do
  return (← drainPieces id ((← asksSystem System.work) + 1) []).map List.flatten

def drain (channel : Nat) : Act (Except Trouble (List UInt8)) := do
  match ← asks (·.stream? channel) with
  | none => return .error .badChannel
  | some id => drainStream id

/-- Bytes that have been divided: how many have been taken, those, newest first, and what is left.
`found` says that a byte has been found for which a condition holds. -/
structure Split where
  count : Nat
  taken : List UInt8
  left : List UInt8
  found : Bool

/-- Takes bytes up to the first one for which a condition holds on how many there are and on
itself. -/
def splitUpTo (ends : Nat → UInt8 → Bool) : Nat → List UInt8 → List UInt8 → Split
  | n, acc, [] => ⟨n, acc, [], false⟩
  | n, acc, b :: bs =>
    if ends (n + 1) b then ⟨n + 1, b :: acc, bs, true⟩ else splitUpTo ends (n + 1) (b :: acc) bs

/-- Reads from a pipe up to a byte for which a condition holds, after so many bytes, newest first. A
signal may come first. -/
def readPipeUpTo (pipe : Nat) (ends : Nat → UInt8 → Bool) :
    Nat → Nat → List UInt8 → Act (List UInt8 × Bool)
  | 0, _, acc => return (acc, false)
  | fuel + 1, n, acc => do
    if (← pipeAt pipe).isEmpty then pause (.data pipe true)
    match (← pipeAt pipe).pages with
    | [] => return (acc, false)
    | page :: pages =>
      let s := splitUpTo ends n acc page.bytes
      charge (1 + s.count - n)
      setPipe pipe ⟨if s.left.isEmpty then pages else ⟨page.start + (s.count - n), s.left⟩ :: pages⟩
      if s.found then return (s.taken, true) else readPipeUpTo pipe ends fuel s.count s.taken

/-- Reads up to a byte for which a condition holds, and says whether there was one. -/
def readUpTo (channel : Nat) (ends : Nat → UInt8 → Bool) (most : Nat) :
    Act (Except Trouble (List UInt8 × Bool)) := do
  yield
  match ← streamOf? channel with
  | none => return .error .badChannel
  | some (id, s) =>
    match s with
    | .text bytes =>
      let s := splitUpTo ends 0 [] bytes
      charge (1 + s.count)
      setStream id (.text s.left)
      return .ok (s.taken.reverse, s.found)
    | .outlet pipe =>
      let (taken, found) ← readPipeUpTo pipe ends ((← asksSystem System.work) + 1) 0 []
      return .ok (taken.reverse, found)
    | .file f =>
      if !f.access.reads then return .error .badChannel
      let s := splitUpTo ends 0 [] (← restOf f)
      charge (1 + s.count)
      advance id f s.count s.left
      return .ok (s.taken.reverse, s.found)
    | .device d access =>
      if !access.reads then return .error .badChannel
      if d = .null then return .ok ([], false)
      let zeros := (List.range most).map fun n => n + 1
      match zeros.find? fun n => ends n 0 with
      | some n => return .ok (List.replicate n 0, true)
      | none => expire
    | .directory => return .error .isDirectory
    | .sink _ | .inlet _ => return .error .badChannel

/-- Reads a line with its end, and says whether it has one. -/
def readLine (channel : Nat) : Act (Except Trouble (List UInt8 × Bool)) :=
  readUpTo channel (fun _ b => b == 0x0A) 0

/-! ## Files -/

def within (s : Store) (home : List String) : Store :=
  { s with home }

def ownStore : Act Store := do
  return within (← currentStore) (← asks (·.place))

/-- The store as the process sees it, where only names matter: what has been added to files may be
missing. -/
def ownTree : Act Store := do
  return within (← asksSystem System.kept) (← asks (·.place))

def placeText (place : List String) : String :=
  "/" ++ "/".intercalate (place.map Octets.ofText)

def channelAt? (path : String) : Act (Option Nat) := do
  let text := Octets.toText path
  return if Path.isAbsolute text then Path.channel? (Path.names text) else none

inductive Standing where
  | entry (e : Entry)
  | pipe

def Stream.standing : Stream → Standing
  | .file f => .entry (.file f.file)
  | .device d _ => .entry (.device d)
  | .directory => .entry (.dir [])
  | .text _ | .sink _ | .outlet _ | .inlet _ => .pipe

/-- What stands at a path of bytes, if there is something. -/
def standing? (path : String) : Act (Option Standing) := do
  spend 20
  match ← channelAt? path with
  | some n => return (← streamOf? n).map fun s => s.2.standing
  | none => return ((← ownTree).lookup (Octets.toText path)).toOption.map .entry

/-- What may be done with something that is opened in a way. -/
def Opening.access (how : Opening) : Access :=
  { reads := how = .read || how = .both, writes := how ≠ .read, appends := how = .append }

/-- Whether something that is opened in a way keeps what it holds. -/
def Opening.keeps (how : Opening) : Bool :=
  how = .append || how = .both

def openEntry (e : Entry) (access : Access) : Act Nat :=
  match e with
  | .file id => openStream (.file { file := id, access })
  | .device d => openStream (.device d access)
  | .program _ => openStream (.text Entry.programBytes)
  | .dir _ => openStream .directory

def openText (text : String) (how : Opening) : Act (Except Trouble Nat) := do
  if how = .read then
    match (← ownTree).lookup text with
    | .error f => return .error (.ofFault f)
    | .ok e => return .ok (← openEntry e how.access)
  else
    let seen ← ownTree
    match seen.create text how.keeps with
    | .error f => return .error (.ofFault f)
    | .ok (.device d, _) => return .ok (← openStream (.device d how.access))
    | .ok (.file id, _) =>
      let unchanged :=
        match seen.lookup text with
        | .ok (.file _) => how.keeps
        | _ => false
      if !unchanged then
        noteChange (.file id)
        let home ← asks (·.place)
        alterStore fun s =>
          (((within s home).create text how.keeps).toOption.map fun made =>
            within made.2 s.home).getD s
      return .ok (← openStream (.file { file := id, access := how.access }))

def reopen (id : Nat) (how : Opening) : Act Nat := do
  if how ≠ .read && !how.keeps then
    noteChange (.file id)
    alterStore fun s => s.setFile id { s.file id with bytes := [] }
  openStream (.file { file := id, access := how.access })

/-- Opens what a path of bytes names. A channel that leads to a file opens the file once more. -/
def openPath (path : String) (how : Opening) : Act (Except Trouble Nat) := do
  charge 20
  lapse (4 * microsecond)
  if ← asks (·.lacksChannels 1) then return .error .tooMany
  match ← channelAt? path with
  | none => openText (Octets.toText path) how
  | some n =>
    match ← streamOf? n with
    | some (_, .file f) => return .ok (← reopen f.file how)
    | some (_, .device d _) => return .ok (← openStream (.device d how.access))
    | some (id, _) => return .ok id
    | none => return .error .notFound

/-! ## Messages -/

/-- Says something about a fault, with the name of the script and the line. -/
def complain (message : String) : Act Unit := do
  let p ← asks id
  let command :=
    match p.command with
    | some c => c ++ ": "
    | none => ""
  let _ ← writeText 2 (p.name ++ ": " ++ toString p.line ++ ": " ++ command ++ message ++ "\n")

def fail {α : Type} (message : String) : Act α := do
  complain message
  setStatus 2
  throw .fault

/-- Adds to what a command of the shell has to say. -/
def say (text : String) : Act Unit :=
  change fun p => { p with said := text :: p.said }

/-- Writes what a command of the shell has to say. It fails if that cannot be written. -/
def flush : Act Bool := do
  let said ← asks Process.said
  change fun p => { p with said := [] }
  if said.isEmpty then return true
  match ← writeText 1 (String.join said.reverse) with
  | .ok _ => return true
  | .error _ => return false

end Shell
end SymbolIndex
