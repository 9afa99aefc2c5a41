import SymbolIndex.Shell.Builtin.Limits
import SymbolIndex.Shell.Builtin.Places
import SymbolIndex.Shell.Builtin.Signals
import SymbolIndex.Shell.Builtin.Variables
import SymbolIndex.Shell.Condition
import SymbolIndex.Shell.Format
import SymbolIndex.Shell.Grammar

/-!
# Running commands

- `Shell.Flow` : where a command stands, as far as that matters to it
- `Shell.Script` : where a script comes from
- `Shell.Runner` : how commands inside a command are run, and how programs are started
- `Shell.applyRedirects` : the channels of a command
- `Shell.runSimple` : a simple command: assignments, a command of the shell, a function or a program
- `Shell.runPipeline`, `Shell.runBackground`, `Shell.runLoop` : commands that consist of others
- `Shell.runCommand` : any command
- `Shell.runScript` : the commands of a script, line by line
- `Shell.runner` : commands inside each other up to a depth
-/

namespace SymbolIndex
namespace Shell

structure Flow where
  /-- Its status is looked at, so that a failure does not end the script. -/
  tested : Bool := false
  /-- Nothing follows it in its process. -/
  last : Bool := false

inductive Script where
  /-- All of it is there. -/
  | whole (text : String)
  /-- It is read from a stream, piece by piece. -/
  | stream (id : Nat)
  /-- It is read from the input, whatever that is when the next piece is needed. -/
  | input

/-- How commands inside a command are run, and how programs are started. -/
structure Runner where
  command : Flow → Command → Act Unit
  /-- The commands of a script. -/
  script : Flow → Script → Act Unit
  /-- Turns the process into the program at a path, with a name and arguments. -/
  become : String → List String → Act Nat

/-! ## Processes -/

/-- Runs something as a shell of its own: at the end it does what was asked for. -/
def asShell (r : Runner) (act : Act Unit) : Act Unit := do
  let outcome ← attempt act
  let status ← asks Process.status
  let status ←
    match outcome with
    | .error (.killed n) => throw (.killed n)
    | .error (.exit (some n)) => pure n
    | _ => pure status
  setStatus status
  match (← asks (·.traps)).find? (·.1 == 0) with
  | none => return ()
  | some (_, action) =>
    change fun p => { p with traps := p.traps.filter (·.1 != 0), skip := .nothing, loops := 0 }
    match ← attempt (r.script {} (.whole action)) with
    | .error (.exit (some n)) => setStatus n
    | .error (.killed n) => throw (.killed n)
    | .error .fault => return ()
    | _ => setStatus status

/-- Starts something in a shell of its own, and gives its number. -/
def startShell (r : Runner) (act : Act Unit) : Act Nat :=
  fork (asShell r act)

/-- Runs the actions for signals that have been caught, unless commands are passed over. -/
def runTraps (r : Runner) : Nat → Act Unit
  | 0 => return ()
  | fuel + 1 => do
    match ← asks fun p => (p.caught.min?, p.skip) with
    | (some n, .nothing) =>
      change fun p => { p with caught := p.caught.filter (· != n) }
      if let some (_, action) := (← asks (·.traps)).find? (·.1 == n) then
        let status ← asks Process.status
        r.script {} (.whole action)
        if (← asks Process.skip) ≠ .back then setStatus status
      runTraps r fuel
    | _ => return ()

/-- Whether something is done at signals or at the end. -/
def hasTraps : Act Bool :=
  asks fun p => p.traps.any fun t => t.2 != ""

/-! ## Commands in words -/

def makePipe (others : Nat) : Act (Nat × Nat) := do
  if ← asks (·.lacksChannels (others + 2)) then fail "Pipe call failed"
  openPipe

/-- What a command in a word writes, without line ends at its end. -/
def outputOf (r : Runner) (c : Command) : Act String := do
  let saved ← asks Process.saved
  let (outlet, inlet) ← makePipe 0
  change (·.hold [outlet, inlet])
  let number ← startShell r do
    change fun p => { p.connect 1 inlet with saved }
    r.command { last := true } c
  change (·.release [inlet])
  let slot ← addJob [number]
  let bytes := ((← drainStream outlet).toOption).getD []
  change (·.release [outlet])
  let ended ← awaitJob slot
  change fun p => { p with inner := some ended.status }
  return Octets.ofBytes ((bytes.filter (· != 0)).reverse.dropWhile (· == 0x0A)).reverse

def fillerOf (r : Runner) : Filler :=
  filler (outputOf r) maxWordDepth

/-! ## Channels -/

inductive Resolved where
  | file (channel : Nat) (how : Opening) (name : String)
  | same (channel target : Nat)
  | closed (channel : Nat)
  | here (channel number : Nat)

def resolveRedirect (f : Filler) : Redirect → Act Resolved
  | .file channel how w => return .file channel how (← expandText f w)
  | .here channel number => return .here channel number
  | .same channel w => do
    match (← expandText f w).toList with
    | ['-'] => return .closed channel
    | cs =>
      match cs with
      | [c] => if c.isDigit then return .same channel (c.toNat - 0x30)
      | _ => pure ()
      -- such a fault counts as one of what has been read last
      change fun p => { p with line := p.reading }
      fail "Syntax error: Bad fd number"

/-- What is said when a file cannot be opened or made. -/
def openingWords (reads : Bool) : Trouble → String
  | .notFound | .notDirectory => if reads then "No such file" else "Directory nonexistent"
  | t => t.message

/-- Whether a path names a file that must not be overwritten. -/
def isProtected (how : Opening) (path : String) : Act Bool := do
  if how ≠ .write || !(← asks Process.options).contains 'C' then return false
  match ← standing? path with
  | some (.entry e) => return e.isFile
  | _ => return false

/-- The least number of channels that are kept. -/
def firstKept : Nat := 10

/-- Keeps the stream of a channel that is to lead elsewhere. If that is not possible then the
channel is lost, and what has been opened for it stays open under another number. -/
def keepChannel (channel : Nat) (opened : Option Nat) : Act Unit := do
  let p ← asks id
  if let some most := p.maxChannels? then
    if (p.stream? channel).isSome && most < firstKept + max 1 p.saved.length then
      let why : Trouble := if most ≤ firstKept then .invalid else .tooMany
      change fun p => { p.disconnect channel with lost := channel :: p.lost }
      if let some id := opened then change (·.connect (p.freeChannel 0) id)
      fail (toString channel ++ ": " ++ why.message)

/-- Lets a channel lead to a stream that has been opened for it. -/
def leadTo (keeps : Bool) (channel id : Nat) : Act Unit := do
  if keeps then keepChannel channel (some id)
  if (← asks Process.maxChannels?).all (channel < ·) then change (·.connect channel id)

/-- Follows a redirection. `keeps` says that it is to be undone. -/
def follow (f : Filler) (keeps : Bool) : Resolved → Act Unit
  | .closed channel => do
    if keeps then keepChannel channel none
    change (·.disconnect channel)
  | .same channel target => do
    if channel = target then return ()
    if keeps then keepChannel channel none
    match ← streamOf? target with
    | some (id, _) =>
      if (← asks Process.maxChannels?).any (· ≤ channel) then
        fail (toString target ++ ": Bad file descriptor")
      change (·.connect channel id)
    | none => fail (toString target ++ ": Bad file descriptor")
  | .here channel number => do
    let text ← expandHere f number
    if ← asks (·.lacksChannels 2) then fail "Pipe call failed"
    leadTo keeps channel (← openStream (.text (Octets.toBytes text)))
  | .file channel how name => do
    if ← isProtected how name then fail ("cannot create " ++ name ++ ": File exists")
    match ← openPath name how with
    | .ok id => leadTo keeps channel id
    | .error t =>
      -- what must not be overwritten is only opened
      let exists' := ((← ownTree).lookup (Octets.toText name)).isOk
      let reads := how = .read || (how = .write && exists' && (← asks Process.options).contains 'C')
      fail ((if reads then "cannot open " else "cannot create ") ++ name ++ ": " ++
        openingWords reads t)

def applyRedirects (f : Filler) (keeps : Bool) (rs : List Redirect) : Act Bool := do
  if rs.isEmpty then return true
  let resolved ← rs.mapM (resolveRedirect f)
  match ← attempt (resolved.forM (follow f keeps)) with
  | .ok _ => return true
  | .error .fault => return false
  | .error e => throw e

/-- Lets some channels lead to where they led before, unless they are lost. -/
def Process.reconnect (p : Process) (channels : List (Nat × Nat)) (rs : List Redirect) : Process :=
  let p := rs.foldl (fun p r =>
    if p.lost.contains r.channel then p
    else
      match channels.find? (·.1 == r.channel) with
      | some (n, id) => p.connect n id
      | none => p.disconnect r.channel) p
  { p with lost := [] }

def Process.replaced (p : Process) (rs : List Redirect) : List Nat :=
  rs.filterMap fun r => p.stream? r.channel

/-- Runs something with other channels, or something else if that is not possible. -/
def withRedirects (f : Filler) (rs : List Redirect) (act refused : Act Unit) : Act Unit := do
  let old ← asks id
  change (·.hold (old.replaced rs))
  let outcome ← attempt (do if ← applyRedirects f true rs then act else refused)
  change fun p => { p.reconnect old.channels rs with saved := old.saved }
  resume outcome

/-! ## Commands of the shell -/

def loopCount (args : List String) : Act Nat := do
  let n ← match args with
    | [] => pure 1
    | a :: _ => do
      let n ← wholeNumber a
      if n = 0 then fail ("Illegal number: " ++ a)
      pure n
  return min n (← asks Process.loops)

/-- Keeps the channel of a script that has just been opened. -/
def keepScript : Act Unit := do
  let p ← asks id
  if let some most := p.maxChannels? then
    if most ≤ firstKept + p.saved.length then
      let why : Trouble := if most ≤ firstKept then .invalid else .tooMany
      fail (toString (p.freeChannel 0) ++ ": " ++ why.message)

/-- Runs the file at a path in the same process. -/
def source (r : Runner) (args : List String) : Act Nat := do
  let (_, args) ← letters "" args
  match args with
  | [] => return 0
  | name :: _ =>
    let store ← ownTree
    let dirs ← asks Process.directories
    let path ←
      if name.toList.contains '/' then pure name
      else
        match (dirs.map fun d => if d = "" then name else d ++ "/" ++ name).find? fun path =>
            store.isFile (Octets.toText path) with
        | some path => pure path
        | none => fail (name ++ ": not found")
    match ← openPath path .read with
    | .error t => fail ("cannot open " ++ path ++ ": " ++ openingWords true t)
    | .ok id =>
      keepScript
      change fun p => { p with command := some path }
      r.script {} (.stream id)
      change fun p => { p with skip := if p.skip = .back then .nothing else p.skip }
      asks Process.status

def become (r : Runner) (args : List String) : Act Nat := do
  match args with
  | [] => return 0
  | name :: _ =>
    let path ←
      if name.toList.contains '/' then pure (some name) else findProgram? name
    match path with
    | none =>
      let (why, words) ← missingWords name
      complain words
      throw (.exit (some (if why = .denied then 126 else 127)))
    | some path =>
      let status ← r.become path args
      throw (.exit (some status))

/-- The options of `command`: whether it describes, in a sentence or in short, and the other
arguments. -/
def commandOptions (args : List String) : Act (Option Bool × List String) := do
  let command ← asks Process.command
  change fun p => { p with command := some "command" }
  let outcome ← attempt (letters "pvV" args)
  change fun p => { p with command }
  let (options, args) ←
    match outcome with
    | .ok found => pure found
    | .error e => throw e
  let describes := options.filter fun o => o.1 == 'v' || o.1 == 'V'
  return ((describes.getLast?).map fun o => o.1 == 'V', args)

/-- Runs a command of the shell that needs no other commands. -/
def runPlainBuiltin (name : String) (args : List String) : Act Nat := do
  match name with
  | ":" | "true" => return 0
  | "false" => return 1
  | "echo" =>
    say (echoText args)
    return 0
  | "printf" => printf args
  | "test" | "[" => test name args
  | "read" => readInto args
  | "cd" | "chdir" => changeDirectory args
  | "pwd" => printDirectory args
  | "umask" => setMask args
  | "export" | "readonly" => mark name args
  | "unset" => unset args
  | "local" => declareLocal args
  | "set" => setOptions args
  | "shift" => shift args
  | "getopts" => nextOption args
  | "alias" => setAliases args
  | "unalias" => unalias args
  | "type" => describeAll args
  | "hash" => remember args
  | "trap" => trap args
  | "kill" => kill args
  | "wait" => wait args
  | "jobs" => listJobs args
  | "bg" | "fg" => moveJob args
  | "times" =>
    say "0m0.000000s 0m0.000000s\n0m0.000000s 0m0.000000s\n"
    return 0
  | "ulimit" => limitUse args
  | "exit" =>
    match args with
    | [] => throw (.exit none)
    | a :: _ => throw (.exit (some (← wholeNumber a)))
  | "return" =>
    let status ← match args with
      | [] => asks Process.status
      | a :: _ => wholeNumber a
    change fun p => { p with skip := .back }
    return status
  | "break" =>
    let n ← loopCount args
    if 0 < n then change fun p => { p with skip := .leave n }
    return 0
  | "continue" =>
    let n ← loopCount args
    if 0 < n then change fun p => { p with skip := .again n }
    return 0
  | _ => return 0

def runBuiltin (r : Runner) (tested : Bool) (name : String) (args : List String) : Act Nat := do
  match name with
  | "eval" =>
    if args.isEmpty then return 0
    r.script { tested } (.whole (" ".intercalate args))
    asks Process.status
  | "." => source r args
  | "exec" => become r args
  | _ => runPlainBuiltin name args

/-- Runs a command of the shell with its name in messages, and writes what it has to say. -/
def callBuiltin (r : Runner) (tested : Bool) (name : String) (args : List String) : Act Nat := do
  let command ← asks Process.command
  change fun p => { p with command := some name }
  let outcome ← attempt (runBuiltin r tested name args)
  let written ← flush
  if !written then complain (name ++ ": I/O error")
  change fun p => { p with command }
  match outcome with
  | .ok status => return if written then status else 1
  | .error e => throw e

/-! ## Simple commands -/

def maxCalls : Nat := 1000

def callFunction (r : Runner) (line : Nat) (body : Command) (args : List String) (tested : Bool) :
    Act Unit := do
  if maxCalls < (← asks Process.hidden).length then
    fail ("Maximum function recursion depth (" ++ toString maxCalls ++ ") reached")
  let (arguments, functionLine) ← asks fun p => (p.arguments, p.functionLine)
  let (loops, optionPlace) ← asks fun p => (p.loops, p.optionPlace)
  change fun p =>
    { p with arguments := args, functionLine := some line, loops := 0, optionPlace := {} }
  let outcome ← attempt (r.command { tested } body)
  change fun p => { p with
    arguments, functionLine, loops, optionPlace
    skip := if p.skip = .back then .nothing else p.skip }
  resume outcome

/-- The words of a command. Assignments behind a command that sets variables do not fall apart. -/
def expandCommand (f : Filler) : List Word → Act (List String)
  | [] => return []
  | w :: ws => do
    match ← expandWord f w with
    | [] => expandCommand f ws
    | name :: more =>
      let sets := ["export", "readonly", "local", "alias"].contains name
      let rest ← ws.mapM fun w => do
        if sets && w.isAssignment then return [← expandAssignment f w]
        expandWord f w
      return name :: more ++ rest.flatten

/-- The text of a prompt. If it cannot be read it stays as it is. -/
def prompt (f : Filler) (text : String) : Act String := do
  match parseText text with
  | .ok w =>
    let options ← asks Process.options
    change fun p => { p with options := options.filter (· != 'x') }
    let filled ← attempt (textWith f w)
    change fun p => { p with options := options }
    match filled with
    | .ok filled => return filled
    | .error .fault => return text
    | .error e => throw e
  | .error fault =>
    complain fault.message
    return text

/-- Says which command is run, on the channel that messages had before it was redirected. -/
def traceCommand (f : Filler) (errors : Option Nat) (assignments words : List String) :
    Act Unit := do
  if !(← asks fun p => p.options.contains 'x') then return ()
  if let some n := errors then
    let front ← prompt f ((← asks fun p => p.binding? "PS4").getD "")
    let text := front ++ " ".intercalate (assignments ++ words) ++ "\n"
    let _ ← writeTo n (Octets.toBytes text)

/-- Sets the variables of a command. They are exported to it and forgotten afterwards, unless they
stay. -/
def assignAll (f : Filler) (stays : Bool) (as : List Word) : Act (List String) := do
  as.mapM fun w => do
    let text ← expandAssignment f w
    let (name, value) := (assigned? text).getD ("", "")
    if !stays then hide name
    assign name value
    if !stays then
      change fun p => p.bind name { (p.lookup? name).getD {} with exported := true }
    return text

/-- Starts a program in a process of its own, or in this one if nothing follows. -/
def startProgram (r : Runner) (flow : Flow) (words : List String) : Act Unit := do
  let name := words.headD ""
  let hasSlash := name.toList.contains '/'
  let path ← if hasSlash then pure (some name) else findProgram? name
  match path with
  | none =>
    complain (← missingWords name).2
    setStatus 127
  | some path =>
    if !hasSlash then change fun p => { p with hashed := name :: p.hashed.filter (· != name) }
    if flow.last && !(← hasTraps) then
      let status ← r.become path words
      throw (.exit (some status))
    spend 200
    lapse spawnTime
    let number ← startCopy do
      change Process.withoutActions
      setStatus (← r.become path words)
    setStatus (← awaitProcess number).status

/-- Runs what the words of a command name, which may be a function. -/
def dispatch (r : Runner) (flow : Flow) (calls : Bool) (words : List String) : Act Unit := do
  match words with
  | [] => setStatus ((← asks Process.inner).getD 0)
  | name :: args =>
    match (← asks (·.functions)).find? fun f => calls && f.1 == name with
    | some (_, line, body) => callFunction r line body args flow.tested
    | none =>
      if isSpecialBuiltin name then setStatus (← callBuiltin r flow.tested name args)
      else if isPlainBuiltin name then
        match ← attempt (callBuiltin r flow.tested name args) with
        | .ok status => setStatus status
        | .error .fault => setStatus 2
        | .error e => throw e
      else startProgram r flow words

/-- Runs the command behind `command`, which is no function. -/
def dispatchPlain (r : Runner) (flow : Flow) : Nat → List String → Act Unit
  | 0, _ => return ()
  | fuel + 1, words => do
    match words with
    | "command" :: args =>
      match ← attempt (commandOptions args) with
      | .error .fault => setStatus 2
      | .error e => throw e
      | .ok (some sentence, names) =>
        match names with
        | [] => setStatus 0
        | n :: _ =>
          setStatus (← describe n sentence)
          let _ ← flush
      | .ok (none, []) => setStatus 0
      | .ok (none, args) =>
        match ← attempt (dispatchPlain r flow fuel args) with
        | .ok _ => return ()
        -- such a command does not end the script
        | .error .fault => setStatus 2
        | .error e => throw e
    | words => dispatch r flow false words

def keepsChannels (words : List String) : Bool :=
  words.getLast? == some "exec" && words.dropLast.all (· == "command")

def runSimple (r : Runner) (flow : Flow) (line : Nat) (as ws : List Word) (rs : List Redirect) :
    Act Unit := do
  let f := fillerOf r
  change fun p => { p with line, inner := none }
  let words ← expandCommand f ws
  let isFunction := (← asks (·.functions)).any fun g => some g.1 == words.head?
  let special := !isFunction && (words.head?.map isSpecialBuiltin).getD false
  let stays := words.isEmpty || special
  let channels ← asks Process.channels
  let saved ← asks Process.saved
  let errors ← asks (·.stream? 2)
  if !rs.isEmpty then change fun p => p.hold (p.replaced rs)
  if !(← applyRedirects f true rs) then
    change fun p => { p.reconnect channels rs with saved }
    setStatus 2
    if special then throw .fault
  else
    if !stays then change fun p => { p with hidden := [] :: p.hidden }
    let outcome ← attempt (do
      let texts ← assignAll f stays as
      traceCommand f errors texts words
      if words.head? == some "command" && !isFunction then
        dispatchPlain r flow (words.length + 1) words
      else dispatch r flow true words)
    if !stays then
      match (← asks Process.hidden) with
      | frame :: frames => change fun p => { p.restore frame with hidden := frames }
      -- the process has become another program
      | [] => pure ()
    if !rs.isEmpty then
      if !keepsChannels words || outcome.toOption.isNone then
        change fun p => p.reconnect channels rs
      change fun p => { p with saved }
    resume outcome
    reap

/-! ## Commands that consist of others -/

/-- Lets a shell that is not waited for neither heed the signals of a keyboard nor, if it comes
first, read. -/
def detach (isFirst : Bool) : Act Unit := do
  change fun p => { p with deaf := [2, 3] ++ p.deaf }
  if isFirst then
    let empty ← openStream (.device .null { reads := true })
    change (·.connect 0 empty)

/-- Starts the commands of a pipeline, each in a shell of its own, and gives their numbers. Each but
the first one reads from the stream of the one before it. -/
def startParts (r : Runner) (tested waits : Bool) : Option Nat → List Command → Act (List Nat)
  | _, [] => return []
  | input, c :: cs => do
    let saved ← asks Process.saved
    let ends ← if cs.isEmpty then pure none else do pure (some (← makePipe input.toList.length))
    change (·.hold ((ends.map fun e => [e.1, e.2]).getD []))
    let number ← startShell r do
      if !waits then detach input.isNone
      change fun p => { p with saved := saved.filter fun id => some id != input }
      if let some id := input then change (·.connect 0 id)
      if let some (_, inlet) := ends then change (·.connect 1 inlet)
      r.command { tested, last := true } c
    change (·.release (input.toList ++ (ends.map Prod.snd).toList))
    let numbers ← startParts r tested waits (ends.map Prod.fst) cs
    return number :: numbers

/-- Remembers where the program of a command in a pipeline is. -/
def rememberFirst : Command → Act Unit
  | .simple _ _ (w :: _) _ => do
    match Word.bare? w with
    | some name =>
      if isName name && !isSpecialBuiltin name && !isPlainBuiltin name &&
        (← findProgram? name).isSome then
        change fun p => { p with hashed := name :: p.hashed.filter (· != name) }
    | none => return ()
  | _ => return ()

/-- A pipeline. The last of its commands gives the status. -/
def runPipeline (r : Runner) (tested : Bool) (cs : List Command) : Act Unit := do
  cs.forM rememberFirst
  let slot ← addJob (← startParts r tested true none cs)
  setStatus (← awaitJob slot).status

def runBackground (r : Runner) (line : Nat) (c : Command) (rs : List Redirect) : Act Unit := do
  change fun p => { p with line }
  let numbers ←
    match c with
    | .pipeline cs => do
      cs.forM rememberFirst
      startParts r false false none cs
    | c => do
      let f := fillerOf r
      let number ← startShell r do
        detach true
        if ← applyRedirects f false rs then r.command { last := true } c else setStatus 2
      pure [number]
  let _ ← addJob numbers
  change fun p => { p with lastJob := numbers.getLast? }
  setStatus 0

/-- Whether a loop goes on after a part of it has run. -/
def afterRound : Act Bool := do
  let skip ← asks Process.skip
  let set (s : Skip) : Act Unit := change fun p => { p with skip := s }
  match skip with
  | .nothing => return true
  | .back => return false
  | .again n =>
    if n ≤ 1 then
      set .nothing
      return true
    set (.again (n - 1))
    return false
  | .leave n =>
    set (if n ≤ 1 then .nothing else .leave (n - 1))
    return false

/-- A loop with a test, and the status of its last round. -/
def runLoop (r : Runner) (tested ends : Bool) (test body : Command) : Nat → Nat → Act Nat
  | 0, _ => expire
  | fuel + 1, status => do
    spend 2
    r.command { tested := true } test
    let result ← asks Process.status
    let skip ← asks Process.skip
    if skip ≠ .nothing then
      if ← afterRound then runLoop r tested ends test body fuel status
      else return if skip = .back then result else status
    else if (result == 0) == ends then return status
    else
      r.command { tested } body
      let status ← asks Process.status
      if ← afterRound then runLoop r tested ends test body fuel status else return status

def runEach (r : Runner) (tested : Bool) (name : String) (body : Command) : List String → Act Unit
  | [] => return ()
  | w :: ws => do
    spend 4
    assign name w
    r.command { tested } body
    if ← afterRound then runEach r tested name body ws

def findArm (f : Filler) (text : String) : List (List Word × Command) → Act (Option Command)
  | [] => return none
  | (patterns, body) :: arms => do
    let hit ← patterns.anyM fun w => do
      let pattern ← expandPattern f w
      let hit := pattern.holds text
      -- what is found lies at the front, more often than not
      spend (4 + pattern.effort (if hit then text.utf8ByteSize / 4 else text.utf8ByteSize))
      return hit
    if hit then return some body
    findArm f text arms

/-- Commands one after another, until something makes the rest be passed over. -/
def runSequence (r : Runner) (flow : Flow) : List Command → Act Unit
  | [] => return ()
  | [c] => r.command flow c
  | c :: cs => do
    r.command { flow with last := false } c
    if (← asks Process.skip) = .nothing then runSequence r flow cs

/-- Ends the script if a command fails that nobody looks at. -/
def checkFailure (flow : Flow) : Act Unit := do
  if flow.tested then return ()
  let status ← asks Process.status
  if status ≠ 0 && (← asks fun p => p.options.contains 'e') then throw (.exit (some status))

def inLoop (act : Act Unit) : Act Unit := do
  change fun p => { p with loops := p.loops + 1 }
  let outcome ← attempt act
  change fun p => { p with loops := p.loops - 1 }
  resume outcome

def runCommand (r : Runner) (flow : Flow) (c : Command) : Act Unit := do
  if (← asks Process.options).contains 'n' then return ()
  let inner : Flow := { tested := flow.tested }
  match c with
  | .nothing => return ()
  | .simple line as ws rs =>
    spend (8 + 4 * (as.length + ws.length + 4 * rs.length))
    runSimple r flow line as ws rs
    checkFailure flow
  | .pipeline cs =>
    runPipeline r flow.tested cs
    checkFailure flow
  | .negated c =>
    r.command { tested := true } c
    setStatus (if (← asks Process.status) = 0 then 1 else 0)
  | .both a b =>
    r.command { tested := true } a
    if (← asks Process.status) = 0 && (← asks Process.skip) = .nothing then r.command flow b
  | .either a b =>
    r.command { tested := true } a
    if (← asks Process.status) ≠ 0 && (← asks Process.skip) = .nothing then r.command flow b
  | .sequence cs => runSequence r flow cs
  | .background line c rs => runBackground r line c rs
  | .subshell line c rs =>
    spend 16
    change fun p => { p with line }
    let f := fillerOf r
    let resolved ← rs.mapM (resolveRedirect f)
    let body : Act Unit := do
      resolved.forM (follow f false)
      r.command { tested := flow.tested, last := true } c
    if flow.last && !(← hasTraps) then
      change Process.copied
      body
      throw (.exit none)
    setStatus (← awaitProcess (← startShell r body)).status
    checkFailure flow
  | .redirected line c rs =>
    change fun p => { p with line }
    withRedirects (fillerOf r) rs (r.command inner c) (do
      setStatus 2
      checkFailure flow)
  | .branch test yes no =>
    r.command { tested := true } test
    if (← asks Process.skip) = .nothing then
      if (← asks Process.status) = 0 then r.command flow yes
      else
        match no with
        | .nothing => setStatus 0
        | no => r.command flow no
  | .loop ends test body =>
    inLoop do
      let work ← asksSystem System.work
      setStatus (← runLoop r flow.tested ends test body (work + 1) 0)
  | .each line name words body =>
    change fun p => { p with line }
    let words ← expandWords (fillerOf r) words
    if words.isEmpty then setStatus 0
    inLoop (runEach r flow.tested name body words)
  | .select line word arms =>
    change fun p => { p with line }
    let f := fillerOf r
    let text ← expandText f word
    match ← findArm f text arms with
    | some .nothing | none => setStatus 0
    | some body => r.command flow body
  | .function line name body =>
    change fun p => { p with functions := (name, line, body) :: p.functions.filter (·.1 != name) }
    setStatus 0
  runTraps r 100

/-! ## Scripts -/

/-- How many bytes of a script are read at once. -/
def pieceSize : Nat := 8192

/-- The next piece of a script. There is none at its end, or if it cannot be read. -/
def Script.piece : Script → Act (List UInt8)
  | .whole _ => return []
  | .stream id => return ((← readPiece id pieceSize).toOption).getD []
  | .input => do
    match ← streamOf? 0 with
    | none => return []
    | some (id, _) => return ((← readPiece id pieceSize).toOption).getD []

def Script.front : Script → List Char
  | .whole text => text.toList
  | .stream _ | .input => []

def Script.isOpen : Script → Bool
  | .whole _ => false
  | .stream _ | .input => true

/-- The characters of a script that are seen. Zeros are not. -/
def seen (cs : List Char) : List Char :=
  cs.filter (· != '\x00')

/-- Asks for the lines of a command, if somebody is to be asked. -/
def askFor (r : Runner) (lines : Nat) : Act Unit := do
  let p ← asks id
  if !p.options.contains 'i' then return ()
  let _ ← writeText 2 (← prompt (fillerOf r) ((p.binding? "PS1").getD ""))
  (List.range (lines - 1)).forM fun _ => do
    let _ ← writeText 2 (← prompt (fillerOf r) ((p.binding? "PS2").getD ""))

/-- Whether more of the script was looked for than there was. -/
def fellShort : Except SyntaxFault (Option Command × Reader) → Bool
  | .ok (_, next) => next.short
  | .error f => f.short

/-- The commands of a script, line by line. `loud` says that lines may be shown as they are read,
and `idle` that there was no command so far: then the status becomes zero at the end. `script` is
where more comes from. -/
def runLines (r : Runner) (flow : Flow) (loud : Bool) : Nat → Bool → Script → Reader → Act Unit
  | 0, _, _, _ => expire
  | fuel + 1, idle, script, reader => do
    let p ← asks id
    let line :=
      parseLine { reader with heres := p.heres, count := p.hereCount, aliases := p.aliases }
    if script.isOpen then spend 1
    match script.isOpen && fellShort line, line with
    | true, _ =>
      match ← script.piece with
      | [] => runLines r flow loud fuel idle (.whole "") reader
      | bytes =>
        let more := seen (Octets.ofBytes bytes).toList
        runLines r flow loud fuel idle script (reader.extend more)
    | false, .error f =>
      if loud then askFor r (f.line - reader.line)
      change fun p => { p with line := f.line }
      fail f.message
    | false, .ok (found, next) =>
      if loud then askFor r (next.line - reader.line)
      if loud && p.options.contains 'v' then
        let read := reader.rest.take (reader.rest.length - next.rest.length)
        let _ ← writeText 2 (String.ofList read)
      change fun p => { p with heres := next.heres, hereCount := next.count, reading := next.line }
      match found with
      | none =>
        if idle then setStatus 0
        if loud && p.options.contains 'i' then let _ ← writeText 2 "\n"
      | some c =>
        r.command { flow with last := flow.last && next.rest.isEmpty } c
        if (← asks Process.skip) = .nothing then
          runLines r flow loud fuel (idle && c.isNothing) script next

def runScript (r : Runner) (flow : Flow) (loud : Bool) (script : Script) : Act Unit := do
  let front := seen script.front
  spend (20 + front.length)
  -- every piece that is read and every line of it costs something
  let pieces ← if script.isOpen then asksSystem System.work else pure 0
  runLines r flow loud (front.length + pieces + 2) true script (.ofText front)

def runPart (r : Runner) (flow : Flow) (script : Script) : Act Unit := do
  let reading ← asks Process.reading
  let outer ← asks Process.outer
  change fun p => { p with outer := some (p.outer.getD p.reading) }
  let outcome ← attempt (runScript r flow false script)
  change fun p => { p with reading, outer }
  resume outcome

def maxDepth : Nat := 60000

/-- Commands inside each other up to a depth. A process that goes deeper is killed. -/
def runner (start : Runner → String → List String → Act Nat) : Nat → Runner
  | 0 =>
    { command := fun _ _ => throw (.killed 11)
      script := fun _ _ => throw (.killed 11)
      become := fun _ _ => throw (.killed 11) }
  | n + 1 =>
    { command := fun flow c => runCommand (runner start n) flow c
      script := fun flow script => runPart (runner start n) flow script
      become := fun path words => start (runner start n) path words }

end Shell
end SymbolIndex
