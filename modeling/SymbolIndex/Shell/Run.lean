import SymbolIndex.Shell.Execution
import SymbolIndex.Shell.Scheduler
import SymbolIndex.Shell.Tool.Copy
import SymbolIndex.Shell.Tool.Files
import SymbolIndex.Shell.Tool.Letters
import SymbolIndex.Shell.Tool.Lines

/-!
# Running programs

- `Shell.interpreter?` : the program that the first line of a file names
- `Shell.shellMain` : the shell as a program: it runs a text, a file, or what it reads
- `Shell.LoadFault` : why a program cannot be started
- `Shell.load`, `Shell.startProgramAt` : the program at a path
- `Shell.canStart` : whether a program can be started at all
- `Shell.execute` : a program with its input, and what comes of it
-/

namespace SymbolIndex
namespace Shell

/-! ## Scripts -/

/-- How many bytes at the front of a file are looked at before it is run. -/
def frontSize : Nat := 256

/-- The program that the front of a file names, and the argument that it gives to it. The line may
end behind the front, but then the name must not; texts end at zeros, which also fill up a short
file. -/
def interpreter? (bytes : List UInt8) : Option (String × Option String) :=
  let isBlank (c : Char) : Bool := c == ' ' || c == '\t'
  let ends (c : Char) : Bool := isBlank c || c == '\x00'
  let front := (Octets.ofBytes (bytes.take frontSize)).toList
  match front ++ List.replicate (frontSize - front.length) '\x00' with
  | '#' :: '!' :: rest =>
    let seen := rest.takeWhile (· != '\x00')
    let line? : Option (List Char) :=
      if seen.contains '\n' then some (seen.takeWhile (· != '\n'))
      else if ((rest.dropWhile isBlank).any ends) then some rest.dropLast
      else none
    line?.bind fun line =>
      let line := ((line.dropWhile isBlank).reverse.dropWhile isBlank).reverse
      let path := line.takeWhile fun c => !ends c
      let argument :=
        match line.drop path.length with
        | c :: more =>
          if isBlank c then some (String.ofList ((more.dropWhile isBlank).takeWhile (· != '\x00')))
          else none
        | [] => none
      if line.isEmpty then none else some (String.ofList path, argument)
  | _ => none

/-! ## The shell as a program -/

/-- The variables that a shell has if it is not given them. -/
def usualVariables : List (String × Variable) :=
  [ ("PS1", { value := some "# " }), ("PS2", { value := some "> " }),
    ("PS4", { value := some "+ " }) ]

/-- The variables that a shell sets for itself, whatever it is given. -/
def ownVariables (p : Process) : List (String × String) :=
  [ ("IFS", " \t\n"), (placeName, "1"), ("PPID", toString p.parent), ("PWD", p.directory) ]

/-- A process that has just become a program: it keeps its channels, its place and what is
exported. -/
def Process.fresh (p : Process) (name : String) : Process :=
  { number := p.number
    shell := p.number
    parent := p.parent
    channels := p.channels
    place := p.place
    deaf := (p.traps.filter fun t => t.2 == "").map Prod.fst ++ p.deaf
    environment :=
      byShelf 39 Prod.fst (p.entries.filter fun e => e.2.exported && e.2.value.isSome && isName e.1)
    name
    heres := []
    mask := p.mask
    limits := p.limits
    programs := p.programs + 1 }

/-- What a process calls its working directory when it starts: what it is told, if that is right. -/
def Process.startDirectory (store : Store) (p : Process) : String :=
  let told := (p.binding? "PWD").getD ""
  match told.toList.head?, store.resolve (Octets.toText told) with
  | some '/', .ok place => if place.reverse == p.place then told else placeText p.place
  | _, _ => placeText p.place

def Process.asShell (store : Store) (p : Process) (name : String) : Process :=
  let p := p.fresh name
  let p := { p with directory := p.startDirectory store }
  let given :=
    (usualVariables ++ p.environment).foldl (fun p e => p.bind e.1 { e.2 with readonly := false })
    { p with environment := [] }
  (ownVariables p).foldl (fun p (name, value) =>
    let exported := name = "PWD" || ((p.lookup? name).map Variable.exported).getD false
    p.bind name { value := some value, exported }) given

def shellMain (r : Runner) (words : List String) : Act Nat := do
  let name := words.headD "sh"
  let store ← ownTree
  change fun p => { p.asShell store name with line := 0 }
  let main : Act Unit := do
    let g ← readOptions true (words.length + 1) { rest := words.tail }
    let _ ← flush
    let run (name : String) (arguments : List String) (script : Script) (last loud : Bool) :
      Act Unit := do
      change fun p => { p with name, arguments, hasFile := !g.command }
      if (← asks fun p => p.options.contains 'i') then
        complain "can't access tty; job control turned off"
      change fun p => { p with line := 1 }
      match ← attempt (runScript r { last } loud script) with
      | .ok _ => return ()
      | .error .fault =>
        -- whoever is asked for commands is asked for others after a fault, but there are none
        if !loud || !(← asks fun p => p.options.contains 'i') then throw .fault
        askFor r 1
        let _ ← writeText 2 "\n"
      | .error e => throw e
    let readsInput ← asks fun p => p.options.contains 's'
    match g.command, g.rest with
    | true, [] => fail "-c requires an argument"
    | true, body :: rest =>
      run (rest.headD name) rest.tail (.whole body) (!readsInput) false
      -- the script may have asked for more
      if (← asks fun p => p.options.contains 's') then
        change fun p => { p with line := 1 }
        runScript r {} true .input
    | false, file :: rest =>
      if readsInput then run name (file :: rest) .input false true
      else
        match ← openPath file .read with
        | .ok id =>
          keepScript
          run file rest (.stream id) false true
        | .error t => fail ("cannot open " ++ file ++ ": " ++ openingWords true t)
    | false, [] =>
      change fun p => { p with options := 's' :: p.options.filter (· != 's') }
      run name [] .input false true
  asShell r main
  return (← asks Process.status) % 256

/-! ## Starting programs -/

/-- Sets a variable at the place that it has, or behind all others. -/
def setLast (name : String) (v : Variable) (entries : List (String × Variable)) :
    List (String × Variable) :=
  if entries.any (·.1 == name) then entries.map fun e => if e.1 == name then (name, v) else e
  else entries ++ [(name, v)]

/-- Sets or removes variables in front of a program, as `env` is told. -/
def environmentOf (p : Parsed) : List String → Act (List String)
  | [] => return []
  | a :: args => do
    match nameAndValue a with
    | (name, some value) =>
      change fun q =>
        { q with
          environment := setLast name { value := some value, exported := true } q.environment }
      environmentOf p args
    | (_, none) => return a :: args

/-- The words that a text falls apart into at blanks. -/
def blankWords (s : String) : List String :=
  ((s.toList.splitBy fun a b => (a == ' ' || a == '\t') == (b == ' ' || b == '\t')).filter fun w =>
    !(w.headD ' ' == ' ' || w.headD ' ' == '\t')).map String.ofList

/-- Runs a program with other variables, or says which there are. -/
def env (r : Runner) (tool : String) (args : List String) : Act Nat := do
  let flags : List Flag :=
    [ ⟨'i', "ignore-environment", .nothing⟩, ⟨'u', "unset", .value⟩, ⟨'S', "split-string", .value⟩,
      ⟨'0', "null", .nothing⟩, ⟨'C', "chdir", .value⟩ ] ++ commonFlags
  let p := Flag.parseWith flags true (args.length + 1) args
  match p.fault with
  | some f => misuse tool f 125
  | none =>
    if p.has helpSign then return ← writeOutStatus tool ("Usage: " ++ tool ++ " [OPTION]...\n") 125
    if p.has versionSign then return ← writeOutStatus tool "env (GNU coreutils) 9.1\n" 125
    if p.has 'i' || p.operands.head? == some "-" then change fun q => { q with environment := [] }
    p.options.forM fun o => do
      if o.1 == 'u' then change fun q => { q with environment := q.environment.filter (·.1 != o.2) }
    let operands := (if p.operands.head? == some "-" then p.operands.tail else p.operands)
    let split := ((p.value? 'S').map blankWords).getD []
    match ← environmentOf p (split ++ operands) with
    | [] =>
      let environment ← asks (·.environment)
      let lines := environment.filterMap fun (name, v) =>
        if v.exported then v.value.map fun value => name ++ "=" ++ value ++ "\n" else none
      writeOutStatus tool (String.join lines) 125
    | name :: rest =>
      -- without a search path there is a usual one
      let environment ← asks (·.environment)
      let usual := setLast "PATH" { value := some "/bin:/usr/bin" } environment
      if (Assoc.find? "PATH" environment).isNone then
        change fun q => { q with environment := usual }
      let path ← if name.toList.contains '/' then pure (some name) else findProgram? name
      change fun q => { q with environment }
      match path with
      | some path =>
        if (← findProgram? path).isSome then r.become path (name :: rest)
        else
          let there := ((← ownTree).lookup (Octets.toText path)).isOk
          toolSays tool (quoteText name ++
            (if there then ": Permission denied" else ": No such file or directory"))
          return if there then 126 else 127
      | none =>
        toolSays tool (quoteText name ++ ": No such file or directory")
        return 127

def plainTool? (tool : String) : Option (String → List String → Act Nat) :=
  match tool with
  | "[" | "test" => some testTool
  | "basename" => some basename
  | "cat" => some cat
  | "chmod" => some chmod
  | "cp" => some cp
  | "cut" => some cut
  | "dirname" => some dirname
  | "echo" => some echo
  | "false" => some fun name => quietly name 1
  | "head" => some head
  | "ls" => some ls
  | "mkdir" => some mkdir
  | "mv" => some mv
  | "printenv" => some printenv
  | "printf" => some printfTool
  | "pwd" => some pwd
  | "rev" => some rev
  | "rm" => some rm
  | "rmdir" => some rmdir
  | "seq" => some seq
  | "sha256sum" => some sha256sum
  | "sleep" => some sleep
  | "sort" => some sort
  | "tac" => some tac
  | "tail" => some tail
  | "tee" => some tee
  | "touch" => some touch
  | "tr" => some tr
  | "true" => some fun name => quietly name 0
  | "uniq" => some uniq
  | "wc" => some wc
  | "yes" => some yes
  | _ => none

/-- Runs a program of the system. The first word is the name under which it runs. -/
def runTool (r : Runner) (tool : String) (words : List String) : Act Nat := do
  let name := words.headD tool
  match tool with
  | "sh" | "dash" => shellMain r words
  | "env" => env r name words.tail
  | _ =>
    match plainTool? tool with
    | some act => act name words.tail
    | none => return 127

inductive LoadFault where
  | notFound
  | denied
  | nameTooLong
  | listTooLong
  /-- There are zeros in the arguments. -/
  | notText
  /-- Too many files name each other as what runs them. -/
  | tooManyLevels
  /-- The file does not say what runs it. -/
  | noFormat
  deriving DecidableEq, Repr

/-- The wording of the fault for those who start a program without a shell. -/
def LoadFault.cause : LoadFault → String
  | .notFound => "No such file or directory (os error 2)"
  | .denied => "Permission denied (os error 13)"
  | .nameTooLong => "File name too long (os error 36)"
  | .listTooLong => "Argument list too long (os error 7)"
  | .notText => "nul byte found in provided data"
  | .tooManyLevels => "Too many levels of symbolic links (os error 40)"
  | .noFormat => "Exec format error (os error 8)"

/-- How many programs may start each other until that counts as endless. -/
def maxPrograms : Nat := 3000

/-- How many files may name each other as what runs them. -/
def maxInterpreters : Nat := 6

/-- How long an argument may be, with a zero behind it, and how much room there is for all of
them. -/
def maxArgument : Nat := 131072

/-- How much room there is for all arguments and variables. -/
def argumentRoom : Nat := 2097152

def fits (words : List String) (entries : List (String × Variable)) : Bool :=
  let settings := entries.filterMap fun (name, v) =>
    if v.exported then v.value.map fun value => name.length + 1 + value.length else none
  let sizes := words.map String.length ++ settings
  sizes.all (· < maxArgument) && (sizes.foldl (fun n size => n + size + 9) 0) ≤ argumentRoom

/-- The program of the system that runs the file at a path, and its words. -/
def load (store : Store) : Nat → String → List String → Except LoadFault (String × List String)
  | 0, _, _ => .error .tooManyLevels
  | fuel + 1, path, words =>
    match store.lookup (Octets.toText path) with
    | .error .nameTooLong => .error .nameTooLong
    | .error _ => .error .notFound
    | .ok (.program tool) => .ok (tool, words)
    | .ok (.file id) =>
      if !(store.file id).executable then .error .denied else
      match interpreter? (store.file id).bytes with
      | none => .error .noFormat
      | some (program, argument) =>
        load store fuel program (program :: (argument.toList ++ path :: words.tail))
    | .ok _ => .error .denied

/-- Whether the first line of a file has characters in it that no text has. -/
def looksBinary (bytes : List UInt8) : Bool :=
  (bytes.takeWhile (· != 0x0A)).any fun b =>
    b == 0x7F || (b < 0x20 && !(0x09 ≤ b && b ≤ 0x0F) && b != 0x1B)

/-- Turns the process into the program at a path. A file that does not say what runs it is a
script. -/
def startProgramAt (r : Runner) (path : String) (words : List String) : Act Nat := do
  let cannot (why : String) (status : Nat) : Act Nat := do
    complain (words.headD path ++ ": " ++ why)
    return status
  let store ← ownStore
  match load store maxInterpreters path words with
  | .ok (tool, words) =>
    if !fits words (← asks Process.entries) then return ← cannot "Argument list too long" 126
    if maxPrograms < (← asks (·.programs)) then expire
    spend 1000
    lapse loadTime
    change fun p => p.fresh p.name
    -- what a program is made of has to be read
    if ← asks (·.lacksChannels 1) then
      toolSays (words.headD tool) ("error while loading shared libraries: libc.so.6: " ++
        "cannot open shared object file: Error 24")
      return 127
    runTool r tool words
  | .error .notFound => cannot "not found" 127
  | .error .denied => cannot Trouble.denied.message 126
  | .error .nameTooLong => cannot Trouble.nameTooLong.message 127
  | .error .listTooLong => cannot "Argument list too long" 126
  | .error .notText => cannot "Exec format error" 126
  | .error .tooManyLevels => cannot "Too many levels of symbolic links" 127
  | .error .noFormat =>
    let bytes := ((store.read (Octets.toText path)).toOption).getD []
    if looksBinary bytes then cannot "Exec format error" 126
    else r.become "/bin/sh" ("/bin/sh" :: path :: words.tail)

/-- Whether the program at a path can be started with arguments and without a shell. -/
def canStart (store : Store) (path : String) (args : List String) : Except LoadFault Unit := do
  if args.any fun a => a.toList.contains '\x00' then throw .notText
  let (_, words) ← load store maxInterpreters (Octets.ofText path)
    ((path :: args).map Octets.ofText)
  if !fits words [] then throw .listTooLong

/-! ## Whole programs -/

structure Outcome where
  /-- How it ended; nothing if it did not end in time. -/
  ended : Option Ended
  output : List UInt8
  errors : List UInt8
  store : Store

/-- How much a script may do until it counts as endless: a command by itself is worth eight. -/
def maxWork : Nat := 26000000

def firstProcess : Nat := 4242

/-- How often processes may have their turn until that counts as endless. -/
def maxTurns : Nat := 100000000

def writtenTo (y : System) (id : Nat) : List UInt8 :=
  match y.streams[id]? with
  | some (.sink pieces) => pieces.reverse.flatten
  | _ => []

/-- A world in which nothing has happened yet: one process is about to do something. -/
def World.start (store : Store) (environment : List (String × String)) (input : List UInt8)
    (limit : Nat) (act : Act Unit) : World :=
  let given := environment.foldl (fun t e =>
    Assoc.insert (Octets.ofText e.1) { value := some (Octets.ofText e.2), exported := true } t) []
  let process : Process :=
    { number := firstProcess, shell := firstProcess, parent := firstProcess - 1,
      place := store.home, name := "sh"
      channels := [(0, 0), (1, 1), (2, 2)], environment := given }
  { system :=
      { kept := store, work := maxWork, lastProcess := firstProcess
        streams := #[.text input, .sink [], .sink []]
        living := [(firstProcess, firstProcess - 1)] }
    crowd :=
      { threads := [{ process, time := 0, go := act.toNext }]
        main := firstProcess
        limit } }

/-- Runs the program at a path with arguments and input for so many milliseconds. -/
def execute (store : Store) (environment : List (String × String)) (path : String)
    (args : List String) (input : List UInt8) (millis : Nat) : Outcome :=
  let words := (path :: args).map Octets.ofText
  let act : Act Unit := do
    setStatus (← startProgramAt (runner startProgramAt maxDepth) (Octets.ofText path) words)
  let w := (World.start store environment input (millis * millisecond) act).run maxTurns
  let y := w.system.settle
  ⟨if w.crowd.isOver then w.crowd.ended else none, writtenTo y 1, writtenTo y 2,
    within y.kept store.home⟩

end Shell
end SymbolIndex
