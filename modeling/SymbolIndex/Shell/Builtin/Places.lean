import SymbolIndex.Shell.Builtin.Options
import SymbolIndex.Shell.Reader

/-!
# Directories and programs

- `Shell.canonical` : a path without dots
- `Shell.changeDirectory`, `Shell.printDirectory`, `Shell.setMask` : the commands `cd`, `pwd` and
  `umask`
- `Shell.findProgram?` : the program that a name stands for
- `Shell.describe` : what a name stands for
-/

namespace SymbolIndex
namespace Shell

/-! ## Directories -/

/-- A path from the root without dots and double slashes. Exactly two slashes at the front are
kept. -/
def canonical (current path : String) : String :=
  let isRooted := path.toList.head? == some '/'
  let isDouble (s : String) : Bool :=
    match s.toList with
    | '/' :: '/' :: '/' :: _ => false
    | '/' :: '/' :: _ => true
    | _ => false
  let front := if isDouble (if isRooted then path else current) then "//" else "/"
  let start := if isRooted then [] else (Path.names current).reverse
  let names := (Path.names path).foldl (fun (place : List String) n =>
    if n = "." then place else if n = ".." then place.tail else n :: place) start
  front ++ "/".intercalate names.reverse

def assignExported (name value : String) : Act Unit := do
  assign name value
  change fun p => p.bind name { (p.lookup? name).getD {} with exported := true }

def enter (path : String) (physical : Bool) : Act Bool := do
  let p ← asks id
  let store ← ownTree
  let logical := canonical p.directory path
  let goal := if physical then path else logical
  match store.resolve (Octets.toText goal) with
  | .error _ => return false
  | .ok place =>
    let names := place.reverse
    if !((store.root.at? names).map Entry.isDir).getD false then return false
    let directory := if physical then placeText names else logical
    change fun p => { p with place := names, directory }
    assignExported "OLDPWD" p.directory
    assignExported "PWD" directory
    return true

/-- The paths that a directory may be found at: below those of a variable, unless the path says
where it is. -/
def Process.candidates (p : Process) (path : String) : List (String × Bool) :=
  let names := path.toList
  let isFixed :=
    match names with
    | '/' :: _ => true
    | ['.'] | ['.', '.'] => true
    | '.' :: '/' :: _ | '.' :: '.' :: '/' :: _ => true
    | _ => false
  match (if isFixed then none else p.binding? "CDPATH") with
  | none => [(path, false)]
  | some dirs =>
    let dirs := (dirs.toList.splitOn ':').map String.ofList
    dirs.map (fun d => if d = "" then (path, false) else (d ++ "/" ++ path, true)) ++
      [(path, false)]

def changeDirectory (args : List String) : Act Nat := do
  let (options, args) ← letters "LP" args
  let physical := (options.getLast?.map Prod.fst) == some 'P'
  let p ← asks id
  let (path, shows) : String × Bool :=
    match args with
    | [] => ((p.binding? "HOME").getD "", false)
    | "-" :: _ => ((p.binding? "OLDPWD").getD "", true)
    | a :: _ => (a, false)
  let tried ← (p.candidates path).findM? fun c => enter c.1 physical
  match tried with
  | some c =>
    if shows || c.2 then say ((← asks (·.directory)) ++ "\n")
    return 0
  | none => fail ("can't cd to " ++ path)

def printDirectory (args : List String) : Act Nat := do
  let (options, _) ← letters "LP" args
  let p ← asks id
  let physical := (options.getLast?.map Prod.fst) == some 'P'
  say ((if physical then placeText p.place else p.directory) ++ "\n")
  return 0

/-- The rights of one kind of users that a mask leaves. -/
def rights (mask place : Nat) : String :=
  let left := 7 - (mask / Nat.pow 8 place) % 8
  (if left / 4 % 2 == 1 then "r" else "") ++ (if left / 2 % 2 == 1 then "w" else "") ++
    (if left % 2 == 1 then "x" else "")

/-- The kinds of users that a letter stands for: the lowest right of each. -/
def userBits : Char → Nat
  | 'a' => 73
  | 'u' => 64
  | 'g' => 8
  | 'o' => 1
  | _ => 0

/-- The rights that a letter stands for, when some are given already. -/
def rightBits (now : Nat) : Char → Nat
  | 'r' => 4
  | 'w' => 2
  | 'x' => 1
  | 'u' => now / 64 % 8
  | 'g' => now / 8 % 8
  | 'o' => now % 8
  | 'X' => if now &&& 73 = 0 then 0 else 1
  | _ => 0

/-- The rights after the changes that a text such as `u=rwx,go-w` asks for. Letters for the rights
that some users have mean those at the start, `now`. -/
def rightsAfter? (now : Nat) : Nat → Nat → Nat → List Char → Option Nat
  | 0, _, _, _ => none
  | fuel + 1, who, given, cs =>
    let (users, cs) := cs.span "augo".toList.contains
    let who := users.foldl (fun b c => b ||| userBits c) who
    let who := if who = 0 then 73 else who
    match cs with
    | [] => some given
    | op :: cs =>
      let (letters, cs) := cs.span "rwxugoXs".toList.contains
      let value := letters.foldl (fun b c => b ||| rightBits now c) 0 * who
      let changed? :=
        match op with
        | '-' => some (given - (given &&& value))
        | '=' => some (value ||| (given - (given &&& who * 7)))
        | '+' => some (given ||| value)
        | _ => none
      match changed?, cs with
      | none, _ => none
      | some changed, ',' :: cs => rightsAfter? now fuel 0 changed cs
      | some changed, [] => some changed
      | some changed, cs =>
        if "=+-".toList.contains (cs.headD ' ') then rightsAfter? now fuel who changed cs else none

/-- Sets or says which rights new files do not have. -/
def setMask (args : List String) : Act Nat := do
  let (options, args) ← letters "S" args
  let mask ← asks (·.mask)
  match args with
  | [] =>
    if options.isEmpty then
      let digits := Nat.toDigits 8 mask
      say (String.ofList (List.replicate (4 - digits.length) '0' ++ digits) ++ "\n")
    else say ("u=" ++ rights mask 2 ++ ",g=" ++ rights mask 1 ++ ",o=" ++ rights mask 0 ++ "\n")
    return 0
  | a :: _ =>
    let cs := a.toList
    if (cs.head?.map Char.isDigit).getD false then
      if !cs.all (isDigitOf 8) then fail ("Illegal number: " ++ a)
      change fun p => { p with mask := digitsValue 8 cs % 512 }
      return 0
    match rightsAfter? (511 - mask) (cs.length + 1) 0 (511 - mask) cs with
    | some given =>
      change fun p => { p with mask := 511 - given }
      return 0
    | none => fail ("Illegal mode: " ++ a)

/-! ## Programs -/

/-- The directories that programs are looked for in: an empty name, and no names at all, stand for
the place of the process. -/
def Process.directories (p : Process) : List String :=
  (((p.binding? "PATH").getD "").toList.splitOn ':').map String.ofList

/-- The path of the program with a name. A name with a slash is a path already. -/
def findProgram? (name : String) : Act (Option String) := do
  spend 40
  let p ← asks id
  let store ← ownTree
  let isProgram (path : String) : Bool :=
    match store.lookup (Octets.toText path) with
    | .ok e => store.isExecutable e
    | .error _ => false
  if name = "" then return none
  if name.toList.contains '/' then return if isProgram name then some name else none
  let paths := p.directories.map fun d => if d = "" then name else d ++ "/" ++ name
  return paths.find? isProgram

/-- What is said about a program that was not found: there may be something by its name that cannot
be started. The last directory in which there is more to say than that counts. -/
def missingWords (name : String) : Act (Trouble × String) := do
  let store ← ownTree
  let dirs ← asks Process.directories
  let why := dirs.foldl (fun why d =>
    match store.lookup (Octets.toText (if d = "" then name else d ++ "/" ++ name)) with
    | .ok _ => Trouble.denied
    | .error .nameTooLong => .nameTooLong
    | .error _ => why) .notFound
  return (why, name ++ ": " ++ (if why = .notFound then "not found" else why.message))

/-- The commands of the shell that end a script when they fail. -/
def isSpecialBuiltin (name : String) : Bool :=
  [".", ":", "break", "continue", "eval", "exec", "exit", "export", "local", "readonly", "return",
    "set", "shift", "times", "trap", "unset"].contains name

def isPlainBuiltin (name : String) : Bool :=
  ["[", "alias", "bg", "cd", "chdir", "command", "echo", "false", "fg", "getopts", "hash", "jobs",
    "kill", "printf", "pwd", "read", "test", "true", "type", "ulimit", "umask", "unalias",
    "wait"].contains name

/-- What a name stands for, in a sentence or in short. -/
def describe (name : String) (sentence : Bool) : Act Nat := do
  let p ← asks id
  let line (long short : String) : Act Nat := do
    say ((if sentence then name ++ long else short) ++ "\n")
    return 0
  if (Keyword.ofText? name).isSome then line " is a shell keyword" name
  else
    match Assoc.find? name p.aliases with
    | some value =>
      line (" is an alias for " ++ value) ("alias " ++ name ++ "=" ++ quotedValue value)
    | none =>
      if (p.functions.find? (·.1 == name)).isSome then line " is a shell function" name
      else if isSpecialBuiltin name then line " is a special shell builtin" name
      else if isPlainBuiltin name then line " is a shell builtin" name
      else
        let store ← ownTree
        let found ←
          if !name.toList.contains '/' then findProgram? name
          else pure (if (store.lookup (Octets.toText name)).isOk then some name else none)
        match found with
        | some path =>
          line
            ((if p.hashed.contains name then " is a tracked alias for " else " is ") ++ path) path
        | none =>
          if sentence then say (name ++ ": not found\n")
          return 127

def describeAll (names : List String) : Act Nat :=
  names.foldlM (fun status n => do
    let s ← describe n true
    return if s = 0 then status else s) 0

def remember (args : List String) : Act Nat := do
  let (options, names) ← letters "r" args
  if options.any (·.1 == 'r') then
    change fun p => { p with hashed := [] }
    return 0
  if names.isEmpty then
    (byShelf 31 id (← asks (·.hashed)).reverse).forM fun n => do
      if let some path := ← findProgram? n then say (path ++ "\n")
    return 0
  names.foldlM (fun status n => do
    if isSpecialBuiltin n || isPlainBuiltin n || n.toList.contains '/' then return status
    if (← asks (·.functions)).any (·.1 == n) then return status
    match ← findProgram? n with
    | some _ =>
      change fun p => { p with hashed := n :: p.hashed.filter (· != n) }
      return status
    | none =>
      complain (n ++ ": not found")
      return 1) 0

end Shell
end SymbolIndex
