import SymbolIndex.Shell.Tool.Texts

/-!
# Programs on files and directories

- `Shell.placeOf`, `Shell.newPlace` : the places that operands name
- `Shell.mkdir`, `Shell.rmdir`, `Shell.touch`, `Shell.rm` : making and removing
- `Shell.cp`, `Shell.mv` : copying and moving
- `Shell.chmod` : whether files can be started
- `Shell.ls` : what directories hold
- `Shell.tee` : what is read, written to several files
-/

namespace SymbolIndex
namespace Shell

/-! ## Places -/

/-- The place that an operand leads to, as names from the root down, and what is there. -/
def placeOf (operand : String) : Act (Except Trouble (List String × Entry)) := do
  let store ← ownStore
  let path := Octets.toText operand
  match store.resolve path, store.lookup path with
  | .ok place, .ok e => return .ok (place.reverse, e)
  | .error f, _ | _, .error f => return .error (.ofFault f)

/-- The place that an operand would have if it were made. Its directory must be there. -/
def newPlace (operand : String) : Act (Except Trouble (List String)) := do
  let store ← ownStore
  let path := Octets.toText operand
  match Store.pathFault? path, (Path.names path).reverse with
  | some f, _ => return .error (.ofFault f)
  | none, [] => return .error .exists
  | none, last :: above =>
    match store.follow (store.start path) above.reverse with
    | .error f => return .error (.ofFault f)
    | .ok place =>
      match store.root.at? place.reverse with
      | some (.dir _) =>
        if Store.maxNameSize < last.utf8ByteSize then return .error .nameTooLong
        return .ok (place.reverse ++ [last])
      | _ => return .error .notDirectory

/-- Changes the files and notes what is then at a place. -/
def alterAt (place : List String) (f : Store → Store) : Act Unit := do
  alterStore f
  noteChange (subjectAt (← ownTree) place)

def putEntry (place : List String) (e : Entry) : Act Unit :=
  alterStore fun s => { s with root := s.root.put place e }

def eraseEntry (place : List String) : Act Unit :=
  alterStore fun s => { s with root := s.root.erase place }

def below (operand name : String) : String :=
  if operand.toList.getLast? == some '/' then operand ++ name else operand ++ "/" ++ name

/-! ## Making and removing -/

def couldNot (name what operand : String) (t : Trouble) : Act Nat := do
  toolSays name (what ++ " " ++ quoteAlways operand ++ ": " ++ t.message)
  return 1

/-- Makes a directory and says so if that is asked for. -/
def makeDirectory (name operand : String) (loud : Bool) : Act Nat := do
  match ← placeOf operand with
  | .ok _ => couldNot name "cannot create directory" operand .exists
  | .error _ =>
    match ← newPlace operand with
    | .error t => couldNot name "cannot create directory" operand t
    | .ok place =>
      alterAt place fun s => { s with root := s.root.put place (.dir []) }
      if loud then
        let _ ← writeOutText name
          (baseName name ++ ": created directory " ++ quoteAlways operand ++ "\n")
      return 0

/-- Makes the directories of a path that are not there, from the outermost on. -/
def makeDirectories (name : String) (loud : Bool) : List String → Act Nat
  | [] => return 0
  | path :: paths => do
    match ← placeOf path with
    | .ok (_, .dir _) => makeDirectories name loud paths
    | .ok _ =>
      couldNot name "cannot create directory" path
        (if paths.isEmpty then .exists else .notDirectory)
    | .error _ =>
      let status ← makeDirectory name path loud
      if status ≠ 0 then return status
      makeDirectories name loud paths

/-- The paths that lead to an operand, from the outermost on. -/
def pathsTo (operand : String) : List String :=
  let names := (operand.toList.splitOn '/').filter fun n => !n.isEmpty
  let start := if operand.toList.head? == some '/' then "/" else ""
  (List.range names.length).map fun n =>
    start ++ "/".intercalate ((names.take (n + 1)).map String.ofList)

def mkdir (name : String) (args : List String) : Act Nat := do
  let flags : List Flag :=
    [⟨'p', "parents", .nothing⟩, ⟨'v', "verbose", .nothing⟩, ⟨'m', "mode", .value⟩]
  withOptions name flags args 1 fun p => do
    if p.operands.isEmpty then return ← misuse name "missing operand" 1
    forOperands p.operands fun o => do
      let paths := pathsTo o
      if p.has 'p' && !paths.isEmpty then makeDirectories name (p.has 'v') paths
      else makeDirectory name o (p.has 'v')

def removeDirectory (name operand : String) : Act Nat := do
  let refuse (words : String) : Act Nat := do
    toolSays name ("failed to remove " ++ quoteAlways operand ++ ": " ++ words)
    return 1
  if lastName operand = "." then return ← refuse "Invalid argument"
  match ← placeOf operand with
  | .error t => refuse t.message
  | .ok (place, .dir entries) =>
    if entries.isEmpty then
      eraseEntry place
      return 0
    refuse Trouble.notEmpty.message
  | .ok _ => refuse Trouble.notDirectory.message

def rmdir (name : String) (args : List String) : Act Nat :=
  withOptions name [⟨'p', "parents", .nothing⟩] args 1 fun p => do
    if p.operands.isEmpty then return ← misuse name "missing operand" 1
    forOperands p.operands fun o =>
      if p.has 'p' then
        (pathsTo o).reverse.foldlM (fun status path => do
          if status = 0 then removeDirectory name path else return status) 0
      else removeDirectory name o

def touch (name : String) (args : List String) : Act Nat := do
  let flags : List Flag := [⟨'c', "no-create", .nothing⟩, ⟨'a', "", .nothing⟩, ⟨'m', "", .nothing⟩]
  withOptions name flags args 1 fun p => do
    if p.operands.isEmpty then return ← misuse name "missing file operand" 1
    -- a dash is the output, which is there
    forOperands (p.operands.filter (· ≠ "-")) fun o => do
      match ← placeOf o with
      | .ok (place, _) =>
        noteChange (subjectAt (← ownTree) place)
        return 0
      | .error _ =>
        match ← newPlace o with
        | .error t =>
          if p.has 'c' && t = .notFound then return 0 else couldNot name "cannot touch" o t
        | .ok place =>
          if !p.has 'c' then alterAt place fun s => (s.newFile place {}).2
          return 0

def removeOperand (name : String) (p : Parsed) (operand : String) : Act Nat := do
  let recursive := p.has 'r' || p.has 'R'
  let removed (place : List String) (words : String) : Act Nat := do
    eraseEntry place
    if p.has 'v' then
      let _ ← writeOutText name (words ++ " " ++ quoteAlways operand ++ "\n")
    return 0
  match ← placeOf operand with
  | .error t =>
    if p.has 'f' && (t = .notFound || t = .notDirectory) then return 0
    couldNot name "cannot remove" operand t
  | .ok (place, .dir entries) =>
    if !recursive && !p.has 'd' then return ← couldNot name "cannot remove" operand .isDirectory
    if ["." , ".."].contains (lastName operand) then
      toolSays name ("refusing to remove '.' or '..' directory: skipping " ++ quoteAlways operand)
      return 1
    if place.isEmpty then
      toolSays name "it is dangerous to operate recursively on '/'"
      toolSays name "use --no-preserve-root to override this failsafe"
      return 1
    if !recursive && !entries.isEmpty then return ← couldNot name "cannot remove" operand .notEmpty
    removed place "removed directory"
  | .ok (place, _) => removed place "removed"

def rm (name : String) (args : List String) : Act Nat := do
  let flags : List Flag :=
    [ ⟨'f', "force", .nothing⟩, ⟨'r', "recursive", .nothing⟩, ⟨'R', "", .nothing⟩,
      ⟨'d', "dir", .nothing⟩, ⟨'v', "verbose", .nothing⟩ ]
  withOptions name flags args 1 fun p => do
    if p.operands.isEmpty && !p.has 'f' then return ← misuse name "missing operand" 1
    forOperands p.operands (removeOperand name p)

/-! ## Copying and moving -/

/-- Copies a file to a place. One that is there keeps whether it can be started. -/
def copyFile (f : File) (place : List String) (s : Store) : Store :=
  match s.root.at? place with
  | some (.file id) => s.setFile id { s.file id with bytes := f.bytes }
  | some (.device _) => s
  | _ => (s.newFile place f).2

mutual

/-- Copies an entry to a place. Directories keep what else they hold. -/
def copyEntry (place : List String) : Entry → Store → Store
  | .file id, s => copyFile (s.file id) place s
  | .device _, s => copyFile {} place s
  | .program name, s => { s with root := s.root.put place (.program name) }
  | .dir entries, s =>
    let there := ((s.root.at? place).map Entry.isDir).getD false
    copyEntries place entries (if there then s else { s with root := s.root.put place (.dir []) })

def copyEntries (place : List String) : List (String × Entry) → Store → Store
  | [], s => s
  | (name, e) :: rest, s => copyEntries place rest (copyEntry (place ++ [name]) e s)

end

def copyTo (name : String) (p : Parsed) (operand target : String) : Act Nat := do
  let recursive := p.has 'r' || p.has 'R' || p.has 'a'
  match ← placeOf operand, ← placeOf target with
  | .error t, _ => couldNot name "cannot stat" operand t
  | .ok (place, e), found =>
    if e.isDir && !recursive then
      toolSays name ("-r not specified; omitting directory " ++ quoteAlways operand)
      return 1
    let new : Except Trouble (List String) ←
      match found with
      | .ok (place, _) => pure (.ok place)
      | .error _ => newPlace target
    match new with
    | .error t =>
      couldNot name (if e.isDir then "cannot create directory" else "cannot create regular file")
        target t
    | .ok new =>
      let old : Option Entry := found.toOption.map Prod.snd
      if new == place then
        toolSays name (quoteAlways operand ++ " and " ++ quoteAlways target ++ " are the same file")
        return 1
      if e.isDir && place.isPrefixOf new then
        toolSays name ("cannot copy a directory, " ++ quoteAlways operand ++ ", into itself, " ++
          quoteAlways target)
        return 1
      if !e.isDir && (old.map Entry.isDir).getD false then
        toolSays name ("cannot overwrite directory " ++ quoteAlways target ++ " with non-directory")
        return 1
      if e.isDir && !((old.map Entry.isDir).getD true) then
        toolSays name
          ("cannot overwrite non-directory " ++ quoteAlways target ++ " with directory " ++
            quoteAlways operand)
        return 1
      if old.isNone && !e.isDir && target.toList.getLast? == some '/' then
        return ← couldNot name "cannot create regular file" target .notDirectory
      if old.isNone || !p.has 'n' then alterAt new (copyEntry new e)
      if p.has 'v' then
        let _ ← writeOutText name (quoteAlways operand ++ " -> " ++ quoteAlways target ++ "\n")
      return 0

def moveTo (name : String) (p : Parsed) (operand target : String) : Act Nat := do
  match ← placeOf operand, ← placeOf target with
  | .error t, _ => couldNot name "cannot stat" operand t
  | .ok (place, e), found =>
    let new : Except Trouble (List String) ←
      match found with
      | .ok (place, _) => pure (.ok place)
      | .error _ => newPlace target
    match new with
    | .error t =>
      toolSays name ("cannot move " ++ quoteAlways operand ++ " to " ++ quoteAlways target ++
        ": " ++ t.message)
      return 1
    | .ok new =>
      let old : Option Entry := found.toOption.map Prod.snd
      if new == place then
        toolSays name (quoteAlways operand ++ " and " ++ quoteAlways target ++ " are the same file")
        return 1
      if e.isDir && place.isPrefixOf new then
        toolSays name
          ("cannot move " ++ quoteAlways operand ++ " to a subdirectory of itself, " ++
            quoteAlways target)
        return 1
      if !e.isDir && (old.map Entry.isDir).getD false then
        toolSays name ("cannot overwrite directory " ++ quoteAlways target ++ " with non-directory")
        return 1
      if e.isDir && !((old.map Entry.isDir).getD true) then
        toolSays name
          ("cannot overwrite non-directory " ++ quoteAlways target ++ " with directory " ++
            quoteAlways operand)
        return 1
      if e.isDir && !((old.map fun o => o.entries.isEmpty).getD true) then
        toolSays name
          ("cannot move " ++ quoteAlways operand ++ " to " ++ quoteAlways target ++
            ": Directory not empty")
        return 1
      if old.isNone || !p.has 'n' then
        eraseEntry place
        putEntry new e
      if p.has 'v' then
        let _ ← writeOutText name
          ("renamed " ++ quoteAlways operand ++ " -> " ++ quoteAlways target ++ "\n")
      return 0

/-- Carries operands to the last one of them, below it if it is a directory. -/
def carry (name : String) (operands : List String) (act : String → String → Act Nat) : Act Nat := do
  match operands.reverse with
  | [] => misuse name "missing file operand" 1
  | [o] => misuse name ("missing destination file operand after " ++ quoteAlways o) 1
  | target :: rest =>
    let found ← placeOf target
    match found with
    | .ok (_, .dir _) => forOperands rest.reverse fun o => act o (below target (lastName o))
    | _ =>
      match rest with
      | [o] => act o target
      | _ =>
        let t : Trouble :=
          match found with
          | .ok _ => .notDirectory
          | .error t => t
        toolSays name ("target " ++ quoteAlways target ++ ": " ++ t.message)
        return 1

def carryFlags : List Flag :=
  [ ⟨'f', "force", .nothing⟩, ⟨'i', "interactive", .nothing⟩, ⟨'n', "no-clobber", .nothing⟩,
    ⟨'v', "verbose", .nothing⟩ ]

def cp (name : String) (args : List String) : Act Nat := do
  let flags : List Flag :=
    [⟨'r', "recursive", .nothing⟩, ⟨'R', "", .nothing⟩, ⟨'a', "archive", .nothing⟩,
      ⟨'p', "", .nothing⟩]
  withOptions name (carryFlags ++ flags) args 1 fun p => carry name p.operands (copyTo name p)

def mv (name : String) (args : List String) : Act Nat :=
  withOptions name carryFlags args 1 fun p => carry name p.operands (moveTo name p)

/-! ## Starting files -/

/-- What a part of a mode does to whether a file can be started; nothing if it is no mode. -/
def clause? (cs : List Char) : Option (Bool → Bool) :=
  let who := cs.takeWhile fun c => "ugoa".toList.contains c
  let all := who.isEmpty || who.contains 'a' || "ugo".toList.all who.contains
  match cs.drop who.length with
  | op :: what =>
    if !"+-=".toList.contains op || !what.all ("rwxXst".toList.contains) then none
    else
      let names := what.contains 'x'
      some fun old =>
        if op == '+' then old || names
        else if op == '-' then old && !(names && all)
        else if all then names else old || names
  | [] => none

/-- What a mode does to whether a file can be started; nothing if it is no mode. -/
def mode? (text : String) : Option (Bool → Bool) :=
  let cs := text.toList
  if !cs.isEmpty && cs.all (isDigitOf 8) then
    let n := digitsValue 8 cs
    if 4095 < n then none else some fun _ => n % 2 != 0 || n / 8 % 2 != 0 || n / 64 % 2 != 0
  else
    ((cs.splitOn ',').mapM clause?).map fun clauses old => clauses.foldl (fun b f => f b) old

/-- Changes whether an entry can be started, if it is a file. -/
def setExecutable (f : Bool → Bool) (e : Entry) (s : Store) : Store :=
  match e with
  | .file id => s.setFile id { s.file id with executable := f (s.file id).executable }
  | _ => s

def chmod (name : String) (args : List String) : Act Nat := do
  -- a mode may look like an option
  let (modes, args) := args.partition fun a => (mode? a).isSome && a.toList.head? == some '-'
  let flags : List Flag :=
    [⟨'R', "recursive", .nothing⟩, ⟨'f', "silent", .nothing⟩, ⟨'v', "verbose", .nothing⟩]
  withOptions name flags args 1 fun p => do
    match modes ++ p.operands with
    | [] => misuse name "missing operand" 1
    | [mode] => misuse name ("missing operand after " ++ quoteText mode) 1
    | mode :: operands =>
      match mode? mode with
      | none => misuse name ("invalid mode: " ++ quoteText mode) 1
      | some f =>
        forOperands operands fun o => do
          match ← placeOf o with
          | .error t => couldNot name "cannot access" o t
          | .ok (place, e) =>
            alterAt place (setExecutable f e)
            return 0

/-! ## Directories -/

def listed (store : Store) (p : Parsed) (name : String) (e : Entry) : String :=
  if e.isDir then if p.has 'F' || p.has 'p' then name ++ "/" else name
  else if store.isExecutable e && p.has 'F' then name ++ "*"
  else name

def listing (p : Parsed) (entries : List (String × Entry)) : List (String × Entry) :=
  let dots : List (String × Entry) := if p.has 'a' then [(".", .dir []), ("..", .dir [])] else []
  let shown := entries.filter fun e => p.has 'a' || p.has 'A' || e.1.toList.head? != some '.'
  let all := dots ++ shown.map fun e => (Octets.ofText e.1, e.2)
  if p.has 'r' then all.reverse else all

/-- Directories with their titles, and those inside them if that is asked for, up to a depth. -/
def listDirectories (store : Store) (p : Parsed) (titled : Bool) :
    Nat → List (String × Entry) → List String
  | 0, _ => []
  | depth + 1, dirs =>
    dirs.flatMap fun (title, e) =>
      let entries := listing p e.entries
      let body := joinLines (entries.map fun (n, e) => listed store p n e)
      let inner := entries.filter fun (n, e) => e.isDir && n ≠ "." && n ≠ ".."
      let own := (if titled then title ++ ":\n" else "") ++ body
      let deeper :=
        if p.has 'R' then
          listDirectories store p titled depth (inner.map fun (n, e) => (below title n, e))
        else []
      own :: deeper

def ls (name : String) (args : List String) : Act Nat := do
  let flags : List Flag :=
    [ ⟨'a', "all", .nothing⟩, ⟨'A', "almost-all", .nothing⟩, ⟨'d', "directory", .nothing⟩,
      ⟨'r', "reverse", .nothing⟩, ⟨'R', "recursive", .nothing⟩, ⟨'F', "classify", .nothing⟩,
      ⟨'p', "", .nothing⟩, ⟨'1', "", .nothing⟩ ]
  withOptions name flags args 2 fun p => do
    let operands := if p.operands.isEmpty then ["."] else p.operands
    let (found, status) ← operands.foldlM (fun (found, status) o => do
      match ← placeOf o with
      | .ok (_, e) => return (found ++ [(o, e)], status)
      | .error t =>
        let _ ← couldNot name "cannot access" o t
        return (found, 2)) (([] : List (String × Entry)), 0)
    let sorted := found.mergeSort fun a b => decide (a.1 ≤ b.1)
    let sorted := if p.has 'r' then sorted.reverse else sorted
    let asDir (e : Entry) : Bool := e.isDir && !p.has 'd'
    let store ← ownTree
    let files :=
      joinLines ((sorted.filter fun (_, e) => !asDir e).map fun (o, e) => listed store p o e)
    let titled := 1 < operands.length || p.has 'R'
    let dirs := listDirectories store p titled 64 (sorted.filter fun (_, e) => asDir e)
    let parts := (if files = "" then [] else [files]) ++ dirs
    let written ← writeOutStatus name ("\n".intercalate parts) 2
    return max status written

/-! ## Several outputs -/

/-- Writes bytes to streams with names, and gives those that took them and a status. -/
def writeToAll (name : String) (bytes : List UInt8) (outs : List (Nat × String)) :
    Act (List (Nat × String) × Nat) :=
  outs.foldlM (fun (kept, status) out => do
    match ← writeTo out.1 bytes with
    | .ok _ => return (kept ++ [out], status)
    -- it is no fault that nobody reads
    | .error .broken => return (kept, status)
    | .error t =>
      toolSays name (quoteName out.2 ++ ": " ++ t.message)
      return (kept, 1)) ([], 0)

/-- Writes what is read from a stream to others with names, as long as some take it. -/
def copyToAll (name : String) (input : Nat) : Nat → List (Nat × String) → Nat → Act Nat
  | 0, _, _ => expire
  | fuel + 1, outs, status => do
    if outs.isEmpty then return status
    match ← readPiece input 8192 with
    | .error t =>
      toolSays name ("read error: " ++ t.message)
      return 1
    | .ok [] => return status
    | .ok bytes =>
      let (outs, failed) ← writeToAll name bytes outs
      copyToAll name input fuel outs (max status failed)

/-- Writes what is read to the output and to files. -/
def tee (name : String) (args : List String) : Act Nat := do
  let flags : List Flag :=
    [⟨'a', "append", .nothing⟩, ⟨'i', "ignore-interrupts", .nothing⟩, ⟨'p', "", .nothing⟩]
  withOptions name flags args 1 fun p => do
    let (files, status) ← p.operands.foldlM (fun (files, status) o => do
      match ← openPath o (if p.has 'a' then .append else .write) with
      | .ok id => return (files ++ [(id, o)], status)
      | .error t =>
        toolSays name (quoteName o ++ ": " ++ t.message)
        return (files, 1)) (([] : List (Nat × String)), 0)
    let outs := ((← asks (·.stream? 1)).getD forever, "standard output") :: files
    -- they stay open together
    change (·.hold (outs.map Prod.fst))
    match ← asks (·.stream? 0) with
    | some input => copyToAll name input ((← asksSystem System.work) + 1) outs status
    | none =>
      toolSays name "read error: Bad file descriptor"
      return 1

end Shell
end SymbolIndex
