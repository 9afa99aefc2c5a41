import SymbolIndex.Fault.Io
import SymbolIndex.Sorted.Table
import SymbolIndex.Store.Path
import SymbolIndex.Text.Utf8

/-!
# Files and directories

A file is known by its number. Directories list numbers, and a table tells what the files hold, so
that a file stays the same file when it is renamed, and one that is open can be written to wherever
it is.

- `Entry` : a file, a directory with what it holds, a device or a program of the system
- `Store` : the entries from the root down, what the files hold, and the working directory
- `Store.file`, `Store.setFile`, `Store.newFile` : what a file holds, by its number
- `Store.addDir`, `Store.addFile` : more entries below the working directory
- `Store.resolve` : the place that a path leads to
- `Store.channel?` : the channel of the process that a path leads to
- `Store.read`, `Store.readText` : the contents of files
- `Handle`, `Store.create`, `Store.write` : what a path names, opened and written to
-/

namespace SymbolIndex

/-- Entries that are no storage. -/
inductive Device where
  /-- Reads as empty and swallows what is written. -/
  | null
  /-- Reads as zeros without end and swallows what is written. -/
  | zero
  /-- Reads as zeros without end and has no room for anything. -/
  | full
  deriving DecidableEq, Repr

/-- What a regular file holds, and whether it can be started as a program. -/
structure File where
  bytes : List UInt8 := []
  executable : Bool := false
  deriving DecidableEq, Repr, Inhabited

/-- What a name in a directory stands for. -/
inductive Entry where
  /-- A regular file, known by its number. -/
  | file (id : Nat)
  /-- Names are kept in increasing order. -/
  | dir (entries : List (String × Entry))
  | device (d : Device)
  /-- A program that belongs to the system, known by its name. -/
  | program (name : String)
  deriving Inhabited

namespace Entry

def isDir : Entry → Bool
  | .dir _ => true
  | _ => false

def isFile : Entry → Bool
  | .file _ | .program _ => true
  | _ => false

/-- The bytes that a program of the system starts with. They are not text. -/
def programBytes : List UInt8 :=
  [0x7F, 0x45, 0x4C, 0x46, 0x02, 0x01, 0x01, 0x00, 0xFF, 0xFE]

def entries : Entry → List (String × Entry)
  | .dir entries => entries
  | _ => []

/-- The entry that the names lead to. -/
def at? : Entry → List String → Option Entry
  | e, [] => some e
  | .dir entries, n :: ns => (Assoc.find? n entries).bind (·.at? ns)
  | _, _ :: _ => none

/-- Sets the entry that the names lead to. Missing directories are made. -/
def put : Entry → List String → Entry → Entry
  | _, [], new => new
  | .dir entries, n :: ns, new =>
    .dir (Assoc.insert n (((Assoc.find? n entries).getD (.dir [])).put ns new) entries)
  | e, _ :: _, _ => e

def erase : Entry → List String → Entry
  | .dir entries, [n] => .dir (entries.filter fun e => e.1 ≠ n)
  | .dir entries, n :: ns =>
    match Assoc.find? n entries with
    | some e => .dir (Assoc.insert n (e.erase ns) entries)
    | none => .dir entries
  | e, _ => e

mutual

/-- The numbers of the files in an entry. -/
def ids : Entry → List Nat
  | .file id => [id]
  | .dir entries => idsIn entries
  | _ => []

def idsIn : List (String × Entry) → List Nat
  | [] => []
  | (_, e) :: rest => e.ids ++ idsIn rest

end

end Entry

/-- All entries, what the files hold, and the working directory as names from the root down. -/
structure Store where
  root : Entry
  /-- The files by their numbers. One that is listed nowhere may still be open. -/
  files : List (Nat × File)
  home : List String
  deriving Inhabited

namespace Store

/-! ## Files -/

def file (s : Store) (id : Nat) : File :=
  (s.files.lookup id).getD {}

def setFile (s : Store) (id : Nat) (f : File) : Store :=
  { s with files := (id, f) :: s.files.filter (·.1 != id) }

/-- A number that no file has or has had. -/
def unused (s : Store) : Nat :=
  (s.root.ids ++ s.files.map Prod.fst).max?.getD 0 + 1

/-- A file of its own at a place, which is given by its names from the root down. -/
def newFile (s : Store) (place : List String) (f : File) : Nat × Store :=
  (s.unused, { s.setFile s.unused f with root := s.root.put place (.file s.unused) })

def isExecutable (s : Store) : Entry → Bool
  | .file id => (s.file id).executable
  | .program _ => true
  | _ => false

/-! ## Furnishing -/

/-- Goes along names from a place and makes the directories that are missing. A place is given by
its names, innermost first. -/
def openWay : Store → List String → List String → Store × List String
  | s, place, [] => (s, place)
  | s, place, n :: ns =>
    if n = "." then s.openWay place ns
    else if n = ".." then s.openWay place.tail ns
    else
      match s.root.at? (n :: place).reverse with
      | some _ => s.openWay (n :: place) ns
      | none => openWay { s with root := s.root.put (n :: place).reverse (.dir []) } (n :: place) ns

/-- The store with a directory at a path below the working directory. One that is there keeps what
it holds. -/
def addDir (s : Store) (path : String) : Store :=
  (s.openWay s.home.reverse (Path.names path)).1

/-- The store with a file at a path below the working directory. Missing directories are made, and a
file that can be started stays one when it is written again. -/
def addFile (s : Store) (path : String) (bytes : List UInt8) (executable : Bool) : Store :=
  match (Path.names path).reverse with
  | [] => s
  | last :: above =>
    let (s, place) := s.openWay s.home.reverse above.reverse
    let place := (last :: place).reverse
    let already := ((s.root.at? place).map s.isExecutable).getD false
    (s.newFile place { bytes, executable := executable || already }).2

/-! ## Places -/

/-- The length in bytes that a name may have. -/
def maxNameSize : Nat := 255

/-- The length in bytes that a path must not reach. -/
def maxPathSize : Nat := 4096

/-- Follows the names of a path. A place is given by its names, innermost first. -/
def follow (s : Store) : List String → List String → Except IoFault (List String)
  | place, [] => .ok place
  | place, n :: ns =>
    match s.root.at? place.reverse with
    | some (.dir entries) =>
      -- going up from the root stays at the root
      if n = "." then s.follow place ns
      else if n = ".." then s.follow place.tail ns
      else if maxNameSize < n.utf8ByteSize then .error .nameTooLong
      else
        match Assoc.find? n entries with
        | some _ => s.follow (n :: place) ns
        | none => .error .notFound
    | some _ => .error .notDirectory
    | none => .error .notFound

def start (s : Store) (path : String) : List String :=
  if Path.isAbsolute path then [] else s.home.reverse

def pathFault? (path : String) : Option IoFault :=
  if path.toList.contains '\x00' then some .nulInPath
  else if path = "" then some .notFound
  else if maxPathSize ≤ path.utf8ByteSize then some .nameTooLong
  else none

/-- The place that a path leads to. A path that ends with a slash must lead to a directory. -/
def resolve (s : Store) (path : String) : Except IoFault (List String) :=
  match pathFault? path with
  | some f => .error f
  | none =>
    -- to stay at a place is possible at a directory only
    let names := Path.names path ++ if Path.endsWithSlash path then ["."] else []
    s.follow (s.start path) names

def lookup (s : Store) (path : String) : Except IoFault Entry :=
  match s.resolve path with
  | .error f => .error f
  | .ok place =>
    match s.root.at? place.reverse with
    | some e => .ok e
    | none => .error .notFound

def isDir (s : Store) (path : String) : Bool :=
  match s.lookup path with
  | .ok e => e.isDir
  | .error _ => false

def isFile (s : Store) (path : String) : Bool :=
  match s.lookup path with
  | .ok e => e.isFile
  | .error _ => false

/-- The channel of the process that a path leads to. -/
def channel? (s : Store) (path : String) : Option Nat :=
  match s.resolve path with
  | .ok place => Path.channel? place.reverse
  | .error _ => none

/-! ## Contents -/

def read (s : Store) (path : String) : Except IoFault (List UInt8) :=
  match s.lookup path with
  | .error f => .error f
  | .ok (.file id) => .ok (s.file id).bytes
  | .ok (.program _) => .ok Entry.programBytes
  -- what has no end is not read
  | .ok (.device _) => .ok []
  | .ok (.dir _) => .error .isDirectory

def readText (s : Store) (path : String) : Except IoFault String :=
  match s.read path with
  | .error f => .error f
  | .ok bytes =>
    match Utf8.decode? bytes with
    | some text => .ok text
    | none => .error .notText

/-- The place of the file that a path is to name: its directory must exist, and it must not be a
directory itself. -/
def target (s : Store) (path : String) : Except IoFault (List String) :=
  match pathFault? path with
  | some f => .error f
  | none =>
    match (Path.names path).reverse with
    | [] => .error .isDirectory
    | last :: above =>
      match s.follow (s.start path) above.reverse with
      | .error f => .error f
      | .ok place =>
        match s.root.at? place.reverse with
        | some (.dir entries) =>
          if last = "." ∨ last = ".." then .error .isDirectory
          else if maxNameSize < last.utf8ByteSize then .error .nameTooLong
          else
            match Assoc.find? last entries with
            | some (.dir _) => .error .isDirectory
            | _ => if Path.endsWithSlash path then .error .isDirectory else .ok (last :: place)
        | _ => .error .notDirectory

/-- The bytes with others in place of those from an offset on. A gap in front of the offset is
filled with zeros. -/
def overwrite (old : List UInt8) (offset : Nat) (bytes : List UInt8) : List UInt8 :=
  old.take offset ++ List.replicate (offset - old.length) 0 ++ bytes ++
    old.drop (offset + bytes.length)

/-- What has been opened for writing. It stays the same whatever becomes of the path. -/
inductive Handle where
  | file (id : Nat)
  | device (d : Device)
  deriving DecidableEq, Repr

/-- Opens what a path names. A missing file is made; a file that is there is emptied, unless `keep`
is set. -/
def create (s : Store) (path : String) (keep : Bool) : Except IoFault (Handle × Store) :=
  match s.target path with
  | .error f => .error f
  | .ok place =>
    match s.root.at? place.reverse with
    | some (.device d) => .ok (.device d, s)
    | some (.file id) =>
      .ok (.file id, if keep then s else s.setFile id { s.file id with bytes := [] })
    -- a program of the system that is written to is a file like others
    | some (.program _) =>
      let bytes := if keep then Entry.programBytes else []
      let (id, s) := s.newFile place.reverse { bytes, executable := true }
      .ok (.file id, s)
    | some (.dir _) => .error .isDirectory
    | none =>
      let (id, s) := s.newFile place.reverse {}
      .ok (.file id, s)

/-- The store with bytes in a file, from an offset on. -/
def writeFile (s : Store) (id offset : Nat) (bytes : List UInt8) : Store :=
  s.setFile id { s.file id with bytes := overwrite (s.file id).bytes offset bytes }

/-- Writes bytes to what is open, from an offset on. -/
def write (s : Store) (h : Handle) (offset : Nat) (bytes : List UInt8) : Except IoFault Store :=
  match h with
  | .file id => .ok (s.writeFile id offset bytes)
  | .device .full => if bytes.isEmpty then .ok s else .error .noSpace
  | .device _ => .ok s

end Store
end SymbolIndex
