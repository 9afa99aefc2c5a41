import SymbolIndex.Shell.Real
import SymbolIndex.Shell.Tool.Basic

/-!
# Copying and waiting

- `Shell.cat` : files one after another, possibly with marks
- `Shell.sleep` : lets time pass
- `Shell.quietly` : the programs `true` and `false`
-/

namespace SymbolIndex
namespace Shell

/-! ## Copying -/

/-- The options of `cat`. -/
def catFlags : List Flag :=
  [ ⟨'b', "number-nonblank", .nothing⟩, ⟨'n', "number", .nothing⟩, ⟨'s', "squeeze-blank", .nothing⟩,
    ⟨'v', "show-nonprinting", .nothing⟩, ⟨'E', "show-ends", .nothing⟩, ⟨'T', "show-tabs", .nothing⟩,
    ⟨'A', "show-all", .nothing⟩, ⟨'e', "", .nothing⟩, ⟨'t', "", .nothing⟩, ⟨'u', "", .nothing⟩ ]

structure Marks where
  numbers : Bool
  numbersFull : Bool
  squeezes : Bool
  hidden : Bool
  ends : Bool
  tabs : Bool

def Marks.ofParsed (p : Parsed) : Marks :=
  let has (cs : String) : Bool := cs.toList.any p.has
  { numbers := has "bn", numbersFull := has "b", squeezes := has "s", hidden := has "vAet",
    ends := has "EAe"
    tabs := has "TAt" }

def Marks.any (m : Marks) : Bool :=
  m.numbers || m.squeezes || m.hidden || m.ends || m.tabs

/-- A copy in the making: what is written, newest first, the number of the last line, and how many
line ends have come in a row; one less than nothing in the middle of a line. -/
structure Copy where
  written : List UInt8 := []
  line : Nat := 0
  ends : Int := 0
  /-- Whether a carriage return has been held back. -/
  held : Bool := false

def ascii (s : String) : List UInt8 :=
  Octets.toBytes s

def Copy.put (c : Copy) (bytes : List UInt8) : Copy :=
  { c with written := bytes.reverse ++ c.written }

def Copy.number (c : Copy) : Copy :=
  let digits := toString (c.line + 1)
  let text := String.ofList (List.replicate (6 - digits.length) ' ') ++ digits ++ "\t"
  { c.put (ascii text) with line := c.line + 1 }

/-- A byte that does not show, as characters that do. -/
def visible (b : UInt8) : List UInt8 :=
  let low (n : Nat) : List UInt8 :=
    if n < 0x20 then [0x5E, UInt8.ofNat (n + 0x40)]
    else if n = 0x7F then [0x5E, 0x3F] else [UInt8.ofNat n]
  if b.toNat < 0x80 then low b.toNat else [0x4D, 0x2D] ++ low (b.toNat - 0x80)

def Copy.step (m : Marks) (c : Copy) (b : UInt8) : Copy :=
  if b == 0x0A then
    let ends := min 2 (c.ends + 1)
    let c := { c with ends }
    if ends ≥ 2 && m.squeezes then c
    else
      let c := if ends > 0 && m.numbers && !m.numbersFull then c.number else c
      let c := if c.held then { c.put (ascii (if m.ends then "^M" else "\r")) with held := false }
        else c
      c.put (if m.ends then [0x24, 0x0A] else [0x0A])
  else
    let c := if c.held then { c.put [0x0D] with held := false } else c
    let c := if 0 ≤ c.ends && m.numbers then c.number else c
    let c := { c with ends := -1 }
    if b == 0x09 then c.put (if m.tabs then [0x5E, 0x49] else [0x09])
    else if m.hidden then c.put (visible b)
    else if b == 0x0D && m.ends then { c with held := true }
    else c.put [b]

/-- What is to be written of a copy, and the copy without it. -/
def Copy.flush (c : Copy) : List UInt8 × Copy :=
  (c.written.reverse, { c with written := [] })

def Copy.feed (m : Marks) (c : Copy) (bytes : List UInt8) : List UInt8 × Copy :=
  if m.any then (bytes.foldl (Copy.step m) c).flush else (bytes, c)

/-- Whether reading a stream would read what is being written. -/
def isOwnOutput (input : Stream) : Act Bool := do
  match input, ← streamOf? 1 with
  | .file f, some (_, .file out) => return f.file == out.file && f.offset < (← fileSize f.file)
  | _, _ => return false

/-- Whether a stream and the output are files, and the output is not one to which is only added. -/
def copiesFile (id : Nat) : Act Bool := do
  match ← streamAt id, ← streamOf? 1 with
  | .file _, some (_, .file out) => return !out.access.appends
  | _, _ => return false

/-- What comes of copying operands: whether all could be read, whether the output takes no more, and
the copy so far. -/
structure Copied where
  complete : Bool := true
  broken : Bool := false
  copy : Copy := {}

def copyStream (name operand : String) (m : Marks) (id : Nat) : Nat → Copied → Act Copied
  | 0, _ => expire
  | fuel + 1, c => do
    match ← readPiece id largePiece with
    | .error t =>
      toolSays name (quoteName operand ++ ": " ++ t.message)
      return { c with complete := false }
    | .ok [] => return c
    | .ok bytes =>
      let (out, copy) := c.copy.feed m bytes
      match ← writeBytes 1 out with
      | .ok _ => copyStream name operand m id fuel { c with copy }
      | .error t =>
        -- between files all is left to the system, which does not tell reading from writing
        if !m.any && t = .tooLarge && (← copiesFile id) then
          toolSays name (quoteName operand ++ ": " ++ t.message)
          return { c with complete := false }
        toolSays name ("write error: " ++ t.message)
        return { c with broken := true }

def copyOperand (name operand : String) (m : Marks) (c : Copied) : Act Copied := do
  let refused (message : String) : Act Copied := do
    toolSays name (quoteName operand ++ ": " ++ message)
    return { c with complete := false }
  match ← openOperand operand with
  | .error t => refused t.message
  | .ok n =>
    match ← streamOf? n with
    | none => refused Trouble.badChannel.message
    | some (id, s) =>
      if ← isOwnOutput s then return ← refused "input file is output file"
      copyStream name operand m id ((← asksSystem System.work) + 1) c

def copyAll (name : String) (m : Marks) : List String → Copied → Act Copied
  | [], c => return c
  | o :: os, c => do
    let c ← copyOperand name o m c
    if c.broken then return c
    copyAll name m os c

def cat (name : String) (args : List String) : Act Nat :=
  withOptions name catFlags args 1 fun p => do
    if (← streamOf? 1).isNone then
      toolSays name "standard output: Bad file descriptor"
      return 1
    let operands := orInput p.operands
    let c ← copyAll name (.ofParsed p) operands {}
    if c.broken then return 1
    let written ← if c.copy.held then writeOut name [0x0D] else pure true
    if operands.contains "-" && (← streamOf? 0).isNone then
      toolSays name "closing standard input: Bad file descriptor"
      return 1
    return if written && c.complete then 0 else 1

/-! ## Waiting -/

def unitSeconds? (cs : List Char) : Option Nat :=
  match cs with
  | [] | ['s'] => some 1
  | ['m'] => some 60
  | ['h'] => some 3600
  | ['d'] => some 86400
  | _ => none

/-- The ticks of a time; nothing if it never ends. -/
def ticks? (text : String) : Option (Option Nat) :=
  let n := Real.scan .double text.toList
  if !n.found then none
  else
    match unitSeconds? n.rest, n.value with
    | none, _ => none
    | some _, .notANumber _ => none
    | some _, .infinite negative => if negative then none else some none
    | some unit, .finite x =>
      if x.negative && !x.isZero then none
      else
        let (num, den) := x.ratio
        some (some (num * unit * 1000 * millisecond / den))

def sleep (name : String) (args : List String) : Act Nat :=
  withOptions name [] args 1 fun p => do
    if p.operands.isEmpty then return ← misuse name "missing operand" 1
    let bad := p.operands.filter fun o => (ticks? o).isNone
    if !bad.isEmpty then
      bad.forM fun o => toolSays name ("invalid time interval " ++ quoteText o)
      let _ ← writeText 2 ("Try '" ++ name ++ " --help' for more information.\n")
      return 1
    let times := p.operands.filterMap ticks?
    elapse (if times.any Option.isNone then forever else (times.filterMap id).foldl (· + ·) 0)
    return 0

/-- Does nothing, with a status. It only listens if there is a single argument. -/
def quietly (name : String) (status : Nat) (args : List String) : Act Nat := do
  match args with
  | ["--help"] =>
    let _ ← writeOutText name ("Usage: " ++ name ++ " [ignored command line arguments]\n")
    return status
  | ["--version"] =>
    let _ ← writeOutText name (baseName name ++ " (GNU coreutils) 9.1\n")
    return status
  | _ => return status

end Shell
end SymbolIndex
