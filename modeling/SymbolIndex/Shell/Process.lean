import SymbolIndex.Shell.Language
import SymbolIndex.Shell.Pipe
import SymbolIndex.Sorted.Table
import SymbolIndex.Store.Basic
import SymbolIndex.Text.Octets
import Std.Data.TreeMap.Basic

/-!
# Processes and what they share

- `Shell.Trouble` : why a file or channel cannot be used
- `Shell.Stream` : what a channel leads to
- `Shell.Ended`, `Shell.Job` : how a process ended, and the processes that a shell has started
  together
- `Shell.Process` : variables, channels and the rest that each process has for itself
- `Shell.System` : files, streams, pipes and time, which all processes share
-/

namespace SymbolIndex
namespace Shell

/-! ## Troubles -/

inductive Trouble where
  | badChannel
  | noSpace
  | notFound
  | notDirectory
  | isDirectory
  | nameTooLong
  | exists
  | notEmpty
  | denied
  | invalid
  | notPermitted
  | tooLarge
  | tooMany
  /-- Nobody is left who reads. -/
  | broken
  deriving DecidableEq, Repr

namespace Trouble

def message : Trouble → String
  | .badChannel => "Bad file descriptor"
  | .noSpace => "No space left on device"
  | .notFound => "No such file or directory"
  | .notDirectory => "Not a directory"
  | .isDirectory => "Is a directory"
  | .nameTooLong => "File name too long"
  | .exists => "File exists"
  | .notEmpty => "Directory not empty"
  | .denied => "Permission denied"
  | .invalid => "Invalid argument"
  | .notPermitted => "Operation not permitted"
  | .tooLarge => "File too large"
  | .tooMany => "Too many open files"
  | .broken => "Broken pipe"

def ofFault : IoFault → Trouble
  | .notDirectory => .notDirectory
  | .isDirectory => .isDirectory
  | .nameTooLong => .nameTooLong
  | .noSpace => .noSpace
  | _ => .notFound

end Trouble

/-! ## Streams -/

structure Access where
  reads : Bool := false
  writes : Bool := false
  appends : Bool := false
  deriving DecidableEq, Repr

structure OpenFile where
  file : Nat
  offset : Nat := 0
  access : Access
  /-- What is left behind the offset, as it was after so many changes of files. -/
  rest : Option (Nat × List UInt8) := none

inductive Stream where
  /-- What is left to read of a text. -/
  | text (bytes : List UInt8)
  /-- What has been written, newest first. -/
  | sink (pieces : List (List UInt8))
  /-- The end of a pipe at which it is read. -/
  | outlet (pipe : Nat)
  /-- The end of a pipe at which it is written to. -/
  | inlet (pipe : Nat)
  | file (f : OpenFile)
  | device (d : Device) (access : Access)
  | directory
  deriving Inhabited

/-! ## Processes -/

/-- The value of a variable, if it is set, and what may be done with it. -/
structure Variable where
  value : Option String := none
  exported : Bool := false
  readonly : Bool := false
  deriving DecidableEq, Repr, Inhabited

/-- How a process ended: with a status or by a signal. -/
inductive Ended where
  | exited (status : Nat)
  | killed (signal : Nat)
  deriving DecidableEq, Repr

def Ended.status : Ended → Nat
  | .exited status => status
  | .killed signal => 128 + signal

/-- A process that belongs to a job, and how it ended if it has. -/
structure JobMember where
  number : Nat
  ended : Option Ended := none
  deriving DecidableEq, Repr

structure Job where
  /-- Its place in the list of jobs. -/
  slot : Nat
  members : List JobMember
  /-- Whether somebody has waited for it, so that its place can be given away. -/
  waited : Bool := false
  deriving DecidableEq, Repr

namespace Job

def isDone (j : Job) : Bool :=
  j.members.all (·.ended.isSome)

def ended? (j : Job) : Option Ended :=
  j.members.getLast?.bind JobMember.ended

def note (number : Nat) (ended : Ended) (j : Job) : Job :=
  { j with
    members := j.members.map fun m =>
      if m.number == number then { m with ended := some ended } else m }

end Job

/-- How much a process may use of something: the bound that holds and how far it can be raised. -/
structure Bounds where
  soft : Option Nat := none
  hard : Option Nat := none
  deriving DecidableEq, Repr

def Bounds.same (bound : Option Nat) : Bounds :=
  { soft := bound, hard := bound }

inductive Skip where
  | nothing
  /-- The rest of loops, as many as the number says. -/
  | leave (loops : Nat)
  /-- The rest of one round of the outermost of so many loops. -/
  | again (loops : Nat)
  /-- The rest of a function or of a script. -/
  | back
  deriving DecidableEq, Repr

/-- How far the options among the arguments have been read: the next argument, counted from one, and
how many characters of the one before it are done, if letters are left there. -/
structure OptionPlace where
  next : Nat := 1
  letter : Nat := 0
  deriving DecidableEq, Repr

/-- What seldom changes in a process. -/
structure Setup where
  /-- Its own number, and that of the shell from which it was copied. -/
  number : Nat
  shell : Nat
  parent : Nat
  /-- Channels that could not be kept while they lead elsewhere. -/
  lost : List Nat := []
  /-- The working directory, as names from the root down, and how the process calls it. -/
  place : List String
  directory : String := ""
  /-- The variables that a program has been given, in order. A shell takes them into its table. -/
  environment : List (String × Variable) := []
  functions : List (String × (Nat × Command)) := []
  aliases : List (String × String) := []
  /-- The name under which it runs. -/
  name : String
  lastJob : Option Nat := none
  /-- The limits that have been set, by their letters. -/
  limits : List (Char × Bounds) := []
  /-- How many programs it has been, with those that it descends from. -/
  programs : Nat := 0
  /-- What is done at a signal; zero stands for the end. -/
  traps : List (Nat × String) := []
  /-- Signals that do nothing, whatever is asked for. -/
  deaf : List Nat := []
  /-- Whether the script comes from a file or from the input. -/
  hasFile : Bool := false
  /-- Texts of the script, by number, and how many there are. -/
  heres : List (Nat × Word) := []
  hereCount : Nat := 0
  /-- Programs that have been found. -/
  hashed : List String := []
  mask : Nat := 18

structure Process extends Setup where
  /-- The stream of each open channel. -/
  channels : List (Nat × Nat) := []
  /-- Streams that it keeps open besides, until it becomes another program. -/
  saved : List Nat := []
  /-- The variables of a shell, by their names. -/
  table : Std.TreeMap String Variable := {}
  arguments : List String := []
  options : List Char := []
  status : Nat := 0
  /-- The status of the last command in a word. -/
  inner : Option Nat := none
  jobs : List Job := []
  /-- Signals whose action is still to run, the one that came last at the end. -/
  caught : List Nat := []
  line : Nat := 1
  /-- The line up to which the script has been read, and that of the script that it is part of. -/
  reading : Nat := 1
  outer : Option Nat := none
  /-- The line at which the function starts that is running. -/
  functionLine : Option Nat := none
  /-- The command of the shell that is running. -/
  command : Option String := none
  loops : Nat := 0
  skip : Skip := .nothing
  /-- What functions have hidden, innermost first. -/
  hidden : List (List (String × Option Variable)) := []
  /-- What a command of the shell has to say, newest first. -/
  said : List String := []
  optionPlace : OptionPlace := {}

namespace Process

def entries (p : Process) : List (String × Variable) :=
  p.table.toList ++ p.environment

def lookup? (p : Process) (name : String) : Option Variable :=
  (p.table.get? name).or (Assoc.find? name p.environment)

def binding? (p : Process) (name : String) : Option String :=
  (p.lookup? name).bind Variable.value

def bind (p : Process) (name : String) (v : Variable) : Process :=
  { p with table := p.table.insert name v }

def unbind (p : Process) (name : String) : Process :=
  { p with table := p.table.erase name }

end Process

/-- The shelf, out of so many, on which something with a name is kept. -/
def shelf (count : Nat) (name : String) : Nat :=
  let codes := name.toList.map Char.toNat
  (codes.headD 0 * 16 + codes.foldl (· + ·) 0) % count

def byShelf {α : Type} (count : Nat) (name : α → String) (things : List α) : List α :=
  things.mergeSort fun a b => decide (shelf count (name a) ≤ shelf count (name b))

/-! ## The system -/

structure Signal where
  process : Nat
  number : Nat
  deriving DecidableEq, Repr

/-- A process that has ended, for the one that has started it. -/
structure Death where
  process : Nat
  parent : Nat
  ended : Ended
  deriving DecidableEq, Repr

/-- What can be changed: a file, wherever it is, or what else is at a place. -/
inductive Subject where
  | file (id : Nat)
  | place (names : List String)
  deriving DecidableEq, Repr

/-- When something has been changed last, and how many changes there were up to then. -/
structure Change where
  subject : Subject
  time : Nat
  count : Nat
  deriving DecidableEq, Repr

/-- What has been written behind the end of a file and is not in the store yet. -/
structure Addition where
  file : Nat
  /-- Where it starts, and where it ends. -/
  start : Nat
  stop : Nat
  /-- The bytes, newest first. -/
  pieces : List (List UInt8)

structure System where
  /-- The files, without what has been added to some of them. -/
  kept : Store
  added : List Addition := []
  streams : Array Stream := #[]
  pipes : Array Pipe := #[]
  /-- The last change of each file, newest first, and how many changes there were. -/
  changes : List Change := []
  count : Nat := 0
  /-- How many changes there were when files have been moved or removed last. -/
  moved : Nat := 0
  /-- The time of the process that runs, in ticks. -/
  clock : Nat := 0
  /-- The time up to which it may run until others have their turn. -/
  horizon : Nat := 0
  /-- How much may still be done until a script counts as endless. -/
  work : Nat
  /-- The number of the last process. -/
  lastProcess : Nat
  /-- The processes that there are, each with the one that has started it. -/
  living : List (Nat × Nat) := []
  /-- Those that have ended and that nobody has asked about, in this order. -/
  dead : List Death := []
  signals : List Signal := []
  /-- Whether nobody is left at the other end of the pipe that the process has waited for. -/
  broken : Bool := false

structure Machine where
  system : System
  process : Process

end Shell
end SymbolIndex
