import SymbolIndex.Shell.Act

/-!
# Signals

- `Shell.signalNames`, `Shell.signalWords` : names of signals, and what is said when they end a
  process
- `Shell.Process.reaction` : what a signal does to a process
-/

namespace SymbolIndex
namespace Shell

/-! ## Names -/

/-- The names of the signals up to the last of them, or their numbers. The first one stands for the
end of a script. -/
def commonSignalNames : List String :=
  ["EXIT", "HUP", "INT", "QUIT", "ILL", "TRAP", "ABRT", "BUS", "FPE", "KILL", "USR1", "SEGV",
    "USR2", "PIPE", "ALRM", "TERM", "16", "CHLD", "CONT", "STOP", "TSTP", "TTIN", "TTOU", "URG",
    "XCPU", "XFSZ", "VTALRM", "PROF", "WINCH", "IO", "PWR", "SYS", "32", "33"]

/-- The names of the signals for use at will, counted from the first up and from the last down. -/
def freeSignalNames : List String :=
  let up := (List.range 15).map fun n => "RTMIN+" ++ toString (n + 1)
  let down := (List.range 14).map fun n => "RTMAX-" ++ toString (14 - n)
  ["RTMIN"] ++ up ++ down ++ ["RTMAX"]

def signalNames : List String :=
  commonSignalNames ++ freeSignalNames

/-- How many signals there are, nameless ones included. -/
def signalCount : Nat := 65

def signalWords (n : Nat) : String :=
  match n with
  | 1 => "Hangup"
  | 3 => "Quit"
  | 4 => "Illegal instruction"
  | 5 => "Trace/breakpoint trap"
  | 6 => "Aborted"
  | 7 => "Bus error"
  | 8 => "Floating point exception"
  | 9 => "Killed"
  | 10 => "User defined signal 1"
  | 11 => "Segmentation fault"
  | 12 => "User defined signal 2"
  | 14 => "Alarm clock"
  | 15 => "Terminated"
  | 16 => "Stack fault"
  | 24 => "CPU time limit exceeded"
  | 25 => "File size limit exceeded"
  | 26 => "Virtual timer expired"
  | 27 => "Profiling timer expired"
  | 29 => "I/O possible"
  | 30 => "Power failure"
  | 31 => "Bad system call"
  | _ => "Real-time signal " ++ toString (n - 34)

/-- Whether a signal is passed over when nothing is done about it. -/
def isHarmless (n : Nat) : Bool :=
  n == 17 || n == 18 || n == 23 || n == 28

/-- Whether a signal stops a process until it is told to go on. -/
def isPause (n : Nat) : Bool :=
  19 ≤ n && n ≤ 22

def signalName (n : Nat) : String :=
  (signalNames[n]?).getD (toString n)

/-! ## Reactions -/

inductive Reaction where
  | nothing
  /-- The process is to do something about it. -/
  | note
  /-- The process stands still until it is told to go on. -/
  | halt
  | die
  deriving DecidableEq, Repr

/-- What a signal does to a process. There are two that it cannot do anything about, and number zero
only asks whether there is a process. -/
def Process.reaction (p : Process) (signal : Nat) : Reaction :=
  let usual : Reaction :=
    if isHarmless signal then .nothing else if isPause signal then .halt else .die
  if signal == 0 then .nothing
  else if signal == 9 || signal == 19 then usual
  else if p.deaf.contains signal then .nothing
  else
    match p.traps.find? (·.1 == signal) with
    | some (_, "") => .nothing
    | some _ => .note
    | none => usual

def Process.heed (signal : Nat) (p : Process) : Process :=
  { p with caught := p.caught.filter (· != signal) ++ [signal] }

end Shell
end SymbolIndex
