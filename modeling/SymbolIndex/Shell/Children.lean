import SymbolIndex.Shell.System

/-!
# Processes that a process starts

- `Shell.fork` : starts a process that is a copy of this one
- `Shell.addJob` : processes that have been started together
- `Shell.reap` : takes note of those that have ended
- `Shell.awaitJob` : waits until a job is done
-/

namespace SymbolIndex
namespace Shell

/-! ## Starting -/

/-- How long it takes to copy a process, and how much later the copy starts to run. -/
def forkTime : Nat := 50 * microsecond

/-- How much later than its parent a copy runs. -/
def forkDelay : Nat := 90 * microsecond

/-- How long it takes to start a program for which a shell waits. -/
def spawnTime : Nat := 40 * microsecond

/-- How long it takes to become another program. -/
def loadTime : Nat := 550 * microsecond

/-- How long it takes until a process is gone that has nothing left to do. -/
def exitTime : Nat := 60 * microsecond

/-- How long it takes until a process is gone that another one has killed. -/
def deathTime : Nat := 100 * microsecond

/-- How long it takes to notice that others have got on. -/
def wakeTime : Nat := 25 * microsecond

/-- The process after it has been copied. It knows the outermost script only, and not one that comes
from no file. -/
def Process.copied (p : Process) : Process :=
  { p with reading := if p.hasFile then p.outer.getD p.reading else 1, outer := none }

/-- The process without the actions for signals. What is ignored stays ignored. -/
def Process.withoutActions (p : Process) : Process :=
  { p with traps := p.traps.filter (fun t => t.2 == ""), caught := [] }

def Stop.ended (status : Nat) : Stop → Ended
  | .fault | .exit none => .exited (status % 256)
  | .exit (some n) => .exited (n % 256)
  | .killed signal => .killed signal

def finish (ended : Ended) (m : Machine) : Next :=
  .pause (.rest exitTime) m (.gone ended)

def Act.toNext (act : Act Unit) (m : Machine) : Next :=
  act m (fun _ m => finish (.exited (m.process.status % 256)) m)
    (fun e m => finish (e.ended m.process.status) m)

/-- Starts a process that is a copy of this one, and gives its number. -/
def startCopy (body : Act Unit) : Act Nat :=
  fun m ok _ =>
    let number := m.system.lastProcess + 1
    let child :=
      { m.process.copied with number, parent := m.process.number, jobs := [], said := [] }
    let m := { m with system := { m.system with lastProcess := number } }
    .fork child body.toNext m (fun m => ok number m)

/-- Starts a shell that is a copy of this one, and gives its number. -/
def fork (body : Act Unit) : Act Nat := do
  spend 200
  lapse forkTime
  startCopy do
    lapse forkDelay
    change Process.withoutActions
    body

/-! ## Jobs -/

/-- The first place in the list of jobs that is free or can be given away. -/
def Process.freeSlot (p : Process) : Nat :=
  let taken (j : Job) : Bool := !(j.waited && j.isDone)
  let mark (free : Array Bool) (j : Job) : Array Bool :=
    if taken j then free.setIfInBounds j.slot false else free
  let free := p.jobs.foldl mark
    (Array.replicate (p.jobs.length + 2) true)
  ((free.toList.tail.findIdx? id).getD 0) + 1

/-- Adds a job with processes to the list, and gives its place there. -/
def addJob (numbers : List Nat) : Act Nat := do
  let p ← asks id
  let slot := p.freeSlot
  spend (8 * p.jobs.length)
  let job : Job := { slot, members := numbers.map fun number => { number } }
  change fun p => { p with jobs := job :: p.jobs.filter (·.slot != slot) }
  return slot

def Process.job? (p : Process) (slot : Nat) : Option Job :=
  p.jobs.find? (·.slot == slot)

/-- Says how a process has ended, unless that is nothing to speak of. -/
def reportEnd (e : Ended) : Act Unit := do
  match e with
  | .killed n => if n != 2 && n != 13 then let _ ← writeText 2 (signalWords n ++ "\n")
  | .exited _ => return ()

/-- The first process of this one that has ended and has not been asked about. -/
def takeDead : Act (Option Death) := do
  let own ← asks (·.number)
  let found ← asksSystem fun y => y.dead.find? (·.parent == own)
  if let some d := found then
    changeSystem fun y => { y with dead := y.dead.filter (·.process != d.process) }
  return found

/-- Notes that a process has ended. That is told if it belongs to the job for which somebody
waits. -/
def noteDeath (awaited : Option Nat) (d : Death) : Act Unit := do
  let found ← asks fun p => p.jobs.find? fun j => !j.isDone && j.members.any (·.number == d.process)
  if let some j := found then
    let noted := j.note d.process d.ended
    change fun p => { p with jobs := p.jobs.map fun k => if k.slot == j.slot then noted else k }
    if awaited = some j.slot then reportEnd d.ended

def reapFor (awaited : Option Nat) : Nat → Act Unit
  | 0 => return ()
  | fuel + 1 => do
    if let some d ← takeDead then
      noteDeath awaited d
      reapFor awaited fuel

/-- Takes note of the processes that have ended so far. -/
def reap : Act Unit := do
  let own ← asks (·.number)
  let count ← asksSystem fun y => (y.dead.filter (·.parent == own)).length
  if 0 < count then reapFor none count

def isSettled (slot : Nat) : Act Bool :=
  asks fun p => ((p.job? slot).map Job.isDone).getD true

/-- Waits until a job is done, or, if signals break in, until one comes. Says whether none did.
Without a job it waits for all processes. -/
def awaitDeaths (job : Option Nat) (breaks : Bool) : Nat → Act Bool
  | 0 => expire
  | fuel + 1 => do
    let settled ← match job with
      | some slot => isSettled slot
      | none => pure false
    if settled then
      reap
      return true
    pause (.child breaks)
    match ← takeDead with
    | some d =>
      noteDeath job d
      awaitDeaths job breaks fuel
    | none => return !breaks || (← asks Process.caught).isEmpty

/-- As many processes as there have been, and one more. -/
def processFuel : Act Nat := do
  return (← asksSystem System.lastProcess) + 1

/-- Waits until a job is done, forgets it, and gives how it ended. -/
def awaitJob (slot : Nat) : Act Ended := do
  let _ ← awaitDeaths (some slot) false (← processFuel)
  let ended ← asks fun p => ((p.job? slot).bind Job.ended?).getD (.exited 0)
  change fun p => { p with jobs := p.jobs.filter (·.slot != slot) }
  return ended

def awaitProcess (number : Nat) : Act Ended := do
  awaitJob (← addJob [number])

end Shell
end SymbolIndex
