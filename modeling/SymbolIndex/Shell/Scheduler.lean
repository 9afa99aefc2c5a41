import SymbolIndex.Shell.Children

/-!
# Processes side by side

Every process has a time of its own. The one whose time is the least runs, for a while or until it
waits, and then it is looked who can go on.

- `Shell.Thread` : a process with its time, what it waits for and how it goes on
- `Shell.Crowd` : all processes
- `Shell.World` : all processes and what they share
- `Shell.World.deliver` : what a signal does
- `Shell.World.step`, `Shell.World.run` : one process runs for a while; everything runs until it is
  over
-/

namespace SymbolIndex
namespace Shell

/-- A process with its time, what it waits for and how it goes on. -/
structure Thread where
  process : Process
  time : Nat
  waiting : Waiting := .turn
  /-- Whether what it waits for was there when it was looked at last. -/
  ready : Bool := true
  /-- Whether it stands still, and the signals that wait until it goes on. -/
  halted : Bool := false
  pending : List Nat := []
  /-- Whether a signal has put an end to it. -/
  dying : Bool := false
  /-- When it has rested last. -/
  since : Nat := 0
  go : Machine → Next

namespace Thread

def number (t : Thread) : Nat :=
  t.process.number

def canRun (t : Thread) : Bool :=
  t.ready && !t.halted

/-- Whether its process keeps a stream open for which something holds. -/
def holds (streams : Array Stream) (p : Stream → Bool) (t : Thread) : Bool :=
  let check (id : Nat) : Bool := ((streams[id]?).map p).getD false
  t.process.channels.any (fun c => check c.2) || t.process.saved.any check

/-- Whether its process keeps one of the first outputs open. -/
def holdsOutput (t : Thread) : Bool :=
  let isOutput (id : Nat) : Bool := id == 1 || id == 2
  t.process.channels.any (fun c => isOutput c.2) || t.process.saved.any isOutput

/-- The process at a later time, at which it can go on. -/
def moveTo (time : Nat) (t : Thread) : Thread :=
  if t.time + millisecond ≤ time then { t with time, since := time }
  else { t with time := max t.time time }

/-- The time at which a process has used what it may use, if it does not rest, and the signal that
comes then. -/
def exhaustion? (t : Thread) : Option (Nat × Nat) :=
  let bounds := ((t.process.limits.find? (·.1 == 't')).map Prod.snd).getD {}
  let time (seconds : Nat) : Nat := t.since + max 1 seconds * 1000 * millisecond
  match bounds.soft, bounds.hard with
  | none, none => none
  | some n, none => some (time n, 24)
  | none, some n => some (time n, 9)
  | some n, some k => if n < k then some (time n, 24) else some (time k, 9)

/-- A process to which a signal puts an end at a time. -/
def doom (signal time : Nat) (t : Thread) : Thread :=
  { t with
    time, waiting := .turn, ready := true, halted := false, dying := true
    go := .gone (.killed signal) }

end Thread

structure Crowd where
  threads : List Thread
  /-- The number of the first process, and how it ended. -/
  main : Nat
  ended : Option Ended := none
  /-- The time that it has. -/
  limit : Nat
  /-- How much has been done since all rested. -/
  busy : Nat := 0

structure World where
  system : System
  crowd : Crowd

/-! ## Who can go on -/

namespace Crowd

def hasWriter (c : Crowd) (streams : Array Stream) (pipe : Nat) : Bool :=
  c.threads.any fun t => t.holds streams fun s =>
    match s with
    | .inlet n => n == pipe
    | _ => false

def hasReader (c : Crowd) (streams : Array Stream) (pipe : Nat) : Bool :=
  c.threads.any fun t => t.holds streams fun s =>
    match s with
    | .outlet n => n == pipe
    | _ => false

def isReady (c : Crowd) (y : System) (t : Thread) : Bool :=
  let pipeAt (n : Nat) : Pipe := (y.pipes[n]?).getD {}
  match t.waiting with
  | .turn | .rest _ => true
  | .data n breaks =>
    !(pipeAt n).isEmpty || (breaks && !t.process.caught.isEmpty) || !c.hasWriter y.streams n
  | .room n => !(pipeAt n).isFull || !c.hasReader y.streams n
  | .child breaks =>
    y.dead.any (·.parent == t.number) || (breaks && !t.process.caught.isEmpty) ||
      !y.living.any (·.2 == t.number)

/-- Whether nobody is left at the other end of the pipe that a process waits for. -/
def isBroken (c : Crowd) (y : System) (t : Thread) : Bool :=
  match t.waiting with
  | .data n _ => !c.hasWriter y.streams n
  | .room n => !c.hasReader y.streams n
  | _ => false

def update (c : Crowd) (number : Nat) (f : Thread → Thread) : Crowd :=
  { c with threads := c.threads.map fun t => if t.number == number then f t else t }

def look (c : Crowd) (y : System) (now : Nat) : Crowd :=
  { c with threads := c.threads.map fun t =>
      match t.waiting with
      | .turn | .rest _ => t
      | _ =>
        let ready := c.isReady y t
        if ready && !t.ready then { t.moveTo (now + wakeTime) with ready } else { t with ready } }

/-- The process that runs next: the first one whose time is the least. -/
def next? (c : Crowd) : Option Thread :=
  c.threads.foldl (fun best t =>
    if !t.canRun then best
    else
      match best with
      | none => some t
      | some b => if t.time < b.time then some t else best) none

/-- The least time of the other processes that can go on. -/
def nextTime (c : Crowd) (number : Nat) : Nat :=
  c.threads.foldl (fun best t => if !t.canRun || t.number == number then best else min best t.time)
    forever

/-- Whether everything is over that somebody waits for: the first process, and all that could write
to its outputs. -/
def isOver (c : Crowd) : Bool :=
  c.ended.isSome && !c.threads.any Thread.holdsOutput

/-- How much processes do until they count as ones that never rest. -/
def busyWork : Nat := 3000000

/-- How much processes that never rest do each time until others have got on. -/
def busyTurn : Nat := 100000

/-- Whether a process has something to do at a time. -/
def isBusy (now : Nat) (t : Thread) : Bool :=
  t.canRun && t.time < now + millisecond

/-- The least time at which a process goes on that has nothing to do now. -/
def wakeTime? (c : Crowd) (now : Nat) : Option Nat :=
  (c.threads.filterMap fun t =>
    if !t.canRun || isBusy now t || c.limit ≤ t.time then none else some t.time).min?

/-- The first process that has used what it may use, and when that is. -/
def firstExhaustion? (c : Crowd) (now : Nat) : Option (Nat × Signal) :=
  c.threads.foldl (fun best t =>
    match if isBusy now t then t.exhaustion? else none, best with
    | some (time, n), some (least, s) =>
      some (if time < least then (time, ⟨t.number, n⟩) else (least, s))
    | some (time, n), none => some (time, ⟨t.number, n⟩)
    | none, best => best) none

/-- Lets those who have something to do pass their time until later. -/
def passTime (c : Crowd) (now time : Nat) : Crowd :=
  { c with
    busy := busyWork - busyTurn
    threads := c.threads.map fun t =>
      if isBusy now t then { t with time := max t.time time } else t }

end Crowd

/-! ## Signals -/

namespace World

/-- The end of a process. Whoever has started it is told, and has to ask about it; if that one is
gone too then nobody has. -/
def die (w : World) (number : Nat) (ended : Ended) : World :=
  let y := w.system
  let c := w.crowd
  let parent := ((y.living.find? (·.1 == number)).map Prod.snd).getD 0
  let lives := c.threads.any (·.number == parent)
  let dead := y.dead.filter (·.parent != number)
  { system := { y with
      living := (y.living.filter (·.1 != number)).map fun e => if e.2 == number then (e.1, 1) else e
      dead := if lives then dead ++ [⟨number, parent, ended⟩] else dead
      signals := if lives then y.signals ++ [⟨parent, 17⟩] else y.signals }
    crowd := { c with
      threads := c.threads.filter (·.number != number)
      ended := if number = c.main then some ended else c.ended } }

/-- What a signal does at a time, while a process is running. -/
def deliver (running now : Nat) (w : World) (s : Signal) : World :=
  match w.crowd.threads.find? (·.number == s.process) with
  | none => w
  | some t =>
    let set (f : Thread → Thread) : World := { w with crowd := w.crowd.update s.process f }
    if t.dying then w
    else if s.number = 18 && t.halted then
      set fun t => { t with halted := false, time := max t.time now }
    else if t.halted && s.number ≠ 9 then
      set fun t => { t with pending := t.pending.filter (· != s.number) ++ [s.number] }
    else
      match t.process.reaction s.number with
      | .nothing => w
      | .note => set fun t => { t with process := t.process.heed s.number }
      | .halt => set fun t => { t with halted := true }
      | .die => set (·.doom s.number (now + if s.process = running then 0 else deathTime))

/-- Lets processes that go on have the signals that have waited. -/
def release (w : World) : World :=
  let c := w.crowd
  if c.threads.all fun t => t.halted || t.pending.isEmpty then w
  else
    let late : List Signal := c.threads.flatMap fun t =>
      if t.halted then [] else t.pending.map fun n => ⟨t.number, n⟩
    { system := { w.system with signals := w.system.signals ++ late }
      crowd := { c with
        threads := c.threads.map fun t => if t.halted then t else { t with pending := [] } } }

/-- Delivers all signals that are on their way at a time, while a process is running. They may cause
others. -/
def deliverAll (running now : Nat) : Nat → World → World
  | 0, w => w
  | fuel + 1, w =>
    let signals := w.system.signals
    if signals.isEmpty then w
    else
      let quiet := { w with system := { w.system with signals := [] } }
      deliverAll running now fuel (signals.foldl (deliver running now) quiet).release

/-! ## Running -/

/-- How long a process runs before others have their turn, in ticks. -/
def turnTime : Nat := 10 * microsecond

/-- By how much a process may get ahead of others. -/
def leadTime : Nat := microsecond

/-- The world after a process has run, and whether it goes on. -/
def after (c : Crowd) (t : Thread) : Next → World × Bool
  | .gone ended m => ((World.mk m.system c).die t.number ended, true)
  | .stuck m => (⟨m.system, c⟩, false)
  | .pause waiting m go =>
    let y := m.system
    let paused : Thread := { t with process := m.process, time := y.clock, waiting, go }
    let moved : Thread :=
      match waiting with
      | .rest ticks => paused.moveTo (y.clock + ticks)
      | _ => paused
    let c := c.update t.number fun _ => moved
    -- what is there already need not be noticed
    let ready := c.isReady y moved
    (⟨y, c.update t.number fun t => { t with ready }⟩, true)
  | .fork child start m go =>
    let y := m.system
    let born : Thread := { process := child, time := y.clock, since := y.clock, go := start }
    let parent : Thread :=
      { t with process := m.process, time := y.clock, waiting := .turn, ready := true, go }
    let c := c.update t.number fun _ => parent
    (⟨{ y with living := y.living ++ [(child.number, child.parent)] },
      { c with threads := c.threads ++ [born] }⟩,
      true)

/-- Lets processes that never rest pass their time until something else happens, or until one of
them has used what it may use. -/
def skip (w : World) (now : Nat) : World :=
  let c := w.crowd
  let y := w.system
  match c.wakeTime? now, c.firstExhaustion? now with
  | none, none => { w with crowd := c.passTime now now }
  | some time, none => { w with crowd := c.passTime now time }
  | wake, some (stop, signal) =>
    match wake.filter (· < stop) with
    | some time => { w with crowd := c.passTime now time }
    | none =>
      deliverAll signal.process stop 100
        ⟨{ y with signals := y.signals ++ [signal], clock := stop }, c.passTime now stop⟩

/-- Lets one process run for a while. Says whether everything goes on. -/
def step (w : World) : World × Bool :=
  let ⟨y, c⟩ := w
  match c.next? with
  | none => (⟨y, c⟩, false)
  | some t =>
    if c.ended.isNone && c.limit ≤ t.time then (⟨y, c⟩, false)
    else if Crowd.busyWork ≤ c.busy then (skip ⟨y, c⟩ t.time, true)
    else
      let horizon := min (t.time + turnTime) (max (t.time + leadTime) (c.nextTime t.number))
      let broken := c.isBroken y t
      let work := y.work
      let busy := if y.clock + millisecond ≤ t.time then 0 else c.busy
      let y := { y with clock := t.time, horizon, broken }
      let (w, goesOn) := after c t (t.go ⟨y, t.process⟩)
      let now := w.system.clock
      let w := deliverAll t.number now 100 w
      let crowd := w.crowd.look w.system now
      (⟨w.system, { crowd with busy := busy + (work - w.system.work) }⟩, goesOn)

def run : Nat → World → World
  | 0, w => w
  | fuel + 1, w =>
    if w.crowd.isOver then w
    else
      let (w, goesOn) := w.step
      if goesOn then run fuel w else w

end World
end Shell
end SymbolIndex
