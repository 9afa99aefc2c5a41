import SymbolIndex.Shell.Process

/-!
# What processes do

A process does something with itself and the system, and from time to time it has to wait for
others. What it does is therefore told as what comes next: it is over, or it waits and says how it
goes on.

- `Shell.Next` : what comes of letting a process run
- `Shell.Act` : what a process does; it may stop, or give up for good
- `Shell.spend`, `Shell.lapse` : how much a process does and how long it takes, so that an endless
  one is noticed
-/

namespace SymbolIndex
namespace Shell

inductive Stop where
  /-- A fault ends the command of the shell or the script. -/
  | fault
  /-- The script ends, possibly with a status. -/
  | exit (status : Option Nat)
  | killed (signal : Nat)
  deriving DecidableEq, Repr

inductive Waiting where
  /-- Its turn. -/
  | turn
  /-- That so much time passes. -/
  | rest (ticks : Nat)
  /-- Something to read from a pipe. A signal may come first if `breaks` is set. -/
  | data (pipe : Nat) (breaks : Bool)
  /-- Room in a pipe. -/
  | room (pipe : Nat)
  /-- The end of a process that it has started. A signal may come first if `breaks` is set. -/
  | child (breaks : Bool)
  deriving DecidableEq, Repr

inductive Next where
  | gone (ended : Ended) (m : Machine)
  /-- It never ends, as far as one can tell. -/
  | stuck (m : Machine)
  | pause (waiting : Waiting) (m : Machine) (go : Machine → Next)
  /-- Another process starts. -/
  | fork (child : Process) (start : Machine → Next) (m : Machine) (go : Machine → Next)

/-- What a process does, given what comes after it: one thing with a result, another one if it
stops. -/
def Act (α : Type) : Type :=
  Machine → (α → Machine → Next) → (Stop → Machine → Next) → Next

namespace Act

@[inline]
protected def pure {α : Type} (a : α) : Act α :=
  fun m ok _ => ok a m

@[inline]
protected def bind {α β : Type} (x : Act α) (f : α → Act β) : Act β :=
  fun m ok no => x m (fun a m => f a m ok no) no

@[inline]
protected def stop {α : Type} (e : Stop) : Act α :=
  fun m _ no => no e m

@[inline]
protected def handle {α : Type} (x : Act α) (f : Stop → Act α) : Act α :=
  fun m ok no => x m ok (fun e m => f e m ok no)

instance : Monad Act where
  pure := Act.pure
  bind := Act.bind

instance : MonadExceptOf Stop Act where
  throw := Act.stop
  tryCatch := Act.handle

instance : MonadStateOf Machine Act where
  get := fun m ok _ => ok m m
  set := fun m _ ok _ => ok () m
  modifyGet := fun f m ok _ => ok (f m).1 (f m).2

end Act

@[inline]
def attempt {α : Type} (act : Act α) : Act (Except Stop α) :=
  fun m ok _ => act m (fun a m => ok (.ok a) m) (fun e m => ok (.error e) m)

@[inline]
def resume {α : Type} (outcome : Except Stop α) : Act α :=
  match outcome with
  | .ok a => pure a
  | .error e => throw e

def expire {α : Type} : Act α :=
  fun m _ _ => .stuck m

@[inline]
def pause (waiting : Waiting) : Act Unit :=
  fun m ok _ => .pause waiting m (fun m => ok () m)

@[inline]
def asks {α : Type} (f : Process → α) : Act α :=
  fun m ok _ => ok (f m.process) m

@[inline]
def asksSystem {α : Type} (f : System → α) : Act α :=
  fun m ok _ => ok (f m.system) m

@[inline]
def change (f : Process → Process) : Act Unit :=
  fun m ok _ => ok () { m with process := f m.process }

@[inline]
def changeSystem (f : System → System) : Act Unit :=
  fun m ok _ => ok () { m with system := f m.system }

@[inline]
def setStatus (status : Nat) : Act Unit :=
  change fun p => { p with status }

/-! ## Time -/

/-- The ticks of a microsecond. A tick is about the time that one unit of work takes. -/
def microsecond : Nat := 40

def millisecond : Nat := 1000 * microsecond

def forever : Nat := 4000000000000000000

/-- Lets others have their turn if it is time for that. -/
@[inline]
def yield : Act Unit :=
  fun m ok _ =>
    if m.system.horizon < m.system.clock then .pause .turn m (fun m => ok () m) else ok () m

/-- Counts an amount of work. Nobody else has a turn meanwhile. -/
@[inline]
def charge (amount : Nat) : Act Unit :=
  fun m ok _ =>
    if m.system.work < amount then .stuck m
    else
      ok () { m with system := { m.system with
        work := m.system.work - amount, clock := m.system.clock + amount } }

@[inline]
def spend (amount : Nat) : Act Unit := do
  charge amount
  yield

/-- Lets a short time pass, in which the process is busy. -/
def lapse (ticks : Nat) : Act Unit := do
  changeSystem fun y => { y with clock := y.clock + ticks }
  yield

/-- Lets time pass in which the process does nothing. -/
def elapse (ticks : Nat) : Act Unit :=
  pause (.rest ticks)

end Shell
end SymbolIndex
