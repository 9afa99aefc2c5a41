import SymbolIndex.Shell.Builtin.Options

/-!
# Limits

- `Shell.Limit` : what a process may use at most, by kind
- `Shell.Bounds.set?` : a limit that is lowered
- `Shell.limitUse` : the command `ulimit`
-/

namespace SymbolIndex
namespace Shell

structure Limit where
  letter : Char
  name : String
  /-- How much one unit stands for. -/
  factor : Nat
  usual : Bounds := {}

def limitKinds : List Limit :=
  [ ⟨'t', "time(seconds)", 1, {}⟩, ⟨'f', "file(blocks)", 512, {}⟩, ⟨'d', "data(kbytes)", 1024, {}⟩,
    ⟨'s', "stack(kbytes)", 1024, { soft := some 8388608 }⟩,
    ⟨'c', "coredump(blocks)", 512, { soft := some 0 }⟩, ⟨'m', "memory(kbytes)", 1024, {}⟩,
    ⟨'l', "locked memory(kbytes)", 1024, .same (some 8388608)⟩,
    ⟨'p', "process", 1, .same (some 128597)⟩, ⟨'n', "nofiles", 1, .same (some 20000)⟩,
    ⟨'v', "vmemory(kbytes)", 1024, {}⟩, ⟨'w', "locks", 1, {}⟩, ⟨'r', "rtprio", 1, .same (some 0)⟩ ]

namespace Bounds

/-- Whether a limit lies above another one. Without a number there is no limit. -/
def isAbove : Option Nat → Option Nat → Bool
  | _, none => false
  | none, some _ => true
  | some a, some b => b < a

/-- The bounds after one or both of them have been set. The soft one must not lie above the hard
one, and the hard one must not be raised. -/
def set? (b : Bounds) (soft hard : Bool) (value : Option Nat) : Except Trouble Bounds :=
  let new : Bounds :=
    { soft := if soft then value else b.soft, hard := if hard then value else b.hard }
  if isAbove new.soft new.hard then .error .invalid
  else if isAbove new.hard b.hard then .error .notPermitted
  else .ok new

end Bounds

def Process.bounds (p : Process) (l : Limit) : Bounds :=
  ((p.limits.find? (·.1 == l.letter)).map Prod.snd).getD l.usual

def Limit.show (l : Limit) (bound : Option Nat) : String :=
  match bound with
  | none => "unlimited\n"
  | some n => toString (n / l.factor) ++ "\n"

def limitValue (l : Limit) (text : String) : Act (Option Nat) := do
  if text = "unlimited" then return none
  if !text.toList.all Char.isDigit then fail "bad number"
  return some (digitsValue 10 text.toList * l.factor)

/-- Says what the limits are, or sets one of them. -/
def limitUse (args : List String) : Act Nat := do
  let (options, args) ← letters "HSatfdscmlpnvwr" args
  let isMode (c : Char) : Bool := c == 'H' || c == 'S'
  let mode := ((options.filter fun o => isMode o.1).getLast?).map Prod.fst
  let all := options.any (·.1 == 'a')
  let kind := ((options.filter fun o => !isMode o.1 && o.1 != 'a').getLast?.map Prod.fst).getD 'f'
  let l := (limitKinds.find? (·.letter == kind)).getD ⟨'f', "", 512, {}⟩
  let p ← asks id
  let bound (l : Limit) : Option Nat :=
    if mode == some 'H' then (p.bounds l).hard else (p.bounds l).soft
  match args with
  | [] =>
    if all then
      limitKinds.forM fun l =>
        say (l.name ++ "".pushn ' ' (20 - l.name.length) ++ " " ++ l.show (bound l))
    else say (l.show (bound l))
    return 0
  | text :: more =>
    if all || !more.isEmpty then fail "too many arguments"
    let value ← limitValue l text
    match (p.bounds l).set? (mode != some 'H') (mode != some 'S') value with
    | .error t => fail ("error setting limit (" ++ t.message ++ ")")
    | .ok b =>
      change fun p => { p with limits := (kind, b) :: p.limits.filter (·.1 != kind) }
      return 0

end Shell
end SymbolIndex
