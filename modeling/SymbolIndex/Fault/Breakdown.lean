import SymbolIndex.Fault.Basic

/-!
# Breakdowns

A fault has a message and becomes a response. A breakdown does not: the program ends at once, and
what has been written until then stays.

- `Breakdown` : why the program ends at once
- `Breakdown.code?` : the exit status
- `Failure` : a fault or a breakdown
-/

namespace SymbolIndex

/-- Why the program ends at once. -/
inductive Breakdown where
  /-- More memory has been asked for than can be counted. -/
  | overflow
  /-- More memory has been asked for than there is. -/
  | exhausted
  deriving DecidableEq, Repr

/-- The exit status; there is none if the process is killed. -/
def Breakdown.code? : Breakdown → Option Nat
  | .overflow => some 101
  | .exhausted => none

/-- Why a task has no result. -/
inductive Failure where
  | fault (f : Fault)
  | breakdown (b : Breakdown)
  deriving DecidableEq, Repr

def Failure.code? : Failure → Option Nat
  | .fault f => some f.code
  | .breakdown b => b.code?

end SymbolIndex
