import SymbolIndex.Fault.Breakdown
import SymbolIndex.Store.Basic

/-!
# The host of the program

What the program asks of the system that it runs on. Nothing is assumed about the answers, except
that workers who share files out leave none out.

- `Ending` : what comes of a program that is to be run
- `Host` : finds and runs programs, grants memory and shares files out
-/

namespace SymbolIndex

abbrev Environment := List (String × String)

/-- What comes of a program that is to be run. -/
inductive Ending where
  /-- It could not be started. -/
  | refused (cause : String)
  /-- It could not be waited for, and was killed. -/
  | lost (cause : String)
  /-- It took too long, and was killed. -/
  | expired
  /-- It ended with a status, or by a signal, and has written something by then. -/
  | ended (status : Option Int) (output errors : List UInt8)
  deriving DecidableEq, Repr

/-- Files may be taken up in the order in which they come. -/
theorem perm_id (files : List (String × Nat)) : (id files).Perm files :=
  .refl files

/-- The system that the program runs on. -/
structure Host where
  /-- The path of the program that a name stands for. -/
  find? : Store → String → Option String
  /-- Runs the program at a path with arguments and input, for so many milliseconds at most. -/
  run : Store → String → List String → List UInt8 → Nat → Ending × Store
  /-- Why there is no memory for so many trees. -/
  refusal? : Nat → Option Breakdown
  /-- The order in which workers take numbered files up. -/
  order : List (String × Nat) → List (String × Nat) := id
  order_perm : ∀ files, (order files).Perm files := by exact perm_id

end SymbolIndex
