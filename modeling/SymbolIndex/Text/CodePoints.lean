/-!
# Runs of code points

Unicode properties are given as lists of runs: every `step`-th code point from `first` to `last`.

- `Run.holds` : the code point is one of the run
- `inRuns` : membership of a character in a list of runs
-/

namespace SymbolIndex
namespace Text

/-- Every `step`-th code point from `first` up to `last`. -/
structure Run where
  first : Nat
  last : Nat
  step : Nat
  deriving DecidableEq, Repr

def Run.holds (r : Run) (n : Nat) : Bool :=
  r.first ≤ n && n ≤ r.last && (n - r.first) % r.step == 0

def inRuns (runs : List Run) (c : Char) : Bool :=
  runs.any (·.holds c.toNat)

end Text
end SymbolIndex
