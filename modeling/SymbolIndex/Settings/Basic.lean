import SymbolIndex.Index.Options
import SymbolIndex.Parser.Memo

/-!
# Settings

- `ParserKind` : where trees come from
- `ParserSettings` : how trees are obtained
- `Settings` : everything that can be set
-/

namespace SymbolIndex

/-- Where trees come from. -/
inductive ParserKind where
  /-- The files hold the trees themselves. -/
  | tree
  /-- A command turns files into trees. -/
  | command
  deriving DecidableEq, Repr, Inhabited

namespace ParserKind

def word : ParserKind → String
  | .tree => "tree"
  | .command => "command"

def ofWord? (word : String) : Option ParserKind :=
  if word = "tree" then some .tree else if word = "command" then some .command else none

/-- The words for kinds are read back. -/
@[simp] theorem ofWord?_word (k : ParserKind) : ofWord? k.word = some k := by
  cases k <;> rfl

end ParserKind

structure ParserSettings where
  kind : ParserKind := .tree
  /-- The command and its arguments. -/
  command : List String := []
  timeoutSecs : Nat := 60
  /-- Whether trees are remembered. -/
  memoize : Bool := true
  /-- How many trees are remembered; none if it is zero. -/
  memoCapacity : Nat := Memo.defaultCapacity
  deriving DecidableEq, Repr, Inhabited

structure Settings where
  index : Options := {}
  parser : ParserSettings := {}
  /-- How many files are indexed at the same time; zero leaves the choice open. -/
  jobs : Nat := 0
  deriving DecidableEq, Repr, Inhabited

end SymbolIndex
