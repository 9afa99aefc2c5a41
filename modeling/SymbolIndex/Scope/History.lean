import SymbolIndex.Scope.Import

/-!
# Histories of scopes

- `Action` : one change of the open scopes
- `Refusal` : why a change is not made
- `Arena.perform` : the open scopes after a change
-/

namespace SymbolIndex

inductive Action where
  | push (name : String) (parent : Nat)
  | pop (id : Nat)
  | addImport (id : Nat) (binding : Binding)
  | recordImport (id : Nat) (statement : Json)

inductive Refusal where
  /-- Only the newest scope can be closed. -/
  | notNewest
  /-- There is no such scope. -/
  | noScope
  deriving DecidableEq, Repr

namespace Action

def scope : Action → Nat
  | .push _ parent => parent
  | .pop id => id
  | .addImport id _ => id
  | .recordImport id _ => id

def closes : Action → Bool
  | .pop _ => true
  | _ => false

end Action

namespace Arena

def refusal? (a : Arena) (closes : Bool) (id : Nat) : Option Refusal :=
  if closes && id ≠ root && id + 1 ≠ a.size then some .notNewest
  else if a.isLive id then none
  else some .noScope

def act (a : Arena) : Action → Arena
  | .push name parent => a.push name parent
  | .pop id => a.pop id
  | .addImport id binding => a.addImport id binding
  | .recordImport id statement => a.recordImport id statement

/-- The open scopes after a change, unless it is refused. -/
def perform (a : Arena) (action : Action) : Except Refusal Arena :=
  match a.refusal? action.closes action.scope with
  | some r => .error r
  | none => .ok (a.act action)

end Arena
end SymbolIndex
