import SymbolIndex.Number.Basic
import SymbolIndex.Sorted.Table

/-!
# Document values

- `Json` : null, booleans, numbers, text, arrays and objects
- `Json.get?` : the value under a key of an object
- `Json.asString?`, `Json.asArray?`, … : views of one kind
-/

namespace SymbolIndex

/-- A document value. The fields of an object are kept in the order in which they are written. -/
inductive Json where
  | null
  | bool (value : Bool)
  | num (value : Number)
  | str (value : String)
  | arr (items : List Json)
  | obj (fields : List (String × Json))
  deriving BEq, Repr, Inhabited

namespace Json

def int (i : Int) : Json :=
  .num (.int i)

def nat (n : Nat) : Json :=
  .num (.int n)

def strings (xs : List String) : Json :=
  .arr (xs.map .str)

/-- A value that may be missing, which is written as null. -/
def ofOption {α : Type} (f : α → Json) : Option α → Json
  | none => .null
  | some a => f a

/-! ## Views -/

def get? (v : Json) (key : String) : Option Json :=
  match v with
  | .obj fields => Assoc.find? key fields
  | _ => none

def asString? : Json → Option String
  | .str s => some s
  | _ => none

def asArray? : Json → Option (List Json)
  | .arr items => some items
  | _ => none

def asBool? : Json → Option Bool
  | .bool b => some b
  | _ => none

def asNat? : Json → Option Nat
  | .num (.int (.ofNat n)) => some n
  | _ => none

def isNull : Json → Bool
  | .null => true
  | _ => false

end Json
end SymbolIndex
