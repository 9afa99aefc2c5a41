import SymbolIndex.Text.LetterCase
import SymbolIndex.Tree.Node

/-!
# Names

- `Json.name?` : the dotted name that a reference stands for
- `isOperator`, `isAllLower`, `isIndexed` : which names are worth recording
-/

namespace SymbolIndex

/-! ## References -/

/-- The name of a selection. A side without a name is left empty. -/
def selectName (qualifier name : Option String) : Option String :=
  match qualifier, name with
  | none, none => none
  | q, n => some (q.getD "" ++ "." ++ n.getD "")

mutual

/-- The dotted name of a reference: names stand for themselves, a selection joins its two sides, an
applied type is named for the type that is applied and a parameter for its declared type. -/
def Json.name? : Json → Option String
  | .obj fields =>
    match (Json.obj fields).node? with
    | none => none
    | some node =>
      match node.kind with
      | .typeName | .termName => node.value?
      | .typeApply => nameAt "tpe" fields
      | .termParam => nameAt "decltpe" fields
      | .typeSelect | .termSelect => selectName (nameAt "qual" fields) (nameAt "name" fields)
      | _ => none
  | _ => none

def nameAt (key : String) : List (String × Json) → Option String
  | [] => none
  | (k, v) :: rest => if k = key then v.name? else nameAt key rest

end

namespace Node

def name? (n : Node) (field : String) : Option String :=
  (n.field? field).bind Json.name?

end Node

/-! ## Which names are recorded -/

/-- The operators, which are never recorded. -/
def operators : List String :=
  ["-", "->", "::", ":=", "!", "???", "*", "&&", "+", "+=", "<", "<=", "==", ">", ">=", "~>"]

def isOperator (name : String) : Bool :=
  operators.contains name

def startsLower : List Char → Bool
  | [] => false
  | c :: _ => Text.isLower c && !Text.isUpper c

/-- Whether every part between dots starts with a lowercase letter. -/
def isAllLower (name : String) : Bool :=
  (name.toList.splitOn '.').all startsLower

/-- Whether the name is recorded: it is no operator, does not start with a dot, and some part of it
starts otherwise than with a lowercase letter. -/
def isIndexed (name : String) : Bool :=
  name ≠ "" && !isOperator name && name.toList.head? ≠ some '.' && !isAllLower name

end SymbolIndex
