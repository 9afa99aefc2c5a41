import SymbolIndex.Json.Printer
import SymbolIndex.Tree.Kind

/-!
# Syntax nodes

A syntax tree is a document in which objects with a tag are nodes.

- `Node` : a tagged object
- `Json.node?` : the node that a value is
- `Node.field?`, `Node.child?`, `Node.seq`, `Node.str?`, `Node.value?` : what a node holds
- `Json.treeError?` : the message of a tree that stands for a failed parse
- `Traversal` : how a traversal of a tree ends
-/

namespace SymbolIndex

/-- An object with a non-empty tag in its field `type`. -/
structure Node where
  tag : String
  fields : List (String × Json)
  deriving Inhabited

def Json.node? : Json → Option Node
  | .obj fields =>
    match Assoc.find? "type" fields with
    | some (.str tag) => if tag = "" then none else some ⟨tag, fields⟩
    | _ => none
  | _ => none

namespace Node

def toJson (n : Node) : Json :=
  .obj n.fields

def kind (n : Node) : Kind :=
  .ofTag n.tag

/-- The value of a field; null counts as missing. -/
def field? (n : Node) (name : String) : Option Json :=
  (Assoc.find? name n.fields).filter (!·.isNull)

def child? (n : Node) (name : String) : Option Node :=
  (n.field? name).bind Json.node?

/-- The elements of the array in a field; none if there is no array. -/
def seq (n : Node) (name : String) : List Json :=
  ((n.field? name).bind Json.asArray?).getD []

def str? (n : Node) (name : String) : Option String :=
  (n.field? name).bind Json.asString?

/-- The non-empty text in the field `value`. -/
def value? (n : Node) : Option String :=
  (n.str? "value").filter (· ≠ "")

end Node

/-- The message of a tree that stands for a failed parse: its field `error`, printed unless it is
text. -/
def Json.treeError? (tree : Json) : Option String :=
  match tree.get? "error" with
  | none | some .null => none
  | some (.str message) => some message
  | some v => some v.compact

/-- How a traversal of a tree ends. -/
inductive Traversal where
  | complete
  /-- More nodes were nested than allowed. -/
  | tooDeep
  deriving DecidableEq, Repr

end SymbolIndex
