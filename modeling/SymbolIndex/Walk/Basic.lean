import SymbolIndex.Scope.Import

/-!
# Walking a tree

A walk offers every value inside a tree to a visitor, each before what it holds. Inside a node a
scope is open that is named for the key under which the node was reached.

- `Offer` : a value with its surroundings
- `Verdict` : whether the walk enters the value
- `Visitor` : what is done with each offer
- `Walk` : the open nodes and scopes, and what the visitor keeps
- `walk` : the walk through a tree
-/

namespace SymbolIndex

/-- A value inside the tree, as a visitor sees it. -/
structure Offer where
  /-- The key of the value, or of the array that holds it. -/
  key : String
  child : Json
  /-- The nearest node around the value, as the walk hands it down. -/
  parent? : Option Node
  /-- The nodes that enclose the value, innermost first. -/
  nodes : List Node
  scope : Nat

namespace Offer

/-- The tags of the enclosing nodes, outermost first, and of the value itself if it is a node. -/
def tags (o : Offer) : List String :=
  o.nodes.reverse.map Node.tag ++ (o.child.node?.map Node.tag).toList

/-- The tags joined by slashes. -/
def path (o : Offer) : String :=
  "/".intercalate o.tags

end Offer

/-- Whether the walk enters a value. -/
inductive Verdict where
  | enter
  | skip
  deriving DecidableEq, Repr

/-- What is done with each offer. -/
structure Visitor (σ : Type) where
  visit : Offer → Arena → σ → Verdict × Arena × σ

structure Walk (σ : Type) where
  /-- The nodes that have been entered and not left, innermost first. -/
  nodes : List Node
  scopes : Arena
  /-- What the visitor keeps. -/
  seen : σ

namespace Walk

variable {σ : Type}

/-- The walk inside a node that was reached under a key. -/
def enter (w : Walk σ) (node : Node) (key : String) (scope : Nat) : Walk σ :=
  { w with nodes := node :: w.nodes, scopes := w.scopes.push key scope }

def leave (w : Walk σ) (inner : Nat) : Walk σ :=
  { w with nodes := w.nodes.tail, scopes := w.scopes.pop inner }

def offer (v : Visitor σ) (w : Walk σ) (key : String) (child : Json) (parent? : Option Node)
    (scope : Nat) : Verdict × Walk σ :=
  let (verdict, scopes, seen) := v.visit ⟨key, child, parent?, w.nodes, scope⟩ w.scopes w.seen
  (verdict, { w with scopes, seen })

mutual

/-- Walks through what a value holds. At most `maxDepth` nodes may be open at once. What is no node
hands its own parent on to what it holds. -/
def through (v : Visitor σ) (maxDepth : Nat) (scope : Nat) (key : String) (parent? : Option Node) :
    Json → Walk σ → Traversal × Walk σ
  | .arr items, w => throughItems v maxDepth scope key parent? items w
  | .obj fields, w =>
    match (Json.obj fields).node? with
    | none => throughFields v maxDepth scope parent? fields w
    | some node =>
      if maxDepth ≤ w.nodes.length then (.tooDeep, w)
      else
        -- the scope that is about to be opened
        let inner := w.scopes.size
        let (e, w) := throughFields v maxDepth inner (some node) fields (w.enter node key scope)
        (e, w.leave inner)
  | _, w => (.complete, w)

/-- Offers the elements of an array one after another, under the key of the array. -/
def throughItems (v : Visitor σ) (maxDepth : Nat) (scope : Nat) (key : String)
    (parent? : Option Node) : List Json → Walk σ → Traversal × Walk σ
  | [], w => (.complete, w)
  | x :: xs, w =>
    match w.offer v key x parent? scope with
    | (.skip, w) => throughItems v maxDepth scope key parent? xs w
    | (.enter, w) =>
      match through v maxDepth scope key parent? x w with
      | (.complete, w) => throughItems v maxDepth scope key parent? xs w
      | (.tooDeep, w) => (.tooDeep, w)

/-- Offers the fields of an object one after another. -/
def throughFields (v : Visitor σ) (maxDepth : Nat) (scope : Nat) (parent? : Option Node) :
    List (String × Json) → Walk σ → Traversal × Walk σ
  | [], w => (.complete, w)
  | (k, x) :: rest, w =>
    match w.offer v k x parent? scope with
    | (.skip, w) => throughFields v maxDepth scope parent? rest w
    | (.enter, w) =>
      match through v maxDepth scope k parent? x w with
      | (.complete, w) => throughFields v maxDepth scope parent? rest w
      | (.tooDeep, w) => (.tooDeep, w)

end

end Walk

/-- Walks through a tree whose root stands in a scope. The root itself is not offered, and has no
parent. -/
def walk {σ : Type} (v : Visitor σ) (maxDepth : Nat) (scope : Nat) (tree : Json) (w : Walk σ) :
    Traversal × Walk σ :=
  w.through v maxDepth scope rootName none tree

end SymbolIndex
