import SymbolIndex.Walk.Basic

/-!
# Traces of a walk

A visitor that keeps every offer together with the state of the scopes.

- `Plan` : what to skip, and whether import statements are recorded
- `Event` : an offer and what was seen with it
- `Trace` : the events so far
- `Plan.visitor` : the visitor that writes a trace
-/

namespace SymbolIndex

structure Plan where
  /-- Values under these keys are not entered. -/
  skipKeys : List String
  /-- Nodes with these tags are not entered. -/
  skipTags : List String
  /-- Whether import statements are recorded in the scope in which they stand. -/
  recordImports : Bool

/-- An offer with what the visitor saw. -/
structure Event where
  offer : Offer
  /-- The qualified name of the scope of the offer. -/
  scopeName : String
  /-- The number of open scopes. -/
  live : Nat
  /-- The bindings of the import statement that was recorded. -/
  bound : Option (List Binding)

/-- The events so far, newest first. -/
structure Trace where
  events : List Event

namespace Trace

def count (t : Trace) : Nat :=
  t.events.length

/-- The largest number of scopes open at an offer. -/
def maxLive (t : Trace) : Nat :=
  t.events.foldl (fun n e => max n e.live) 0

end Trace

namespace Plan

def verdict (p : Plan) (key : String) (child : Json) : Verdict :=
  let tagged := (child.node?.map fun n => p.skipTags.contains n.tag).getD false
  if p.skipKeys.contains key || tagged then .skip else .enter

def records (p : Plan) (child : Json) : Bool :=
  p.recordImports && (child.node?.map fun n => n.kind == .importStat).getD false

def visitor (p : Plan) : Visitor Trace where
  visit o scopes t :=
    let recorded := p.records o.child
    let scopes := if recorded then scopes.recordImport o.scope o.child else scopes
    let event : Event :=
      { offer := o
        scopeName := scopes.qualifiedName o.scope
        live := scopes.size
        bound := if recorded then some o.child.importBindings else none }
    (p.verdict o.key o.child, scopes, ⟨event :: t.events⟩)

end Plan
end SymbolIndex
