import SymbolIndex.Digest.Sha256
import SymbolIndex.Json.Basic

/-!
# Remembered trees

A bounded memory of trees by the digest of their source. When it is full the tree that was used
longest ago is forgotten.

- `Memo` : the remembered trees, most recently used first
- `Memo.lookup` : a tree, which becomes the most recently used
- `Memo.put` : remembers a tree
- `Memo.holds` : whether the tree of a source is remembered
-/

namespace SymbolIndex

/-- The remembered trees with their digests, most recently used first. -/
structure Memo where
  capacity : Nat
  entries : List (String × Json)
  deriving Inhabited

namespace Memo

def defaultCapacity : Nat := 256

def new (capacity : Nat) : Memo :=
  ⟨capacity, []⟩

def size (m : Memo) : Nat :=
  m.entries.length

def without (key : String) (entries : List (String × Json)) : List (String × Json) :=
  entries.filter (·.1 ≠ key)

/-- The tree of a key, which becomes the most recently used. -/
def lookup (m : Memo) (key : String) : Option (Json × Memo) :=
  (Assoc.find? key m.entries).map fun tree =>
    (tree, { m with entries := (key, tree) :: without key m.entries })

/-- Remembers a tree as the most recently used; the least recently used goes if there are too
many. -/
def put (m : Memo) (key : String) (tree : Json) : Memo :=
  { m with entries := ((key, tree) :: without key m.entries).take m.capacity }

def holds (m : Memo) (source : String) : Bool :=
  (m.lookup (sourceDigest source)).isSome

end Memo
end SymbolIndex
