import SymbolIndex.Sorted.Set

/-!
# Tables with string keys

Association lists in which a later binding replaces an earlier one of the same key, kept in
increasing order of the keys.

- `Assoc.find?`, `Assoc.insert` : on plain lists of pairs
- `Table` : a list of pairs with strictly increasing keys
- `find?_insert` : what insertion does to look-up
-/

namespace SymbolIndex

/-! ## Lists of pairs -/

namespace Assoc

variable {β : Type}

/-- The value of the first pair with the key. -/
def find? (key : String) : List (String × β) → Option β
  | [] => none
  | (k, v) :: rest => if k = key then some v else find? key rest

/-- Binds the key in a list with increasing keys. -/
def insert (key : String) (value : β) : List (String × β) → List (String × β)
  | [] => [(key, value)]
  | (k, v) :: rest =>
    if key < k then (key, value) :: (k, v) :: rest
    else if key = k then (key, value) :: rest
    else (k, v) :: insert key value rest

def keys (entries : List (String × β)) : List String :=
  entries.map Prod.fst

theorem pairwise_keys_nil : (keys ([] : List (String × β))).Pairwise (· < ·) :=
  List.Pairwise.nil

theorem mem_keys_insert {key x : String} {value : β} {entries : List (String × β)} :
    x ∈ keys (insert key value entries) ↔ x = key ∨ x ∈ keys entries := by
  induction entries with
  | nil => simp [insert, keys]
  | cons e rest ih =>
    obtain ⟨k, v⟩ := e
    simp only [insert]
    split
    · simp [keys]
    · split
      · rename_i h; subst h; simp [keys]
      · simp only [keys, List.map_cons, List.mem_cons] at ih ⊢
        rw [ih]
        constructor
        · rintro (h | h | h) <;> simp [h]
        · rintro (h | h | h) <;> simp [h]

/-- What a list holds after a key has been bound in it. -/
theorem mem_of_mem_insert {key : String} {value : β}
    {entries : List (String × β)} {e : String × β} (h : e ∈ insert key value entries) :
    e = (key, value) ∨ e ∈ entries := by
  induction entries with
  | nil =>
    left
    simpa [insert] using h
  | cons d rest ih =>
    obtain ⟨k, v⟩ := d
    simp only [insert] at h
    split at h
    · exact List.mem_cons.1 h
    · split at h
      · rcases List.mem_cons.1 h with h | h
        · exact Or.inl h
        · exact Or.inr (List.mem_cons_of_mem _ h)
      · rcases List.mem_cons.1 h with rfl | h
        · exact Or.inr List.mem_cons_self
        · rcases ih h with h | h
          · exact Or.inl h
          · exact Or.inr (List.mem_cons_of_mem _ h)

/-- Strictly increasing keys stay so. -/
theorem pairwise_keys_insert {key : String} {value : β} {entries : List (String × β)}
    (h : (keys entries).Pairwise (· < ·)) : (keys (insert key value entries)).Pairwise (· < ·) := by
  induction entries with
  | nil => simp [insert, keys]
  | cons e rest ih =>
    obtain ⟨k, v⟩ := e
    have h' := List.pairwise_cons.1 h
    simp only [insert]
    split
    · rename_i hlt
      refine List.pairwise_cons.2 ⟨?_, h⟩
      intro z hz
      rcases List.mem_cons.1 hz with rfl | hz
      · exact hlt
      · exact String.lt_trans hlt (h'.1 z hz)
    · rename_i hnlt
      split
      · rename_i heq
        subst heq
        exact h
      · rename_i hne
        refine List.pairwise_cons.2 ⟨?_, ih h'.2⟩
        intro z hz
        rcases mem_keys_insert.1 hz with rfl | hz
        · exact lt_of_not_lt_of_ne hnlt hne
        · exact h'.1 z hz

theorem find?_insert {key x : String} {value : β} {entries : List (String × β)} :
    find? x (insert key value entries) = if key = x then some value else find? x entries := by
  induction entries with
  | nil => simp [insert, find?]
  | cons e rest ih =>
    obtain ⟨k, v⟩ := e
    simp only [insert]
    split
    · simp [find?]
    · split
      · rename_i h
        subst h
        by_cases hx : key = x <;> simp [find?, hx]
      · rename_i hne
        by_cases hk : k = x
        · subst hk; simp [find?, hne]
        · simp [find?, hk, ih]

end Assoc

/-! ## The type -/

/-- A finite map from strings. -/
structure Table (β : Type) where
  /-- The pairs in increasing order of their keys. -/
  entries : List (String × β)
  sorted : (Assoc.keys entries).Pairwise (· < ·)

namespace Table

variable {β : Type}

def empty : Table β :=
  ⟨[], Assoc.pairwise_keys_nil⟩

instance : EmptyCollection (Table β) := ⟨empty⟩

instance : Inhabited (Table β) := ⟨empty⟩

def find? (t : Table β) (key : String) : Option β :=
  Assoc.find? key t.entries

/-- Binds the key, in place of an earlier binding of it. -/
def insert (t : Table β) (key : String) (value : β) : Table β :=
  ⟨Assoc.insert key value t.entries, Assoc.pairwise_keys_insert t.sorted⟩

def map {γ : Type} (f : β → γ) (t : Table β) : Table γ :=
  ⟨t.entries.map fun e => (e.1, f e.2), by
    have h : Assoc.keys (t.entries.map fun e => (e.1, f e.2)) = Assoc.keys t.entries := by
      simp [Assoc.keys, Function.comp_def]
    rw [h]
    exact t.sorted⟩

def size (t : Table β) : Nat :=
  t.entries.length

@[simp] theorem find?_empty (key : String) : (∅ : Table β).find? key = none :=
  rfl

@[simp] theorem find?_insert (t : Table β) (key x : String) (value : β) :
    (t.insert key value).find? x = if key = x then some value else t.find? x :=
  Assoc.find?_insert

end Table
end SymbolIndex
