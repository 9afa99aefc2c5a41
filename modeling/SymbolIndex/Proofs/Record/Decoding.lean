import SymbolIndex.Proofs.Json.Arranged
import SymbolIndex.Proofs.Record.Written
import SymbolIndex.Record.Decode

/-!
# Decoding what has been written

A record is written as an object that leaves out what is empty, and the fields of that object are
sorted when it is read. Neither makes a difference to decoding:

- `Json.SameFields` : the same fields in another order
- `Decode.Copies` : a record can be put together field by field, in any order
- `Decode.record_eq_ok` : a record is decoded if each field that is there is decoded and each other
  field is empty
- `Decode.Survives` : decoding gives a record back, from its document and from its text
- `Decode.survives_of_sameFields` : the order of fields being of no importance is enough for that
-/

namespace SymbolIndex

theorem Table.eq_of_entries_eq {β : Type} {t u : Table β} (h : t.entries = u.entries) : t = u := by
  cases t
  cases u
  cases h
  rfl

namespace Json

/-! ## Fields in another order -/

/-- The same fields in whatever order, each as it stands or arranged. -/
structure SameFields (fields entries : List (String × Json)) : Prop where
  keys : ∀ key, key ∈ Assoc.keys entries ↔ key ∈ Assoc.keys fields
  values : ∀ e ∈ entries, ∃ x, (e.1, x) ∈ fields ∧ (e.2 = x ∨ e.2 = x.arranged)

theorem sameFields_self (fields : List (String × Json)) : SameFields fields fields where
  keys _ := Iff.rfl
  values e he := ⟨e.2, he, Or.inl rfl⟩

/-- Sorting the fields of an object keeps them the same. -/
theorem sameFields_arrangedFields (fields : List (String × Json)) :
    SameFields fields (arrangedFields fields []) where
  keys key := by
    rw [mem_keys_arrangedFields]
    simp [Assoc.keys]
  values e he := by
    rcases exists_of_mem_arrangedFields he with ⟨x, hx, heq⟩ | hnone
    · exact ⟨x, hx, Or.inr heq⟩
    · cases hnone

theorem arrangedItems_map {α : Type} (f : α → Json) (xs : List α) :
    arrangedItems (xs.map f) = xs.map fun x => (f x).arranged := by
  induction xs with
  | nil => simp [arrangedItems]
  | cons x xs ih => simp [arrangedItems, ih]

theorem depthItems_le_iff {items : List Json} {n : Nat} :
    depthItems items ≤ n ↔ ∀ x ∈ items, x.depth ≤ n := by
  induction items with
  | nil => simp [depthItems]
  | cons x xs ih => simp [depthItems, ih]

theorem depthFields_le_iff {fields : List (String × Json)} {n : Nat} :
    depthFields fields ≤ n ↔ ∀ e ∈ fields, e.2.depth ≤ n := by
  induction fields with
  | nil => simp [depthFields]
  | cons e rest ih => simp [depthFields, ih]

theorem sorted_strings (xs : List String) : (strings xs).Sorted := by
  rw [strings, sorted_arr_iff]
  intro x hx
  obtain ⟨s, -, rfl⟩ := List.mem_map.1 hx
  exact sorted_str s

theorem depth_strings (xs : List String) : (strings xs).depth = 1 := by
  have hitems : depthItems (xs.map .str) ≤ 0 := by
    rw [depthItems_le_iff]
    intro x hx
    obtain ⟨s, -, rfl⟩ := List.mem_map.1 hx
    simp [depth]
  rw [strings, depth]
  omega

/-- Reading an answer that has been written gives its document back, arranged. -/
theorem readText_emit {v : Json} (hv : v.Integral) (pretty : Bool) {n : Nat}
    (hdepth : v.depth ≤ n) :
    readText (some n) (emit pretty v) = .ok v.arranged := by
  apply readText_append_newline
  apply readText_render hv
  intro m hm
  cases hm
  exact hdepth

end Json

namespace Decode

/-! ## Lists and tables -/

/-- A list that is written element by element is read back if its elements are. -/
theorem list_map {α : Type} {item : Decode α} {write : α → Json} {xs : List α}
    (h : ∀ x ∈ xs, item (write x) = .ok x) : list item (.arr (xs.map write)) = .ok xs := by
  show (xs.map write).mapM item = .ok xs
  induction xs with
  | nil => rfl
  | cons x xs ih =>
    have hrest := ih fun y hy => h y (List.mem_cons_of_mem x hy)
    rw [List.map_cons, List.mapM_cons, h x List.mem_cons_self, hrest]
    rfl

theorem list_strings (xs : List String) : list text (.strings xs) = .ok xs :=
  list_map fun _ _ => rfl

/-- A table that is written entry by entry is read back if its values are. -/
theorem table_entries {α : Type} {item : Decode α} {write : α → Json}
    (h : ∀ x, item (write x) = .ok x) (t : Table α) :
    table item (.obj (t.entries.map fun e => (e.1, write e.2))) = .ok t := by
  -- keys increase, so that each entry is bound behind those before it
  have hrun : ∀ (rest : List (String × α)) (bound : Table α),
      (Assoc.keys (bound.entries ++ rest)).Pairwise (· < ·) →
      ∃ u, (rest.map fun e => (e.1, write e.2)).foldlM
          (fun t e => (item e.2).map (t.insert e.1)) bound = .ok u ∧
        u.entries = bound.entries ++ rest := by
    intro rest
    induction rest with
    | nil =>
      intro bound _
      exact ⟨bound, rfl, by rw [List.append_nil]⟩
    | cons e rest ih =>
      intro bound hkeys
      have hassoc : bound.entries ++ e :: rest = (bound.entries ++ [e]) ++ rest := by simp
      have hbefore : ∀ k ∈ Assoc.keys bound.entries, k < e.1 := by
        intro k hk
        rw [Assoc.keys, List.map_append, List.pairwise_append] at hkeys
        exact hkeys.2.2 k hk e.1 List.mem_cons_self
      have hinsert : (bound.insert e.1 e.2).entries = bound.entries ++ [e] :=
        Assoc.insert_of_forall_lt hbefore e.2
      rw [hassoc, ← hinsert] at hkeys
      obtain ⟨u, hu, hentries⟩ := ih (bound.insert e.1 e.2) hkeys
      refine ⟨u, ?_, ?_⟩
      · rw [List.map_cons, List.foldlM_cons, h]
        exact hu
      · rw [hentries, hinsert, hassoc]
  obtain ⟨u, hu, hentries⟩ := hrun t.entries ∅ t.sorted
  have heq : u = t := Table.eq_of_entries_eq hentries
  rw [heq] at hu
  exact hu

/-! ## Records -/

/-- What lets a record be put together field by field: `copy b a f` is `b` with the field `f` of
`a`. -/
structure Copies {α : Type} (fields : List String) (copy : α → α → String → α) : Prop where
  again : ∀ b a f, copy (copy b a f) a f = copy b a f
  swap : ∀ b a f g, copy (copy b a f) a g = copy (copy b a g) a f
  /-- A record that has all fields of another one is that one. -/
  complete : ∀ b a, (∀ f ∈ fields, copy b a f = b) → b = a

-- the two facts about a single field from which a copy of all of them has its laws

theorem ite_again {β : Type} (x y : β) (f key : String) :
    (if f = key then x else if f = key then x else y) = if f = key then x else y := by
  split <;> rfl

theorem ite_swap {β : Type} (x y : β) (f g key : String) :
    (if g = key then x else if f = key then x else y) =
      if f = key then x else if g = key then x else y := by
  split
  · exact (ite_self x).symm
  · rfl

section Record

variable {α : Type} {shape : Shape α} {copy : α → α → String → α} {a : α}

-- The invariant of the run is which fields are those of the record, `copy c a f = c`. A step adds
-- its own field to them and, as copies can be swapped, takes none away.
/-- Fields put in one by one give a record that agrees on all of them. -/
theorem exists_foldlM_put (hcopy : Copies shape.fields copy) {entries : List (String × Json)}
    (hput : ∀ e ∈ entries, e.1 ∈ shape.fields ∧ ∀ b, shape.put b e.1 e.2 = .ok (copy b a e.1))
    (b : α) :
    ∃ c, entries.foldlM
        (fun a e => if shape.fields.contains e.1 then shape.put a e.1 e.2 else .ok a) b = .ok c ∧
      ∀ f, f ∈ Assoc.keys entries ∨ copy b a f = b → copy c a f = c := by
  induction entries generalizing b with
  | nil =>
    refine ⟨b, rfl, ?_⟩
    rintro f (hgiven | hright)
    · cases hgiven
    · exact hright
  | cons e rest ih =>
    obtain ⟨hknown, hstep⟩ := hput e List.mem_cons_self
    obtain ⟨c, hc, hfields⟩ :=
      ih (fun e' he' => hput e' (List.mem_cons_of_mem e he')) (copy b a e.1)
    refine ⟨c, ?_, ?_⟩
    · rw [List.foldlM_cons, if_pos (List.contains_iff_mem.2 hknown), hstep]
      exact hc
    · rintro f (hgiven | hright)
      · rcases List.mem_cons.1 hgiven with rfl | hlater
        · exact hfields e.1 (Or.inr (hcopy.again b a e.1))
        · exact hfields f (Or.inl hlater)
      · apply hfields f
        right
        rw [hcopy.swap, hright]

/-- A record is decoded from an object if each entry of the object gives a field of the record, and
the fields that are missing are those of the record to start with. -/
theorem record_eq_ok (hcopy : Copies shape.fields copy) {entries : List (String × Json)}
    (hput : ∀ e ∈ entries, e.1 ∈ shape.fields ∧ ∀ b, shape.put b e.1 e.2 = .ok (copy b a e.1))
    (hstart : ∀ f ∈ shape.fields, f ∉ Assoc.keys entries → copy shape.start a f = shape.start)
    (hrequired : ∀ f ∈ shape.fields.take shape.required, f ∈ Assoc.keys entries) :
    record shape (.obj entries) = .ok a := by
  obtain ⟨c, hc, hfields⟩ := exists_foldlM_put hcopy hput shape.start
  have heq : c = a := by
    apply hcopy.complete
    intro f hf
    by_cases hgiven : f ∈ Assoc.keys entries
    · exact hfields f (Or.inl hgiven)
    · exact hfields f (Or.inr (hstart f hf hgiven))
  have hnone : (shape.fields.take shape.required).find?
      (fun f => !(Assoc.keys entries).contains f) = none := by
    rw [List.find?_eq_none]
    intro f hf
    simpa using hrequired f hf
  simp only [record, hc, heq, hnone]
  rfl

end Record

/-! ## Documents and texts -/

/-- A record survives in a document: decoding gives it back, from the document with its fields in
the order in which they are written, and from what is read of the text of the document in either
layout. -/
structure Survives {α : Type} (decode : Decode α) (v : Json) (a : α) : Prop where
  document : decode v = .ok a
  text : ∀ pretty, ∃ w, Json.readText (some Request.maxNesting) (emit pretty v) = .ok w ∧
    decode w = .ok a

/-- A record survives if it is decoded from its fields in whatever order. -/
theorem survives_of_sameFields {α : Type} {decode : Decode α} {a : α}
    {fields : List (String × Json)}
    (hdecode : ∀ entries, Json.SameFields fields entries → decode (.obj entries) = .ok a)
    (hintegral : (Json.obj fields).Integral)
    (hdepth : (Json.obj fields).depth ≤ Request.maxNesting) :
    Survives decode (.obj fields) a where
  document := hdecode fields (Json.sameFields_self fields)
  text pretty := by
    refine ⟨_, Json.readText_emit hintegral pretty hdepth, ?_⟩
    rw [Json.arranged]
    exact hdecode _ (Json.sameFields_arrangedFields fields)

end Decode
end SymbolIndex
