import SymbolIndex.Proofs.Json.RoundTrip
import SymbolIndex.Proofs.Json.Sorted

/-!
# Arranged documents

A document that is read has its fields in the order of their keys, however they were written. This
file says what becomes of the fields of an object, that nothing changes if they stand in order
already, and that a line feed behind a document is not seen:

- `Json.mem_keys_arrangedFields`, `Json.exists_of_mem_arrangedFields` : the fields of an arranged
  object
- `Json.arranged_of_sorted` : sorted documents are arranged
- `Json.readText_append_newline` : a line feed behind a document
-/

namespace SymbolIndex

/-- A key that comes after all others is bound at the end. -/
theorem Assoc.insert_of_forall_lt {β : Type} {key : String} {entries : List (String × β)}
    (h : ∀ k ∈ keys entries, k < key) (value : β) :
    insert key value entries = entries ++ [(key, value)] := by
  induction entries with
  | nil => rfl
  | cons e rest ih =>
    obtain ⟨k, v⟩ := e
    have hlt : k < key := h k List.mem_cons_self
    have hnot : ¬ key < k := fun hgt => String.lt_irrefl k (String.lt_trans hlt hgt)
    have hne : key ≠ k := by
      rintro rfl
      exact String.lt_irrefl key hlt
    have hrest : insert key value rest = rest ++ [(key, value)] :=
      ih fun k' hk' => h k' (List.mem_cons_of_mem k hk')
    simp only [insert, hnot, hne, if_false, hrest, List.cons_append]

namespace Json

/-! ## Arranged fields -/

/-- No key is lost or made up. -/
theorem mem_keys_arrangedFields {fields bound : List (String × Json)} {key : String} :
    key ∈ Assoc.keys (arrangedFields fields bound) ↔
      key ∈ Assoc.keys fields ∨ key ∈ Assoc.keys bound := by
  induction fields generalizing bound with
  | nil => simp [arrangedFields, Assoc.keys]
  | cons e rest ih =>
    obtain ⟨k, x⟩ := e
    rw [arrangedFields, ih, Assoc.mem_keys_insert]
    constructor
    · rintro (hrest | rfl | hbound)
      · exact Or.inl (List.mem_cons_of_mem k hrest)
      · exact Or.inl List.mem_cons_self
      · exact Or.inr hbound
    · rintro (hfields | hbound)
      · rcases List.mem_cons.1 hfields with rfl | hrest
        · exact Or.inr (Or.inl rfl)
        · exact Or.inl hrest
      · exact Or.inr (Or.inr hbound)

/-- What an arranged object holds: fields that it had, their values arranged. -/
theorem exists_of_mem_arrangedFields {fields bound : List (String × Json)} {e : String × Json}
    (h : e ∈ arrangedFields fields bound) :
    (∃ x, (e.1, x) ∈ fields ∧ e.2 = x.arranged) ∨ e ∈ bound := by
  induction fields generalizing bound with
  | nil =>
    right
    simpa only [arrangedFields] using h
  | cons d rest ih =>
    obtain ⟨k, x⟩ := d
    rw [arrangedFields] at h
    rcases ih h with ⟨y, hy, heq⟩ | h
    · exact Or.inl ⟨y, List.mem_cons_of_mem _ hy, heq⟩
    · rcases Assoc.mem_of_mem_insert h with rfl | h
      · exact Or.inl ⟨x, List.mem_cons_self, rfl⟩
      · exact Or.inr h

-- each key comes after those that have been bound, so that it is bound at the end
mutual

/-- A value whose keys increase is arranged already. -/
theorem arranged_of_sorted : ∀ {v : Json}, v.Sorted → v.arranged = v
  | .null, _ | .bool _, _ | .num _, _ | .str _, _ => by simp [arranged]
  | .arr items, h => by
    rw [Sorted] at h
    rw [arranged, arrangedItems_of_sorted h]
  | .obj fields, h => by
    rw [Sorted] at h
    rw [arranged, arrangedFields_of_sorted h.2 [] h.1, List.nil_append]

theorem arrangedItems_of_sorted :
    ∀ {items : List Json}, SortedItems items → arrangedItems items = items
  | [], _ => by rw [arrangedItems]
  | x :: xs, h => by
    rw [SortedItems] at h
    rw [arrangedItems, arranged_of_sorted h.1, arrangedItems_of_sorted h.2]

theorem arrangedFields_of_sorted : ∀ {fields : List (String × Json)}, SortedFields fields →
    ∀ bound, (Assoc.keys (bound ++ fields)).Pairwise (· < ·) →
      arrangedFields fields bound = bound ++ fields
  | [], _, bound, _ => by rw [arrangedFields, List.append_nil]
  | (k, x) :: rest, h, bound, hkeys => by
    rw [SortedFields] at h
    have hassoc : bound ++ (k, x) :: rest = (bound ++ [(k, x)]) ++ rest := by simp
    have hbefore : ∀ k' ∈ Assoc.keys bound, k' < k := by
      intro k' hk'
      rw [Assoc.keys, List.map_append, List.pairwise_append] at hkeys
      exact hkeys.2.2 k' hk' k List.mem_cons_self
    have hinsert : Assoc.insert k x bound = bound ++ [(k, x)] :=
      Assoc.insert_of_forall_lt hbefore x
    rw [hassoc] at hkeys ⊢
    rw [arrangedFields, arranged_of_sorted h.1, hinsert]
    exact arrangedFields_of_sorted h.2 _ hkeys

end

/-! ## A line feed behind a document -/

/-- A number that may end here ends before a line feed. -/
theorem NumberState.step_newline {n : NumberState} {x : Number} (h : n.value = .ok x) :
    n.step 0x0A = .done := by
  cases n with
  | sign | point _ | mark _ | markSign _ _ => cases h
  | _ => rfl

/-- A line feed changes nothing after a document, except that it ends a number. -/
theorem State.step_newline {s : State} {v : Json} (h : s.finish = .ok v) (limit : Option Nat) :
    s.step limit 0x0A = .ok (.done v) := by
  cases s with
  | done w =>
    cases h
    rfl
  | number n frames =>
    cases hvalue : n.value with
    | error cause =>
      rw [finish, hvalue] at h
      cases h
    | ok x =>
      rw [finish, hvalue] at h
      rw [step, NumberState.step_newline hvalue]
      simp only [hvalue]
      -- the number was the whole document, since nothing else was left open
      cases frames with
      | nil =>
        cases h
        rfl
      | cons f frames => cases f <;> cases h
  | _ => cases h

/-- A document followed by a line feed is read as the document. -/
theorem run_append_newline {limit : Option Nat} {s : State} {bytes : List UInt8} {v : Json}
    (h : run limit s bytes = .ok v) : run limit s (bytes ++ [0x0A]) = .ok v := by
  induction bytes generalizing s with
  | nil =>
    rw [run] at h
    split at h
    · rename_i w hfinish
      cases h
      rw [List.nil_append, run, State.step_newline hfinish limit]
      rfl
    · cases h
  | cons b bytes ih =>
    rw [run] at h
    rw [List.cons_append, run]
    split at h
    · exact ih h
    · cases h

/-- A text that can be read is read in the same way with a line feed behind it. -/
theorem readText_append_newline {limit : Option Nat} {text : String} {v : Json}
    (h : readText limit text = .ok v) : readText limit (text ++ "\n") = .ok v := by
  have hbytes : Utf8.encode (text ++ "\n") = Utf8.encode text ++ [0x0A] := by
    rw [Utf8.encode_eq, Utf8.encode_eq, String.toList_append, Utf8.bytes_append]
    rfl
  unfold readText read at h ⊢
  split at h
  · rename_i w hrun
    cases h
    rw [hbytes, run_append_newline hrun]
  · cases h

end Json
end SymbolIndex
