import SymbolIndex.Proofs.Store.Tree

/-!
# Files by their numbers

- `Store.file_setFile_self`, `Store.file_setFile_of_ne` : one row of the table is set, the others
  stay
- `Store.at?_ne_unused` : a new number is listed nowhere
- `Store.WritesOver` : a file that is written to from its start on, wherever it is listed
-/

namespace SymbolIndex

/-! ## Numbers in a tree -/

namespace Entry

theorem mem_idsIn {entries : List (String × Entry)} {n : String} {e : Entry} {id : Nat}
    (hmem : (n, e) ∈ entries) (hid : id ∈ e.ids) : id ∈ idsIn entries := by
  induction entries with
  | nil => cases hmem
  | cons pair rest ih =>
    rw [idsIn, List.mem_append]
    rcases List.mem_cons.1 hmem with heq | hrest
    · cases heq
      exact Or.inl hid
    · exact Or.inr (ih hrest)

/-- The number of every file in a tree is among the numbers of the tree. -/
theorem mem_ids_of_at? {e : Entry} {ns : List String} {id : Nat} (h : e.at? ns = some (.file id)) :
    id ∈ e.ids := by
  induction ns generalizing e with
  | nil =>
    cases h
    exact List.mem_singleton_self id
  | cons n ns ih =>
    obtain ⟨entries, f, rfl, hfind, hrest⟩ := exists_of_at?_cons h
    exact mem_idsIn (mem_of_find? hfind) (ih hrest)

end Entry

namespace Store

variable {s a b : Store} {id i : Nat} {f : File} {text : List UInt8}

/-! ## The table -/

theorem file_setFile_self (s : Store) (id : Nat) (f : File) : (s.setFile id f).file id = f := by
  simp [setFile, file]

theorem lookup_filter_of_ne (h : i ≠ id) (files : List (Nat × File)) :
    (files.filter (·.1 != id)).lookup i = files.lookup i := by
  induction files with
  | nil => rfl
  | cons row rest ih =>
    obtain ⟨j, f⟩ := row
    by_cases hj : j = id
    · have hi : (i == j) = false := beq_eq_false_iff_ne.2 (hj ▸ h)
      rw [List.filter_cons_of_neg (by simp [hj]), List.lookup_cons, hi, ih]
    · rw [List.filter_cons_of_pos (by simpa using hj), List.lookup_cons, List.lookup_cons, ih]

theorem file_setFile_of_ne (h : i ≠ id) : (s.setFile id f).file i = s.file i := by
  have hi : (i == id) = false := beq_eq_false_iff_ne.2 h
  rw [file, setFile, List.lookup_cons, hi, lookup_filter_of_ne h]
  rfl

/-- A file that is made is not one that is listed already. -/
theorem at?_ne_unused (s : Store) (ns : List String) : s.root.at? ns ≠ some (.file s.unused) := by
  intro h
  have hmem : s.unused ∈ s.root.ids ++ s.files.map Prod.fst :=
    List.mem_append_left _ (Entry.mem_ids_of_at? h)
  have hle : s.unused ≤ (s.root.ids ++ s.files.map Prod.fst).max?.getD 0 :=
    List.le_max?_getD_of_mem hmem
  exact absurd hle (Nat.not_succ_le_self _)

/-! ## Writing -/

/-- A file has been written to from its start on. What it is called, and all other files, are as
before. -/
structure WritesOver (a b : Store) (id : Nat) (text : List UInt8) : Prop where
  root : b.root = a.root
  home : b.home = a.home
  other : ∀ i, i ≠ id → b.file i = a.file i
  self : b.file id = { a.file id with bytes := text ++ (a.file id).bytes.drop text.length }

/-- Writing from the start of a file on touches nothing but that file. -/
theorem writesOver_writeFile (s : Store) (id : Nat) (text : List UInt8) :
    WritesOver s (s.writeFile id 0 text) id text where
  root := rfl
  home := rfl
  other _ h := file_setFile_of_ne h
  self := by
    rw [writeFile, file_setFile_self, overwrite]
    simp

end Store
end SymbolIndex
