import SymbolIndex.Sorted.Table
import Mathlib.Data.List.Basic
import Mathlib.Data.List.Perm.Basic

/-!
# Sets and tables are known by their members

- `StringSet.eq_of_mem_iff` : sets with the same members are equal
- `mem_of_find?`, `Assoc.find?_of_mem` : what is found and what is listed
- `Assoc.find?_map` : looking up an image
- `Table.eq_of_find?_eq` : tables with the same look-ups are equal
-/

namespace SymbolIndex

/-- Sets with the same members are equal, since both are listed in order. -/
theorem StringSet.eq_of_mem_iff {s t : StringSet} (h : ∀ x, x ∈ s ↔ x ∈ t) : s = t := by
  have hnodup : ∀ u : StringSet, u.toList.Nodup := by
    intro u
    refine u.sorted.imp ?_
    rintro x y hlt rfl
    exact String.lt_irrefl x hlt
  have hperm : s.toList.Perm t.toList :=
    (List.perm_ext_iff_of_nodup (hnodup s) (hnodup t)).2 h
  have hlist : s.toList = t.toList := by
    refine hperm.eq_of_pairwise ?_ s.sorted t.sorted
    intro x y _ _ hxy hyx
    exact absurd (String.lt_trans hxy hyx) (String.lt_irrefl x)
  cases s
  cases t
  cases hlist
  rfl

/-! ## Tables -/

theorem mem_of_find? {β : Type} {key : String} {entries : List (String × β)} {value : β}
    (h : Assoc.find? key entries = some value) : (key, value) ∈ entries := by
  induction entries with
  | nil => cases h
  | cons e rest ih =>
    obtain ⟨k, v⟩ := e
    simp only [Assoc.find?] at h
    split at h
    · rename_i hk
      cases h
      rw [hk]
      exact List.mem_cons_self
    · exact List.mem_cons_of_mem _ (ih h)

/-- Where keys increase, every entry is the first with its key. -/
theorem Assoc.find?_of_mem {β : Type} {entries : List (String × β)}
    (hsorted : (keys entries).Pairwise (· < ·)) {key : String} {value : β}
    (h : (key, value) ∈ entries) : find? key entries = some value := by
  induction entries with
  | nil => cases h
  | cons e rest ih =>
    obtain ⟨k, v⟩ := e
    obtain ⟨hhead, hrest⟩ := List.pairwise_cons.1 hsorted
    rcases List.mem_cons.1 h with heq | h
    · cases heq
      simp [find?]
    · have hlt : k < key := hhead key (List.mem_map.2 ⟨(key, value), h, rfl⟩)
      have hne : k ≠ key := by
        rintro rfl
        exact String.lt_irrefl k hlt
      rw [find?, if_neg hne]
      exact ih hrest h

theorem Assoc.find?_map {β γ : Type} (f : β → γ) (key : String) (entries : List (String × β)) :
    find? key (entries.map fun e => (e.1, f e.2)) = (find? key entries).map f := by
  induction entries with
  | nil => rfl
  | cons e rest ih =>
    obtain ⟨k, v⟩ := e
    by_cases hk : k = key
    · simp [find?, hk]
    · simpa [find?, hk] using ih

/-- Tables with the same look-ups are equal, since both are listed by increasing key. -/
theorem Table.eq_of_find?_eq {β : Type} {t u : Table β} (h : ∀ key, t.find? key = u.find? key) :
    t = u := by
  have hnodup : ∀ t : Table β, t.entries.Nodup := by
    intro t
    refine (List.pairwise_map.1 t.sorted).imp ?_
    rintro e f hlt rfl
    exact String.lt_irrefl e.1 hlt
  have hmem : ∀ {t u : Table β}, (∀ key, t.find? key = u.find? key) → ∀ e ∈ t.entries,
      e ∈ u.entries := by
    intro t u h e he
    have hfind : t.find? e.1 = some e.2 := Assoc.find?_of_mem t.sorted he
    rw [h] at hfind
    exact mem_of_find? hfind
  have hperm : t.entries.Perm u.entries :=
    (List.perm_ext_iff_of_nodup (hnodup t) (hnodup u)).2 fun e =>
      ⟨hmem h e, hmem (fun key => (h key).symm) e⟩
  have hentries : t.entries = u.entries := by
    refine hperm.eq_of_pairwise ?_ (List.pairwise_map.1 t.sorted) (List.pairwise_map.1 u.sorted)
    intro e f _ _ hef hfe
    exact absurd (String.lt_trans hef hfe) (String.lt_irrefl e.1)
  cases t
  cases u
  cases hentries
  rfl

end SymbolIndex
