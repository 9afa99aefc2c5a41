import SymbolIndex.Proofs.Json.Advance

/-!
# Values with sorted keys

The fields of an object are listed in the order in which they were put there. This file defines the
values all of whose objects list them by strictly increasing key, and shows that every document that
is read is such a value:

- `Json.Sorted` : at every depth, keys increase strictly
- `Json.sorted_arr_iff`, `Json.sorted_obj_iff` : what that says of the parts
- `Json.State.Sorted` : what the reading machine keeps between two bytes
- `Json.sorted_of_read` : documents that are read are sorted
-/

namespace SymbolIndex

namespace Json

/-! ## The predicate -/

mutual

/-- Every object in the value lists its fields by strictly increasing key. -/
def Sorted : Json → Prop
  | .arr items => SortedItems items
  | .obj fields => (Assoc.keys fields).Pairwise (· < ·) ∧ SortedFields fields
  | _ => True

def SortedItems : List Json → Prop
  | [] => True
  | x :: xs => x.Sorted ∧ SortedItems xs

def SortedFields : List (String × Json) → Prop
  | [] => True
  | (_, x) :: rest => x.Sorted ∧ SortedFields rest

end

mutual

def decideSorted : (v : Json) → Decidable v.Sorted
  | .null | .bool _ | .num _ | .str _ => .isTrue trivial
  | .arr items => decideSortedItems items
  | .obj fields =>
    have := decideSortedFields fields
    inferInstanceAs (Decidable ((Assoc.keys fields).Pairwise (· < ·) ∧ SortedFields fields))

def decideSortedItems : (items : List Json) → Decidable (SortedItems items)
  | [] => .isTrue trivial
  | x :: xs =>
    have := decideSorted x
    have := decideSortedItems xs
    inferInstanceAs (Decidable (x.Sorted ∧ SortedItems xs))

def decideSortedFields : (fields : List (String × Json)) → Decidable (SortedFields fields)
  | [] => .isTrue trivial
  | (_, x) :: rest =>
    have := decideSorted x
    have := decideSortedFields rest
    inferInstanceAs (Decidable (x.Sorted ∧ SortedFields rest))

end

instance : DecidablePred Sorted := decideSorted

theorem sortedItems_iff {items : List Json} : SortedItems items ↔ ∀ x ∈ items, x.Sorted := by
  induction items with
  | nil => simp [SortedItems]
  | cons x xs ih => simp [SortedItems, ih]

theorem sortedFields_iff {fields : List (String × Json)} :
    SortedFields fields ↔ ∀ e ∈ fields, e.2.Sorted := by
  induction fields with
  | nil => simp [SortedFields]
  | cons e rest ih => simp [SortedFields, ih]

@[simp] theorem sorted_arr_iff {items : List Json} :
    (Json.arr items).Sorted ↔ ∀ x ∈ items, x.Sorted := by
  rw [Sorted, sortedItems_iff]

@[simp] theorem sorted_obj_iff {fields : List (String × Json)} :
    (Json.obj fields).Sorted ↔
      (Assoc.keys fields).Pairwise (· < ·) ∧ ∀ e ∈ fields, e.2.Sorted := by
  rw [Sorted, sortedFields_iff]

@[simp] theorem sorted_null : Json.null.Sorted := by simp [Sorted]

@[simp] theorem sorted_bool (b : Bool) : (Json.bool b).Sorted := by simp [Sorted]

@[simp] theorem sorted_num (n : Number) : (Json.num n).Sorted := by simp [Sorted]

@[simp] theorem sorted_str (s : String) : (Json.str s).Sorted := by simp [Sorted]

/-- Binding a key in an object keeps it sorted. -/
theorem Sorted.insert {fields : List (String × Json)} {key : String} {v : Json}
    (h : (Json.obj fields).Sorted) (hv : v.Sorted) :
    (Json.obj (Assoc.insert key v fields)).Sorted := by
  rw [sorted_obj_iff] at h ⊢
  refine ⟨Assoc.pairwise_keys_insert h.1, ?_⟩
  intro e he
  rcases Assoc.mem_of_mem_insert he with rfl | he
  · exact hv
  · exact h.2 e he

/-! ## What the reading machine keeps -/

/-- What an open array or object holds so far is sorted. -/
def Frame.Sorted : Frame → Prop
  | .item items => (Json.arr items).Sorted
  | .member fields _ => (Json.obj fields).Sorted

/-- Everything the machine has built so far is sorted. -/
def State.Sorted : State → Prop
  | .value frames | .text _ frames | .number _ frames => ∀ f ∈ frames, f.Sorted
  | .word _ meaning frames => meaning.Sorted ∧ ∀ f ∈ frames, f.Sorted
  | .item _ items frames | .afterItem items frames =>
    (Json.arr items).Sorted ∧ ∀ f ∈ frames, f.Sorted
  | .member _ fields frames | .keyText _ fields frames | .colon _ fields frames
  | .afterMember fields frames => (Json.obj fields).Sorted ∧ ∀ f ∈ frames, f.Sorted
  | .done v => v.Sorted

namespace State

/-- A sorted value can be put where values are kept sorted. -/
theorem sorted_deliver {v : Json} {frames : List Frame} (hv : v.Sorted)
    (hf : ∀ f ∈ frames, f.Sorted) : (deliver v frames).Sorted := by
  cases frames with
  | nil => exact hv
  | cons f frames =>
    have hhead : f.Sorted := hf f List.mem_cons_self
    have htail : ∀ g ∈ frames, g.Sorted := fun g hg => hf g (List.mem_cons_of_mem f hg)
    cases f with
    | item items =>
      refine ⟨?_, htail⟩
      rw [sorted_arr_iff]
      intro x hx
      rcases List.mem_cons.1 hx with rfl | hx
      · exact hv
      · exact sorted_arr_iff.1 hhead x hx
    | member fields key => exact ⟨Json.Sorted.insert hhead hv, htail⟩

theorem Starts.sorted {limit : Option Nat} {b : UInt8} {frames : List Frame} {t : State}
    (h : Starts limit frames b t) (hf : ∀ f ∈ frames, f.Sorted) : t.Sorted := by
  -- what is opened holds nothing yet
  cases h with
  | text | minus | zero hdigit | whole hdigit hd => exact hf
  | list hroom => exact ⟨by simp, hf⟩
  | object hroom => exact ⟨by simp [Assoc.keys], hf⟩
  | yes | no | null => exact ⟨by simp, hf⟩

theorem sorted_reverse {items : List Json} (h : (Json.arr items).Sorted) :
    (Json.arr items.reverse).Sorted := by
  rw [sorted_arr_iff] at h ⊢
  intro x hx
  exact h x (List.mem_reverse.1 hx)

/-- No rule breaks the order: an object gets its fields one by one, each where it belongs. -/
theorem sorted_advance {limit : Option Nat} {b : UInt8} {s t : State} (hs : s.Sorted)
    (h : advance limit b s = .ok t) : t.Sorted := by
  cases advance_eq_ok_iff.1 h with
  | blank | number => exact hs
  | value hstart => exact hstart.sorted hs
  | item hstart => exact hstart.sorted (List.forall_mem_cons.2 hs)
  | noItem | listEnd => exact sorted_deliver (sorted_reverse hs.1) hs.2
  | noMember | objectEnd => exact sorted_deliver hs.1 hs.2
  | nextItem | key | keyText | keyEnd | nextMember => exact hs
  | colon => exact List.forall_mem_cons.2 hs
  | noLetter | lastLetter => exact sorted_deliver hs.1 hs.2
  | letter => exact hs
  | text => exact hs
  | textEnd => exact sorted_deliver (sorted_str _) hs

/-- One byte keeps what has been built sorted. -/
theorem sorted_step {limit : Option Nat} {b : UInt8} {s t : State} (hs : s.Sorted)
    (h : step limit b s = .ok t) : t.Sorted := by
  unfold step at h
  split at h
  · rename_i n frames
    split at h
    · cases h
      exact hs
    · cases h
    · split at h
      · exact sorted_advance (sorted_deliver (sorted_num _) hs) h
      · cases h
  · exact sorted_advance hs h

theorem sorted_close {s : State} {v : Json} (hs : s.Sorted) (h : close s = .ok v) : v.Sorted := by
  cases s with
  | done w =>
    cases h
    exact hs
  | _ => cases h

/-- What is complete at the end is sorted. -/
theorem sorted_finish {s : State} {v : Json} (hs : s.Sorted) (h : finish s = .ok v) :
    v.Sorted := by
  unfold finish at h
  split at h
  · rename_i n frames
    cases hn : n.value with
    | error e =>
      rw [hn] at h
      cases h
    | ok m =>
      rw [hn] at h
      exact sorted_close (sorted_deliver (sorted_num m) hs) h
  · exact sorted_close hs h

end State

/-! ## Documents -/

/-- A run that starts with sorted parts ends with a sorted document. -/
theorem sorted_of_run {limit : Option Nat} {s : State} {bytes : List UInt8} {v : Json}
    (hs : s.Sorted) (h : run limit s bytes = .ok v) : v.Sorted := by
  induction bytes generalizing s with
  | nil =>
    simp only [run] at h
    split at h
    · rename_i w hw
      cases h
      exact State.sorted_finish hs hw
    · cases h
  | cons b rest ih =>
    simp only [run] at h
    split at h
    · rename_i t ht
      exact ih (State.sorted_step hs ht) h
    · cases h

/-- Every document that is read lists the fields of its objects by strictly increasing key. -/
theorem sorted_of_read {limit : Option Nat} {bytes : List UInt8} {v : Json}
    (h : read limit bytes = .ok v) : v.Sorted := by
  unfold read at h
  split at h
  · rename_i w hw
    cases h
    refine sorted_of_run ?_ hw
    intro f hf
    cases hf
  · cases h

end Json
end SymbolIndex
