import SymbolIndex.Proofs.Outline.Declarations

/-!
# The supertypes along the spine

- `SpineSite.writes` : the supertypes that a value on the spine adds under a key
- `SpineSite.DeclaresAs` : a value on the spine is a class, trait or object with a qualified name
- `Heritage.get?_record` : what one declaration changes
- `Outline.get?_foldl_note` : the supertypes under a key after a run of notes
- `Heritage.get?_resolve` : the supertypes under a key, resolved
-/

namespace SymbolIndex

/-- The list, unless it is empty. -/
def nonempty? {α : Type} (xs : List α) : Option (List α) :=
  if xs = [] then none else some xs

theorem getD_nonempty? {α : Type} (xs : List α) : (nonempty? xs).getD [] = xs := by
  unfold nonempty?
  split
  · rename_i h
    rw [h]
    rfl
  · rfl

theorem isSome_nonempty? {α : Type} {xs : List α} : (nonempty? xs).isSome = true ↔ xs ≠ [] := by
  cases xs with
  | nil => simp [nonempty?]
  | cons x xs => simp [nonempty?]

theorem eq_of_nonempty?_eq_some {α : Type} {xs ys : List α} (h : nonempty? xs = some ys) :
    xs = ys := by
  have hget := getD_nonempty? xs
  rw [h] at hget
  exact hget.symm

theorem map_map_nonempty? {α β : Type} (f : α → β) (xs : List α) :
    (nonempty? xs).map (List.map f) = nonempty? (xs.map f) := by
  cases xs with
  | nil => rfl
  | cons x xs => simp [nonempty?]

/-- A key tells the kind and the qualified name: words for kinds have no blank in them. -/
theorem DeclKind.key_injective {kind kind' : DeclKind} {q q' : String}
    (h : kind.key q = kind'.key q') : kind = kind' ∧ q = q' := by
  have hchars : kind.word.toList ++ ' ' :: q.toList = kind'.word.toList ++ ' ' :: q'.toList := by
    simpa [key, String.toList_append] using congrArg String.toList h
  cases kind <;> cases kind' <;> simp_all [word, String.toList_inj]

namespace Heritage

/-- A declaration adds its supertypes under its own key and nowhere else. -/
theorem get?_record {h : Heritage} {key : String} {written : List String}
    (hwritten : h.get? key = nonempty? written) (kind : DeclKind) (qualified : String)
    (node : Node) :
    (h.record kind qualified node).get? key =
      nonempty? (written ++ if kind.key qualified = key then node.supertypes else []) := by
  cases hnames : node.supertypes with
  | nil => simp [record, hnames, hwritten]
  | cons name names =>
    by_cases hkey : kind.key qualified = key
    · have hlisted : (h.get? key).getD [] = written := by rw [hwritten, getD_nonempty?]
      have hother : written ++ name :: names ≠ [] := by simp
      simp only [get?] at hlisted
      simp [record, hnames, get?, hkey, hlisted, nonempty?, hother]
    · simpa [record, hnames, get?, hkey] using hwritten

/-- Resolving changes supertypes and not keys. -/
theorem get?_resolve (h : Heritage) (scopes : Arena) (scope : Nat) (key : String) :
    (h.resolve scopes scope).get? key =
      (h.get? key).map fun names => names.map (scopes.resolve scope) :=
  Assoc.find?_map _ key h.entries.entries

end Heritage

/-- The supertypes that a value on the spine adds under a key, as written: those of a class, trait
or object that has a name and is known by that key. -/
def SpineSite.writes (key : String) (b : SpineSite) : List String :=
  match b.site.value.node? with
  | none => []
  | some node =>
    match node.declKind?, node.name? "name" with
    | some kind, some name =>
      if kind.key (".".intercalate (b.packages ++ [name])) = key then node.supertypes else []
    | _, _ => []

namespace SpineSite

/-- A value on the spine is a class, trait or object with a qualified name. -/
def DeclaresAs (b : SpineSite) (kind : DeclKind) (qualified : String) : Prop :=
  ∃ node name, b.site.value.node? = some node ∧ node.declKind? = some kind ∧
    node.name? "name" = some name ∧ qualified = ".".intercalate (b.packages ++ [name])

/-- Only declarations write supertypes. -/
theorem exists_declaresAs_of_writes {b : SpineSite} {key : String} (h : b.writes key ≠ []) :
    ∃ kind qualified, b.DeclaresAs kind qualified ∧ kind.key qualified = key := by
  unfold writes at h
  split at h
  · exact absurd rfl h
  · rename_i node hnode
    split at h
    · rename_i kind name hkind hname
      split at h
      · rename_i hkey
        exact ⟨kind, _, ⟨node, name, hnode, hkind, hname, rfl⟩, hkey⟩
      · exact absurd rfl h
    · exact absurd rfl h

end SpineSite

namespace Outline

/-- One more value on the spine adds its supertypes behind those that are there. -/
theorem get?_note {o : Outline} {key : String} {written : List String}
    (hwritten : o.heritage.get? key = nonempty? written) (scope : Nat) (b : SpineSite) :
    (o.note scope b).heritage.get? key = nonempty? (written ++ b.writes key) := by
  unfold note SpineSite.writes
  cases b.site.value.node? with
  | none => simpa using hwritten
  | some node =>
    simp only [noteNode, Node.inherit]
    cases node.declKind? with
    | none => simpa using hwritten
    | some kind =>
      cases node.name? "name" with
      | none => simpa using hwritten
      | some name => exact Heritage.get?_record hwritten kind _ node

/-- What a run of notes adds under a key, in order. -/
theorem get?_foldl_note {bs : List SpineSite} {o : Outline} {key : String} {written : List String}
    (hwritten : o.heritage.get? key = nonempty? written) (scope : Nat) :
    (bs.foldl (note scope) o).heritage.get? key =
      nonempty? (written ++ bs.flatMap (SpineSite.writes key)) := by
  induction bs generalizing o written with
  | nil => simpa using hwritten
  | cons b bs ih =>
    rw [List.foldl_cons, ih (get?_note hwritten scope b), List.flatMap_cons, List.append_assoc]

end Outline
end SymbolIndex
