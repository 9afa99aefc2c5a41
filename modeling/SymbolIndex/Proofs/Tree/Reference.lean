import SymbolIndex.Proofs.Outline.Spine
import SymbolIndex.Proofs.Scope.Root

/-!
# Nodes and references

- `Json.node?_eq_some_iff` : which node a value is
- `Node.reference?`, `Json.name?_eq` : the name of a reference, by the parts of its node
- `Json.name?_ne_empty` : no reference has an empty name
- `Json.treeError?_eq_none_iff` : which trees do not stand for a failed parse
-/

namespace SymbolIndex

namespace Json

/-- A node is an object with a tag that is not empty. -/
theorem node?_eq_some_iff {v : Json} {node : Node} :
    v.node? = some node ↔ v = .obj node.fields ∧
      (Assoc.find? "type" node.fields).bind asString? = some node.tag ∧ node.tag ≠ "" := by
  constructor
  · intro h
    have hvalue : v = .obj node.fields := (toJson_of_node? h).symm
    refine ⟨hvalue, ?_⟩
    rw [hvalue, node?] at h
    split at h
    · rename_i tag hfind
      split at h
      · cases h
      · rename_i hempty
        have htag : node.tag = tag := by rw [← Option.some.inj h]
        rw [hfind, htag]
        exact ⟨rfl, hempty⟩
    · cases h
  · rintro ⟨rfl, htag, hempty⟩
    cases hfind : Assoc.find? "type" node.fields with
    | none => simp [hfind] at htag
    | some t =>
      cases t with
      | str tag =>
        simp only [hfind, Option.bind_some, asString?, Option.some.injEq] at htag
        simp [node?, hfind, htag, hempty]
      | _ => simp [hfind, asString?] at htag

theorem treeError?_eq_none_iff {v : Json} :
    v.treeError? = none ↔ ∀ x, v.get? "error" = some x → x.isNull = true := by
  unfold treeError?
  cases v.get? "error" with
  | none => simp
  | some x => cases x <;> simp [isNull]

end Json

/-- The dotted name of a node that is a reference. -/
def Node.reference? (node : Node) : Option String :=
  match node.kind with
  | .typeName | .termName => node.value?
  | .typeApply => node.name? "tpe"
  | .termParam => node.name? "decltpe"
  | .typeSelect | .termSelect => selectName (node.name? "qual") (node.name? "name")
  | _ => none

theorem nameAt_fields (node : Node) (key : String) : nameAt key node.fields = node.name? key := by
  have hfind : ∀ fields : List (String × Json),
      nameAt key fields = (Assoc.find? key fields).bind Json.name? := by
    intro fields
    induction fields with
    | nil => simp [nameAt, Assoc.find?]
    | cons e rest ih =>
      obtain ⟨k, v⟩ := e
      rw [nameAt, Assoc.find?]
      split
      · rfl
      · exact ih
  rw [hfind, Node.name?, Node.field?]
  cases Assoc.find? key node.fields with
  | none => rfl
  | some v =>
    cases v with
    | null => simp [Option.filter, Json.isNull, Json.name?]
    | _ => rfl

/-- Only nodes have names. -/
theorem Json.name?_eq (v : Json) : v.name? = v.node?.bind Node.reference? := by
  cases v with
  | obj fields =>
    rw [name?]
    cases hnode : (obj fields).node? with
    | none => rfl
    | some node =>
      obtain ⟨hvalue, -⟩ := node?_eq_some_iff.1 hnode
      injection hvalue with hfields
      simp only [Option.bind_some, Node.reference?, hfields]
      cases node.kind <;> simp only [nameAt_fields]
  | _ => simp [name?, node?]

/-- No reference has an empty name: names are not empty, and a selection has a dot in it. -/
theorem Json.name?_ne_empty {v : Json} {s : String} (h : v.name? = some s) : s ≠ "" := by
  rw [Json.name?_eq] at h
  rcases Option.bind_eq_some_iff.1 h with ⟨node, hnode, href⟩
  have hfield : ∀ {name : String}, node.name? name = some s → s ≠ "" := by
    intro name hname
    rcases Option.bind_eq_some_iff.1 hname with ⟨x, hx, hxs⟩
    have _hlt : sizeOf x < sizeOf v := Site.sizeOf_lt_of_holds (Node.holds_of_field? hnode hx)
    exact Json.name?_ne_empty hxs
  have hselect : ∀ {q n : Option String}, selectName q n = some s → s ≠ "" := by
    rintro q n hs rfl
    unfold selectName at hs
    split at hs
    · cases hs
    · have hchars := congrArg String.toList (Option.some.inj hs)
      simp at hchars
  unfold Node.reference? at href
  split at href
  · exact Node.value?_ne_empty href
  · exact Node.value?_ne_empty href
  · exact hfield href
  · exact hfield href
  · exact hselect href
  · exact hselect href
  · cases href
termination_by sizeOf v

end SymbolIndex
