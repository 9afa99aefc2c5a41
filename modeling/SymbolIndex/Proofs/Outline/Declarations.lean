import SymbolIndex.Proofs.Outline.Run
import Mathlib.Data.List.TakeWhile

/-!
# The declarations of a tree

The tables of an outline, in terms of the spine alone:

- `Node.Declares` : the names that a node declares, by table
- `Outline.mem_tables_foldl_note` : what a run of notes adds to the tables
- `Outline.mem_tables_iff` : the tables after a visit hold exactly what the nodes on the spine
  declare, qualified by the packages around them
-/

namespace SymbolIndex

/-- The local names that a node declares, by table. A package object is both an object and a
package, and a value definition counts if its first pattern is a variable. -/
def Node.Declares (node : Node) (name : String) : Tables.Part → Prop
  | .packages => (node.kind = .pkg ∧ node.name? "ref" = some name) ∨
      (node.kind = .pkgObject ∧ node.name? "name" = some name)
  | .classes => node.kind = .defnClass ∧ node.name? "name" = some name
  | .traits => node.kind = .defnTrait ∧ node.name? "name" = some name
  | .objects => (node.kind = .defnObject ∨ node.kind = .pkgObject) ∧ node.name? "name" = some name
  | .vals => node.kind = .defnVal ∧ ∃ pattern pat, (node.seq "pats").head? = some pattern ∧
      pattern.node? = some pat ∧ pat.kind = .patVar ∧ pat.name? "name" = some name
  | .types => node.kind = .defnType ∧ node.name? "name" = some name

/-- A value definition has the name of its first pattern, if that is a variable. -/
theorem Node.valName?_eq_some_iff {node : Node} {name : String} :
    node.valName? = some name ↔ ∃ pattern pat, (node.seq "pats").head? = some pattern ∧
      pattern.node? = some pat ∧ pat.kind = .patVar ∧
        pat.name? "name" = some name := by
  unfold Node.valName?
  constructor
  · intro h
    split at h
    · cases h
    · rename_i pat hpat
      obtain ⟨pattern, hpattern, hnode⟩ := Option.bind_eq_some_iff.1 hpat
      split at h
      · rename_i hkind
        exact ⟨pattern, pat, hpattern, hnode, hkind, h⟩
      · cases h
  · rintro ⟨pattern, pat, hpattern, hnode, hkind, hname⟩
    simp [hpattern, hnode, hkind, hname]

/-- What a node declares, by the table in which it is entered. -/
theorem Node.mem_declared_iff {node : Node} {part : Tables.Part} {name : String} :
    (part, name) ∈ node.declared ↔ node.Declares name part := by
  unfold Node.declared
  cases hkind : node.kind with
  | defnVal =>
    cases part with
    | vals =>
      simp only [Node.Declares, hkind, true_and, ← Node.valName?_eq_some_iff]
      simp
    | _ => simp [Node.Declares, hkind]
  | _ => cases part <;> simp [Node.Declares, hkind]

namespace Outline

/-- What one note adds to the tables. -/
theorem mem_tables_note {scope : Nat} {b : SpineSite} {o : Outline} {part : Tables.Part}
    {q : String} :
    q ∈ (o.note scope b).tables.get part ↔
      (∃ node name, b.site.value.node? = some node ∧ node.Declares name part ∧
        q = ".".intercalate (b.packages ++ [name])) ∨ q ∈ o.tables.get part := by
  unfold note
  cases hnode : b.site.value.node? with
  | none => simp
  | some node =>
    simp only [noteNode, Tables.mem_get_addAll, Node.mem_declared_iff, Option.some.injEq]
    constructor
    · rintro (⟨name, hname, hq⟩ | hq)
      · exact Or.inl ⟨node, name, rfl, hname, hq⟩
      · exact Or.inr hq
    · rintro (⟨node, name, rfl, hname, hq⟩ | hq)
      · exact Or.inl ⟨name, hname, hq⟩
      · exact Or.inr hq

/-- What a run of notes adds to the tables. -/
theorem mem_tables_foldl_note {scope : Nat} {bs : List SpineSite} {o : Outline}
    {part : Tables.Part} {q : String} :
    q ∈ (bs.foldl (note scope) o).tables.get part ↔
      (∃ b ∈ bs, ∃ node name, b.site.value.node? = some node ∧ node.Declares name part ∧
        q = ".".intercalate (b.packages ++ [name])) ∨ q ∈ o.tables.get part := by
  induction bs generalizing o with
  | nil => simp
  | cons b bs ih =>
    rw [List.foldl_cons, ih, mem_tables_note]
    constructor
    · rintro (⟨c, hc, h⟩ | h | h)
      · exact Or.inl ⟨c, List.mem_cons_of_mem b hc, h⟩
      · exact Or.inl ⟨b, List.mem_cons_self, h⟩
      · exact Or.inr h
    · rintro (⟨c, hc, h⟩ | h)
      · rcases List.mem_cons.1 hc with rfl | hc
        · exact Or.inr (Or.inl h)
        · exact Or.inl ⟨c, hc, h⟩
      · exact Or.inr (Or.inr h)

theorem standsAt_new (tree : Json) (scopes : Arena) :
    (new scopes).StandsAt (SpineSite.root tree) :=
  ⟨rfl, rfl⟩

/-- Where a run of notes ends without a node that is too deep, all of them have been made. -/
theorem eq_foldl_of_outcome {scope maxDepth : Nat} {bs : List SpineSite} {o o' : Outline}
    (h : outcome scope maxDepth bs o = (.complete, o')) :
    o' = bs.foldl (note scope) o ∧ ∀ b ∈ bs, b.site.isTooDeep maxDepth = false := by
  rw [outcome, Prod.mk.injEq] at h
  obtain ⟨hend, ho⟩ := h
  have hnone : ∀ b ∈ bs, b.site.isTooDeep maxDepth = false := by
    intro b hb
    by_contra hdeep
    have hany : bs.any (·.site.isTooDeep maxDepth) = true :=
      List.any_eq_true.2 ⟨b, hb, by simpa using hdeep⟩
    rw [if_pos hany] at hend
    cases hend
  refine ⟨?_, hnone⟩
  have hall : bs.takeWhile (fun b => !b.site.isTooDeep maxDepth) = bs :=
    List.takeWhile_eq_self_iff.2 fun b hb => by simp [hnone b hb]
  rw [← ho, hall]

/-- After a visit that ends, every value on the spine has been noted. -/
theorem eq_foldl_of_visit {scope maxDepth : Nat} {tree : Json} {scopes : Arena} {o : Outline}
    (h : visit scope maxDepth tree (new scopes) = (.complete, o)) :
    o = (SpineSite.root tree).spine.foldl (note scope) (new scopes) ∧
      ∀ b ∈ (SpineSite.root tree).spine, b.site.isTooDeep maxDepth = false := by
  have hrun := visit_eq_outcome scope maxDepth (SpineSite.root tree) (standsAt_new tree scopes)
  have hvisit : visit scope maxDepth (SpineSite.root tree).site.value (new scopes) =
      (.complete, o) := h
  rw [hvisit] at hrun
  exact eq_foldl_of_outcome hrun.symm

/-- The tables after a visit that ends hold exactly what the nodes on the spine declare, qualified
by the packages around them. -/
theorem mem_tables_iff (tree : Json) (scope maxDepth : Nat) (scopes : Arena) (o : Outline)
    (h : visit scope maxDepth tree (new scopes) = (.complete, o)) (part : Tables.Part)
    (q : String) :
    q ∈ o.tables.get part ↔
      ∃ b node name, SpineSite.OnSpine tree b ∧ b.site.value.node? = some node ∧
        node.Declares name part ∧ q = ".".intercalate (b.packages ++ [name]) := by
  obtain ⟨ho, -⟩ := eq_foldl_of_visit h
  rw [ho, mem_tables_foldl_note]
  constructor
  · rintro (⟨b, hb, node, name, hnode, hname, hq⟩ | hq)
    · exact ⟨b, node, name, SpineSite.mem_spine_iff.1 hb, hnode, hname, hq⟩
    · exact absurd hq (Tables.not_mem_get_empty part q)
  · rintro ⟨b, node, name, hb, hnode, hname, hq⟩
    exact Or.inl ⟨b, SpineSite.mem_spine_iff.2 hb, node, name, hnode, hname, hq⟩

def definition (tag name : String) : Json :=
  .obj [("name", .obj [("type", .str "Type.Name"), ("value", .str name)]), ("type", .str tag)]

/-- A source with a package `a` that holds a definition of each kind. -/
def sample : Json :=
  .obj [("stats", .arr [.obj [
      ("ref", .obj [("type", .str "Term.Name"), ("value", .str "a")]),
      ("stats", .arr [definition "Defn.Class" "Foo", definition "Defn.Trait" "Bar",
        definition "Defn.Object" "Baz", definition "Defn.Type" "T", definition "Defn.Def" "f",
        .obj [
          ("pats", .arr [.obj [
            ("name", .obj [("type", .str "Term.Name"), ("value", .str "v")]),
            ("type", .str "Pat.Var")]]),
          ("type", .str "Defn.Val")]]),
      ("type", .str "Pkg")]]),
    ("type", .str "Source")]

theorem mem_tables_iff_sample :
    ∃ o, visit 0 3 sample (new .new) = (.complete, o) ∧
      (o.tables.packages.toList, o.tables.classes.toList, o.tables.traits.toList,
          o.tables.objects.toList, o.tables.vals.toList, o.tables.types.toList) =
        (["a"], ["a.Foo"], ["a.Bar"], ["a.Baz"], ["a.v"], ["a.T"]) ∧
      ∀ part q, q ∈ o.tables.get part ↔
        ∃ b node name, SpineSite.OnSpine sample b ∧ b.site.value.node? = some node ∧
          node.Declares name part ∧ q = ".".intercalate (b.packages ++ [name]) := by
  have hend : (visit 0 3 sample (new .new)).1 = .complete := by decide +kernel
  have htables : (fun t : Tables => (t.packages.toList, t.classes.toList, t.traits.toList,
      t.objects.toList, t.vals.toList, t.types.toList)) (visit 0 3 sample (new .new)).2.tables =
      (["a"], ["a.Foo"], ["a.Bar"], ["a.Baz"], ["a.v"], ["a.T"]) := by decide +kernel
  rcases hvisit : visit 0 3 sample (new .new) with ⟨e, o⟩
  rw [hvisit] at hend htables
  obtain rfl : e = .complete := hend
  exact ⟨o, rfl, htables, mem_tables_iff sample 0 3 .new o hvisit⟩

end Outline
end SymbolIndex
