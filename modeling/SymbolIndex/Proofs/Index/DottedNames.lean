import SymbolIndex.Proofs.Index.Names
import SymbolIndex.Proofs.Tree.Leaves

/-!
# Which dotted names are recorded

A selection is recorded or not by what its two sides are alone. The parts of a dotted name are those
in front of the dot and those behind it, and no operator has a dot in it:

- `isAllLower_dotted`, `isIndexed_dotted` : the rules for a name with a dot, by its two sides
- `visit_harvester_of_isSelect` : what is kept of a selection
- `head?_ne_dot_of_mem_names` : nothing that is recorded starts with a dot
- `dotted_names_by_sides` : the rules, and what follows for selections and for summaries
-/

namespace SymbolIndex

/-! ## Names with a dot -/

/-- Both sides of a dot count. -/
theorem isAllLower_dotted (a b : String) :
    isAllLower (a ++ "." ++ b) = (isAllLower a && isAllLower b) := by
  have hsplit : (a ++ "." ++ b).toList.splitOn '.' =
      a.toList.splitOn '.' ++ b.toList.splitOn '.' := by
    rw [← List.splitOn_append_cons_self]
    simp
  simp only [isAllLower, hsplit, List.all_append]

theorem isOperator_dotted (a b : String) : isOperator (a ++ "." ++ b) = false := by
  have hplain : ∀ op ∈ operators, '.' ∉ op.toList := by decide
  -- an operator of this form would have the dot between the two sides
  by_contra hop
  have hmem : a ++ "." ++ b ∈ operators := by simpa [isOperator] using hop
  apply hplain _ hmem
  simp

theorem head?_dotted (a b : String) :
    (a ++ "." ++ b).toList.head? ≠ some '.' ↔ a ≠ "" ∧ a.toList.head? ≠ some '.' := by
  have hempty : a = "" ↔ a.toList = [] := String.toList_eq_nil_iff.symm
  rw [Ne, Ne, Ne, hempty, String.toList_append, String.toList_append]
  cases a.toList with
  | nil => simp
  | cons c cs => simp

/-- A dotted name is recorded if it has something in front of the first dot and not all of it is
lowercase. -/
theorem isIndexed_dotted (a b : String) :
    isIndexed (a ++ "." ++ b) = true ↔
      a ≠ "" ∧ a.toList.head? ≠ some '.' ∧ ¬ (isAllLower a = true ∧ isAllLower b = true) := by
  have hne : a ++ "." ++ b ≠ "" := by
    intro h
    simpa using congrArg String.toList h
  have hlower : isAllLower (a ++ "." ++ b) = false ↔
      ¬ (isAllLower a = true ∧ isAllLower b = true) := by
    rw [isAllLower_dotted, ← Bool.and_eq_true, Bool.not_eq_true]
  have hrules : isIndexed (a ++ "." ++ b) = true ↔
      (a ++ "." ++ b).toList.head? ≠ some '.' ∧ isAllLower (a ++ "." ++ b) = false := by
    simp [isIndexed, hne, isOperator_dotted]
  rw [hrules, head?_dotted, hlower, and_assoc]

/-! ## Selections -/

section Selections

variable {options : Options} {o : Offer} {node : Node} {scopes : Arena} {names : StringSet}

theorem Json.name?_of_isSelect {v : Json} (hnode : v.node? = some node)
    (hselect : node.kind.isSelect = true) :
    v.name? = selectName (node.name? "qual") (node.name? "name") := by
  rw [Json.name?_eq, hnode, Option.bind_some]
  exact Node.reference?_of_isSelect hselect

/-- The form in which a name is recorded. -/
def recordedAs (options : Options) (o : Offer) (name : String) : String :=
  if options.annotateNameTypes then name ++ "<" ++ o.path ++ ">" else name

/-- A selection is entered, whatever is kept of it. -/
theorem visit_harvester_of_isSelect (hnode : o.child.node? = some node)
    (hselect : node.kind.isSelect = true) :
    (harvester options).visit o scopes names =
      (.enter, scopes,
        (((o.child.name?.filter isIndexed).map (recordedAs options o)).map names.insert).getD
          names) := by
  have hnull : o.child.isNull = false := by
    rw [← toJson_of_node? hnode]
    rfl
  have himport : o.child.isImport = false := by
    by_contra h
    obtain ⟨node', hnode', hkind⟩ := Json.isImport_iff.1 (by simpa using h)
    cases hnode.symm.trans hnode'
    simp [hkind, Kind.isSelect] at hselect
  have hskip : harvestSkips options o.key o.child = false := by simp [harvestSkips, hnull, himport]
  exact visit_harvester_of_not_skips hskip

/-- A selection whose sides have names is kept by the rules for its sides. -/
theorem visit_harvester_of_sides {a b : String} (hnode : o.child.node? = some node)
    (hselect : node.kind.isSelect = true) (ha : node.name? "qual" = some a)
    (hb : node.name? "name" = some b) :
    (harvester options).visit o scopes names =
      (.enter, scopes,
        if a.toList.head? ≠ some '.' ∧ ¬ (isAllLower a = true ∧ isAllLower b = true) then
          names.insert (recordedAs options o (a ++ "." ++ b))
        else names) := by
  have hname : o.child.name? = some (a ++ "." ++ b) := by
    rw [Json.name?_of_isSelect hnode hselect, ha, hb]
    rfl
  -- no reference has an empty name, so the qualifier is not empty
  have hne : a ≠ "" := by
    obtain ⟨x, -, hx⟩ := Option.bind_eq_some_iff.1 ha
    exact Json.name?_ne_empty hx
  rw [visit_harvester_of_isSelect hnode hselect, hname]
  by_cases hkept : a.toList.head? ≠ some '.' ∧ ¬ (isAllLower a = true ∧ isAllLower b = true)
  · have hindexed : isIndexed (a ++ "." ++ b) = true := (isIndexed_dotted a b).2 ⟨hne, hkept⟩
    rw [if_pos hkept, Option.filter_some_pos hindexed]
    rfl
  · have hindexed : isIndexed (a ++ "." ++ b) = false := by
      by_contra h
      exact hkept ((isIndexed_dotted a b).1 (by simpa using h)).2
    rw [if_neg hkept, Option.filter_some_neg hindexed]
    rfl

/-- The name of a selection whose qualifier has none starts with a dot. -/
theorem head?_of_unqualified {v : Json} {s : String} (hnode : v.node? = some node)
    (hselect : node.kind.isSelect = true) (hqual : node.name? "qual" = none)
    (hname : v.name? = some s) : s.toList.head? = some '.' := by
  rw [Json.name?_of_isSelect hnode hselect, hqual] at hname
  cases hlast : node.name? "name" with
  | none => simp [hlast, selectName] at hname
  | some n =>
    obtain rfl : "" ++ "." ++ n = s := by simpa [hlast, selectName] using hname
    simp

theorem isIndexed_of_head? {s : String} (h : s.toList.head? = some '.') : isIndexed s = false := by
  simp [isIndexed, h]

/-- Nothing is kept of a selection whose qualifier has no name. -/
theorem visit_harvester_of_unqualified (hnode : o.child.node? = some node)
    (hselect : node.kind.isSelect = true) (hqual : node.name? "qual" = none) :
    (harvester options).visit o scopes names = (.enter, scopes, names) := by
  rw [visit_harvester_of_isSelect hnode hselect]
  cases hname : o.child.name? with
  | none => rfl
  | some s =>
    -- the other side has a name, which is not recorded behind a dot
    have hhead := head?_of_unqualified hnode hselect hqual hname
    simp [Option.filter, isIndexed_of_head? hhead]

end Selections

/-! ## Summaries -/

/-- Where a name stands only adds to its end. -/
theorem Site.head?_label (options : Options) (b : Site) {name : String} (h : name ≠ "") :
    (b.label options name).toList.head? = name.toList.head? := by
  have hne : name.toList ≠ [] := by simpa using h
  unfold Site.label
  split
  · cases hchars : name.toList with
    | nil => exact absurd hchars hne
    | cons c cs => simp [hchars]
  · rfl

/-- Nothing that is recorded starts with a dot. -/
theorem head?_ne_dot_of_mem_names {options : Options} {filename q : String} {tree : Json}
    {summary : Summary} (h : index options filename tree = .ok summary) (hq : q ∈ summary.names) :
    q.toList.head? ≠ some '.' := by
  cases htree : tree.treeError? with
  | some error =>
    -- the summary of a failed parse has no names
    obtain rfl : Summary.failed filename error = summary := by simpa [index, htree] using h
    cases hq
  | none =>
    obtain ⟨-, -, -, hsummary⟩ := of_index_eq_ok htree h
    rw [hsummary] at hq
    obtain ⟨b, -, hkept⟩ := mem_walkNames_iff.1 hq
    obtain ⟨-, name, hname, hindexed, rfl⟩ := Site.harvested?_eq_some_iff.1 hkept
    rw [Site.head?_label options b (Json.name?_ne_empty hname)]
    intro hhead
    simp [isIndexed_of_head? hhead] at hindexed

/-- The rules for recording names go by the two sides of a dot. A name with a dot is all lowercase
if both sides are, and it is recorded unless its front is empty or starts with a dot, or both sides
are all lowercase. So what is kept of a selection depends on the names of its sides only. Nothing is
kept if the qualifier has no name, and no summary has a name that starts like such a selection. -/
theorem dotted_names_by_sides :
    (∀ a b, isAllLower (a ++ "." ++ b) = true ↔ isAllLower a = true ∧ isAllLower b = true) ∧
      (∀ a b, isIndexed (a ++ "." ++ b) = true ↔
        a ≠ "" ∧ a.toList.head? ≠ some '.' ∧ ¬ (isAllLower a = true ∧ isAllLower b = true)) ∧
      (∀ (options : Options) (o : Offer) (node : Node) (scopes : Arena) (names : StringSet),
        o.child.node? = some node → node.kind.isSelect = true →
        (∀ a b, node.name? "qual" = some a → node.name? "name" = some b →
          (harvester options).visit o scopes names =
            (.enter, scopes,
              if a.toList.head? ≠ some '.' ∧ ¬ (isAllLower a = true ∧ isAllLower b = true) then
                names.insert (recordedAs options o (a ++ "." ++ b))
              else names)) ∧
        (node.name? "qual" = none →
          (harvester options).visit o scopes names = (.enter, scopes, names))) ∧
      ∀ (v : Json) (node : Node) (s : String), v.node? = some node → node.kind.isSelect = true →
        node.name? "qual" = none → v.name? = some s →
        ∀ (options : Options) (filename : String) (tree : Json) (summary : Summary),
          index options filename tree = .ok summary →
          ∀ q ∈ summary.names, ¬ s.toList <+: q.toList := by
  refine ⟨?_, isIndexed_dotted, ?_, ?_⟩
  · intro a b
    rw [isAllLower_dotted, Bool.and_eq_true]
  · intro options o node scopes names hnode hselect
    exact ⟨fun a b => visit_harvester_of_sides hnode hselect,
      visit_harvester_of_unqualified hnode hselect⟩
  · intro v node s hnode hselect hqual hname options filename tree summary hindex q hq hprefix
    obtain ⟨rest, hrest⟩ := hprefix
    apply head?_ne_dot_of_mem_names hindex hq
    rw [← hrest, List.head?_append, head?_of_unqualified hnode hselect hqual hname]
    rfl

/-- The name `Some`, selected from `scala`. -/
def qualifiedSelection : Json :=
  .obj [("name", .obj [("type", .str "Term.Name"), ("value", .str "Some")]),
    ("qual", .obj [("type", .str "Term.Name"), ("value", .str "scala")]),
    ("type", .str "Term.Select")]

/-- The name `Foo`, selected from an object without a name. -/
def unqualifiedSelection : Json :=
  .obj [("name", .obj [("type", .str "Term.Name"), ("value", .str "Foo")]),
    ("qual", .obj [("type", .str "Term.This")]),
    ("type", .str "Term.Select")]

/-- A source with both selections. -/
def selectionFile : Json :=
  .obj [("stats", .arr [qualifiedSelection, unqualifiedSelection]), ("type", .str "Source")]

theorem dotted_names_by_sides_selectionFile :
    (harvester {}).visit ⟨"stats", qualifiedSelection, none, [], 0⟩ .new ∅ =
        (.enter, .new, (∅ : StringSet).insert "scala.Some") ∧
      (harvester {}).visit ⟨"stats", unqualifiedSelection, none, [], 0⟩ .new ∅ = (.enter, .new, ∅) ∧
      ∃ summary, index {} "S.scala" selectionFile = .ok summary ∧
        summary.names = ["Foo", "Some", "scala.Some"] ∧
        ∀ q ∈ summary.names, ¬ ".Foo".toList <+: q.toList := by
  obtain ⟨-, -, hvisit, hnever⟩ := dotted_names_by_sides
  have hnames : (index {} "S.scala" selectionFile).toOption.map Summary.names =
      some ["Foo", "Some", "scala.Some"] := by
    decide +kernel
  refine ⟨?_, ?_, ?_⟩
  · exact (hvisit {} ⟨"stats", qualifiedSelection, none, [], 0⟩ _ .new ∅ rfl rfl).1 "scala"
      "Some" rfl rfl
  · exact (hvisit {} ⟨"stats", unqualifiedSelection, none, [], 0⟩ _ .new ∅ rfl rfl).2 rfl
  · obtain ⟨summary, hindex, hlist⟩ := exists_index_of_map hnames
    exact ⟨summary, hindex, hlist,
      hnever unqualifiedSelection _ ".Foo" rfl rfl rfl rfl {} "S.scala" selectionFile
        summary hindex⟩

end SymbolIndex
