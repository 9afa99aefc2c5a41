import Mathlib.Data.List.Perm.Basic
import SymbolIndex.Proofs.Tree.Reference

/-!
# The leaves of a reference

A reference is a tree of its own: selections branch, applied types and parameters lead on, and names
are its leaves. This file says what the name of a reference is without following its nesting:

- `Kind.parts`, `Json.Leads` : where a reference goes on, and what it leads to along a path
- `LeftOf` : which of two paths is read first
- `Json.LeafAt`, `Json.SegmentAt` : the names at the ends of paths, and with them the sides of
  selections that are left empty
- `ReadsAs` : everything that stands at the ends of paths, from left to right
- `Json.exists_readsAs` : every reference can be read, and its name is what was read
- `Json.name?_of_leaves` : which references have a name, and which one
-/

namespace SymbolIndex

/-! ## Paths into a reference -/

namespace Kind

def isName : Kind → Bool
  | .typeName | .termName => true
  | _ => false

/-- Whether nodes of this kind select a name from a qualifier. -/
def isSelect : Kind → Bool
  | .typeSelect | .termSelect => true
  | _ => false

/-- The fields in which a reference of this kind goes on. -/
def parts : Kind → List String
  | .typeApply => ["tpe"]
  | .termParam => ["decltpe"]
  | .typeSelect | .termSelect => ["qual", "name"]
  | _ => []

theorem of_isName {k : Kind} (h : k.isName = true) : k.isSelect = false ∧ k.parts = [] := by
  cases k <;> simp_all [isName, isSelect, parts]

theorem of_isSelect {k : Kind} (h : k.isSelect = true) :
    k.isName = false ∧ k.parts = ["qual", "name"] := by
  cases k <;> simp_all [isName, isSelect, parts]

end Kind

/-- The value to which a reference leads along the fields of a path. -/
inductive Json.Leads : Json → List String → Json → Prop where
  | here (v : Json) : Json.Leads v [] v
  | part {v x w : Json} {node : Node} {key : String} {path : List String}
      (hnode : v.node? = some node)
      (hkey : key ∈ node.kind.parts) (hx : node.field? key = some x) (hw : Json.Leads x path w) :
      Json.Leads v (key :: path) w

/-- The paths part at a selection, where the first goes on in the qualifier and the second in the
name. -/
inductive LeftOf : List String → List String → Prop where
  | here {p q : List String} : LeftOf ("qual" :: p) ("name" :: q)
  | there {key : String} {p q : List String} (h : LeftOf p q) : LeftOf (key :: p) (key :: q)

theorem leftOf_cons_iff {k l : String} {p q : List String} :
    LeftOf (k :: p) (l :: q) ↔ k = "qual" ∧ l = "name" ∨ k = l ∧ LeftOf p q := by
  constructor
  · intro h
    cases h with
    | here => exact Or.inl ⟨rfl, rfl⟩
    | there h => exact Or.inr ⟨rfl, h⟩
  · rintro (⟨rfl, rfl⟩ | ⟨rfl, h⟩)
    · exact .here
    · exact .there h

/-- Of two paths at most one is to the left of the other. -/
theorem LeftOf.asymm {p q : List String} (h : LeftOf p q) : ¬ LeftOf q p := by
  induction h with
  | here =>
    intro hback
    simp [leftOf_cons_iff] at hback
  | there _ ih =>
    intro hback
    -- a step that both paths share is not one that parts them
    rcases leftOf_cons_iff.1 hback with ⟨rfl, hname⟩ | ⟨-, hback⟩
    · simp at hname
    · exact ih hback

namespace Node

/-- One of the sides of a selection has a name. -/
def HasNamedSide (node : Node) : Prop :=
  (node.name? "qual").isSome = true ∨ (node.name? "name").isSome = true

/-- The side has no name, although the other side of the selection has one. -/
structure Lacks (node : Node) (side : String) : Prop where
  isSide : side = "qual" ∨ side = "name"
  unnamed : node.name? side = none
  otherNamed : node.HasNamedSide

/-- What a node itself adds to the name of a reference: its text if it is a name, and nothing, in
the place of a side, if it is a selection with one side only. -/
inductive Segment (node : Node) : List String → String → Prop where
  | leaf {text : String} (hkind : node.kind.isName = true) (htext : node.value? = some text) :
      Segment node [] text
  | gap {side : String} (hkind : node.kind.isSelect = true) (hside : node.Lacks side) :
      Segment node [side] ""

end Node

namespace Json

/-- A reference leads along the path to a name with a text. -/
def LeafAt (v : Json) (path : List String) (text : String) : Prop :=
  ∃ w node, v.Leads path w ∧ w.node? = some node ∧ node.kind.isName = true ∧ node.value? = some text

/-- At the end of the path the name of a reference has a text: that of a leaf, or none in the place
of a side that is missing. -/
def SegmentAt (v : Json) (path : List String) (text : String) : Prop :=
  ∃ front back w node, v.Leads front w ∧ w.node? = some node ∧ node.Segment back text ∧
    path = front ++ back

/-- Every selection to which a reference leads has names on both sides. -/
def SidesNamed (v : Json) : Prop :=
  ∀ path w node, v.Leads path w → w.node? = some node → node.kind.isSelect = true →
    (node.name? "qual").isSome = true ∧ (node.name? "name").isSome = true

end Json

/-- The list holds everything that stands at the end of a path, from left to right. -/
structure ReadsAs (stands : List String → String → Prop) (read : List (List String × String)) :
    Prop where
  mem_iff : ∀ path text, (path, text) ∈ read ↔ stands path text
  leftToRight : read.Pairwise fun a b => LeftOf a.1 b.1

/-! ## Reading -/

/-- The name that is made of what was read. -/
def spelled (read : List (List String × String)) : Option String :=
  if read = [] then none else some (".".intercalate (read.map Prod.snd))

@[simp] theorem spelled_nil : spelled [] = none := rfl

@[simp] theorem spelled_singleton (path : List String) (text : String) :
    spelled [(path, text)] = some text := by
  simp [spelled]

theorem spelled_eq_none_iff {read : List (List String × String)} :
    spelled read = none ↔ read = [] := by
  simp [spelled]

theorem spelled_eq_some_iff {read : List (List String × String)} {s : String} :
    spelled read = some s ↔ read ≠ [] ∧ s = ".".intercalate (read.map Prod.snd) := by
  unfold spelled
  split
  · simp_all
  · simp_all [eq_comm]

theorem spelled_map (f : List String → List String) (read : List (List String × String)) :
    spelled (read.map fun e => (f e.1, e.2)) = spelled read := by
  simp [spelled, Function.comp_def]

/-- What is read in two parts is joined by a dot. -/
theorem spelled_append {read read' : List (List String × String)} {s t : String}
    (h : spelled read = some s) (h' : spelled read' = some t) :
    spelled (read ++ read') = some (s ++ "." ++ t) := by
  obtain ⟨hne, hs⟩ := spelled_eq_some_iff.1 h
  obtain ⟨hne', ht⟩ := spelled_eq_some_iff.1 h'
  apply spelled_eq_some_iff.2
  refine ⟨by simp [hne], ?_⟩
  rw [hs, ht, List.map_append, String.intercalate_append_of_ne_nil]
  · simpa using hne
  · simpa using hne'

namespace ReadsAs

variable {stands stands' : List String → String → Prop} {read read' : List (List String × String)}

theorem congr (h : ReadsAs stands read) (hiff : ∀ path text, stands' path text ↔ stands path text) :
    ReadsAs stands' read :=
  ⟨fun path text => (h.mem_iff path text).trans (hiff path text).symm, h.leftToRight⟩

theorem nil (h : ∀ path text, ¬ stands path text) : ReadsAs stands [] :=
  ⟨fun path text => by simp [h path text], List.Pairwise.nil⟩

theorem singleton {path : List String} {text : String}
    (h : ∀ p t, stands p t ↔ p = path ∧ t = text) : ReadsAs stands [(path, text)] :=
  ⟨fun p t => by simp [h p t], List.pairwise_singleton _ _⟩

/-- What stands to the left is read first. -/
theorem append (h : ReadsAs stands read) (h' : ReadsAs stands' read')
    (hleft : ∀ p t q u, stands p t → stands' q u → LeftOf p q) :
    ReadsAs (fun path text => stands path text ∨ stands' path text) (read ++ read') := by
  refine ⟨?_, ?_⟩
  · intro path text
    rw [List.mem_append, h.mem_iff, h'.mem_iff]
  · refine List.pairwise_append.2 ⟨h.leftToRight, h'.leftToRight, ?_⟩
    rintro ⟨p, t⟩ hp ⟨q, u⟩ hq
    exact hleft p t q u ((h.mem_iff p t).1 hp) ((h'.mem_iff q u).1 hq)

/-- There is one way to read. -/
theorem unique (h : ReadsAs stands read) (h' : ReadsAs stands read') : read = read' := by
  -- both lists have the same members, each once, and no order but this one puts them in line
  have hnodup : ∀ {l : List (List String × String)}, ReadsAs stands l → l.Nodup := by
    intro l hl
    refine hl.leftToRight.imp ?_
    rintro a b hlt rfl
    exact hlt.asymm hlt
  have hperm : read.Perm read' := by
    refine (List.perm_ext_iff_of_nodup (hnodup h) (hnodup h')).2 ?_
    rintro ⟨path, text⟩
    exact (h.mem_iff path text).trans (h'.mem_iff path text).symm
  apply hperm.eq_of_pairwise _ h.leftToRight h'.leftToRight
  intro a b _ _ hab hba
  exact absurd hba hab.asymm

end ReadsAs

/-! ## Reading a reference -/

theorem selectName_of_isSome {q n : Option String} (h : q.isSome = true ∨ n.isSome = true) :
    selectName q n = some (q.getD "" ++ "." ++ n.getD "") := by
  cases q with
  | none =>
    cases n with
    | none => simp at h
    | some n => rfl
  | some q => rfl

theorem isSome_selectName_iff {q n : Option String} :
    (selectName q n).isSome = true ↔ q.isSome = true ∨ n.isSome = true := by
  cases q <;> cases n <;> simp [selectName]

namespace Node

variable {node : Node}

theorem reference?_of_isName (h : node.kind.isName = true) : node.reference? = node.value? := by
  unfold reference?
  cases hkind : node.kind <;> simp_all [Kind.isName]

theorem reference?_of_isSelect (h : node.kind.isSelect = true) :
    node.reference? = selectName (node.name? "qual") (node.name? "name") := by
  unfold reference?
  cases hkind : node.kind <;> simp_all [Kind.isSelect]

/-- Any other node leads on to one part, or is no reference at all. -/
theorem reference?_of_plain (hname : node.kind.isName = false)
    (hselect : node.kind.isSelect = false) :
    (∃ key, node.kind.parts = [key] ∧ node.reference? = node.name? key) ∨
      node.kind.parts = [] ∧ node.reference? = none := by
  unfold reference?
  cases hkind : node.kind <;> simp_all [Kind.isName, Kind.isSelect, Kind.parts]

end Node

namespace Json

/-- What holds of a value whenever it holds of the fields of its node holds of every value. -/
@[elab_as_elim]
theorem fieldInduction {motive : Json → Prop}
    (step : ∀ v,
      (∀ node key x, v.node? = some node → node.field? key = some x → motive x) → motive v)
    (v : Json) : motive v :=
  step v fun _ _ x hnode hx =>
    have _hlt : sizeOf x < sizeOf v := Site.sizeOf_lt_of_holds (Node.holds_of_field? hnode hx)
    fieldInduction step x
termination_by sizeOf v

section Steps

variable {v w : Json} {node : Node} {path : List String} {text : String}

/-- A reference leads to itself, or on through one of the fields for its kind. -/
theorem leads_iff (hnode : v.node? = some node) :
    v.Leads path w ↔ path = [] ∧ w = v ∨ ∃ key ∈ node.kind.parts, ∃ x rest,
      node.field? key = some x ∧ path = key :: rest ∧ x.Leads rest w := by
  constructor
  · intro h
    cases h with
    | here => exact Or.inl ⟨rfl, rfl⟩
    | part hnode' hkey hx hw =>
      cases hnode.symm.trans hnode'
      exact Or.inr ⟨_, hkey, _, _, hx, rfl, hw⟩
  · rintro (⟨rfl, rfl⟩ | ⟨key, hkey, x, rest, hx, rfl, hw⟩)
    · exact .here _
    · exact .part hnode hkey hx hw

/-- Where a value is no node there is nothing to read. -/
theorem not_segmentAt (hnode : v.node? = none) : ¬ v.SegmentAt path text := by
  rintro ⟨front, back, w, node, hw, hwnode, -, -⟩
  cases hw with
  | here => simp [hnode] at hwnode
  | part hnode' => simp [hnode] at hnode'

/-- What is read of a node is what it adds itself, and what is read of its parts. -/
theorem segmentAt_iff (hnode : v.node? = some node) :
    v.SegmentAt path text ↔ node.Segment path text ∨ ∃ key ∈ node.kind.parts, ∃ x rest,
      node.field? key = some x ∧ path = key :: rest ∧ x.SegmentAt rest text := by
  constructor
  · rintro ⟨front, back, w, node', hw, hwnode, hsegment, rfl⟩
    rcases (leads_iff hnode).1 hw with ⟨rfl, rfl⟩ | ⟨key, hkey, x, rest, hx, rfl, hinner⟩
    · cases hnode.symm.trans hwnode
      exact Or.inl hsegment
    · exact Or.inr ⟨key, hkey, x, rest ++ back, hx, rfl, rest, back, w, node', hinner, hwnode,
        hsegment, rfl⟩
  · rintro (hsegment | ⟨key, hkey, x, rest, hx, rfl, front, back, w, node', hw, hwnode,
      hsegment, rfl⟩)
    · exact ⟨[], path, v, node, .here v, hnode, hsegment, rfl⟩
    · exact ⟨key :: front, back, w, node', .part hnode hkey hx hw, hwnode, hsegment, rfl⟩

end Steps

end Json

namespace Node

variable {node : Node}

/-- What is read in a field of a node. -/
def SegmentBelow (node : Node) (key : String) (path : List String) (text : String) : Prop :=
  ∃ x rest, node.field? key = some x ∧ path = key :: rest ∧ x.SegmentAt rest text

/-- What is read on a side of a selection: nothing, but in its own place, if only the other side has
a name. -/
def SegmentBeside (node : Node) (side : String) (path : List String) (text : String) : Prop :=
  node.SegmentBelow side path text ∨ node.Lacks side ∧ path = [side] ∧ text = ""

theorem exists_readsAs_below {key : String}
    (ih : ∀ x, node.field? key = some x →
      ∃ read, ReadsAs x.SegmentAt read ∧ x.name? = spelled read) :
    ∃ read, ReadsAs (node.SegmentBelow key) read ∧ node.name? key = spelled read := by
  cases hfield : node.field? key with
  | none =>
    refine ⟨[], .nil ?_, by simp [Node.name?, hfield]⟩
    rintro path text ⟨x, rest, hx, -, -⟩
    simp [hfield] at hx
  | some x =>
    obtain ⟨read, hread, hname⟩ := ih x hfield
    refine ⟨read.map fun e => (key :: e.1, e.2), ⟨?_, ?_⟩, ?_⟩
    · intro path text
      constructor
      · intro hmem
        obtain ⟨⟨rest, t⟩, hrest, heq⟩ := List.mem_map.1 hmem
        cases heq
        exact ⟨x, rest, hfield, rfl, (hread.mem_iff rest _).1 hrest⟩
      · rintro ⟨x', rest, hx', rfl, hrest⟩
        cases hfield.symm.trans hx'
        exact List.mem_map.2 ⟨(rest, text), (hread.mem_iff rest text).2 hrest, rfl⟩
    · exact List.pairwise_map.2 (hread.leftToRight.imp LeftOf.there)
    · calc
        node.name? key = x.name? := by simp [Node.name?, hfield]
        _ = spelled read := hname
        _ = spelled (read.map fun e => (key :: e.1, e.2)) := (spelled_map (key :: ·) read).symm

/-- A side of a selection that has a name is read as its own name, or as nothing. -/
theorem exists_readsAs_beside {side : String} (hside : side = "qual" ∨ side = "name")
    (hbelow : ∃ read, ReadsAs (node.SegmentBelow side) read ∧ node.name? side = spelled read) :
    ∃ read, ReadsAs (node.SegmentBeside side) read ∧
      (node.HasNamedSide → spelled read = some ((node.name? side).getD "")) ∧
      (¬ node.HasNamedSide → spelled read = node.name? side) := by
  obtain ⟨read, hread, hname⟩ := hbelow
  by_cases hlacks : node.Lacks side
  · -- the side has no name, so nothing is read below it
    have hnone : read = [] := spelled_eq_none_iff.1 (hname.symm.trans hlacks.unnamed)
    refine ⟨[([side], "")], .singleton ?_, ?_, fun h => absurd hlacks.otherNamed h⟩
    · intro path text
      have hbelow : ¬ node.SegmentBelow side path text := by
        rw [← hread.mem_iff, hnone]
        exact List.not_mem_nil
      simp [SegmentBeside, hbelow, hlacks]
    · intro _
      simp [hlacks.unnamed]
  · refine ⟨read, hread.congr ?_, ?_, fun _ => hname.symm⟩
    · intro path text
      simp [SegmentBeside, hlacks]
    · intro hnamed
      cases hown : node.name? side with
      | none => exact absurd ⟨hside, hown, hnamed⟩ hlacks
      | some own => exact hname.symm.trans hown

/-- The qualifier of a selection is to the left of the name. -/
theorem leftOf_of_segmentBeside {p q : List String} {t u : String}
    (hp : node.SegmentBeside "qual" p t) (hq : node.SegmentBeside "name" q u) : LeftOf p q := by
  have hstart : ∀ {side : String} {path : List String} {text : String},
      node.SegmentBeside side path text → ∃ rest, path = side :: rest := by
    rintro side path text (⟨x, rest, -, hpath, -⟩ | ⟨-, hpath, -⟩)
    · exact ⟨rest, hpath⟩
    · exact ⟨[], hpath⟩
  obtain ⟨p', rfl⟩ := hstart hp
  obtain ⟨q', rfl⟩ := hstart hq
  exact .here

end Node

namespace Json

section Kinds

variable {v : Json} {node : Node} {path : List String} {text : String}

theorem segmentAt_iff_of_isName (hnode : v.node? = some node) (hname : node.kind.isName = true) :
    v.SegmentAt path text ↔ path = [] ∧ node.value? = some text := by
  obtain ⟨hselect, hparts⟩ := Kind.of_isName hname
  rw [segmentAt_iff hnode, hparts]
  constructor
  · rintro (hsegment | ⟨key, hkey, -⟩)
    · cases hsegment with
      | leaf _ htext => exact ⟨rfl, htext⟩
      | gap hkind _ => simp [hselect] at hkind
    · cases hkey
  · rintro ⟨rfl, htext⟩
    exact Or.inl (.leaf hname htext)

/-- A selection has what is on its two sides. -/
theorem segmentAt_iff_of_isSelect (hnode : v.node? = some node)
    (hselect : node.kind.isSelect = true) :
    v.SegmentAt path text ↔
      node.SegmentBeside "qual" path text ∨ node.SegmentBeside "name" path text := by
  obtain ⟨hname, hparts⟩ := Kind.of_isSelect hselect
  rw [segmentAt_iff hnode, hparts]
  constructor
  · rintro (hsegment | ⟨key, hkey, hbelow⟩)
    · cases hsegment with
      | leaf hkind _ => simp [hname] at hkind
      | gap _ hside =>
        rcases hside.isSide with rfl | rfl
        · exact Or.inl (Or.inr ⟨hside, rfl, rfl⟩)
        · exact Or.inr (Or.inr ⟨hside, rfl, rfl⟩)
    · rcases List.mem_pair.1 hkey with rfl | rfl
      · exact Or.inl (Or.inl hbelow)
      · exact Or.inr (Or.inl hbelow)
  · rintro ((hbelow | ⟨hside, rfl, rfl⟩) | hbelow | ⟨hside, rfl, rfl⟩)
    · exact Or.inr ⟨"qual", by simp, hbelow⟩
    · exact Or.inl (.gap hselect hside)
    · exact Or.inr ⟨"name", by simp, hbelow⟩
    · exact Or.inl (.gap hselect hside)

/-- Any other node adds nothing itself. -/
theorem segmentAt_iff_of_plain (hnode : v.node? = some node) (hname : node.kind.isName = false)
    (hselect : node.kind.isSelect = false) :
    v.SegmentAt path text ↔ ∃ key ∈ node.kind.parts, node.SegmentBelow key path text := by
  rw [segmentAt_iff hnode]
  constructor
  · rintro (hsegment | hbelow)
    · cases hsegment with
      | leaf hkind _ => simp [hname] at hkind
      | gap hkind _ => simp [hselect] at hkind
    · exact hbelow
  · exact Or.inr

end Kinds

/-- The name of a selection is spelled by what is read on its sides. -/
theorem exists_readsAs_of_isSelect {v : Json} {node : Node} (hnode : v.node? = some node)
    (hselect : node.kind.isSelect = true)
    (hbelow : ∀ key, ∃ read, ReadsAs (node.SegmentBelow key) read ∧ node.name? key = spelled read) :
    ∃ read, ReadsAs v.SegmentAt read ∧
      selectName (node.name? "qual") (node.name? "name") = spelled read := by
  obtain ⟨left, hleft, hleftNamed, hleftUnnamed⟩ :=
    Node.exists_readsAs_beside (Or.inl rfl) (hbelow "qual")
  obtain ⟨right, hright, hrightNamed, hrightUnnamed⟩ :=
    Node.exists_readsAs_beside (Or.inr rfl) (hbelow "name")
  refine ⟨left ++ right, ?_, ?_⟩
  · apply (hleft.append hright fun _ _ _ _ => Node.leftOf_of_segmentBeside).congr
    intro path text
    exact segmentAt_iff_of_isSelect hnode hselect
  · by_cases hnamed : node.HasNamedSide
    · calc
        selectName (node.name? "qual") (node.name? "name")
            = some ((node.name? "qual").getD "" ++ "." ++ (node.name? "name").getD "") :=
              selectName_of_isSome hnamed
        _ = spelled (left ++ right) :=
              (spelled_append (hleftNamed hnamed) (hrightNamed hnamed)).symm
    · -- neither side has a name, so nothing is read on either
      obtain ⟨hqual, hlast⟩ : node.name? "qual" = none ∧ node.name? "name" = none := by
        simpa [Node.HasNamedSide] using hnamed
      have hleftNil := spelled_eq_none_iff.1 ((hleftUnnamed hnamed).trans hqual)
      have hrightNil := spelled_eq_none_iff.1 ((hrightUnnamed hnamed).trans hlast)
      rw [hqual, hlast, hleftNil, hrightNil]
      rfl

theorem exists_readsAs_of_isName {v : Json} {node : Node} (hnode : v.node? = some node)
    (hname : node.kind.isName = true) :
    ∃ read, ReadsAs v.SegmentAt read ∧ node.value? = spelled read := by
  have hiff : ∀ path text, v.SegmentAt path text ↔ path = [] ∧ node.value? = some text :=
    fun _ _ => segmentAt_iff_of_isName hnode hname
  cases hvalue : node.value? with
  | none =>
    refine ⟨[], .nil ?_, rfl⟩
    intro path text
    simp [hiff, hvalue]
  | some own =>
    refine ⟨[([], own)], .singleton ?_, (spelled_singleton [] own).symm⟩
    intro path text
    simp [hiff, hvalue, eq_comm]

theorem exists_readsAs_of_plain {v : Json} {node : Node} (hnode : v.node? = some node)
    (hname : node.kind.isName = false) (hselect : node.kind.isSelect = false)
    (hbelow : ∀ key, ∃ read, ReadsAs (node.SegmentBelow key) read ∧ node.name? key = spelled read) :
    ∃ read, ReadsAs v.SegmentAt read ∧ node.reference? = spelled read := by
  have hiff : ∀ path text, v.SegmentAt path text ↔
      ∃ key ∈ node.kind.parts, node.SegmentBelow key path text :=
    fun _ _ => segmentAt_iff_of_plain hnode hname hselect
  rcases Node.reference?_of_plain hname hselect with ⟨key, hparts, href⟩ | ⟨hparts, href⟩
  · obtain ⟨read, hread, hspelled⟩ := hbelow key
    refine ⟨read, hread.congr ?_, href.trans hspelled⟩
    intro path text
    simp [hiff, hparts]
  · refine ⟨[], .nil ?_, href⟩
    intro path text
    simp [hiff, hparts]

/-- Every reference can be read from left to right, and its name is what was read. -/
theorem exists_readsAs (v : Json) : ∃ read, ReadsAs v.SegmentAt read ∧ v.name? = spelled read := by
  induction v using fieldInduction with
  | step v ih =>
    rw [name?_eq]
    cases hnode : v.node? with
    | none => exact ⟨[], .nil fun _ _ => not_segmentAt hnode, rfl⟩
    | some node =>
      -- what is read in the fields is known, so only the node itself is left
      have hbelow : ∀ key, ∃ read, ReadsAs (node.SegmentBelow key) read ∧
          node.name? key = spelled read :=
        fun key => Node.exists_readsAs_below fun x hx => ih node key x hnode hx
      rw [Option.bind_some]
      by_cases hname : node.kind.isName = true
      · rw [Node.reference?_of_isName hname]
        exact exists_readsAs_of_isName hnode hname
      · by_cases hselect : node.kind.isSelect = true
        · rw [Node.reference?_of_isSelect hselect]
          exact exists_readsAs_of_isSelect hnode hselect hbelow
        · exact exists_readsAs_of_plain hnode (by simpa using hname) (by simpa using hselect) hbelow

/-! ## Leaves -/

/-- A leaf is part of the name. -/
theorem LeafAt.segmentAt {v : Json} {path : List String} {text : String} (h : v.LeafAt path text) :
    v.SegmentAt path text := by
  obtain ⟨w, node, hw, hnode, hkind, htext⟩ := h
  exact ⟨path, [], w, node, hw, hnode, .leaf hkind htext, (List.append_nil path).symm⟩

/-- A leaf of a part is a leaf. -/
theorem LeafAt.part {v x : Json} {node : Node} {key : String} {path : List String} {text : String}
    (hnode : v.node? = some node) (hkey : key ∈ node.kind.parts) (hx : node.field? key = some x)
    (h : x.LeafAt path text) : v.LeafAt (key :: path) text := by
  obtain ⟨w, leaf, hw, hleaf⟩ := h
  exact ⟨w, leaf, .part hnode hkey hx hw, hleaf⟩

/-- A name comes from a leaf. -/
theorem exists_leafAt (v : Json) (h : v.name?.isSome = true) : ∃ path text, v.LeafAt path text := by
  induction v using fieldInduction with
  | step v ih =>
    rw [name?_eq] at h
    cases hnode : v.node? with
    | none => simp [hnode] at h
    | some node =>
      rw [hnode, Option.bind_some] at h
      -- it is enough to find a part with a name
      have hpart : ∀ key ∈ node.kind.parts, (node.name? key).isSome = true →
          ∃ path text, v.LeafAt path text := by
        intro key hkey hsome
        obtain ⟨x, hx, hxname⟩ : ∃ x, node.field? key = some x ∧ x.name?.isSome = true := by
          cases hfield : node.field? key with
          | none => simp [Node.name?, hfield] at hsome
          | some x => exact ⟨x, rfl, by simpa [Node.name?, hfield] using hsome⟩
        obtain ⟨path, text, hleaf⟩ := ih node key x hnode hx hxname
        exact ⟨key :: path, text, hleaf.part hnode hkey hx⟩
      by_cases hname : node.kind.isName = true
      · rw [Node.reference?_of_isName hname] at h
        obtain ⟨text, htext⟩ := Option.isSome_iff_exists.1 h
        exact ⟨[], text, v, node, .here v, hnode, hname, htext⟩
      · by_cases hselect : node.kind.isSelect = true
        · obtain ⟨-, hparts⟩ := Kind.of_isSelect hselect
          rw [Node.reference?_of_isSelect hselect] at h
          rcases isSome_selectName_iff.1 h with hqual | hlast
          · exact hpart "qual" (by simp [hparts]) hqual
          · exact hpart "name" (by simp [hparts]) hlast
        · rcases Node.reference?_of_plain (by simpa using hname) (by simpa using hselect) with
            ⟨key, hparts, href⟩ | ⟨-, href⟩
          · rw [href] at h
            exact hpart key (by simp [hparts]) h
          · simp [href] at h

/-- A reference has a name if and only if it leads to one. -/
theorem isSome_name?_iff (v : Json) : v.name?.isSome = true ↔ ∃ path text, v.LeafAt path text := by
  constructor
  · exact exists_leafAt v
  · rintro ⟨path, text, hleaf⟩
    obtain ⟨read, hread, hname⟩ := exists_readsAs v
    have hmem : (path, text) ∈ read := (hread.mem_iff path text).2 hleaf.segmentAt
    rw [hname, Option.isSome_iff_ne_none]
    intro hnone
    rw [spelled_eq_none_iff.1 hnone] at hmem
    cases hmem

/-- The name of a reference is what stands in it from left to right, joined by dots. -/
theorem name?_eq_some_iff (v : Json) (s : String) :
    v.name? = some s ↔ ∃ read, read ≠ [] ∧ ReadsAs v.SegmentAt read ∧
      s = ".".intercalate (read.map Prod.snd) := by
  obtain ⟨read, hread, hname⟩ := exists_readsAs v
  rw [hname, spelled_eq_some_iff]
  constructor
  · rintro ⟨hne, hs⟩
    exact ⟨read, hne, hread, hs⟩
  · rintro ⟨read', hne, hread', hs⟩
    cases hread.unique hread'
    exact ⟨hne, hs⟩

/-- If all selections have names on both sides, nothing is read but leaves. -/
theorem segmentAt_iff_leafAt {v : Json} (h : v.SidesNamed) (path : List String) (text : String) :
    v.SegmentAt path text ↔ v.LeafAt path text := by
  constructor
  · rintro ⟨front, back, w, node, hw, hnode, hsegment, rfl⟩
    cases hsegment with
    | leaf hkind htext =>
      rw [List.append_nil]
      exact ⟨w, node, hw, hnode, hkind, htext⟩
    | gap hkind hside =>
      -- both sides have names, so none is left empty
      obtain ⟨hqual, hlast⟩ := h front w node hw hnode hkind
      have hunnamed := hside.unnamed
      rcases hside.isSide with rfl | rfl
      · simp [hunnamed] at hqual
      · simp [hunnamed] at hlast
  · exact LeafAt.segmentAt

theorem sidesNamed_of_parts {v : Json} {node : Node} (hnode : v.node? = some node)
    (hown : node.kind.isSelect = true →
      (node.name? "qual").isSome = true ∧ (node.name? "name").isSome = true)
    (hparts : ∀ key ∈ node.kind.parts, ∀ x, node.field? key = some x → x.SidesNamed) :
    v.SidesNamed := by
  intro path w wnode hw hwnode hselect
  rcases (leads_iff hnode).1 hw with ⟨-, rfl⟩ | ⟨key, hkey, x, rest, hx, -, hinner⟩
  · cases hnode.symm.trans hwnode
    exact hown hselect
  · exact hparts key hkey x hx rest w wnode hinner hwnode hselect

theorem sidesNamed_of_isName {v : Json} {node : Node} (hnode : v.node? = some node)
    (hname : node.kind.isName = true) : v.SidesNamed := by
  obtain ⟨hselect, hparts⟩ := Kind.of_isName hname
  apply sidesNamed_of_parts hnode
  · simp [hselect]
  · simp [hparts]

/-- The name of a reference in terms of its leaves. It has a name if it has a leaf, and no name is
empty. The name is what stands at the ends of its paths from left to right, joined by dots, where
one side of a selection may be left empty; these are the leaves if no selection has a side without a
name. -/
theorem name?_of_leaves (v : Json) :
    (v.name?.isSome = true ↔ ∃ path text, v.LeafAt path text) ∧
      (∀ s, v.name? = some s → s ≠ "") ∧
      (∀ s, v.name? = some s ↔ ∃ segments, segments ≠ [] ∧ ReadsAs v.SegmentAt segments ∧
        s = ".".intercalate (segments.map Prod.snd)) ∧
      (v.SidesNamed → ∀ s, v.name? = some s ↔ ∃ leaves, leaves ≠ [] ∧ ReadsAs v.LeafAt leaves ∧
        s = ".".intercalate (leaves.map Prod.snd)) := by
  refine ⟨isSome_name?_iff v, fun s => name?_ne_empty, name?_eq_some_iff v, ?_⟩
  intro hsides s
  have hsegment : v.SegmentAt = v.LeafAt := by
    funext path text
    exact propext (segmentAt_iff_leafAt hsides path text)
  rw [← hsegment]
  exact name?_eq_some_iff v s

/-- A selection from an applied selection, with the name in a parameter. -/
def wrappedSelection : Json :=
  .obj [("name", .obj [("decltpe", .obj [("type", .str "Type.Name"), ("value", .str "Map")]),
      ("type", .str "Term.Param")]),
    ("qual", .obj [
      ("tpe", .obj [("name", .obj [("type", .str "Type.Name"), ("value", .str "util")]),
        ("qual", .obj [("type", .str "Term.Name"), ("value", .str "java")]),
        ("type", .str "Type.Select")]),
      ("type", .str "Type.Apply")]),
    ("type", .str "Term.Select")]

theorem sidesNamed_wrappedSelection : wrappedSelection.SidesNamed := by
  apply sidesNamed_of_parts rfl (by decide +kernel)
  intro key hkey x hx
  rcases List.mem_pair.1 hkey with rfl | rfl
  · cases hx
    apply sidesNamed_of_parts rfl (by decide +kernel)
    intro key hkey x hx
    cases List.mem_singleton.1 hkey
    cases hx
    apply sidesNamed_of_parts rfl (by decide +kernel)
    intro key hkey x hx
    rcases List.mem_pair.1 hkey with rfl | rfl
    · cases hx
      exact sidesNamed_of_isName rfl rfl
    · cases hx
      exact sidesNamed_of_isName rfl rfl
  · cases hx
    apply sidesNamed_of_parts rfl (by decide +kernel)
    intro key hkey x hx
    cases List.mem_singleton.1 hkey
    cases hx
    exact sidesNamed_of_isName rfl rfl

theorem name?_of_leaves_wrappedSelection :
    wrappedSelection.SidesNamed ∧ wrappedSelection.name? = some "java.util.Map" ∧
      ∃ leaves, leaves ≠ [] ∧ ReadsAs wrappedSelection.LeafAt leaves ∧
        "java.util.Map" = ".".intercalate (leaves.map Prod.snd) := by
  have hname : wrappedSelection.name? = some "java.util.Map" := by decide +kernel
  obtain ⟨-, -, -, hleaves⟩ := name?_of_leaves wrappedSelection
  exact ⟨sidesNamed_wrappedSelection, hname,
    (hleaves sidesNamed_wrappedSelection "java.util.Map").1 hname⟩

end Json

end SymbolIndex
