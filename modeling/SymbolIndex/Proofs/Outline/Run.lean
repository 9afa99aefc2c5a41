import SymbolIndex.Proofs.Outline.Spine

/-!
# Runs of an outline

A visit keeps a stack of packages and a count of open nodes. This file shows that both are only a
way to compute what the spine says, and that what a visit records is the result of one note after
another along the spine:

- `Node.declared` : the declarations that a node makes, by table
- `Outline.note` : what is noted at a value on the spine
- `Outline.visit_eq_outcome` : a visit notes the values on the spine in order, up to the first node
  that is too deep
-/

namespace SymbolIndex

/-! ## Tables by name -/

/-- The tables of declarations. -/
inductive Tables.Part where
  | packages
  | classes
  | traits
  | objects
  | vals
  | types
  deriving DecidableEq, Repr

namespace Tables

def get (t : Tables) : Part → StringSet
  | .packages => t.packages
  | .classes => t.classes
  | .traits => t.traits
  | .objects => t.objects
  | .vals => t.vals
  | .types => t.types

def add (t : Tables) (part : Part) (name : String) : Tables :=
  match part with
  | .packages => { t with packages := t.packages.insert name }
  | .classes => { t with classes := t.classes.insert name }
  | .traits => { t with traits := t.traits.insert name }
  | .objects => { t with objects := t.objects.insert name }
  | .vals => { t with vals := t.vals.insert name }
  | .types => { t with types := t.types.insert name }

theorem mem_get_add {t : Tables} {part part' : Part} {name q : String} :
    q ∈ (t.add part name).get part' ↔ (part' = part ∧ q = name) ∨ q ∈ t.get part' := by
  cases part <;> cases part' <;> simp [add, get]

theorem not_mem_get_empty (part : Part) (q : String) : ¬ q ∈ empty.get part := by
  cases part <;> simp [empty, get]

/-- Enters names that are declared inside packages. -/
def addAll (t : Tables) (packages : List String) (declared : List (Part × String)) : Tables :=
  declared.foldl (fun t d => t.add d.1 (".".intercalate (packages ++ [d.2]))) t

/-- The tables after names were entered that are declared inside packages. -/
theorem mem_get_addAll {t : Tables} {packages : List String} {declared : List (Part × String)}
    {part : Part} {q : String} :
    q ∈ (t.addAll packages declared).get part ↔
      (∃ name, (part, name) ∈ declared ∧ q = ".".intercalate (packages ++ [name])) ∨
        q ∈ t.get part := by
  induction declared generalizing t with
  | nil => simp [addAll]
  | cons d declared ih =>
    obtain ⟨part', name'⟩ := d
    simp only [addAll, List.foldl_cons] at ih ⊢
    rw [ih, mem_get_add]
    constructor
    · rintro (⟨name, hmem, hq⟩ | ⟨hpart, hq⟩ | hq)
      · exact Or.inl ⟨name, List.mem_cons_of_mem _ hmem, hq⟩
      · exact Or.inl ⟨name', by rw [hpart]; exact List.mem_cons_self, hq⟩
      · exact Or.inr hq
    · rintro (⟨name, hmem, hq⟩ | hq)
      · rcases List.mem_cons.1 hmem with heq | hmem
        · cases heq
          exact Or.inr (Or.inl ⟨rfl, hq⟩)
        · exact Or.inl ⟨name, hmem, hq⟩
      · exact Or.inr (Or.inr hq)

end Tables

/-! ## What a node says -/

namespace Node

/-- The declarations that a node makes, with their local names. -/
def declared (node : Node) : List (Tables.Part × String) :=
  match node.kind with
  | .pkg => (node.name? "ref").toList.map (.packages, ·)
  | .pkgObject =>
    (node.name? "name").toList.flatMap fun name => [(.objects, name), (.packages, name)]
  | .defnClass => (node.name? "name").toList.map (.classes, ·)
  | .defnTrait => (node.name? "name").toList.map (.traits, ·)
  | .defnObject => (node.name? "name").toList.map (.objects, ·)
  | .defnVal => node.valName?.toList.map (.vals, ·)
  | .defnType => (node.name? "name").toList.map (.types, ·)
  | _ => []

/-- The kind of a declaration that may have supertypes. -/
def declKind? (node : Node) : Option DeclKind :=
  match node.kind with
  | .defnClass => some .classDecl
  | .defnTrait => some .traitDecl
  | .defnObject => some .objectDecl
  | _ => none

/-- Adds the supertypes of a node that is declared inside packages. -/
def inherit (node : Node) (packages : List String) (h : Heritage) : Heritage :=
  match node.declKind?, node.name? "name" with
  | some kind, some name => h.record kind (".".intercalate (packages ++ [name])) node
  | _, _ => h

/-- Records a node that is an import statement. -/
def bring (node : Node) (scope : Nat) (a : Arena) : Arena :=
  if node.kind = .importStat then a.recordImport scope node.toJson else a

end Node

/-! ## One node of a visit -/

namespace Outline

/-- What is noted of a node inside packages. -/
def noteNode (scope : Nat) (packages : List String) (node : Node) (o : Outline) : Outline :=
  { o with
    tables := o.tables.addAll packages node.declared
    heritage := node.inherit packages o.heritage
    scopes := node.bring scope o.scopes }

/-- The state when what is behind a node is visited. -/
def arrive (scope : Nat) (node : Node) (o : Outline) : Outline :=
  { o.noteNode scope o.packages.reverse node with
    packages := node.opened?.toList ++ o.packages
    depth := o.depth + 1 }

/-- The state after what is behind a node has been visited. -/
def depart (node : Node) (o : Outline) : Outline :=
  { o with
    packages := if node.opened?.isSome then o.packages.tail else o.packages
    depth := o.depth - 1 }

theorem visitAt_eq (scope maxDepth : Nat) (key : String) (fields : List (String × Json))
    (o : Outline) :
    visitAt scope maxDepth key fields o =
      visitAll scope maxDepth (Assoc.find? key fields).toList o := by
  induction fields with
  | nil => simp [visitAt, visitAll, Assoc.find?]
  | cons e rest ih =>
    obtain ⟨k, v⟩ := e
    rw [visitAt, Assoc.find?]
    split
    · simp only [Option.toList_some, visitAll]
      generalize visit scope maxDepth v o = r
      obtain ⟨e, o'⟩ := r
      cases e <;> rfl
    · exact ih

theorem visitAll_null (scope maxDepth : Nat) (o : Outline) :
    visitAll scope maxDepth [.null] o = (.complete, o) := by
  simp [visitAll, visit]

/-- Null in a field is visited in vain, so it can count as missing. -/
theorem visitAt_eq_field? (scope maxDepth : Nat) (node : Node) (key : String) (o : Outline) :
    visitAt scope maxDepth key node.fields o =
      visitAll scope maxDepth (node.field? key).toList o := by
  rw [visitAt_eq, Node.field?]
  cases Assoc.find? key node.fields with
  | none => rfl
  | some v =>
    cases v with
    | null => simpa [Option.filter, Json.isNull, visitAll] using visitAll_null scope maxDepth o
    | _ => rfl

theorem visitStats_eq_seq (scope maxDepth : Nat) (node : Node) (o : Outline) :
    visitStats scope maxDepth node.fields o =
      visitAll scope maxDepth (node.seq "stats") o := by
  have hseq : node.seq "stats" =
      ((Assoc.find? "stats" node.fields).bind Json.asArray?).getD [] := by
    unfold Node.seq Node.field?
    cases Assoc.find? "stats" node.fields with
    | none => rfl
    | some v => cases v <;> rfl
  rw [hseq]
  generalize node.fields = fields
  induction fields with
  | nil => simp [visitStats, visitAll, Assoc.find?]
  | cons e rest ih =>
    obtain ⟨k, v⟩ := e
    by_cases hk : k = "stats"
    · cases v <;> simp [visitStats, visitAll, Assoc.find?, hk, Json.asArray?]
    · cases v <;> simpa [visitStats, Assoc.find?, hk] using ih

theorem visitAll_statements (scope maxDepth : Nat) (a : Site) (node : Node) (o : Outline) :
    visitAll scope maxDepth ((a.statements node).map (·.value)) o =
      visitStats scope maxDepth node.fields o := by
  have hvalues : (a.statements node).map (·.value) = node.seq "stats" := by
    simp only [Site.statements, Site.children, Site.enter, List.map_map]
    exact List.zipIdx_map_fst 0 _
  rw [hvalues, visitStats_eq_seq]

theorem visitAll_part (scope maxDepth : Nat) (a : Site) (node : Node) (name : String)
    (o : Outline) :
    visitAll scope maxDepth ((a.part node name).map (·.value)) o =
      visitAt scope maxDepth name node.fields o := by
  have hvalues : (a.part node name).map (·.value) = (node.field? name).toList := by
    simp [Site.part, Site.enter, Function.comp_def]
  rw [hvalues, visitAt_eq_field?]

section Node

-- with the kind of a node known, these compute what a visit does there
attribute [local simp] arrive depart noteNode declareType declareVal declareAlias openPackage
  openPackageObject closePackage declare qualify recordImport Node.opened? Node.declared
  Node.inherit Node.declKind? Node.bring Tables.addAll Tables.add Site.contents Kind.passesOn
  visitAll

/-- The visit of a node that is not too deep: what it says is noted, and then what is behind it is
visited. -/
theorem visit_of_node? {scope maxDepth : Nat} {a : Site} {node : Node}
    (hnode : a.value.node? = some node) {o : Outline} (hdepth : ¬ maxDepth ≤ o.depth) :
    visit scope maxDepth a.value o =
      ((visitAll scope maxDepth ((a.contents node).map (·.value)) (o.arrive scope node)).1,
        (visitAll scope maxDepth ((a.contents node).map (·.value)) (o.arrive scope node)).2.depart
          node) := by
  have hvalue : a.value = .obj node.fields := (toJson_of_node? hnode).symm
  have hnode' : (Json.obj node.fields).node? = some node := by rw [← hvalue, hnode]
  rw [hvalue, visit]
  simp only [hnode', hdepth, if_false]
  cases hkind : node.kind with
  | pkg =>
    cases hbody : node.field? "body" with
    | none =>
      cases hname : node.name? "ref" with
      | none => simp [hkind, hbody, hname, visitAll_statements]
      | some name => simp [hkind, hbody, hname, visitAll_statements]
    | some body =>
      cases hname : node.name? "ref" with
      | none => simp [hkind, hbody, hname, visitAll_part]
      | some name => simp [hkind, hbody, hname, visitAll_part]
  | pkgObject =>
    cases hname : node.name? "name" with
    | none => simp [hkind, hname]
    | some name => simp [hkind, hname, visitAll_part]
  | importStat => simp [hkind]
  | defnObject => cases hname : node.name? "name" <;> simp [hkind, hname]
  | defnClass => cases hname : node.name? "name" <;> simp [hkind, hname, visitAll_statements]
  | defnTrait => cases hname : node.name? "name" <;> simp [hkind, hname, visitAll_statements]
  | defnVal => cases hname : node.valName? <;> simp [hkind, hname]
  | defnType => cases hname : node.name? "name" <;> simp [hkind, hname]
  | _ => simp [hkind, visitAll_statements]

end Node

/-! ## A whole visit -/

/-- What is noted at a value on the spine. -/
def note (scope : Nat) (o : Outline) (b : SpineSite) : Outline :=
  match b.site.value.node? with
  | none => o
  | some node => o.noteNode scope b.packages node

def placed (packages : List String) (depth : Nat) (o : Outline) : Outline :=
  { o with packages, depth }

theorem note_placed (scope : Nat) (packages : List String) (depth : Nat) (o : Outline)
    (b : SpineSite) :
    (o.placed packages depth).note scope b = (o.note scope b).placed packages depth := by
  unfold note
  cases b.site.value.node? with
  | none => rfl
  | some node => rfl

/-- What is noted does not depend on where the visit stands. -/
theorem foldl_note_placed (scope : Nat) (packages : List String) (depth : Nat) (o : Outline)
    (bs : List SpineSite) :
    bs.foldl (note scope) (o.placed packages depth) =
      (bs.foldl (note scope) o).placed packages depth := by
  induction bs generalizing o with
  | nil => rfl
  | cons b bs ih => rw [List.foldl_cons, note_placed, ih, List.foldl_cons]

theorem depart_placed (node : Node) (o : Outline) :
    (o.placed (node.opened?.toList ++ o.packages) (o.depth + 1)).depart node = o := by
  cases hopened : node.opened? with
  | none => simp [depart, placed, hopened]
  | some name => simp [depart, placed, hopened]

theorem packages_foldl_note (scope : Nat) (o : Outline) (bs : List SpineSite) :
    (bs.foldl (note scope) o).packages = o.packages ∧
      (bs.foldl (note scope) o).depth = o.depth := by
  have h := foldl_note_placed scope o.packages o.depth o bs
  have hself : o.placed o.packages o.depth = o := rfl
  rw [hself] at h
  rw [h]
  exact ⟨rfl, rfl⟩

/-- The open scopes have no part in what is noted of declarations and supertypes. -/
theorem foldl_note_congr (scope : Nat) (bs : List SpineSite) {o o' : Outline}
    (htables : o.tables = o'.tables) (hheritage : o.heritage = o'.heritage) :
    (bs.foldl (note scope) o).tables = (bs.foldl (note scope) o').tables ∧
      (bs.foldl (note scope) o).heritage = (bs.foldl (note scope) o').heritage := by
  induction bs generalizing o o' with
  | nil => exact ⟨htables, hheritage⟩
  | cons b bs ih =>
    rw [List.foldl_cons, List.foldl_cons]
    unfold note
    cases b.site.value.node? with
    | none => exact ih htables hheritage
    | some node => exact ih (by simp [noteNode, htables]) (by simp [noteNode, hheritage])

/-- How a visit of values on the spine ends: each is noted, up to the first node that is too
deep. -/
def outcome (scope maxDepth : Nat) (bs : List SpineSite) (o : Outline) : Traversal × Outline :=
  (if bs.any (·.site.isTooDeep maxDepth) then .tooDeep else .complete,
    (bs.takeWhile fun b => !b.site.isTooDeep maxDepth).foldl (note scope) o)

/-- A visit stops at a node that is too deep and notes it otherwise. -/
theorem outcome_cons (scope maxDepth : Nat) (b : SpineSite) (bs : List SpineSite) (o : Outline) :
    outcome scope maxDepth (b :: bs) o =
      if b.site.isTooDeep maxDepth then (.tooDeep, o)
      else outcome scope maxDepth bs (o.note scope b) := by
  unfold outcome
  cases hb : b.site.isTooDeep maxDepth with
  | true => simp [hb]
  | false => simp [hb]

/-- Values are visited one part after another, unless the visit has stopped. -/
theorem outcome_append (scope maxDepth : Nat) (bs cs : List SpineSite) (o : Outline) :
    outcome scope maxDepth (bs ++ cs) o =
      match outcome scope maxDepth bs o with
      | (.complete, o) => outcome scope maxDepth cs o
      | (.tooDeep, o) => (.tooDeep, o) := by
  induction bs generalizing o with
  | nil => rfl
  | cons b bs ih =>
    rw [List.cons_append, outcome_cons, outcome_cons]
    split
    · rfl
    · exact ih _

theorem outcome_placed (scope maxDepth : Nat) (packages : List String) (depth : Nat) (o : Outline)
    (bs : List SpineSite) :
    outcome scope maxDepth bs (o.placed packages depth) =
      ((outcome scope maxDepth bs o).1, (outcome scope maxDepth bs o).2.placed packages depth) := by
  unfold outcome
  rw [foldl_note_placed]

/-- The state is that of a visit at a value on the spine. -/
structure StandsAt (o : Outline) (b : SpineSite) : Prop where
  packages : o.packages = b.packages.reverse
  depth : o.depth = b.site.around.length

theorem StandsAt.note {o : Outline} {b : SpineSite} (h : o.StandsAt b) (scope : Nat)
    (c : SpineSite) : (o.note scope c).StandsAt b := by
  obtain ⟨hpackages, hdepth⟩ := packages_foldl_note scope o [c]
  exact ⟨hpackages.trans h.packages, hdepth.trans h.depth⟩

theorem StandsAt.outcome {o : Outline} {b : SpineSite} (h : o.StandsAt b) (scope maxDepth : Nat)
    (bs : List SpineSite) : (outcome scope maxDepth bs o).2.StandsAt b := by
  obtain ⟨hpackages, hdepth⟩ := packages_foldl_note scope o
    (bs.takeWhile fun b => !b.site.isTooDeep maxDepth)
  exact ⟨hpackages.trans h.packages, hdepth.trans h.depth⟩

/-- The visit of values with the same surroundings, from the visits of each of them. -/
theorem visitAll_eq_outcome {scope maxDepth : Nat} {cs : List SpineSite}
    (hvisit : ∀ c ∈ cs, ∀ o : Outline, o.StandsAt c →
      visit scope maxDepth c.site.value o = outcome scope maxDepth c.spine o)
    {o : Outline} (ho : ∀ c ∈ cs, o.StandsAt c) :
    visitAll scope maxDepth (cs.map (·.site.value)) o =
      outcome scope maxDepth (cs.flatMap SpineSite.spine) o := by
  induction cs generalizing o with
  | nil => simp [visitAll, outcome]
  | cons c cs ih =>
    have hrest := fun (o' : Outline) (ho' : ∀ d ∈ cs, o'.StandsAt d) =>
      ih (fun d hd => hvisit d (List.mem_cons_of_mem c hd)) ho'
    rw [List.map_cons, List.flatMap_cons, visitAll, outcome_append,
      hvisit c List.mem_cons_self o (ho c List.mem_cons_self)]
    have hafter : ∀ d ∈ cs, (outcome scope maxDepth c.spine o).2.StandsAt d :=
      fun d hd => (ho d (List.mem_cons_of_mem c hd)).outcome scope maxDepth c.spine
    generalize outcome scope maxDepth c.spine o = r at hafter
    obtain ⟨e, o'⟩ := r
    cases e with
    | complete => exact hrest o' hafter
    | tooDeep => rfl

theorem visit_of_node?_eq_none {scope maxDepth : Nat} {v : Json} (h : v.node? = none)
    (o : Outline) : visit scope maxDepth v o = (.complete, o) := by
  cases v with
  | obj fields =>
    rw [visit]
    simp only [h]
  | _ => simp [visit]

/-- A node that is too deep is not noted. -/
theorem visit_of_isTooDeep {scope maxDepth : Nat} {b : SpineSite} {o : Outline}
    (ho : o.StandsAt b) (hb : b.site.isTooDeep maxDepth = true) :
    visit scope maxDepth b.site.value o = (.tooDeep, o) := by
  simp only [Site.isTooDeep, Bool.and_eq_true, decide_eq_true_eq] at hb
  obtain ⟨node, hnode⟩ := Option.isSome_iff_exists.1 hb.1
  have hdepth : maxDepth ≤ o.depth := by
    rw [ho.depth]
    exact hb.2
  have hvalue : b.site.value = .obj node.fields := (toJson_of_node? hnode).symm
  rw [hvalue] at hnode ⊢
  rw [visit]
  simp only [hnode, hdepth, if_true]

/-- A visit notes the values on the spine one after another, up to the first node that is too deep,
and leaves packages and depth as they were. -/
theorem visit_eq_outcome (scope maxDepth : Nat) (a : SpineSite) {o : Outline} (ho : o.StandsAt a) :
    visit scope maxDepth a.site.value o = outcome scope maxDepth a.spine o := by
  induction a using SpineSite.induction generalizing o with
  | step a ih =>
    rw [SpineSite.spine_eq, outcome_cons]
    cases hdeep : a.site.isTooDeep maxDepth with
    | true => rw [visit_of_isTooDeep ho hdeep, if_pos rfl]
    | false =>
      rw [if_neg Bool.false_ne_true]
      cases hnode : a.site.value.node? with
      | none =>
        have hchildren : a.children = [] := by simp [SpineSite.children, hnode]
        rw [visit_of_node?_eq_none hnode, hchildren]
        simp [outcome, note, hnode]
      | some node =>
        have hdepth : ¬ maxDepth ≤ o.depth := by
          rw [ho.depth]
          simpa [Site.isTooDeep, hnode] using hdeep
        have harrive : o.arrive scope node =
            (o.note scope a).placed (node.opened?.toList ++ o.packages) (o.depth + 1) := by
          simp [arrive, note, hnode, placed, ho.packages]
        have hvalues : (a.site.contents node).map (·.value) =
            a.children.map (·.site.value) := by
          simp [SpineSite.children, hnode, Function.comp_def]
        have hstands : ∀ c ∈ a.children, (o.arrive scope node).StandsAt c := by
          intro c hc
          obtain ⟨node', b, hnode', hb, rfl⟩ := SpineSite.mem_children_iff.1 hc
          rw [hnode, Option.some.injEq] at hnode'
          subst hnode'
          refine ⟨?_, ?_⟩
          · cases hopened : node.opened? <;> simp [arrive, hopened, ho.packages]
          · simp [arrive, ho.depth, Site.around_of_mem_contents hb, Site.within, hnode]
        -- behind the node the visit goes on as along the spine, and then packages and depth are
        -- restored
        have hbehind := visitAll_eq_outcome (fun c hc o ho => ih c hc ho) hstands
        have hafter := (ho.note scope a).outcome scope maxDepth (a.children.flatMap SpineSite.spine)
        rw [harrive, outcome_placed, ← hafter.packages.trans ho.packages.symm,
          ← hafter.depth.trans ho.depth.symm] at hbehind
        rw [visit_of_node? hnode hdepth, hvalues, harrive, ← hafter.packages.trans ho.packages.symm,
          ← hafter.depth.trans ho.depth.symm, hbehind, depart_placed]

end Outline
end SymbolIndex
