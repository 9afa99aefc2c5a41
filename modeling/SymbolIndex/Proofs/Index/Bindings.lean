import SymbolIndex.Index.Basic
import SymbolIndex.Proofs.Outline.Declarations
import SymbolIndex.Proofs.Scope.Root
import SymbolIndex.Proofs.Walk.Run

/-!
# The bindings of a file

Indexing a tree writes imports to the scopes twice: first a walk, then the outline. This file shows
that the root scope ends up with one list of bindings, those of the walk before those of the
outline:

- `Json.bindings` : the bindings of a value that is an import statement
- `walkBindings`, `spineBindings` : the bindings that the walk and the outline record
- `walk_harvester` : the scopes and names after the walk
- `scopes_foldl_note` : the scopes after the outline
- `of_index_eq_ok` : what a summary is made of
-/

namespace SymbolIndex

/-- The bindings of a value that is an import statement; any other value has none. -/
def Json.bindings (v : Json) : List Binding :=
  if v.isImport then v.importBindings else []

theorem Json.isImport_iff {v : Json} :
    v.isImport = true ↔ ∃ node, v.node? = some node ∧ node.kind = .importStat := by
  unfold Json.isImport
  cases v.node? with
  | none => simp
  | some node => simp

/-! ## The walk -/

/-- Nothing inside an import statement is looked at. -/
def importSkips (_ : String) (v : Json) : Bool :=
  v.isImport

/-- What the walk for names does not enter. -/
def harvestSkips (options : Options) (_ : String) (v : Json) : Bool :=
  v.isNull || (options.nestedImports && v.isImport)

section Harvester

variable {options : Options} {o : Offer} {a : Arena} {names : StringSet}

theorem visit_harvester_of_isNull (h : o.child.isNull = true) :
    (harvester options).visit o a names = (.skip, a, names) := by
  simp [harvester, h]

/-- An import statement is recorded and not entered, if nested imports are wanted. -/
theorem visit_harvester_of_isImport (hnested : options.nestedImports = true)
    (h : o.child.isImport = true) :
    (harvester options).visit o a names = (.skip, a.recordImport o.scope o.child, names) := by
  have hnull : o.child.isNull = false := by
    cases hchild : o.child with
    | null =>
      rw [hchild] at h
      cases h
    | _ => rfl
  simp [harvester, hnull, hnested, h]

/-- Any other value is entered, and its name is kept if it has one that counts. -/
theorem visit_harvester_of_not_skips (h : harvestSkips options o.key o.child = false) :
    (harvester options).visit o a names =
      (.enter, a, ((harvestedName? options o).map names.insert).getD names) := by
  simp only [harvestSkips, Bool.or_eq_false_iff] at h
  simp only [harvester, h.1, h.2, Bool.false_eq_true, if_false]
  cases harvestedName? options o with
  | none => rfl
  | some name => rfl

/-- What is not entered is null, or an import statement that is recorded. -/
theorem harvestSkips_cases (key : String) (v : Json) :
    (harvestSkips options key v = true ∧ v.isNull = true) ∨
      (harvestSkips options key v = true ∧ options.nestedImports = true ∧ v.isImport = true) ∨
      harvestSkips options key v = false := by
  unfold harvestSkips
  cases v.isNull <;> cases options.nestedImports <;> cases v.isImport <;> simp

end Harvester

/-- What the walk for names does at a site, seen from the root scope. -/
def harvest (options : Options) (t : Arena × StringSet) (b : Site) : Arena × StringSet :=
  ((harvester options).visit (b.offeredIn Arena.root) t.1 t.2).2

/-- The visitor that collects names does at each site what `harvest` says. -/
theorem harvester_follows (options : Options) :
    (harvester options).Follows Arena.new Arena.root (harvestSkips options)
      (fun a names => (a.below Arena.new.size, names)) (harvest options) := by
  refine ⟨?_, ?_, ?_, ?_, ?_⟩
  · intro b a names _
    rcases harvestSkips_cases b.key b.value with ⟨hskip, hnull⟩ | ⟨hskip, hnested, himport⟩ | henter
    · rw [visit_harvester_of_isNull hnull, if_pos hskip]
    · rw [visit_harvester_of_isImport hnested himport, if_pos hskip]
    · rw [visit_harvester_of_not_skips henter, henter]
      rfl
  · intro b a names _
    rcases harvestSkips_cases b.key b.value with ⟨hskip, hnull⟩ | ⟨hskip, hnested, himport⟩ | henter
    · rw [visit_harvester_of_isNull hnull]
    · rw [visit_harvester_of_isImport hnested himport]
      exact Arena.skeleton_recordImport a _ b.value
    · rw [visit_harvester_of_not_skips henter]
  · intro b a names ha
    have hrecord : (a.recordImport (Arena.new.innermost Arena.root b.keys) b.value).below
        Arena.new.size = (a.below Arena.new.size).recordImport Arena.root b.value :=
      Arena.nested_new.below_addImports (by decide) ha b.value.importBindings
    unfold harvest
    rcases harvestSkips_cases b.key b.value with ⟨hskip, hnull⟩ | ⟨hskip, hnested, himport⟩ | henter
    · rw [visit_harvester_of_isNull hnull, visit_harvester_of_isNull hnull]
    · rw [visit_harvester_of_isImport hnested himport, visit_harvester_of_isImport hnested himport]
      exact Prod.ext hrecord rfl
    · rw [visit_harvester_of_not_skips henter, visit_harvester_of_not_skips henter]
      rfl
  · intro a names name parent hsize
    rw [Arena.below_push hsize]
  · intro a names id hid
    rw [Arena.below_pop hid]

theorem harvest_fst (options : Options) (t : Arena × StringSet) (b : Site) :
    (harvest options t b).1 =
      t.1.addImports Arena.root (if options.nestedImports then b.value.bindings else []) := by
  unfold harvest
  rcases harvestSkips_cases b.key b.value with ⟨hskip, hnull⟩ | ⟨hskip, hnested, himport⟩ | henter
  · have hbindings : b.value.bindings = [] := by
      cases hvalue : b.value with
      | null => rfl
      | _ =>
        rw [hvalue] at hnull
        cases hnull
    rw [visit_harvester_of_isNull hnull, hbindings, ite_self]
    rfl
  · rw [visit_harvester_of_isImport hnested himport, if_pos hnested, Json.bindings, if_pos himport]
    rfl
  · have hnone : (if options.nestedImports then b.value.bindings else []) = [] := by
      simp only [harvestSkips, Bool.or_eq_false_iff, Bool.and_eq_false_iff] at henter
      rcases henter.2 with hoff | hother
      · simp [hoff]
      · simp [Json.bindings, hother]
    rw [visit_harvester_of_not_skips henter, hnone]
    rfl

/-- Over many sites, the root scope gets the bindings of all of them in order. -/
theorem foldl_harvest_fst (options : Options) (bs : List Site) (t : Arena × StringSet) :
    (bs.foldl (harvest options) t).1 =
      t.1.addImports Arena.root
        (bs.flatMap fun b => if options.nestedImports then b.value.bindings else []) := by
  induction bs generalizing t with
  | nil => rfl
  | cons b bs ih =>
    rw [List.foldl_cons, ih, harvest_fst, List.flatMap_cons, Arena.addImports_append]

/-- Null is skipped too, but there is nothing inside it. -/
theorem inside_harvestSkips (options : Options) (a : Site) :
    a.inside (harvestSkips options) = a.inside fun _ v => options.nestedImports && v.isImport := by
  refine Site.inside_congr ?_ a
  rintro key v ⟨s, x, hx⟩
  cases hx with
  | item _ => simp [harvestSkips, Json.isNull]
  | field _ => simp [harvestSkips, Json.isNull]

/-- Null holds nothing, so it does not matter for what is reached that it is skipped. -/
theorem reaches_harvestSkips_iff {options : Options} {a b : Site} :
    a.Reaches (harvestSkips options) b ↔
      a.Reaches (fun _ v => options.nestedImports && v.isImport) b := by
  rw [← Site.mem_inside_iff, ← Site.mem_inside_iff, inside_harvestSkips]

/-- The bindings that the walk records, in order. -/
def walkBindings (options : Options) (tree : Json) : List Binding :=
  if options.nestedImports then ((Site.root tree).inside importSkips).flatMap (·.value.bindings)
  else []

/-- The bindings of the walk are those of the sites that it offers. -/
theorem walkBindings_eq (options : Options) (tree : Json) :
    walkBindings options tree = ((Site.root tree).inside (harvestSkips options)).flatMap fun b =>
      if options.nestedImports then b.value.bindings else [] := by
  unfold walkBindings
  cases hnested : options.nestedImports with
  | false => simp
  | true =>
    have hsame : (Site.root tree).inside (harvestSkips options) =
        (Site.root tree).inside importSkips := by
      rw [inside_harvestSkips, hnested]
      rfl
    simp [hsame]

/-- The names that the walk keeps. -/
def walkNames (options : Options) (tree : Json) : StringSet :=
  (((Site.root tree).inside (harvestSkips options)).foldl (harvest options) (Arena.new, ∅)).2

/-- The scopes and names after a walk that ends. -/
theorem walk_harvester {options : Options} {maxDepth : Nat} {tree : Json} {w : Walk StringSet}
    (h : walk (harvester options) maxDepth Arena.root tree ⟨[], .new, ∅⟩ = (.complete, w)) :
    w.scopes = Arena.new.addImports Arena.root (walkBindings options tree) ∧
      w.seen = walkNames options tree := by
  obtain ⟨hskeleton, hview, -, -⟩ :=
    Walk.of_walk_complete (harvester_follows options) (by decide) h
  have hsize : Arena.new.size = w.scopes.size := (Arena.size_eq_of_skeleton hskeleton).symm
  rw [hsize, Arena.below_size, ← hsize, Arena.below_size] at hview
  refine ⟨?_, congrArg Prod.snd hview⟩
  rw [walkBindings_eq, ← foldl_harvest_fst options _ (Arena.new, ∅)]
  exact congrArg Prod.fst hview

/-! ## The outline -/

/-- The bindings that the outline records, in order. -/
def spineBindings (tree : Json) : List Binding :=
  (SpineSite.root tree).spine.flatMap (·.site.value.bindings)

/-- Of a value on the spine the scopes get its bindings, and nothing else. -/
theorem scopes_note (o : Outline) (b : SpineSite) :
    (o.note Arena.root b).scopes = o.scopes.addImports Arena.root b.site.value.bindings := by
  unfold Outline.note
  cases hnode : b.site.value.node? with
  | none =>
    have hnone : b.site.value.bindings = [] := by simp [Json.bindings, Json.isImport, hnode]
    rw [hnone]
    rfl
  | some node =>
    have hvalue : node.toJson = b.site.value := toJson_of_node? hnode
    by_cases hkind : node.kind = .importStat
    · have hbindings : b.site.value.bindings = b.site.value.importBindings :=
        if_pos (Json.isImport_iff.2 ⟨node, hnode, hkind⟩)
      simp [Outline.noteNode, Node.bring, hkind, hvalue, hbindings, Arena.recordImport]
    · have hnone : b.site.value.bindings = [] := by
        simp [Json.bindings, Json.isImport, hnode, hkind]
      simp [Outline.noteNode, Node.bring, hkind, hnone, Arena.addImports]

theorem scopes_foldl_note (bs : List SpineSite) (o : Outline) :
    (bs.foldl (Outline.note Arena.root) o).scopes =
      o.scopes.addImports Arena.root (bs.flatMap (·.site.value.bindings)) := by
  induction bs generalizing o with
  | nil => rfl
  | cons b bs ih =>
    rw [List.foldl_cons, ih, scopes_note, List.flatMap_cons, Arena.addImports_append]

/-! ## The summary -/

/-- The bindings of a whole file, those of the walk first. -/
def fileBindings (options : Options) (tree : Json) : List Binding :=
  walkBindings options tree ++ spineBindings tree

/-- The outline of a tree, with the imports of the walk already in the root scope. -/
def outlineOf (options : Options) (tree : Json) : Outline :=
  (SpineSite.root tree).spine.foldl (Outline.note Arena.root)
    (.new (Arena.new.addImports Arena.root (walkBindings options tree)))

/-- A name is in a table if and only if something on the spine declares it there. -/
theorem mem_tables_outlineOf_iff {options : Options} {tree : Json} {part : Tables.Part}
    {q : String} :
    q ∈ (outlineOf options tree).tables.get part ↔ ∃ b node name, SpineSite.OnSpine tree b ∧
      b.site.value.node? = some node ∧ node.Declares name part ∧
        q = ".".intercalate (b.packages ++ [name]) := by
  rw [outlineOf, Outline.mem_tables_foldl_note]
  constructor
  · rintro (⟨b, hb, node, name, hnode, hname, hq⟩ | hq)
    · exact ⟨b, node, name, SpineSite.mem_spine_iff.1 hb, hnode, hname, hq⟩
    · exact absurd hq (Tables.not_mem_get_empty part q)
  · rintro ⟨b, node, name, hb, hnode, hname, hq⟩
    exact Or.inl ⟨b, SpineSite.mem_spine_iff.2 hb, node, name, hnode, hname, hq⟩

/-- What a summary is made of. -/
theorem of_index_eq_ok {options : Options} {filename : String} {tree : Json} {summary : Summary}
    (htree : tree.treeError? = none) (h : index options filename tree = .ok summary) :
    ∃ w, walk (harvester options) options.maxDepth Arena.root tree ⟨[], .new, ∅⟩ = (.complete, w) ∧
      w.scopes = Arena.new.addImports Arena.root (walkBindings options tree) ∧
      summary =
        summarize options filename tree (walkNames options tree) (outlineOf options tree) := by
  unfold index at h
  simp only [htree] at h
  split at h
  · cases h
  · rename_i w hwalk
    obtain ⟨hscopes, hnames⟩ := walk_harvester hwalk
    refine ⟨w, hwalk, hscopes, ?_⟩
    split at h
    · cases h
    · rename_i outline hvisit
      obtain ⟨houtline, -⟩ := Outline.eq_foldl_of_visit hvisit
      injection h with h
      rw [← h, houtline, hscopes, hnames]
      rfl

/-- The root scope of a file holds the bindings of the walk and those of the spine. -/
theorem scopes_outlineOf (options : Options) (tree : Json) :
    (outlineOf options tree).scopes =
      Arena.new.addImports Arena.root (fileBindings options tree) := by
  rw [outlineOf, scopes_foldl_note, fileBindings, Arena.addImports_append]
  rfl

/-! ## A file with two imports of one name -/

/-- The name `B` is imported from `c`, and later from `a` inside a class `X` that extends `B`. -/
def sampleFile : Json :=
  .obj [
    ("stats", .arr [
      importOf "c" "B",
      .obj [
        ("name", .obj [("type", .str "Type.Name"), ("value", .str "X")]),
        ("templ", .obj [
          ("inits", .arr [.obj [
            ("tpe", .obj [("type", .str "Type.Name"), ("value", .str "B")]),
            ("type", .str "Init")]]),
          ("stats", .arr [importOf "a" "B"]),
          ("type", .str "Template")]),
        ("type", .str "Defn.Class")]]),
    ("type", .str "Source")]

/-- What is known of the summary of a file is known of a summary. -/
theorem exists_index_of_map {α : Type} {options : Options} {filename : String} {tree : Json}
    {f : Summary → α} {x : α} (h : (index options filename tree).toOption.map f = some x) :
    ∃ summary, index options filename tree = .ok summary ∧ f summary = x := by
  cases hindex : index options filename tree with
  | error fault =>
    rw [hindex] at h
    cases h
  | ok summary =>
    rw [hindex] at h
    exact ⟨summary, rfl, Option.some.inj h⟩

end SymbolIndex
