import SymbolIndex.Proofs.Index.Bindings

/-!
# The imports of a summary

- `Json.Brings` : the import paths that a statement brings
- `SpineSite.reaches_of_mem_spine` : the walk comes to every import on the spine but the tree itself
- `mem_imports_iff` : the imports of a summary are those of the import statements inside the tree,
  or of those on the spine if nested imports are not wanted
-/

namespace SymbolIndex

/-- The value is an import statement, and one of its importers brings the path. -/
def Json.Brings (v : Json) (i : String) : Prop :=
  ∃ node, v.node? = some node ∧ node.kind = .importStat ∧
    ∃ importer ∈ node.seq "importers", ∃ b ∈ importer.importerBindings, b.path = i

/-- An import statement brings a path if and only if one of its bindings has it. -/
theorem Json.brings_iff {v : Json} {i : String} : v.Brings i ↔ ∃ b ∈ v.bindings, b.path = i := by
  unfold Brings bindings
  constructor
  · rintro ⟨node, hnode, hkind, importer, himporter, b, hb, hi⟩
    refine ⟨b, ?_, hi⟩
    rw [if_pos (isImport_iff.2 ⟨node, hnode, hkind⟩)]
    simp only [importBindings, hnode, List.mem_flatMap]
    exact ⟨importer, himporter, hb⟩
  · rintro ⟨b, hb, hi⟩
    split at hb
    · rename_i himport
      obtain ⟨node, hnode, hkind⟩ := isImport_iff.1 himport
      simp only [importBindings, hnode, List.mem_flatMap] at hb
      obtain ⟨importer, himporter, hb⟩ := hb
      exact ⟨node, hnode, hkind, importer, himporter, b, hb, hi⟩
    · cases hb

/-! ## The spine and the walk -/

/-- The spine goes on only to what the walk reaches as well. -/
theorem Site.reaches_of_mem_contents {a b : Site} {node : Node} (hnode : a.value.node? = some node)
    (hb : b ∈ a.contents node) : a.Reaches importSkips b := by
  rcases mem_contents_cases hb with ⟨name, x, hx, rfl⟩ | ⟨i, x, hx, rfl⟩
  · exact .child (Node.holds_of_field? hnode hx)
  · have hstats := Node.holds_of_field? hnode (Node.field?_of_mem_seq hx)
    exact .inner (.child hstats) rfl (.item hx)

theorem Site.isImport_eq_false_of_mem_contents {a b : Site} {node : Node}
    (hnode : a.value.node? = some node) (hb : b ∈ a.contents node) : a.value.isImport = false := by
  by_contra himport
  rw [Bool.not_eq_false] at himport
  obtain ⟨node', hnode', hkind⟩ := Json.isImport_iff.1 himport
  rw [hnode, Option.some.injEq] at hnode'
  subst hnode'
  simp [contents, hkind, Kind.passesOn] at hb

/-- What is behind a value on the spine, the walk reaches from there: no import statement lies
between them. -/
theorem SpineSite.reaches_of_mem_spine {a c : SpineSite} (h : c ∈ a.spine) :
    c = a ∨ a.site.value.isImport = false ∧ a.site.Reaches importSkips c.site := by
  induction a using SpineSite.induction with
  | step a ih =>
    rw [spine_eq] at h
    rcases List.mem_cons.1 h with rfl | h
    · exact Or.inl rfl
    · obtain ⟨d, hd, hcd⟩ := List.mem_flatMap.1 h
      obtain ⟨node, b, hnode, hb, rfl⟩ := mem_children_iff.1 hd
      have hreaches := Site.reaches_of_mem_contents hnode hb
      refine Or.inr ⟨Site.isImport_eq_false_of_mem_contents hnode hb, ?_⟩
      rcases ih _ hd hcd with rfl | ⟨hskip, hinner⟩
      · exact hreaches
      · exact hreaches.trans hskip hinner

/-! ## The imports of a file -/

theorem exists_path_flatMap_iff {α : Type} {xs : List α} {f : α → Json} {i : String} :
    (∃ b ∈ xs.flatMap (fun x => (f x).bindings), b.path = i) ↔ ∃ x ∈ xs, (f x).Brings i := by
  simp only [List.mem_flatMap, Json.brings_iff]
  constructor
  · rintro ⟨b, ⟨x, hx, hb⟩, hi⟩
    exact ⟨x, hx, b, hb, hi⟩
  · rintro ⟨x, hx, b, hb, hi⟩
    exact ⟨b, ⟨x, hx, hb⟩, hi⟩

/-- The paths that the walk records are those of the import statements that are not inside another
one. -/
theorem exists_path_walkBindings_iff {options : Options} {tree : Json} {i : String}
    (hnested : options.nestedImports = true) :
    (∃ b ∈ walkBindings options tree, b.path = i) ↔
      ∃ b, (Site.root tree).Reaches importSkips b ∧ b.value.Brings i := by
  rw [walkBindings, if_pos hnested, exists_path_flatMap_iff]
  simp only [Site.mem_inside_iff]

/-- The paths that the outline records are those of the import statements on the spine. -/
theorem exists_path_spineBindings_iff {tree : Json} {i : String} :
    (∃ b ∈ spineBindings tree, b.path = i) ↔
      ∃ b, SpineSite.OnSpine tree b ∧ b.site.value.Brings i := by
  rw [spineBindings, exists_path_flatMap_iff]
  simp only [SpineSite.mem_spine_iff]

/-- The imports of a file are what the walk and the spine bring. -/
theorem mem_imports_outlineOf_iff {options : Options} {tree : Json} {i : String} :
    i ∈ (outlineOf options tree).scopes.imports Arena.root ↔
      (∃ b ∈ walkBindings options tree, b.path = i) ∨
        ∃ b, SpineSite.OnSpine tree b ∧ b.site.value.Brings i := by
  rw [scopes_outlineOf, Arena.mem_imports_root, fileBindings, ← exists_path_spineBindings_iff]
  simp only [List.mem_append]
  constructor
  · rintro ⟨b, hb | hb, hi⟩
    · exact Or.inl ⟨b, hb, hi⟩
    · exact Or.inr ⟨b, hb, hi⟩
  · rintro (⟨b, hb, hi⟩ | ⟨b, hb, hi⟩)
    · exact ⟨b, Or.inl hb, hi⟩
    · exact ⟨b, Or.inr hb, hi⟩

/-- An import on the spine is one that the walk comes to, or the tree itself. -/
theorem reaches_of_onSpine_brings {tree : Json} {b : SpineSite} {i : String}
    (hb : SpineSite.OnSpine tree b) (hi : b.site.value.Brings i) :
    tree.Brings i ∨ ∃ c, (Site.root tree).Reaches importSkips c ∧ c.value.Brings i := by
  rcases SpineSite.reaches_of_mem_spine (SpineSite.mem_spine_iff.2 hb) with rfl | ⟨-, hreaches⟩
  · exact Or.inl hi
  · exact Or.inr ⟨b.site, hreaches, hi⟩

/-- With nested imports a summary has the imports of the tree and of every import statement inside
it that is not inside another one; all but those of the tree itself come from the walk. Without, it
has those of the import statements on the spine. -/
theorem mem_imports_iff (options : Options) (filename : String) (tree : Json) (summary : Summary)
    (htree : tree.treeError? = none) (h : index options filename tree = .ok summary) :
    ∃ w, walk (harvester options) options.maxDepth Arena.root tree ⟨[], .new, ∅⟩ = (.complete, w) ∧
      (options.nestedImports = true → ∀ i, i ∈ summary.imports ↔
        tree.Brings i ∨ ∃ b, (Site.root tree).Reaches importSkips b ∧ b.value.Brings i) ∧
      (options.nestedImports = false → ∀ i, i ∈ summary.imports ↔
        ∃ b, SpineSite.OnSpine tree b ∧ b.site.value.Brings i) ∧
      (options.nestedImports = true → ∀ i ∈ summary.imports,
        i ∈ w.scopes.imports Arena.root ∨ tree.Brings i) := by
  obtain ⟨w, hwalk, hscopes, hsummary⟩ := of_index_eq_ok htree h
  have himports : ∀ i, i ∈ summary.imports ↔
      (∃ b ∈ walkBindings options tree, b.path = i) ∨
        ∃ b, SpineSite.OnSpine tree b ∧ b.site.value.Brings i := by
    intro i
    rw [hsummary]
    exact mem_imports_outlineOf_iff
  refine ⟨w, hwalk, ?_, ?_, ?_⟩
  · intro hnested i
    rw [himports, exists_path_walkBindings_iff hnested]
    constructor
    · rintro (hwalked | ⟨b, hb, hi⟩)
      · exact Or.inr hwalked
      · -- what the spine brings is found by the walk too, but for the root
        exact reaches_of_onSpine_brings hb hi
    · rintro (hi | hwalked)
      · exact Or.inr ⟨SpineSite.root tree, .root, hi⟩
      · exact Or.inl hwalked
  · intro hflat i
    rw [himports, walkBindings, if_neg (by simp [hflat])]
    simp
  · intro hnested i hi
    rw [hscopes, Arena.mem_imports_root, exists_path_walkBindings_iff hnested]
    rcases (himports i).1 hi with hwalked | ⟨b, hb, hb'⟩
    · exact Or.inl ((exists_path_walkBindings_iff hnested).1 hwalked)
    · exact (reaches_of_onSpine_brings hb hb').symm

/-- The import inside the class counts with nested imports only. -/
theorem mem_imports_iff_sample :
    sampleFile.treeError? = none ∧
      ∃ nested flat, index {} "X.scala" sampleFile = .ok nested ∧
        index { nestedImports := false } "X.scala" sampleFile = .ok flat ∧
        nested.imports = ["a.B", "c.B"] ∧ flat.imports = ["c.B"] ∧
        (∃ b, (Site.root sampleFile).Reaches importSkips b ∧ b.value.Brings "a.B") ∧
        ¬ ∃ b, SpineSite.OnSpine sampleFile b ∧ b.site.value.Brings "a.B" := by
  have hnested : (index {} "X.scala" sampleFile).toOption.map Summary.imports =
      some ["a.B", "c.B"] := by decide +kernel
  have hflat :
      (index { nestedImports := false } "X.scala" sampleFile).toOption.map Summary.imports =
        some ["c.B"] := by decide +kernel
  obtain ⟨nested, hindex, himports⟩ := exists_index_of_map hnested
  obtain ⟨flat, hindex', himports'⟩ := exists_index_of_map hflat
  obtain ⟨-, -, hall, -, -⟩ := mem_imports_iff {} "X.scala" sampleFile nested rfl hindex
  obtain ⟨-, -, -, hspine, -⟩ :=
    mem_imports_iff { nestedImports := false } "X.scala" sampleFile flat rfl hindex'
  have hroot : ¬ sampleFile.Brings "a.B" := by
    rintro ⟨node, hnode, hkind, -⟩
    cases hnode
    cases hkind
  refine ⟨rfl, nested, flat, hindex, hindex', himports, himports', ?_, ?_⟩
  · exact ((hall rfl "a.B").1 (by simp [himports])).resolve_left hroot
  · intro hb
    have hmem := (hspine rfl "a.B").2 hb
    rw [himports'] at hmem
    simp at hmem

end SymbolIndex
