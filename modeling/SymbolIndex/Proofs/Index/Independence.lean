import SymbolIndex.Proofs.Index.Depth
import SymbolIndex.Proofs.Index.Names

/-!
# What each option changes

Two runs on the same tree that differ in one option only:

- `Summary.SameDeclarations` : two summaries agree on packages and declarations
- `Admitted.mono` : a larger limit and fewer values to enter admit more trees
- `outlineOf_congr` : the walk has no part in declarations and in supertypes as they are written
- `index_of_changed_options` : what a change of one option does to the summary
-/

namespace SymbolIndex

/-- Two summaries have the same packages and declarations. -/
structure Summary.SameDeclarations (s t : Summary) : Prop where
  packages : s.packages = t.packages
  classes : s.classes = t.classes
  traits : s.traits = t.traits
  objects : s.objects = t.objects
  vals : s.vals = t.vals
  types : s.types = t.types

theorem sameDeclarations_summarize {options options' : Options} {filename : String}
    {tree tree' : Json} {names names' : StringSet} {o o' : Outline} (h : o.tables = o'.tables) :
    (summarize options filename tree names o).SameDeclarations
      (summarize options' filename tree' names' o') := by
  constructor <;> simp only [summarize, h]

/-! ## Success -/

theorem Site.isTooDeep_mono {maxDepth maxDepth' : Nat} (hdepth : maxDepth ≤ maxDepth') {b : Site}
    (hb : b.isTooDeep maxDepth = false) : b.isTooDeep maxDepth' = false := by
  rw [isTooDeep_eq_false_iff] at hb ⊢
  intro hnode
  exact (hb hnode).trans hdepth

theorem harvestSkips_mono {options options' : Options}
    (hnested : options.nestedImports = true → options'.nestedImports = true) (key : String)
    (v : Json) (hskip : harvestSkips options key v = true) :
    harvestSkips options' key v = true := by
  simp only [harvestSkips, Bool.or_eq_true, Bool.and_eq_true] at hskip ⊢
  exact hskip.imp id fun h => ⟨hnested h.1, h.2⟩

/-- A tree stays admitted if the limit is raised or more is skipped. -/
theorem Admitted.mono {options : Options} {tree : Json} (h : Admitted options tree)
    (options' : Options) (hdepth : options.maxDepth ≤ options'.maxDepth)
    (hnested : options.nestedImports = true → options'.nestedImports = true) :
    Admitted options' tree := by
  refine ⟨Site.isTooDeep_mono hdepth h.root, ?_,
    fun b hb => Site.isTooDeep_mono hdepth (h.outlined b hb)⟩
  intro b hb
  have hhalts := h.walked b (hb.mono (harvestSkips_mono hnested))
  unfold Site.halts at hhalts ⊢
  -- what is not entered any more cannot stop the walk; what still is was not too deep before
  cases hskip' : harvestSkips options' b.key b.value with
  | true => rfl
  | false =>
    have hskip : harvestSkips options b.key b.value = false := by
      by_contra hskip
      rw [harvestSkips_mono hnested b.key b.value (by simpa using hskip)] at hskip'
      cases hskip'
    rw [hskip] at hhalts
    exact Site.isTooDeep_mono hdepth hhalts

/-- Options with the same limit and the same choice about nested imports admit the same trees. -/
theorem index_eq_map {options : Options} (options' : Options) {filename : String} {tree : Json}
    {f : Summary → Summary} (htree : tree.treeError? = none)
    (hdepth : options.maxDepth = options'.maxDepth)
    (hnested : options.nestedImports = options'.nestedImports)
    (hf : summarize options' filename tree (walkNames options' tree) (outlineOf options' tree) =
      f (summarize options filename tree (walkNames options tree) (outlineOf options tree))) :
    index options' filename tree = (index options filename tree).map f := by
  by_cases h : Admitted options tree
  · have h' : Admitted options' tree := h.mono options' hdepth.le hnested.symm.trans
    rw [index_of_admitted htree h, index_of_admitted htree h', hf]
    rfl
  · have h' : ¬ Admitted options' tree := fun h' => h (h'.mono options hdepth.ge hnested.trans)
    rw [index_of_not_admitted htree h, index_of_not_admitted htree h', hdepth]
    rfl

/-! ## What is collected -/

/-- Declarations and supertypes do not depend on the options. -/
theorem outlineOf_congr (options options' : Options) (tree : Json) :
    (outlineOf options tree).tables = (outlineOf options' tree).tables ∧
      (outlineOf options tree).heritage = (outlineOf options' tree).heritage :=
  Outline.foldl_note_congr Arena.root (SpineSite.root tree).spine rfl rfl

theorem map_length_resolve (h : Heritage) (scopes : Arena) (scope : Nat) :
    (h.resolve scopes scope).entries.map List.length = h.entries.map List.length := by
  simp [Heritage.resolve, Table.map, Function.comp_def]

/-- Names are only added if import statements are entered as well. -/
theorem walkNames_mono {options : Options} {tree : Json} {q : String}
    (hq : q ∈ walkNames options tree) (options' : Options)
    (hnested : options'.nestedImports = true → options.nestedImports = true)
    (hannotate : options.annotateNameTypes = options'.annotateNameTypes) :
    q ∈ walkNames options' tree := by
  obtain ⟨b, hreached, hb⟩ := mem_walkNames_iff.1 hq
  refine mem_walkNames_iff.2 ⟨b, hreached.mono (harvestSkips_mono hnested), ?_⟩
  unfold Site.harvested? at hb ⊢
  split at hb
  · cases hb
  · rename_i hskip
    rw [if_neg fun hskip' => hskip (harvestSkips_mono hnested _ _ hskip')]
    simpa only [harvestedName?, hannotate] using hb

/-! ## The options -/

/-- A larger limit changes nothing once indexing succeeds. Whether the printed tree is wanted
decides on that field alone, and whether names are annotated decides on the names alone; neither
decides on success. If indexing succeeds without nested imports, it succeeds with them: declarations
stay as they are, and so does the number of supertypes under each key; there may be more imports and
fewer names. -/
theorem index_of_changed_options (options : Options) (filename : String) (tree : Json)
    (htree : tree.treeError? = none) :
    (∀ summary maxDepth, options.maxDepth ≤ maxDepth → index options filename tree = .ok summary →
      index { options with maxDepth } filename tree = .ok summary) ∧
    (∀ wantParseTree, index { options with wantParseTree } filename tree =
      (index options filename tree).map fun s =>
        { s with tree := if wantParseTree then some (tree.pretty treeIndent) else none }) ∧
    (∀ annotateNameTypes, ∃ names, index { options with annotateNameTypes } filename tree =
      (index options filename tree).map fun s => { s with names }) ∧
    ∀ flat, index { options with nestedImports := false } filename tree = .ok flat →
      ∃ nested, index { options with nestedImports := true } filename tree = .ok nested ∧
        flat.SameDeclarations nested ∧
        flat.supertypes.map List.length = nested.supertypes.map List.length ∧
        flat.imports ⊆ nested.imports ∧ nested.names ⊆ flat.names := by
  refine ⟨?_, ?_, ?_, ?_⟩
  · intro summary maxDepth hdepth h
    obtain ⟨hadmitted, rfl⟩ := (index_eq_ok_iff htree).1 h
    exact index_of_admitted htree (hadmitted.mono { options with maxDepth } hdepth id) filename
  · intro wantParseTree
    exact index_eq_map { options with wantParseTree } htree rfl rfl rfl
  · intro annotateNameTypes
    exact ⟨(walkNames { options with annotateNameTypes } tree).toList,
      index_eq_map { options with annotateNameTypes } htree rfl rfl rfl⟩
  · intro flat h
    obtain ⟨hadmitted, rfl⟩ := (index_eq_ok_iff htree).1 h
    -- with nested imports the walk skips more, so that what was not too deep still is not
    have hadmitted' : Admitted { options with nestedImports := true } tree :=
      hadmitted.mono _ le_rfl fun _ => rfl
    obtain ⟨htables, hheritage⟩ := outlineOf_congr { options with nestedImports := false }
      { options with nestedImports := true } tree
    refine ⟨_, index_of_admitted htree hadmitted' filename, sameDeclarations_summarize htables,
      ?_, ?_, ?_⟩
    · simp only [summarize, map_length_resolve, hheritage]
    · intro i hi
      rcases mem_imports_outlineOf_iff.1 hi with ⟨b, hb, -⟩ | hspine
      · cases hb
      · exact mem_imports_outlineOf_iff.2 (Or.inr hspine)
    · intro q hq
      exact walkNames_mono hq { options with nestedImports := false } (fun _ => rfl) rfl

/-- With nested imports the import inside the class of the file counts too. -/
theorem index_of_changed_options_sample :
    sampleFile.treeError? = none ∧
      ∃ flat nested, index { nestedImports := false } "X.scala" sampleFile = .ok flat ∧
        index {} "X.scala" sampleFile = .ok nested ∧ flat.SameDeclarations nested ∧
        flat.supertypes.map List.length = nested.supertypes.map List.length ∧
        flat.imports ⊆ nested.imports ∧ nested.names ⊆ flat.names := by
  obtain ⟨-, -, -, hnested⟩ := index_of_changed_options {} "X.scala" sampleFile rfl
  have himports : (index { nestedImports := false } "X.scala" sampleFile).toOption.map
      Summary.imports = some ["c.B"] := by decide +kernel
  obtain ⟨flat, hflat, -⟩ := exists_index_of_map himports
  obtain ⟨nested, hrest⟩ := hnested flat hflat
  exact ⟨rfl, flat, nested, hflat, hrest⟩

end SymbolIndex
