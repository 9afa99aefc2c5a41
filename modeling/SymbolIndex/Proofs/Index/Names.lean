import SymbolIndex.Proofs.Index.Bindings

/-!
# The names of a summary

- `Site.harvested?` : the name that the walk keeps at a site
- `mem_walkNames_iff` : the names that the walk keeps are those of the sites it comes to
- `Site.tags`, `Site.label` : a name together with the nodes down to where it stands
- `mem_names_iff` : the names of a summary are those of the values inside the tree, but not inside
  an import
-/

namespace SymbolIndex

/-- The name that the walk keeps at a site. Nothing is kept of a value that is not entered. -/
def Site.harvested? (options : Options) (b : Site) : Option String :=
  if harvestSkips options b.key b.value then none
  else harvestedName? options (b.offeredIn Arena.root)

theorem mem_harvest_snd {options : Options} {t : Arena × StringSet} {b : Site} {q : String} :
    q ∈ (harvest options t b).2 ↔ b.harvested? options = some q ∨ q ∈ t.2 := by
  unfold harvest Site.harvested?
  rcases harvestSkips_cases b.key b.value with ⟨hskip, hnull⟩ | ⟨hskip, hnested, himport⟩ | henter
  · rw [visit_harvester_of_isNull hnull, if_pos hskip]
    simp
  · rw [visit_harvester_of_isImport hnested himport, if_pos hskip]
    simp
  · rw [visit_harvester_of_not_skips henter, henter]
    cases harvestedName? options (b.offeredIn Arena.root) with
    | none => simp
    | some name => simp [eq_comm]

theorem mem_foldl_harvest_snd {options : Options} {bs : List Site} {t : Arena × StringSet}
    {q : String} :
    q ∈ (bs.foldl (harvest options) t).2 ↔ (∃ b ∈ bs, b.harvested? options = some q) ∨ q ∈ t.2 := by
  induction bs generalizing t with
  | nil => simp
  | cons b bs ih =>
    rw [List.foldl_cons, ih, mem_harvest_snd]
    simp only [List.mem_cons, exists_eq_or_imp]
    constructor
    · rintro (h | h | h)
      · exact Or.inl (Or.inr h)
      · exact Or.inl (Or.inl h)
      · exact Or.inr h
    · rintro ((h | h) | h)
      · exact Or.inr (Or.inl h)
      · exact Or.inl h
      · exact Or.inr (Or.inr h)

/-- The walk keeps the names of the sites that it reaches. -/
theorem mem_walkNames_iff {options : Options} {tree : Json} {q : String} :
    q ∈ walkNames options tree ↔
      ∃ b, (Site.root tree).Reaches (harvestSkips options) b ∧ b.harvested? options = some q := by
  rw [walkNames, mem_foldl_harvest_snd]
  constructor
  · rintro (⟨b, hb, hq⟩ | hq)
    · exact ⟨b, Site.mem_inside_iff.1 hb, hq⟩
    · exact absurd hq (StringSet.mem_empty q)
  · rintro ⟨b, hb, hq⟩
    exact Or.inl ⟨b, Site.mem_inside_iff.2 hb, hq⟩

/-! ## The names of a file -/

namespace Site

/-- The tags of the nodes from the tree down to the value, the value included. -/
def tags (b : Site) : List String :=
  b.within.reverse.map fun e => e.2.tag

/-- How a name that stands at a site is recorded. -/
def label (options : Options) (b : Site) (name : String) : String :=
  if options.annotateNameTypes then name ++ "<" ++ "/".intercalate b.tags ++ ">" else name

theorem tags_eq (b : Site) (scope : Nat) : (b.offeredIn scope).tags = b.tags := by
  unfold Offer.tags tags within
  rw [offeredIn_nodes, offeredIn_child, nodes]
  cases b.value.node? with
  | none => simp
  | some node => simp

/-- A site gives its name if that is one that counts, in the form that the options ask for. -/
theorem harvested?_eq_some_iff {options : Options} {b : Site} {q : String} :
    b.harvested? options = some q ↔
      (options.nestedImports && b.value.isImport) = false ∧
        ∃ name, b.value.name? = some name ∧ isIndexed name = true ∧ b.label options name = q := by
  have hkept : harvestedName? options (b.offeredIn Arena.root) = some q ↔
      ∃ name, b.value.name? = some name ∧ isIndexed name = true ∧ b.label options name = q := by
    simp only [harvestedName?, Offer.path, tags_eq, offeredIn_child, label, Option.map_eq_some_iff,
      Option.filter_eq_some_iff, and_assoc]
  unfold harvested? harvestSkips
  rw [← hkept]
  cases hvalue : b.value with
  | null =>
    -- null is not entered, and has no name either
    simp [Json.isNull, harvestedName?, hvalue, Json.name?]
  | _ => simp [Json.isNull]

end Site

/-- The names of a summary are those of the values inside the tree, if nested imports are wanted
without imports and what is inside them. Each is there once. -/
theorem mem_names_iff (options : Options) (filename : String) (tree : Json) (summary : Summary)
    (htree : tree.treeError? = none) (h : index options filename tree = .ok summary) :
    summary.names.Pairwise (· < ·) ∧
      ∀ q, q ∈ summary.names ↔
        ∃ b, (Site.root tree).Reaches (fun _ v => options.nestedImports && v.isImport) b ∧
          (options.nestedImports && b.value.isImport) = false ∧
          ∃ name, b.value.name? = some name ∧ isIndexed name = true ∧ b.label options name = q := by
  obtain ⟨-, -, -, hsummary⟩ := of_index_eq_ok htree h
  rw [hsummary]
  refine ⟨(walkNames options tree).sorted, ?_⟩
  intro q
  show q ∈ walkNames options tree ↔ _
  rw [mem_walkNames_iff]
  simp only [reaches_harvestSkips_iff, Site.harvested?_eq_some_iff]

theorem mem_names_iff_annotated :
    sampleFile.treeError? = none ∧
      ∃ summary, index { annotateNameTypes := true } "X.scala" sampleFile = .ok summary ∧
        summary.names =
          ["B<Source/Defn.Class/Template/Init/Type.Name>", "X<Source/Defn.Class/Type.Name>"] ∧
        ∀ q, q ∈ summary.names ↔
          ∃ b, (Site.root sampleFile).Reaches importSkips b ∧ b.value.isImport = false ∧
            ∃ name, b.value.name? = some name ∧ isIndexed name = true ∧
              name ++ "<" ++ "/".intercalate b.tags ++ ">" = q := by
  have hnames :
      (index { annotateNameTypes := true } "X.scala" sampleFile).toOption.map Summary.names =
      some ["B<Source/Defn.Class/Template/Init/Type.Name>", "X<Source/Defn.Class/Type.Name>"] := by
    decide +kernel
  obtain ⟨summary, hindex, hlist⟩ := exists_index_of_map hnames
  have hmem :=
    (mem_names_iff { annotateNameTypes := true } "X.scala" sampleFile summary rfl hindex).2
  exact ⟨rfl, summary, hindex, hlist, hmem⟩

end SymbolIndex
