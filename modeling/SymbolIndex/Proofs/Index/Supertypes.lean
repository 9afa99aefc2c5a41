import SymbolIndex.Proofs.Index.Bindings
import SymbolIndex.Proofs.Json.Sorted
import SymbolIndex.Proofs.Outline.Heritage

/-!
# The supertypes of a summary

The supertypes of a declaration are resolved by one list of bindings for the whole file, in which
the last binding of a name counts:

- `Traversed` : the sites of the walk and of the outline, in order
- `bindingsAlong` : the bindings of the import statements among them
- `find?_supertypes` : the supertypes of a summary
-/

namespace SymbolIndex

/-- The sites inside a tree but not inside an import statement there, and the values on the spine,
both by increasing position. -/
structure Traversed (tree : Json) (inner : List Site) (spine : List SpineSite) : Prop where
  mem_inner : ∀ b, b ∈ inner ↔ (Site.root tree).Reaches importSkips b
  inner_ordered : inner.Pairwise fun b c => b.position < c.position
  mem_spine : ∀ b, b ∈ spine ↔ SpineSite.OnSpine tree b
  spine_ordered : spine.Pairwise fun b c => b.site.position < c.site.position

/-- The bindings of the import statements inside a tree, if they are wanted, and then of those on
the spine. -/
def bindingsAlong (options : Options) (inner : List Site) (spine : List SpineSite) : List Binding :=
  (if options.nestedImports then inner.flatMap (·.value.bindings) else []) ++
    spine.flatMap (·.site.value.bindings)

/-- In a sorted tree the walk and the visit go by increasing position. -/
theorem traversed_of_sorted {tree : Json} (h : tree.Sorted) :
    Traversed tree ((Site.root tree).inside importSkips) (SpineSite.root tree).spine where
  mem_inner _ := Site.mem_inside_iff
  inner_ordered := Site.pairwise_inside h
  mem_spine _ := SpineSite.mem_spine_iff
  spine_ordered := SpineSite.pairwise_spine _

theorem symbol_ne_empty_of_mem_bindings {v : Json} {b : Binding} (h : b ∈ v.bindings) :
    b.symbol ≠ some "" := by
  unfold Json.bindings at h
  split at h
  · exact Json.symbol_ne_empty_of_mem_importBindings h
  · cases h

theorem symbol_ne_empty_of_mem_bindingsAlong {options : Options} {inner : List Site}
    {spine : List SpineSite} {b : Binding} (h : b ∈ bindingsAlong options inner spine) :
    b.symbol ≠ some "" := by
  rcases List.mem_append.1 h with h | h
  · split at h
    · obtain ⟨c, -, hb⟩ := List.mem_flatMap.1 h
      exact symbol_ne_empty_of_mem_bindings hb
    · cases h
  · obtain ⟨c, -, hb⟩ := List.mem_flatMap.1 h
    exact symbol_ne_empty_of_mem_bindings hb

/-- Under a key stands what the spine writes there, in order. -/
theorem get?_heritage_outlineOf (options : Options) (tree : Json) (key : String) :
    (outlineOf options tree).heritage.get? key =
      nonempty? ((SpineSite.root tree).spine.flatMap (SpineSite.writes key)) := by
  have hnew : (Outline.new (Arena.new.addImports Arena.root
      (walkBindings options tree))).heritage.get? key = nonempty? [] := rfl
  exact Outline.get?_foldl_note hnew Arena.root

/-- A short name stands for the path that the file binds it to last. -/
theorem resolve_outlineOf (options : Options) (tree : Json) (symbol : String) :
    (outlineOf options tree).scopes.resolve Arena.root symbol =
      resolveIn (fileBindings options tree) symbol := by
  rw [scopes_outlineOf]
  exact Arena.resolve_root (fun _ => symbol_ne_empty_of_mem_bindingsAlong) symbol

/-- Under every key a summary has the supertypes that the declarations on the spine write, in order.
Each is replaced by what the last of the bindings of the file makes of it. An import on the spine
comes after every import elsewhere. -/
theorem find?_supertypes (options : Options) (filename : String) (tree : Json) (summary : Summary)
    (hsorted : tree.Sorted) (htree : tree.treeError? = none)
    (h : index options filename tree = .ok summary) :
    ∃ inner spine, Traversed tree inner spine ∧
      (∀ key, summary.supertypes.find? key =
        nonempty? ((spine.flatMap (SpineSite.writes key)).map
          (resolveIn (bindingsAlong options inner spine)))) ∧
      ∀ symbol, (∃ b ∈ spine.flatMap (·.site.value.bindings), b.symbol = some symbol) →
        resolveIn (bindingsAlong options inner spine) symbol =
          resolveIn (spine.flatMap (·.site.value.bindings)) symbol := by
  obtain ⟨w, -, -, hsummary⟩ := of_index_eq_ok htree h
  refine ⟨(Site.root tree).inside importSkips, (SpineSite.root tree).spine,
    traversed_of_sorted hsorted, ?_, ?_⟩
  · intro key
    have hresolve : (outlineOf options tree).scopes.resolve Arena.root =
        resolveIn (bindingsAlong options ((Site.root tree).inside importSkips)
          (SpineSite.root tree).spine) :=
      funext (resolve_outlineOf options tree)
    calc
      summary.supertypes.find? key
          = ((outlineOf options tree).heritage.resolve (outlineOf options tree).scopes
              Arena.root).get? key := by
            rw [hsummary]
            rfl
      _ = ((outlineOf options tree).heritage.get? key).map
            (List.map ((outlineOf options tree).scopes.resolve Arena.root)) :=
            Heritage.get?_resolve _ _ _ key
      _ = _ := by
            rw [get?_heritage_outlineOf, hresolve, map_map_nonempty?]
  · rintro symbol ⟨b, hb, hsymbol⟩
    exact resolveIn_append_of_mem hb hsymbol

theorem find?_supertypes_sample :
    sampleFile.Sorted ∧ sampleFile.treeError? = none ∧
      ∃ summary, index {} "X.scala" sampleFile = .ok summary ∧
        summary.supertypes.entries = [("class X", ["c.B"])] ∧
        ∃ inner spine, Traversed sampleFile inner spine ∧
          nonempty? ((spine.flatMap (SpineSite.writes "class X")).map
            (resolveIn (bindingsAlong {} inner spine))) = some ["c.B"] := by
  have hsorted : sampleFile.Sorted := by decide +kernel
  have hsupertypes : (index {} "X.scala" sampleFile).toOption.map (fun s => s.supertypes.entries) =
      some [("class X", ["c.B"])] := by decide +kernel
  obtain ⟨summary, hindex, hentries⟩ := exists_index_of_map hsupertypes
  obtain ⟨inner, spine, htraversed, hfind, -⟩ :=
    find?_supertypes {} "X.scala" sampleFile summary hsorted rfl hindex
  refine ⟨hsorted, rfl, summary, hindex, hentries, inner, spine, htraversed, ?_⟩
  rw [← hfind, Table.find?, hentries]
  rfl

end SymbolIndex
