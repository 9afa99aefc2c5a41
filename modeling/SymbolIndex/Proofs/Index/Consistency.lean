import SymbolIndex.Proofs.Index.Depth
import SymbolIndex.Proofs.Index.Supertypes
import SymbolIndex.Proofs.Text.Utf8
import SymbolIndex.Proofs.Tree.Reference
import Mathlib.Data.List.Forall2

/-!
# Summaries are consistent

What the parts of a summary have to do with each other and with the tree:

- `Increasing` : a list of texts in the order of their bytes
- `Summary.Consistent` : the lists are ordered, names are qualified by packages that are listed, and
  supertypes belong to declarations that are listed
- `SpineSite.OnSpine.packages_declared` : the packages around a value on the spine are listed
- `resolveIn_cases` : a supertype stays as written, or becomes an import that ends in it
- `index_consistent` : every summary without an error is consistent
-/

namespace SymbolIndex

/-- Each text comes strictly before the next one in the order of UTF-8 bytes. -/
def Increasing (xs : List String) : Prop :=
  xs.Pairwise fun x y => Utf8.encode x < Utf8.encode y

theorem StringSet.increasing (s : StringSet) : Increasing s.toList :=
  s.sorted.imp Utf8.encode_lt

/-- The table in which declarations of a kind are listed. -/
def DeclKind.part : DeclKind → Tables.Part
  | .classDecl => .classes
  | .traitDecl => .traits
  | .objectDecl => .objects

namespace Summary

def get (s : Summary) : Tables.Part → List String
  | .packages => s.packages
  | .classes => s.classes
  | .traits => s.traits
  | .objects => s.objects
  | .vals => s.vals
  | .types => s.types

/-- The parts of a summary fit together and fit the tree. -/
structure Consistent (tree : Json) (s : Summary) : Prop where
  declarations_increasing : ∀ part, Increasing (s.get part)
  imports_increasing : Increasing s.imports
  names_increasing : Increasing s.names
  /-- A name is that of a declaration on the spine, alone or behind a package that is listed. -/
  qualified : ∀ part, ∀ q ∈ s.get part, ∃ b node name, SpineSite.OnSpine tree b ∧
    b.site.value.node? = some node ∧ node.Declares name part ∧
      (q = name ∨ ∃ p ∈ s.packages, q = p ++ "." ++ name)
  /-- Supertypes are kept for declarations that are listed. -/
  keyed : ∀ key supertypes, (key, supertypes) ∈ s.supertypes.entries →
    ∃ (kind : DeclKind) (q : String), key = kind.key q ∧ q ∈ s.get kind.part
  nonempty : ∀ key supertypes, (key, supertypes) ∈ s.supertypes.entries →
    supertypes ≠ [] ∧ ∀ t ∈ supertypes, t ≠ ""
  /-- Each supertype is as written, or an import that ends in what is written. -/
  resolved : ∀ key supertypes, (key, supertypes) ∈ s.supertypes.entries →
    List.Forall₂ (fun written t => t = written ∨ t ∈ s.imports ∧ ∃ p, t = p ++ "." ++ written)
      ((SpineSite.root tree).spine.flatMap (SpineSite.writes key)) supertypes

end Summary

/-! ## Qualified names -/

/-- The packages around a value on the spine, joined, are a package that is declared. -/
theorem SpineSite.OnSpine.packages_declared {options : Options} {tree : Json} {b : SpineSite}
    (h : OnSpine tree b) : b.packages = [] ∨
      ".".intercalate b.packages ∈ (outlineOf options tree).tables.get .packages := by
  -- a package that is opened has been declared by the same node
  have hopened : ∀ {a : SpineSite} {node : Node} {name : String}, OnSpine tree a →
      a.site.value.node? = some node → node.Declares name .packages →
      ".".intercalate (a.packages ++ [name]) ∈ (outlineOf options tree).tables.get .packages :=
    fun ha hnode hname => mem_tables_outlineOf_iff.2 ⟨_, _, _, ha, hnode, hname, rfl⟩
  have hpkg : ∀ {a : SpineSite} {node : Node}, OnSpine tree a → a.site.value.node? = some node →
      node.kind = .pkg →
      (a.packages = [] ∨
        ".".intercalate a.packages ∈ (outlineOf options tree).tables.get .packages) →
      (a.packages ++ (node.name? "ref").toList = [] ∨
        ".".intercalate (a.packages ++ (node.name? "ref").toList) ∈
          (outlineOf options tree).tables.get .packages) := by
    intro a node ha hnode hkind ih
    cases href : node.name? "ref" with
    | none => simpa using ih
    | some name => exact Or.inr (hopened ha hnode (Or.inl ⟨hkind, href⟩))
  induction h with
  | root => exact Or.inl rfl
  | statement _ _ _ _ ih => exact ih
  | body ha hnode hkind _ ih => exact hpkg ha hnode hkind ih
  | packaged ha hnode hkind _ _ ih => exact hpkg ha hnode hkind ih
  | template ha hnode hkind hname _ _ => exact Or.inr (hopened ha hnode (Or.inr ⟨hkind, hname⟩))

/-- A qualified name is either a local name or lies in a package that is recorded too. -/
theorem qualified_of_mem_tables {options : Options} {tree : Json} {part : Tables.Part} {q : String}
    (hq : q ∈ (outlineOf options tree).tables.get part) :
    ∃ b node name, SpineSite.OnSpine tree b ∧ b.site.value.node? = some node ∧
      node.Declares name part ∧ (q = name ∨
        ∃ p ∈ (outlineOf options tree).tables.get .packages, q = p ++ "." ++ name) := by
  rcases mem_tables_outlineOf_iff.1 hq with ⟨b, node, name, hb, hnode, hname, rfl⟩
  refine ⟨b, node, name, hb, hnode, hname, ?_⟩
  by_cases hpackages : b.packages = []
  · left
    rw [hpackages, List.nil_append, String.intercalate_singleton]
  · right
    refine ⟨".".intercalate b.packages, hb.packages_declared.resolve_left hpackages, ?_⟩
    rw [String.intercalate_append_of_ne_nil hpackages (List.cons_ne_nil name []),
      String.intercalate_singleton]

/-! ## Supertypes -/

/-- What may have supertypes is declared in the table of its kind. -/
theorem Node.declares_of_declKind? {node : Node} {kind : DeclKind} {name : String}
    (hkind : node.declKind? = some kind) (hname : node.name? "name" = some name) :
    node.Declares name kind.part := by
  unfold Node.declKind? at hkind
  split at hkind
  · rename_i h
    cases hkind
    exact ⟨h, hname⟩
  · rename_i h
    cases hkind
    exact ⟨h, hname⟩
  · rename_i h
    cases hkind
    exact ⟨Or.inl h, hname⟩
  · cases hkind

theorem Node.ne_empty_of_mem_supertypes {node : Node} {t : String} (h : t ∈ node.supertypes) :
    t ≠ "" := by
  unfold Node.supertypes at h
  split at h
  · cases h
  · rcases List.mem_filterMap.1 h with ⟨init, -, hinit⟩
    rcases Option.bind_eq_some_iff.1 hinit with ⟨inode, -, hname⟩
    rcases Option.bind_eq_some_iff.1 hname with ⟨tpe, -, htpe⟩
    exact Json.name?_ne_empty htpe

theorem SpineSite.ne_empty_of_mem_writes {b : SpineSite} {key t : String} (h : t ∈ b.writes key) :
    t ≠ "" := by
  unfold SpineSite.writes at h
  split at h
  · cases h
  · split at h
    · split at h
      · exact Node.ne_empty_of_mem_supertypes h
      · cases h
    · cases h

/-- The path that a short name is bound to ends with a dot and that name. -/
theorem exists_path_of_mem_fileBindings {options : Options} {tree : Json} {b : Binding}
    (h : b ∈ fileBindings options tree) {symbol : String} (hsymbol : b.symbol = some symbol) :
    ∃ p, b.path = p ++ "." ++ symbol := by
  have hbindings : ∀ {v : Json}, b ∈ v.bindings → ∃ p, b.path = p ++ "." ++ symbol := by
    intro v hb
    unfold Json.bindings at hb
    split at hb
    · exact (Json.exists_path_of_mem_importBindings hb hsymbol).2
    · cases hb
  rcases List.mem_append.1 h with h | h
  · unfold walkBindings at h
    split at h
    · rcases List.mem_flatMap.1 h with ⟨c, -, hb⟩
      exact hbindings hb
    · cases h
  · rcases List.mem_flatMap.1 h with ⟨c, -, hb⟩
    exact hbindings hb

/-- A name that is bound stands for an import that ends in it, and any other for itself. -/
theorem resolveIn_cases (options : Options) (tree : Json) (symbol : String) :
    resolveIn (fileBindings options tree) symbol = symbol ∨
      resolveIn (fileBindings options tree) symbol ∈
        (outlineOf options tree).scopes.imports Arena.root ∧
      ∃ p, resolveIn (fileBindings options tree) symbol = p ++ "." ++ symbol := by
  unfold resolveIn lastBound?
  cases hlast : ((fileBindings options tree).filter fun b => b.symbol = some symbol).getLast? with
  | none => exact Or.inl rfl
  | some b =>
    rcases List.mem_filter.1 (List.mem_of_getLast? hlast) with ⟨hb, hsymbol⟩
    refine Or.inr ⟨?_, exists_path_of_mem_fileBindings hb (by simpa using hsymbol)⟩
    rw [scopes_outlineOf, Arena.mem_imports_root]
    exact ⟨b, hb, rfl⟩

/-- What a summary keeps under a key: at least one name is written there, and all are resolved. -/
theorem supertypes_of_mem_entries {options : Options} {tree : Json} {key : String}
    {supertypes : List String}
    (h : (key, supertypes) ∈ ((outlineOf options tree).heritage.resolve
      (outlineOf options tree).scopes Arena.root).entries.entries) :
    (SpineSite.root tree).spine.flatMap (SpineSite.writes key) ≠ [] ∧
      supertypes = ((SpineSite.root tree).spine.flatMap (SpineSite.writes key)).map
        (resolveIn (fileBindings options tree)) := by
  have hresolve : (outlineOf options tree).scopes.resolve Arena.root =
      resolveIn (fileBindings options tree) := funext (resolve_outlineOf options tree)
  have hfind : ((outlineOf options tree).heritage.resolve
      (outlineOf options tree).scopes Arena.root).get? key = some supertypes :=
    Assoc.find?_of_mem (Table.sorted _) h
  rw [Heritage.get?_resolve, get?_heritage_outlineOf, hresolve, nonempty?] at hfind
  split at hfind
  · cases hfind
  · rename_i hwritten
    exact ⟨hwritten, (Option.some.inj hfind).symm⟩

/-- Supertypes stand under the key of a declaration that is recorded in its table. -/
theorem exists_key_of_writes {options : Options} {tree : Json} {key : String}
    (h : (SpineSite.root tree).spine.flatMap (SpineSite.writes key) ≠ []) :
    ∃ (kind : DeclKind) (q : String),
      key = kind.key q ∧ q ∈ (outlineOf options tree).tables.get kind.part := by
  rcases List.exists_mem_of_ne_nil _ h with ⟨t, ht⟩
  rcases List.mem_flatMap.1 ht with ⟨b, hb, htb⟩
  rcases SpineSite.exists_declaresAs_of_writes (List.ne_nil_of_mem htb) with
    ⟨kind, q, ⟨node, name, hnode, hkind, hname, hq⟩, hkey⟩
  refine ⟨kind, q, hkey.symm, mem_tables_outlineOf_iff.2 ?_⟩
  exact ⟨b, node, name, SpineSite.mem_spine_iff.1 hb, hnode,
    Node.declares_of_declKind? hkind hname, hq⟩

/-! ## The summary -/

theorem get_summarize (options : Options) (filename : String) (tree : Json) (names : StringSet)
    (o : Outline) (part : Tables.Part) :
    (summarize options filename tree names o).get part = (o.tables.get part).toList := by
  cases part <;> rfl

/-- The parts of a summary fit together, whatever the tree. -/
theorem consistent_summarize (options : Options) (filename : String) (tree : Json) :
    (summarize options filename tree (walkNames options tree)
      (outlineOf options tree)).Consistent tree where
  declarations_increasing part := by
    rw [get_summarize]
    exact StringSet.increasing _
  imports_increasing := StringSet.increasing _
  names_increasing := StringSet.increasing _
  qualified part q hq := by
    rw [get_summarize] at hq
    exact qualified_of_mem_tables hq
  keyed key supertypes h := by
    rcases exists_key_of_writes (supertypes_of_mem_entries h).1 with ⟨kind, q, hkey, hq⟩
    refine ⟨kind, q, hkey, ?_⟩
    rw [get_summarize]
    exact hq
  nonempty key supertypes h := by
    rcases supertypes_of_mem_entries h with ⟨hwritten, rfl⟩
    refine ⟨by simpa using hwritten, ?_⟩
    intro t ht
    rcases List.mem_map.1 ht with ⟨written, hmem, rfl⟩
    rcases List.mem_flatMap.1 hmem with ⟨b, -, hb⟩
    have hne : written ≠ "" := SpineSite.ne_empty_of_mem_writes hb
    rcases resolveIn_cases options tree written with hsame | ⟨-, p, hpath⟩
    · rw [hsame]
      exact hne
    · rw [hpath]
      simp
  resolved key supertypes h := by
    rcases supertypes_of_mem_entries h with ⟨-, rfl⟩
    rw [List.forall₂_map_right_iff]
    exact List.forall₂_same.2 fun written _ => resolveIn_cases options tree written

/-- Every summary without an error is consistent. -/
theorem index_consistent (options : Options) (filename : String) (tree : Json) (summary : Summary)
    (h : index options filename tree = .ok summary) (herror : summary.error = none) :
    summary.Consistent tree := by
  have htree : tree.treeError? = none := by
    cases hfailed : tree.treeError? with
    | none => rfl
    | some message =>
      -- the tree of a failed parse gives a summary with its message
      simp only [index, hfailed, Except.ok.injEq] at h
      subst h
      cases herror
  rcases (index_eq_ok_iff htree).1 h with ⟨-, rfl⟩
  exact consistent_summarize options filename tree

theorem index_consistent_sample :
    ∃ summary, index {} "X.scala" sampleFile = .ok summary ∧ summary.error = none ∧
      summary.supertypes.entries = [("class X", ["c.B"])] ∧ summary.Consistent sampleFile := by
  have hsummary : (index {} "X.scala" sampleFile).toOption.map
      (fun s => (s.error, s.supertypes.entries)) = some (none, [("class X", ["c.B"])]) := by
    decide +kernel
  obtain ⟨summary, hindex, hparts⟩ := exists_index_of_map hsummary
  obtain ⟨herror, hsupertypes⟩ := Prod.mk.inj hparts
  exact ⟨summary, hindex, herror, hsupertypes,
    index_consistent {} "X.scala" sampleFile summary hindex herror⟩

end SymbolIndex
