import SymbolIndex.Proofs.Scope.Nesting

/-!
# What the root scope holds

Every import reaches the root. This file says what the root makes of a list of them:

- `lastBound?`, `resolveIn` : the path that a short name is bound to last
- `resolveIn_congr` : the order does not matter where no short name is bound to two paths
- `Scope.mem_imports_foldl_bind`, `Scope.find?_symbols_foldl_bind` : a scope after many bindings
- `Arena.mem_imports_root`, `Arena.resolve_root` : the root after many imports
- `Json.exists_path_of_mem_importBindings` : import statements bind names that are not empty, each
  to a path that ends in it
-/

namespace SymbolIndex

/-- The path of the last binding of a short name. -/
def lastBound? (bs : List Binding) (symbol : String) : Option String :=
  (bs.filter fun b => b.symbol = some symbol).getLast?.map (·.path)

/-- Later bindings win. -/
theorem lastBound?_append (bs cs : List Binding) (symbol : String) :
    lastBound? (bs ++ cs) symbol = (lastBound? cs symbol).or (lastBound? bs symbol) := by
  unfold lastBound?
  rw [List.filter_append, List.getLast?_append]
  cases (cs.filter fun b => b.symbol = some symbol).getLast? with
  | none => rfl
  | some b => rfl

/-- What a short name stands for after a list of bindings: the path it was last bound to, or
itself. -/
def resolveIn (bs : List Binding) (symbol : String) : String :=
  (lastBound? bs symbol).getD symbol

/-- What comes later in a list of bindings decides, if it binds the name at all. -/
theorem resolveIn_append_of_mem {bs cs : List Binding} {symbol : String} {c : Binding} (hc : c ∈ cs)
    (hsymbol : c.symbol = some symbol) : resolveIn (bs ++ cs) symbol = resolveIn cs symbol := by
  have hmem : c ∈ cs.filter fun b => b.symbol = some symbol :=
    List.mem_filter.2 ⟨hc, by simpa using hsymbol⟩
  have hbound : lastBound? cs symbol =
      some ((cs.filter fun b => b.symbol = some symbol).getLast
        (List.ne_nil_of_mem hmem)).path := by
    rw [lastBound?, List.getLast?_eq_some_getLast (List.ne_nil_of_mem hmem), Option.map_some]
  rw [resolveIn, resolveIn, lastBound?_append, hbound, Option.some_or]

/-! ## Bindings in another order -/

/-- No short name is bound to two paths. -/
def Unambiguous (bs : List Binding) : Prop :=
  ∀ b ∈ bs, ∀ c ∈ bs, b.symbol ≠ none → b.symbol = c.symbol → b.path = c.path

/-- If no name is bound twice, every binding is the last one of its name. -/
theorem lastBound?_eq_some {bs : List Binding} (hbs : Unambiguous bs) {b : Binding} (hb : b ∈ bs)
    {symbol : String} (hsymbol : b.symbol = some symbol) : lastBound? bs symbol = some b.path := by
  have hmem : b ∈ bs.filter fun b => b.symbol = some symbol :=
    List.mem_filter.2 ⟨hb, by simpa using hsymbol⟩
  have hlast := List.getLast_mem (List.ne_nil_of_mem hmem)
  obtain ⟨hlast, hbound⟩ := List.mem_filter.1 hlast
  rw [lastBound?, List.getLast?_eq_some_getLast (List.ne_nil_of_mem hmem), Option.map_some,
    hbs _ hlast b hb (by simp_all) (by simp_all)]

/-- Where no name is ambiguous, the order of the bindings does not matter. -/
theorem resolveIn_congr {bs cs : List Binding} (hbs : Unambiguous bs) (hmem : ∀ b, b ∈ bs ↔ b ∈ cs)
    (symbol : String) : resolveIn bs symbol = resolveIn cs symbol := by
  have hcs : Unambiguous cs := by
    intro b hb c hc
    exact hbs b ((hmem b).2 hb) c ((hmem c).2 hc)
  by_cases hbound : ∃ b ∈ bs, b.symbol = some symbol
  · obtain ⟨b, hb, hsymbol⟩ := hbound
    rw [resolveIn, resolveIn, lastBound?_eq_some hbs hb hsymbol,
      lastBound?_eq_some hcs ((hmem b).1 hb) hsymbol]
  · have hnone : ∀ ds : List Binding, (∀ b ∈ ds, b ∈ bs) → lastBound? ds symbol = none := by
      intro ds hds
      have hempty : (ds.filter fun b => b.symbol = some symbol) = [] := by
        refine List.filter_eq_nil_iff.2 fun b hb hsymbol => ?_
        exact hbound ⟨b, hds b hb, by simpa using hsymbol⟩
      rw [lastBound?, hempty]
      rfl
    rw [resolveIn, resolveIn, hnone bs fun _ => id, hnone cs fun b => (hmem b).2]

/-! ## One scope -/

namespace Scope

/-- A scope imports the paths that were added, and no others. -/
theorem mem_imports_foldl_bind {s : Scope} {bs : List Binding} {i : String} :
    i ∈ (bs.foldl bind s).imports ↔ (∃ b ∈ bs, b.path = i) ∨ i ∈ s.imports := by
  induction bs generalizing s with
  | nil => simp
  | cons b bs ih =>
    have hbind : i ∈ (s.bind b).imports ↔ b.path = i ∨ i ∈ s.imports := by
      simp only [bind, StringSet.mem_insert, eq_comm]
    rw [List.foldl_cons, ih, hbind]
    simp only [List.mem_cons, exists_eq_or_imp]
    constructor
    · rintro (h | h | h)
      · exact Or.inl (Or.inr h)
      · exact Or.inl (Or.inl h)
      · exact Or.inr h
    · rintro ((h | h) | h)
      · exact Or.inr (Or.inl h)
      · exact Or.inl h
      · exact Or.inr (Or.inr h)

/-- A binding without a short name, or with an empty one, changes nothing here. -/
theorem find?_symbols_bind (s : Scope) (b : Binding) (symbol : String) :
    (s.bind b).symbols.find? symbol =
      if b.symbol = some symbol ∧ symbol ≠ "" then some b.path else s.symbols.find? symbol := by
  obtain ⟨path, bound⟩ := b
  cases bound with
  | none => simp [bind]
  | some name =>
    by_cases hname : name = ""
    · subst hname
      simp [bind]
    · by_cases hsymbol : name = symbol
      · subst hsymbol
        simp [bind, hname]
      · simp [bind, hname, hsymbol]

/-- The last binding of a short name wins; the empty name is never bound. -/
theorem find?_symbols_foldl_bind (s : Scope) (bs : List Binding) (symbol : String) :
    (bs.foldl bind s).symbols.find? symbol =
      if symbol = "" then s.symbols.find? symbol
      else (lastBound? bs symbol).or (s.symbols.find? symbol) := by
  induction bs generalizing s with
  | nil => simp [lastBound?]
  | cons b bs ih =>
    have happend : lastBound? (b :: bs) symbol =
        (lastBound? bs symbol).or (lastBound? [b] symbol) := lastBound?_append [b] bs symbol
    rw [List.foldl_cons, ih, find?_symbols_bind, happend]
    by_cases hempty : symbol = ""
    · simp [hempty]
    · by_cases hsymbol : b.symbol = some symbol
      · cases lastBound? bs symbol <;> simp [lastBound?, hsymbol, hempty]
      · cases lastBound? bs symbol <;> simp [lastBound?, hsymbol, hempty]

end Scope

/-! ## The root -/

namespace Arena

theorem addImports_append (a : Arena) (id : Nat) (bs cs : List Binding) :
    a.addImports id (bs ++ cs) = (a.addImports id bs).addImports id cs := by
  simp [addImports, List.foldl_append]

theorem Nested.lineage_root {a : Arena} (h : a.Nested) : a.lineage Arena.root = [Arena.root] := by
  obtain ⟨s, hget⟩ := get?_isSome_iff.2 h.root_lt_size
  obtain ⟨name, hroot⟩ := h.root
  rw [getElem?_skeleton, hget, Option.map_some, Option.some.injEq, Prod.mk.injEq] at hroot
  exact lineage_eq_singleton hget hroot.2

/-- Imports in the root go to the root alone. -/
theorem Nested.get?_root_addImports {a : Arena} (h : a.Nested) {s : Scope}
    (hs : a.get? Arena.root = some s) (bs : List Binding) :
    (a.addImports Arena.root bs).get? Arena.root = some (bs.foldl Scope.bind s) := by
  rw [get?_addImports, h.lineage_root, hs]
  simp

theorem get?_root_new_addImports (bs : List Binding) :
    (new.addImports root bs).get? root =
      some (bs.foldl Scope.bind (Scope.new rootName none)) :=
  nested_new.get?_root_addImports rfl bs

/-- The root holds the path of every import. -/
theorem mem_imports_root {bs : List Binding} {i : String} :
    i ∈ (new.addImports root bs).imports root ↔ ∃ b ∈ bs, b.path = i := by
  rw [imports, get?_root_new_addImports, Option.map_some, Option.getD_some,
    Scope.mem_imports_foldl_bind]
  constructor
  · rintro (h | h)
    · exact h
    · exact absurd h (StringSet.mem_empty i)
  · exact Or.inl

/-- A short name stands at the root for the path that it was last bound to. -/
theorem resolve_root {bs : List Binding} (hbs : ∀ b ∈ bs, b.symbol ≠ some "") (symbol : String) :
    (new.addImports root bs).resolve root symbol = resolveIn bs symbol := by
  have hnew : (Scope.new rootName none).symbols.find? symbol = none := rfl
  rw [resolve, get?_root_new_addImports, Option.bind_some, Scope.find?_symbols_foldl_bind, hnew,
    Option.or_none, resolveIn]
  by_cases hempty : symbol = ""
  · have hnone : (bs.filter fun b => b.symbol = some "") = [] := by
      simpa [List.filter_eq_nil_iff] using hbs
    simp [hempty, lastBound?, hnone]
  · rw [if_neg hempty]

end Arena

/-! ## Import statements -/

theorem Node.value?_ne_empty {node : Node} {s : String} (h : node.value? = some s) : s ≠ "" := by
  simp only [Node.value?, Option.filter_eq_some_iff] at h
  simpa using h.2

/-- A short name is the name of an importee, and the last part of the path that it is bound to. -/
theorem name_of_importeeBinding? {prefixName : String} {importee : Json} {b : Binding}
    (h : importeeBinding? prefixName importee = some b) {symbol : String}
    (hsymbol : b.symbol = some symbol) :
    ∃ node, importee.node? = some node ∧ (node.child? "name").bind Node.value? = some symbol ∧
      b.path = prefixName ++ "." ++ symbol := by
  cases hnode : importee.node? with
  | none => simp [importeeBinding?, hnode] at h
  | some node =>
    refine ⟨node, rfl, ?_⟩
    cases hkind : node.kind with
    | importeeName | importeeRename =>
      simp only [importeeBinding?, hnode, hkind, Option.map_eq_some_iff] at h
      obtain ⟨name, hvalue, rfl⟩ := h
      injection hsymbol with hsymbol
      subst hsymbol
      exact ⟨hvalue, rfl⟩
    | importeeUnimport =>
      simp only [importeeBinding?, hnode, hkind, Option.map_eq_some_iff] at h
      obtain ⟨name, -, rfl⟩ := h
      cases hsymbol
    | importeeWildcard =>
      simp only [importeeBinding?, hnode, hkind, Option.some.injEq] at h
      subst h
      cases hsymbol
    | _ => simp [importeeBinding?, hnode, hkind] at h

/-- Every binding of an import statement comes from an importee of one of its importers. -/
theorem Json.exists_importee_of_mem_importBindings {statement : Json} {b : Binding}
    (h : b ∈ statement.importBindings) :
    ∃ node importer inode prefixName importee, statement.node? = some node ∧
      importer ∈ node.seq "importers" ∧ importer.node? = some inode ∧
      importee ∈ inode.seq "importees" ∧ importeeBinding? prefixName importee = some b := by
  cases hnode : statement.node? with
  | none => simp [importBindings, hnode] at h
  | some node =>
    simp only [importBindings, hnode, List.mem_flatMap] at h
    obtain ⟨importer, himporters, hb⟩ := h
    cases himporter : importer.node? with
    | none => simp [importerBindings, himporter] at hb
    | some inode =>
      cases href : inode.name? "ref" with
      | none => simp [importerBindings, himporter, href] at hb
      | some prefixName =>
        simp only [importerBindings, himporter, href, List.mem_filterMap] at hb
        obtain ⟨importee, himportees, hbinding⟩ := hb
        exact ⟨node, importer, inode, prefixName, importee, rfl, himporters, himporter, himportees,
          hbinding⟩

/-- A short name is not empty, and the path ends with it. -/
theorem Json.exists_path_of_mem_importBindings {statement : Json} {b : Binding}
    (h : b ∈ statement.importBindings) {symbol : String} (hsymbol : b.symbol = some symbol) :
    symbol ≠ "" ∧ ∃ prefixName, b.path = prefixName ++ "." ++ symbol := by
  obtain ⟨-, -, -, prefixName, importee, -, -, -, -, hbinding⟩ :=
    exists_importee_of_mem_importBindings h
  obtain ⟨node, -, hvalue, hpath⟩ := name_of_importeeBinding? hbinding hsymbol
  obtain ⟨child, -, hchild⟩ := Option.bind_eq_some_iff.1 hvalue
  exact ⟨Node.value?_ne_empty hchild, prefixName, hpath⟩

/-- An import statement binds no empty short name. -/
theorem Json.symbol_ne_empty_of_mem_importBindings {statement : Json} {b : Binding}
    (h : b ∈ statement.importBindings) : b.symbol ≠ some "" := by
  intro hsymbol
  exact (exists_path_of_mem_importBindings h hsymbol).1 rfl

/-- The statement that imports a name from a prefix. -/
def importOf (prefixName name : String) : Json :=
  .obj [
    ("importers", .arr [.obj [
      ("importees", .arr [.obj [
        ("name", .obj [("type", .str "Name.Indeterminate"), ("value", .str name)]),
        ("type", .str "Importee.Name")]]),
      ("ref", .obj [("type", .str "Term.Name"), ("value", .str prefixName)]),
      ("type", .str "Importer")]]),
    ("type", .str "Import")]

end SymbolIndex
