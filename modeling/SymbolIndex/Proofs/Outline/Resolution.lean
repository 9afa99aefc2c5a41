import SymbolIndex.Proofs.Outline.Heritage
import SymbolIndex.Proofs.Scope.Lifetime

/-!
# Resolving supertypes twice

Supertypes are resolved through the short names of a scope. A path that a short name stands for may
be a short name too, and then it would be resolved again:

- `Scope.Settled` : no path in the scope is bound to another path
- `Heritage.resolve_resolve_iff` : only then does resolving twice give what resolving once gives
- `Heritage.settled_of_recorded` : this shows on supertypes of declarations
- `Json.PlainImportees` : the importees of a statement have names without dots
- `Arena.settled_root_of_plain` : then the root is settled, whatever is imported where
- `Heritage.resolve_settles` : both together
-/

namespace SymbolIndex

/-- A path that a short name is bound to is not a short name itself, unless it is bound to
itself. -/
def Scope.Settled (s : Scope) : Prop :=
  ∀ symbol path, s.symbols.find? symbol = some path →
    s.symbols.find? path = none ∨ s.symbols.find? path = some path

/-! ## Resolving -/

namespace Arena

variable {a : Arena} {id : Nat} {s : Scope}

theorem resolve_eq_getD (hs : a.get? id = some s) (symbol : String) :
    a.resolve id symbol = (s.symbols.find? symbol).getD symbol := by
  rw [resolve, hs, Option.bind_some]

theorem resolve_of_find? (hs : a.get? id = some s) {symbol path : String}
    (hpath : s.symbols.find? symbol = some path) : a.resolve id symbol = path := by
  rw [resolve_eq_getD hs, hpath, Option.getD_some]

/-- A name stands for itself if it is not bound, or bound to itself. -/
theorem resolve_eq_self_iff (hs : a.get? id = some s) {name : String} :
    a.resolve id name = name ↔ s.symbols.find? name = none ∨ s.symbols.find? name = some name := by
  rw [resolve_eq_getD hs]
  cases s.symbols.find? name with
  | none => simp
  | some path => simp

/-- A name can be resolved twice exactly if all that it may stand for resolves to itself. -/
theorem resolve_resolve_iff (hs : a.get? id = some s) :
    (∀ symbol, a.resolve id (a.resolve id symbol) = a.resolve id symbol) ↔ s.Settled := by
  constructor
  · intro h symbol path hpath
    have htwice := h symbol
    rw [resolve_of_find? hs hpath] at htwice
    exact (resolve_eq_self_iff hs).1 htwice
  · intro h symbol
    cases hpath : s.symbols.find? symbol with
    | none =>
      have hself : a.resolve id symbol = symbol := (resolve_eq_self_iff hs).2 (Or.inl hpath)
      rw [hself, hself]
    | some path =>
      rw [resolve_of_find? hs hpath]
      exact (resolve_eq_self_iff hs).2 (h symbol path hpath)

end Arena

namespace Heritage

theorem eq_of_get?_eq {h h' : Heritage} (heq : ∀ key, h.get? key = h'.get? key) : h = h' := by
  have hentries : h.entries = h'.entries := Table.eq_of_find?_eq heq
  cases h
  cases h'
  cases hentries
  rfl

variable {a : Arena} {id : Nat} {s : Scope}

/-- One declaration with one supertype shows whether that can be resolved twice. -/
theorem resolve_resolve_symbol {h : Heritage} {key symbol : String}
    (hget : h.get? key = some [symbol]) (htwice : (h.resolve a id).resolve a id = h.resolve a id) :
    a.resolve id (a.resolve id symbol) = a.resolve id symbol := by
  have heq := congrArg (fun h => h.get? key) htwice
  simp only [get?_resolve, hget] at heq
  simpa using heq

/-- Resolving twice gives what resolving once gives, for all supertypes, exactly if the scope is
settled. -/
theorem resolve_resolve_iff (hs : a.get? id = some s) :
    (∀ h : Heritage, (h.resolve a id).resolve a id = h.resolve a id) ↔ s.Settled := by
  rw [← Arena.resolve_resolve_iff hs]
  constructor
  · intro h symbol
    have hget : (Heritage.mk ((∅ : Table (List String)).insert "" [symbol])).get? "" =
        some [symbol] := by
      rw [get?, Table.find?_insert, if_pos rfl]
    exact resolve_resolve_symbol hget (h _)
  · intro h heritage
    refine eq_of_get?_eq fun key => ?_
    rw [get?_resolve, get?_resolve]
    cases heritage.get? key with
    | none => rfl
    | some names => simp [h]

/-- The supertypes are those of declarations that were recorded one after another. -/
inductive Recorded : Heritage → Prop
  | empty : Recorded .empty
  | record {h : Heritage} (kind : DeclKind) (qualified : String) (declaration : Node) :
    Recorded h → Recorded (h.record kind qualified declaration)

end Heritage

/-- The class that extends a name. -/
def Node.extending (symbol : String) : Node where
  tag := "Defn.Class"
  fields := [
    ("templ", .obj [
      ("inits", .arr [.obj [
        ("tpe", .obj [("type", .str "Type.Name"), ("value", .str symbol)]),
        ("type", .str "Init")]]),
      ("type", .str "Template")]),
    ("type", .str "Defn.Class")]

theorem Node.supertypes_extending {symbol : String} (h : symbol ≠ "") :
    (extending symbol).supertypes = [symbol] := by
  have hname : (Json.obj [("type", .str "Type.Name"), ("value", .str symbol)]).name? =
      some symbol := by
    have hkind : Kind.ofTag "Type.Name" = .typeName := rfl
    simp [Json.name?, Json.node?, Assoc.find?, kind, hkind, value?, str?, field?, Option.filter,
      Json.isNull, Json.asString?, h]
  simp [extending, supertypes, child?, field?, seq, name?, Json.node?, Assoc.find?, Option.filter,
    Json.isNull, Json.asArray?, hname]

/-- A scope that is not settled is told from the others by a class that can be recorded. -/
theorem Heritage.settled_of_recorded {a : Arena} {id : Nat} {s : Scope} (hs : a.get? id = some s)
    (hempty : s.symbols.find? "" = none)
    (h : ∀ h : Heritage, h.Recorded → (h.resolve a id).resolve a id = h.resolve a id) :
    s.Settled := by
  refine (Arena.resolve_resolve_iff hs).1 fun symbol => ?_
  by_cases hsymbol : symbol = ""
  · have hself : a.resolve id symbol = symbol :=
      (Arena.resolve_eq_self_iff hs).2 (Or.inl (by rw [hsymbol, hempty]))
    rw [hself, hself]
  · have hget : (Heritage.empty.record .classDecl "X" (.extending symbol)).get?
        (DeclKind.classDecl.key "X") = some [symbol] := by
      have hnone : Heritage.empty.get? (DeclKind.classDecl.key "X") = nonempty? [] := rfl
      rw [get?_record hnone, if_pos rfl, Node.supertypes_extending hsymbol]
      rfl
    exact resolve_resolve_symbol hget (h _ (.record _ _ _ .empty))

/-! ## Import statements -/

/-- The names of all importees of an import statement. -/
def Json.importeeNames (statement : Json) : List String :=
  statement.node?.toList.flatMap fun node =>
    (node.seq "importers").flatMap fun importer =>
      importer.node?.toList.flatMap fun inode =>
        (inode.seq "importees").filterMap fun importee =>
          importee.node?.bind fun named => (named.child? "name").bind Node.value?

/-- The importees of an import statement have names without dots. -/
def Json.PlainImportees (statement : Json) : Prop :=
  ∀ name ∈ statement.importeeNames, '.' ∉ name.toList

instance (statement : Json) : Decidable statement.PlainImportees :=
  inferInstanceAs (Decidable (∀ name ∈ statement.importeeNames, '.' ∉ name.toList))

/-- A short name is the name of an importee. -/
theorem Json.symbol_mem_importeeNames {statement : Json} {b : Binding}
    (hb : b ∈ statement.importBindings) {symbol : String} (hsymbol : b.symbol = some symbol) :
    symbol ∈ statement.importeeNames := by
  obtain ⟨node, importer, inode, prefixName, importee, hnode, himporter, hinode, himportee,
    hbinding⟩ :=
    exists_importee_of_mem_importBindings hb
  obtain ⟨named, hnamed, hname, -⟩ := name_of_importeeBinding? hbinding hsymbol
  simp only [importeeNames, List.mem_flatMap, List.mem_filterMap, Option.mem_toList]
  exact ⟨node, hnode, importer, himporter, inode, hinode, importee, himportee, by
    rw [hnamed, Option.bind_some, hname]⟩

/-- A path that has a short name has a dot. -/
theorem Json.dot_mem_path {statement : Json} {b : Binding} (hb : b ∈ statement.importBindings)
    {symbol : String} (hsymbol : b.symbol = some symbol) : '.' ∈ b.path.toList := by
  obtain ⟨-, prefixName, hpath⟩ := exists_path_of_mem_importBindings hb hsymbol
  simp [hpath]

/-- The change imports nothing, or a statement whose importees have plain names. -/
def Action.Plain : Action → Prop
  | .push _ _ | .pop _ => True
  | .addImport _ _ => False
  | .recordImport _ statement => statement.PlainImportees

instance : DecidablePred Action.Plain
  | .push _ _ | .pop _ => isTrue trivial
  | .addImport _ _ => isFalse id
  | .recordImport _ statement => inferInstanceAs (Decidable statement.PlainImportees)

/-- The last binding of a name is one of the bindings. -/
theorem exists_mem_of_lastBound? {bs : List Binding} {symbol path : String}
    (h : lastBound? bs symbol = some path) : ∃ b ∈ bs, b.symbol = some symbol ∧ b.path = path := by
  obtain ⟨b, hlast, hpath⟩ := Option.map_eq_some_iff.1 h
  obtain ⟨hb, hsymbol⟩ := List.mem_filter.1 (List.mem_of_getLast? hlast)
  exact ⟨b, hb, by simpa using hsymbol, hpath⟩

theorem Action.Plain.exists_statement {action : Action} (h : action.Plain) {b : Binding}
    (hb : b ∈ action.bindings) :
    ∃ statement : Json, statement.PlainImportees ∧ b ∈ statement.importBindings := by
  cases action with
  | push name parent => cases hb
  | pop id => cases hb
  | addImport id binding => cases h
  | recordImport id statement => exact ⟨statement, h, hb⟩

/-- Paths of imports have dots and the short names have none, so that no path is a short name. -/
theorem Arena.settled_root_of_plain {history : List Action} {a : Arena}
    (h : new.performAll history = .ok a) (hplain : ∀ action ∈ history, action.Plain) :
    ∃ s, a.get? root = some s ∧ s.Settled := by
  obtain ⟨s, hget, hreflects⟩ := (lifetime_root history).reflects h
  rw [gathered_root nested_new h] at hreflects
  -- later imports may replace earlier ones, but each comes from some importee
  have hbound : ∀ {symbol path}, s.symbols.find? symbol = some path →
      '.' ∉ symbol.toList ∧ '.' ∈ path.toList := by
    intro symbol path hfind
    obtain ⟨b, hb, hsymbol, rfl⟩ :=
      exists_mem_of_lastBound? ((hreflects.symbols symbol path).1 hfind).2
    obtain ⟨action, haction, hb⟩ := List.mem_flatMap.1 hb
    obtain ⟨statement, hstatement, hb⟩ := (hplain action haction).exists_statement hb
    exact ⟨hstatement symbol (Json.symbol_mem_importeeNames hb hsymbol),
      Json.dot_mem_path hb hsymbol⟩
  refine ⟨s, hget, fun symbol path hfind => Or.inl ?_⟩
  cases hagain : s.symbols.find? path with
  | none => rfl
  | some other => exact absurd (hbound hfind).2 (hbound hagain).1

/-- Resolving supertypes twice gives the same as once for all supertypes exactly if the scope is
settled, and if it is not, that shows on supertypes that can be recorded. The root is settled after
any history of scopes that are opened and closed and of import statements that are recorded in them,
if the names of the importees have no dots. -/
theorem Heritage.resolve_settles :
    (∀ (a : Arena) (id : Nat) (s : Scope), a.get? id = some s →
      ((∀ h : Heritage, (h.resolve a id).resolve a id = h.resolve a id) ↔ s.Settled) ∧
      (s.symbols.find? "" = none →
        (∀ h : Heritage, h.Recorded → (h.resolve a id).resolve a id = h.resolve a id) →
          s.Settled)) ∧
    ∀ (history : List Action) (a : Arena), Arena.new.performAll history = .ok a →
      (∀ action ∈ history, action.Plain) → ∃ s, a.get? Arena.root = some s ∧ s.Settled :=
  ⟨fun _ _ _ hs => ⟨resolve_resolve_iff hs, settled_of_recorded hs⟩,
    fun _ _ h hplain => Arena.settled_root_of_plain h hplain⟩

/-- The name `C` is imported, and again from elsewhere in an inner scope, where it is also the
prefix of an import. -/
def importsInScopes : List Action :=
  [.recordImport 0 (importOf "a" "C"), .push "p" 0, .recordImport 1 (importOf "b" "C"), .push "q" 1,
    .recordImport 2 (importOf "C" "D"), .pop 2, .pop 1]

/-- The supertype `D` is resolved to `C.D` and stays that. -/
theorem Heritage.resolve_settles_importsInScopes :
    (∀ action ∈ importsInScopes, action.Plain) ∧
    ∃ a s, Arena.new.performAll importsInScopes = .ok a ∧ a.get? Arena.root = some s ∧ s.Settled ∧
      a.resolve Arena.root "D" = "C.D" ∧ a.resolve Arena.root "C" = "b.C" ∧
      ∀ h : Heritage, (h.resolve a Arena.root).resolve a Arena.root = h.resolve a Arena.root := by
  have hplain : ∀ action ∈ importsInScopes, action.Plain := by decide +kernel
  obtain ⟨a, ha, hD, hC⟩ : ∃ a, Arena.new.performAll importsInScopes = .ok a ∧
      a.resolve Arena.root "D" = "C.D" ∧ a.resolve Arena.root "C" = "b.C" :=
    ⟨_, rfl, by decide +kernel, by decide +kernel⟩
  obtain ⟨s, hget, hsettled⟩ := resolve_settles.2 importsInScopes a ha hplain
  exact ⟨hplain, a, s, ha, hget, hsettled, hD, hC,
    (resolve_settles.1 a Arena.root s hget).1.2 hsettled⟩

end SymbolIndex
