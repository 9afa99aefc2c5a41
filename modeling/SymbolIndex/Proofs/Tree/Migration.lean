import SymbolIndex.Proofs.Index.Bindings
import SymbolIndex.Proofs.Outline.Heritage
import SymbolIndex.Proofs.Tree.Reference

/-!
# Two shapes of packages

A package holds its statements itself, or in a body. This file moves the statements of every package
without a body into one, and shows that nothing that is read off a single node changes:

- `Json.migrate` : the tree in which every package with statements has a body
- `Node.Keeps` : the fields of a node that are only migrated inside
- `Json.node?_migrate`, `Node.field?_migrate` : nodes and their fields in the new tree
- `Json.name?_migrate` : references keep their names
- `Outline.noteNode_migrate`, `Json.bindings_migrate` : the same declarations, supertypes and
  bindings
- `Json.holds_migrate`, `Json.of_holds_migrate` : what a value of the new tree holds
-/

namespace SymbolIndex

/-! ## The new tree -/

/-- The statements that a package without a body holds itself. -/
def Node.ownStats? (node : Node) : Option (List Json) :=
  if node.kind = .pkg ∧ (node.field? "body").isNone then (node.field? "stats").bind Json.asArray?
  else none

/-- The body of a package. -/
def packageBody (stats : Json) : Json :=
  .obj [("stats", stats), ("type", .str "Pkg.Body")]

/-- The fields of a package, with its statements moved into a body. -/
def moveStats (fields : List (String × Json)) : List (String × Json) :=
  match Assoc.find? "stats" fields with
  | none => fields
  | some stats => Assoc.insert "body" (packageBody stats) (fields.filter (·.1 ≠ "stats"))

namespace Json

mutual

/-- The tree in which every package that held its statements itself has a body. -/
def migrate : Json → Json
  | .arr items => .arr (migrateItems items)
  | .obj fields =>
    match (Json.obj fields).node?.bind Node.ownStats? with
    | none => .obj (migrateFields fields)
    | some _ => .obj (moveStats (migrateFields fields))
  | v => v

def migrateItems : List Json → List Json
  | [] => []
  | x :: xs => x.migrate :: migrateItems xs

def migrateFields : List (String × Json) → List (String × Json)
  | [] => []
  | (k, x) :: rest => (k, x.migrate) :: migrateFields rest

end

theorem migrateItems_eq (items : List Json) : migrateItems items = items.map migrate := by
  induction items with
  | nil => simp [migrateItems]
  | cons x xs ih => simp [migrateItems, ih]

theorem migrateFields_eq (fields : List (String × Json)) :
    migrateFields fields = fields.map fun e => (e.1, e.2.migrate) := by
  induction fields with
  | nil => simp [migrateFields]
  | cons e rest ih => simp [migrateFields, ih]

@[simp] theorem migrate_arr (items : List Json) :
    (arr items).migrate = .arr (items.map migrate) := by
  rw [migrate, migrateItems_eq]

theorem exists_migrate_obj (fields : List (String × Json)) :
    ∃ fields', (obj fields).migrate = .obj fields' := by
  rw [migrate]
  split
  · exact ⟨_, rfl⟩
  · exact ⟨_, rfl⟩

@[simp] theorem isNull_migrate (v : Json) : v.migrate.isNull = v.isNull := by
  cases v with
  | arr items => simp [isNull]
  | obj fields =>
    obtain ⟨fields', h⟩ := exists_migrate_obj fields
    rw [h]
    rfl
  | _ => simp [migrate]

@[simp] theorem asArray?_migrate (v : Json) :
    v.migrate.asArray? = v.asArray?.map (List.map migrate) := by
  cases v with
  | arr items => simp [asArray?]
  | obj fields =>
    obtain ⟨fields', h⟩ := exists_migrate_obj fields
    rw [h]
    rfl
  | _ => simp [migrate, asArray?]

@[simp] theorem asString?_migrate (v : Json) : v.migrate.asString? = v.asString? := by
  cases v with
  | arr items => simp [asString?]
  | obj fields =>
    obtain ⟨fields', h⟩ := exists_migrate_obj fields
    rw [h]
    rfl
  | _ => simp [migrate]

end Json

/-! ## Fields -/

theorem Assoc.find?_filter_ne {β : Type} (dropped key : String) (entries : List (String × β)) :
    find? key (entries.filter (·.1 ≠ dropped)) =
      if dropped = key then none else find? key entries := by
  induction entries with
  | nil => simp [find?]
  | cons e rest ih =>
    obtain ⟨k, v⟩ := e
    by_cases hk : k = dropped
    · rw [List.filter_cons_of_neg (by simp [hk]), ih, find?]
      by_cases hkey : dropped = key
      · simp [hkey]
      · simp [hk, hkey]
    · rw [List.filter_cons_of_pos (by simp [hk]), find?, find?, ih]
      by_cases hkey : k = key
      · have hother : dropped ≠ key := fun h => hk (hkey.trans h.symm)
        simp [hkey, hother]
      · simp [hkey]

theorem find?_migrateFields (key : String) (fields : List (String × Json)) :
    Assoc.find? key (Json.migrateFields fields) = (Assoc.find? key fields).map Json.migrate := by
  rw [Json.migrateFields_eq, Assoc.find?_map]

/-- Moving statements changes two fields: there is a body, and there are no statements. -/
theorem find?_moveStats {fields : List (String × Json)} {stats : Json}
    (h : Assoc.find? "stats" fields = some stats) (key : String) :
    Assoc.find? key (moveStats (Json.migrateFields fields)) =
      if "body" = key then some (packageBody stats.migrate)
      else if "stats" = key then none else (Assoc.find? key fields).map Json.migrate := by
  rw [moveStats, find?_migrateFields, h]
  simp only [Option.map_some, Assoc.find?_insert, Assoc.find?_filter_ne, find?_migrateFields]

namespace Node

def migrate (node : Node) : Node :=
  { node with
    fields := match node.ownStats? with
      | none => Json.migrateFields node.fields
      | some _ => moveStats (Json.migrateFields node.fields) }

/-- The field of a node is where it was: it is not moved into a body, and no body takes its
place. -/
def Keeps (node : Node) (name : String) : Prop :=
  node.ownStats? = none ∨ name ≠ "body" ∧ name ≠ "stats"

theorem keeps_of_ne {node : Node} {name : String} (hbody : name ≠ "body")
    (hstats : name ≠ "stats") :
    node.Keeps name :=
  Or.inr ⟨hbody, hstats⟩

@[simp] theorem kind_migrate (node : Node) : node.migrate.kind = node.kind :=
  rfl

/-- A package that holds its statements itself has no body. -/
theorem of_ownStats?_eq_some {node : Node} {stats : List Json} (h : node.ownStats? = some stats) :
    node.kind = .pkg ∧ node.field? "body" = none ∧ node.field? "stats" = some (.arr stats) := by
  unfold ownStats? at h
  split at h
  · rename_i hpkg
    refine ⟨hpkg.1, by simpa using hpkg.2, ?_⟩
    cases hstats : node.field? "stats" with
    | none => simp [hstats] at h
    | some v =>
      cases v with
      | arr items =>
        simp only [hstats, Option.bind_some, Json.asArray?, Option.some.injEq] at h
        rw [h]
      | _ => simp [hstats, Json.asArray?] at h
  · cases h

theorem find?_migrate_of_ownStats? {node : Node} {stats : List Json}
    (h : node.ownStats? = some stats) (key : String) :
    Assoc.find? key node.migrate.fields =
      if "body" = key then some (packageBody (.arr (stats.map Json.migrate)))
      else if "stats" = key then none else (Assoc.find? key node.fields).map Json.migrate := by
  obtain ⟨-, -, hstats⟩ := of_ownStats?_eq_some h
  simp only [migrate, h]
  rw [find?_moveStats (find?_of_field? hstats), Json.migrate_arr]

theorem find?_migrate {node : Node} {name : String} (h : node.Keeps name) :
    Assoc.find? name node.migrate.fields = (Assoc.find? name node.fields).map Json.migrate := by
  cases hstats : node.ownStats? with
  | none =>
    simp only [migrate, hstats]
    exact find?_migrateFields name node.fields
  | some stats =>
    rcases h with hnone | ⟨hbody, hother⟩
    · rw [hnone] at hstats
      cases hstats
    · rw [find?_migrate_of_ownStats? hstats, if_neg (Ne.symm hbody), if_neg (Ne.symm hother)]

/-- A field that is not moved has the migrated value. -/
theorem field?_migrate {node : Node} {name : String} (h : node.Keeps name) :
    node.migrate.field? name = (node.field? name).map Json.migrate := by
  rw [field?, field?, find?_migrate h]
  cases Assoc.find? name node.fields with
  | none => rfl
  | some v => cases hnull : v.isNull <;> simp [Option.filter, hnull]

theorem seq_migrate {node : Node} {name : String} (h : node.Keeps name) :
    node.migrate.seq name = (node.seq name).map Json.migrate := by
  rw [seq, seq, field?_migrate h]
  cases node.field? name with
  | none => rfl
  | some v => cases harray : v.asArray? <;> simp [harray]

/-- Nothing is left to be moved. -/
theorem ownStats?_migrate (node : Node) : node.migrate.ownStats? = none := by
  cases hstats : node.ownStats? with
  | none =>
    have hsame : node.migrate.ownStats? = node.ownStats?.map (List.map Json.migrate) := by
      simp only [ownStats?, kind_migrate, field?_migrate (Or.inl hstats), Option.isNone_map]
      split
      · cases node.field? "stats" with
        | none => rfl
        | some v => exact v.asArray?_migrate
      · rfl
    rw [hsame, hstats]
    rfl
  | some stats =>
    have hbody : (node.migrate.field? "body").isNone = false := by
      rw [field?, find?_migrate_of_ownStats? hstats, if_pos rfl]
      rfl
    simp [ownStats?, hbody]

theorem value?_migrate (node : Node) : node.migrate.value? = node.value? := by
  rw [value?, value?, str?, str?, field?_migrate (keeps_of_ne (by decide) (by decide))]
  cases node.field? "value" with
  | none => rfl
  | some v => simp

end Node

/-! ## Nodes -/

namespace Json

/-- Migration keeps nodes nodes. -/
theorem migrate_of_node? {v : Json} {node : Node} (h : v.node? = some node) :
    v.migrate = .obj node.migrate.fields := by
  obtain ⟨hvalue, -⟩ := node?_eq_some_iff.1 h
  rw [hvalue] at h ⊢
  rw [migrate, h, Node.migrate]
  cases hstats : node.ownStats? with
  | none => simp [hstats]
  | some stats => simp [hstats]

/-- An object is migrated inside; if it is a package without a body, its statements are moved. -/
theorem migrate_obj_cases (fields : List (String × Json)) :
    (obj fields).migrate = .obj (migrateFields fields) ∨
      ∃ node stats, (obj fields).node? = some node ∧ node.ownStats? = some stats ∧
        (obj fields).migrate = .obj (moveStats (migrateFields fields)) := by
  rw [migrate]
  split
  · exact Or.inl rfl
  · rename_i stats hstats
    obtain ⟨node, hnode, hown⟩ := Option.bind_eq_some_iff.1 hstats
    exact Or.inr ⟨node, stats, hnode, hown, rfl⟩

/-- What a package without a body has under the two keys. -/
theorem find?_of_ownStats? {fields : List (String × Json)} {node : Node} {stats : List Json}
    (hnode : (obj fields).node? = some node) (hstats : node.ownStats? = some stats) :
    Assoc.find? "stats" fields = some (.arr stats) ∧
      ∀ x, Assoc.find? "body" fields = some x → x.isNull = true := by
  obtain ⟨hvalue, -⟩ := node?_eq_some_iff.1 hnode
  injection hvalue with hfields
  obtain ⟨-, hbody, hown⟩ := Node.of_ownStats?_eq_some hstats
  rw [hfields]
  refine ⟨Node.find?_of_field? hown, ?_⟩
  intro x hx
  simpa [Node.field?, hx, Option.filter] using hbody

/-- The nodes of the new tree are those of the old one. -/
theorem node?_migrate (v : Json) : v.migrate.node? = v.node?.map Node.migrate := by
  cases hnode : v.node? with
  | some node =>
    obtain ⟨-, htag, hempty⟩ := node?_eq_some_iff.1 hnode
    refine node?_eq_some_iff.2 ⟨migrate_of_node? hnode, ?_, hempty⟩
    have htype : Assoc.find? "type" node.migrate.fields =
        (Assoc.find? "type" node.fields).map migrate :=
      Node.find?_migrate (Node.keeps_of_ne (by decide) (by decide))
    calc
      (Assoc.find? "type" node.migrate.fields).bind asString?
          = (Assoc.find? "type" node.fields).bind asString? := by
            simp only [htype, Option.bind_map, Function.comp_def, asString?_migrate]
      _ = some node.tag := htag
  | none =>
    cases v with
    | obj fields =>
      have hmigrate : (obj fields).migrate = .obj (migrateFields fields) := by
        rw [migrate, hnode]
        rfl
      rw [hmigrate]
      -- a tag in the new fields would be one in the old fields
      by_contra hsome
      obtain ⟨node, hnode'⟩ := Option.ne_none_iff_exists'.1 hsome
      obtain ⟨hfields, htag, hempty⟩ := node?_eq_some_iff.1 hnode'
      injection hfields with hfields
      rw [← hfields, find?_migrateFields] at htag
      simp only [Option.bind_map, Function.comp_def, asString?_migrate] at htag
      have hold : (obj fields).node? = some ⟨node.tag, fields⟩ :=
        node?_eq_some_iff.2 ⟨rfl, htag, hempty⟩
      rw [hnode] at hold
      cases hold
    | arr items => simp [node?]
    | _ => simp [migrate, node?]

theorem isImport_migrate (v : Json) : v.migrate.isImport = v.isImport := by
  unfold isImport
  rw [node?_migrate]
  cases v.node? with
  | none => rfl
  | some node => rfl

end Json

/-! ## References -/

/-- References keep their names: no package is part of one. -/
theorem Json.name?_migrate (v : Json) : v.migrate.name? = v.name? := by
  rw [name?_eq, name?_eq, node?_migrate]
  cases hnode : v.node? with
  | none => rfl
  | some node =>
    have hname : ∀ name, node.Keeps name → node.migrate.name? name = node.name? name := by
      intro name hkeeps
      rw [Node.name?, Node.name?, Node.field?_migrate hkeeps]
      cases hx : node.field? name with
      | none => rfl
      | some x =>
        have _hlt : sizeOf x < sizeOf v := Site.sizeOf_lt_of_holds (Node.holds_of_field? hnode hx)
        exact name?_migrate x
    simp [Node.reference?, Node.value?_migrate, hname, Node.keeps_of_ne]
termination_by sizeOf v

/-! ## What a node says -/

namespace Node

/-- The names of references do not change. -/
theorem name?_migrate {node : Node} {name : String} (h : node.Keeps name) :
    node.migrate.name? name = node.name? name := by
  rw [name?, name?, field?_migrate h]
  cases node.field? name with
  | none => rfl
  | some v => exact v.name?_migrate

theorem child?_migrate {node : Node} {name : String} (h : node.Keeps name) :
    node.migrate.child? name = (node.child? name).map migrate := by
  rw [child?, child?, field?_migrate h]
  cases node.field? name with
  | none => rfl
  | some v => exact v.node?_migrate

theorem valName?_migrate (node : Node) : node.migrate.valName? = node.valName? := by
  rw [valName?, valName?, seq_migrate (keeps_of_ne (by decide) (by decide)), List.head?_map]
  cases (node.seq "pats").head? with
  | none => rfl
  | some v =>
    simp only [Option.map_some, Option.bind_some, Json.node?_migrate]
    cases v.node? with
    | none => rfl
    | some pat => simp [name?_migrate, keeps_of_ne]

/-- The supertypes of a declaration do not change. -/
theorem supertypes_migrate (node : Node) : node.migrate.supertypes = node.supertypes := by
  rw [supertypes, supertypes, child?_migrate (keeps_of_ne (by decide) (by decide))]
  cases node.child? "templ" with
  | none => rfl
  | some templ =>
    simp only [Option.map_some]
    rw [seq_migrate (keeps_of_ne (by decide) (by decide)), List.filterMap_map]
    refine List.filterMap_congr fun init _ => ?_
    simp only [Function.comp_apply, Json.node?_migrate]
    cases init.node? with
    | none => rfl
    | some node => exact name?_migrate (keeps_of_ne (by decide) (by decide))

/-- A node declares the same. -/
theorem declared_migrate (node : Node) : node.migrate.declared = node.declared := by
  simp [declared, valName?_migrate, name?_migrate, keeps_of_ne]

theorem inherit_migrate (node : Node) (packages : List String) (h : Heritage) :
    node.migrate.inherit packages h = node.inherit packages h := by
  simp [inherit, declKind?, name?_migrate, keeps_of_ne, Heritage.record, supertypes_migrate]

end Node

theorem importeeBinding?_migrate (prefixName : String) (importee : Json) :
    importeeBinding? prefixName importee.migrate = importeeBinding? prefixName importee := by
  rw [importeeBinding?, importeeBinding?, Json.node?_migrate]
  cases importee.node? with
  | none => rfl
  | some node =>
    have hname : ((node.child? "name").map Node.migrate).bind Node.value? =
        (node.child? "name").bind Node.value? := by
      cases node.child? "name" with
      | none => rfl
      | some name => exact name.value?_migrate
    simp [Node.child?_migrate, Node.keeps_of_ne, hname]

namespace Json

theorem importerBindings_migrate (v : Json) : v.migrate.importerBindings = v.importerBindings := by
  rw [importerBindings, importerBindings, node?_migrate]
  cases v.node? with
  | none => rfl
  | some node =>
    simp [Node.name?_migrate, Node.seq_migrate, Node.keeps_of_ne, List.filterMap_map,
      importeeBinding?_migrate]

theorem importBindings_migrate (v : Json) : v.migrate.importBindings = v.importBindings := by
  rw [importBindings, importBindings, node?_migrate]
  cases v.node? with
  | none => rfl
  | some node =>
    simp [Node.seq_migrate, Node.keeps_of_ne, List.flatMap_map, importerBindings_migrate]

/-- An import statement binds the same. -/
theorem bindings_migrate (v : Json) : v.migrate.bindings = v.bindings := by
  rw [bindings, bindings, isImport_migrate, importBindings_migrate]

theorem treeError?_migrate {v : Json} (h : v.treeError? = none) : v.migrate.treeError? = none := by
  rw [treeError?_eq_none_iff] at h ⊢
  intro y hy
  cases v with
  | obj fields =>
    have herror : (obj fields).migrate.get? "error" = (Assoc.find? "error" fields).map migrate := by
      rcases migrate_obj_cases fields with hmigrate | ⟨node, stats, hnode, hstats, hmigrate⟩
      · rw [hmigrate]
        exact find?_migrateFields "error" fields
      · rw [hmigrate]
        exact find?_moveStats (find?_of_ownStats? hnode hstats).1 "error"
    rw [herror, Option.map_eq_some_iff] at hy
    obtain ⟨x, hx, rfl⟩ := hy
    rw [isNull_migrate]
    exact h x hx
  | arr items => simp [get?] at hy
  | _ => simp [migrate, get?] at hy

end Json

namespace Outline

/-- At a node of the new tree the same is noted. -/
theorem noteNode_migrate {v : Json} {node : Node} (hnode : v.node? = some node) (scope : Nat)
    (packages : List String) (o : Outline) :
    o.noteNode scope packages node.migrate = o.noteNode scope packages node := by
  have hbring : node.migrate.bring scope o.scopes = node.bring scope o.scopes := by
    have hnode' : v.migrate.node? = some node.migrate := by rw [Json.node?_migrate, hnode]; rfl
    rw [Node.bring, Node.bring, Node.kind_migrate, toJson_of_node? hnode, toJson_of_node? hnode',
      Arena.recordImport, Arena.recordImport, Json.importBindings_migrate]
  simp only [noteNode, Node.declared_migrate, Node.inherit_migrate, hbring]

end Outline

/-! ## What a value holds -/

namespace Json

/-- A value is still held where it was, or is the list of statements in a body. Only a null may be
gone. -/
theorem holds_migrate {v x : Json} {s : Step} (hsorted : v.Sorted) (hx : v.Holds s x)
    (hnull : x.isNull = false) :
    v.migrate.Holds s x.migrate ∨
      s = .field "stats" ∧ v.migrate.Holds (.field "body") (packageBody x.migrate) := by
  cases hx with
  | item hi =>
    rw [migrate_arr]
    exact Or.inl (.item (by simp [hi]))
  | @field fields k _ hk =>
    have hfind : Assoc.find? k fields = some x := Assoc.find?_of_mem (sorted_obj_iff.1 hsorted).1 hk
    have hmapped : (Assoc.find? k fields).map migrate = some x.migrate := by
      rw [hfind, Option.map_some]
    rcases migrate_obj_cases fields with hmigrate | ⟨node, stats, hnode, hstats, hmigrate⟩
    · rw [hmigrate]
      refine Or.inl (.field (mem_of_find? ?_))
      rw [find?_migrateFields, hmapped]
    · rw [hmigrate]
      obtain ⟨hown, hbody⟩ := find?_of_ownStats? hnode hstats
      have hkbody : k ≠ "body" := by
        rintro rfl
        rw [hbody x hfind] at hnull
        cases hnull
      by_cases hkstats : k = "stats"
      · subst hkstats
        refine Or.inr ⟨rfl, .field (mem_of_find? ?_)⟩
        rw [find?_moveStats hfind, if_pos rfl]
      · refine Or.inl (.field (mem_of_find? ?_))
        rw [find?_moveStats hown, if_neg (Ne.symm hkbody), if_neg (Ne.symm hkstats), hmapped]

/-- What a value of the new tree holds comes from the old one, or is the body of a package. -/
theorem of_holds_migrate {v y : Json} {s : Step} (hy : v.migrate.Holds s y) :
    (∃ x, v.Holds s x ∧ y = x.migrate) ∨
      ∃ x, v.Holds (.field "stats") x ∧ s = .field "body" ∧ y = packageBody x.migrate := by
  have hmapped : ∀ {fields : List (String × Json)} {k : String}, (k, y) ∈ migrateFields fields →
      ∃ x, (k, x) ∈ fields ∧ y = x.migrate := by
    intro fields k hmem
    rw [migrateFields_eq] at hmem
    obtain ⟨⟨k', x⟩, hx, heq⟩ := List.mem_map.1 hmem
    cases heq
    exact ⟨x, hx, rfl⟩
  cases v with
  | arr items =>
    rw [migrate_arr] at hy
    cases hy with
    | @item _ i _ hi =>
      rw [List.getElem?_map, Option.map_eq_some_iff] at hi
      obtain ⟨x, hx, rfl⟩ := hi
      exact Or.inl ⟨x, .item hx, rfl⟩
  | obj fields =>
    rcases migrate_obj_cases fields with hmigrate | ⟨node, stats, hnode, hstats, hmigrate⟩
    · rw [hmigrate] at hy
      cases hy with
      | field hk =>
        obtain ⟨x, hx, hxy⟩ := hmapped hk
        exact Or.inl ⟨x, .field hx, hxy⟩
    · obtain ⟨hown, -⟩ := find?_of_ownStats? hnode hstats
      rw [hmigrate, moveStats, find?_migrateFields, hown] at hy
      cases hy with
      | field hk =>
        rcases Assoc.mem_of_mem_insert hk with heq | hk
        · -- the field that was inserted is the new body
          cases heq
          exact Or.inr ⟨.arr stats, .field (mem_of_find? hown), rfl, rfl⟩
        · obtain ⟨x, hx, hxy⟩ := hmapped (List.mem_filter.1 hk).1
          exact Or.inl ⟨x, .field hx, hxy⟩
  | _ =>
    simp only [migrate] at hy
    cases hy

end Json
end SymbolIndex
