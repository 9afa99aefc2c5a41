import SymbolIndex.Proofs.Outline.Heritage
import Mathlib.Data.List.Forall2

/-!
# The supertypes of several trees

One outline may visit a sequence of trees. Declarations of one kind and name, wherever they stand,
then share a key, and their supertypes add up in the order of the visits:

- `SpineSite.IsSpine` : the values on the spine of a tree, in the order of the visit
- `SpineSite.declaration?` : the declaration of a kind and a qualified name at a value
- `Node.Inherits` : a declaration has a named supertype
- `Outline.eq_foldl_of_visitAll` : a sequence of visits makes the notes of all spines
- `Outline.supertypes_of_visitAll` : the supertypes after a sequence of visits, as written and
  resolved
-/

namespace SymbolIndex

/-- The declaration has a template with a named supertype. -/
def Node.Inherits (declaration : Node) : Prop :=
  ∃ templ, declaration.child? "templ" = some templ ∧ ∃ init ∈ templ.seq "inits", ∃ node name,
    init.node? = some node ∧ node.name? "tpe" = some name

/-- A declaration has supertypes if its template names one. -/
theorem Node.supertypes_ne_nil_iff {declaration : Node} :
    declaration.supertypes ≠ [] ↔ declaration.Inherits := by
  unfold supertypes Inherits
  cases declaration.child? "templ" with
  | none => simp
  | some templ =>
    simp only [Option.some.injEq, exists_eq_left']
    constructor
    · intro h
      obtain ⟨name, hmem⟩ := List.exists_mem_of_ne_nil _ h
      obtain ⟨init, hinit, hnamed⟩ := List.mem_filterMap.1 hmem
      obtain ⟨node, hnode, hname⟩ := Option.bind_eq_some_iff.1 hnamed
      exact ⟨init, hinit, node, name, hnode, hname⟩
    · rintro ⟨init, hinit, node, name, hnode, hname⟩
      have hnamed : (init.node?.bind fun n => n.name? "tpe") = some name := by
        rw [hnode]
        exact hname
      exact List.ne_nil_of_mem (List.mem_filterMap.2 ⟨init, hinit, hnamed⟩)

namespace SpineSite

/-- The values on the spine of a tree, each once and by increasing position. -/
structure IsSpine (tree : Json) (bs : List SpineSite) : Prop where
  mem_iff : ∀ b, b ∈ bs ↔ OnSpine tree b
  ordered : bs.Pairwise fun b c => b.site.position < c.site.position

theorem isSpine_spine (tree : Json) : IsSpine tree (root tree).spine where
  mem_iff _ := mem_spine_iff
  ordered := pairwise_spine (root tree)

/-- The values on the spines of a sequence of trees, tree after tree. -/
def along (trees : List Json) : List SpineSite :=
  trees.flatMap fun tree => (root tree).spine

theorem mem_along_iff {trees : List Json} {b : SpineSite} :
    b ∈ along trees ↔ ∃ tree ∈ trees, OnSpine tree b := by
  simp only [along, List.mem_flatMap, mem_spine_iff]

/-! ## Declarations -/

/-- The class, trait or object of a kind and a qualified name that stands at a value on the
spine. -/
def declaration? (kind : DeclKind) (q : String) (b : SpineSite) : Option Node :=
  b.site.value.node?.filter fun node =>
    node.declKind? = some kind ∧
      (node.name? "name").map (fun name => ".".intercalate (b.packages ++ [name])) = some q

/-- What is written under the key of a declaration is what such declarations inherit: no other kind
and name have that key. -/
theorem writes_key (kind : DeclKind) (q : String) (b : SpineSite) :
    b.writes (kind.key q) = (b.declaration? kind q).toList.flatMap Node.supertypes := by
  unfold writes declaration?
  cases b.site.value.node? with
  | none => rfl
  | some node =>
    cases hkind : node.declKind? with
    | none => simp [hkind]
    | some kind' =>
      cases hname : node.name? "name" with
      | none => simp [hkind, hname]
      | some name =>
        -- the word for the kind ends at the first blank, so that a key can be taken apart
        have hkey : kind'.key (".".intercalate (b.packages ++ [name])) = kind.key q ↔
            kind' = kind ∧ ".".intercalate (b.packages ++ [name]) = q := by
          constructor
          · exact DeclKind.key_injective
          · rintro ⟨rfl, rfl⟩
            rfl
        simp only [Option.filter_some, hkind, hname, hkey, Option.map_some, Option.some.injEq,
          decide_eq_true_eq]
        split <;> simp

/-- Under a key stand the supertypes of the declarations of its kind and name. -/
theorem flatMap_writes_key (kind : DeclKind) (q : String) (bs : List SpineSite) :
    bs.flatMap (writes (kind.key q)) =
      (bs.filterMap (declaration? kind q)).flatMap Node.supertypes := by
  induction bs with
  | nil => rfl
  | cons b bs ih =>
    rw [List.flatMap_cons, writes_key, ih, List.filterMap_cons]
    cases b.declaration? kind q with
    | none => rfl
    | some node => simp

end SpineSite

namespace Heritage

/-- The supertypes are those that the declarations in a sequence of trees have, tree after tree. -/
structure Gathers (h : Heritage) (trees : List Json) : Prop where
  /-- Every key is that of a kind and a qualified name. -/
  keys : ∀ key, (h.get? key).isSome = true → ∃ kind : DeclKind, ∃ q, key = kind.key q
  /-- There is a key for those that are declared with a named supertype. -/
  present : ∀ kind q, (h.get? (DeclKind.key kind q)).isSome = true ↔
    ∃ tree ∈ trees, ∃ b node, SpineSite.OnSpine tree b ∧ b.declaration? kind q = some node ∧
      node.Inherits
  /-- Under a key, declarations come in the order of the visits and the supertypes of each as they
  are written. -/
  listed : ∃ spines, List.Forall₂ SpineSite.IsSpine trees spines ∧
    ∀ kind q names, h.get? (DeclKind.key kind q) = some names →
      names = (spines.flatten.filterMap (SpineSite.declaration? kind q)).flatMap Node.supertypes

theorem keys_resolve (h : Heritage) (scopes : Arena) (scope : Nat) :
    Assoc.keys (h.resolve scopes scope).entries.entries = Assoc.keys h.entries.entries := by
  show (h.entries.entries.map _).map Prod.fst = _
  rw [List.map_map]
  rfl

end Heritage

/-! ## A sequence of visits -/

namespace Outline

/-- After visits that all end, the values on all spines have been noted, tree after tree. -/
theorem eq_foldl_of_visitAll {scope maxDepth : Nat} {trees : List Json} {scopes : Arena}
    {o : Outline} (h : visitAll scope maxDepth trees (new scopes) = (.complete, o)) :
    o = (SpineSite.along trees).foldl (note scope) (new scopes) := by
  have hvalues : (trees.map SpineSite.root).map (·.site.value) = trees := by
    rw [List.map_map]
    exact List.map_id trees
  have hrun : visitAll scope maxDepth ((trees.map SpineSite.root).map (·.site.value)) (new scopes) =
      outcome scope maxDepth ((trees.map SpineSite.root).flatMap SpineSite.spine) (new scopes) := by
    -- a visit closes the packages it opens, so that every tree is visited as if it were the first
    apply visitAll_eq_outcome
    · intro c _ o ho
      exact visit_eq_outcome scope maxDepth c ho
    · intro c hc
      obtain ⟨tree, -, rfl⟩ := List.mem_map.1 hc
      exact standsAt_new tree scopes
  rw [hvalues, h, List.flatMap_map] at hrun
  exact (eq_foldl_of_outcome hrun.symm).1

/-- After visits of trees one after another, a key has what their spines write there. -/
theorem get?_of_visitAll {scope maxDepth : Nat} {trees : List Json} {scopes : Arena} {o : Outline}
    (h : visitAll scope maxDepth trees (new scopes) = (.complete, o)) (key : String) :
    o.heritage.get? key = nonempty? ((SpineSite.along trees).flatMap (SpineSite.writes key)) := by
  have hnew : (new scopes).heritage.get? key = nonempty? [] := rfl
  rw [eq_foldl_of_visitAll h]
  exact get?_foldl_note hnew scope

/-- The supertypes are gathered from all trees that were visited. -/
theorem gathers_of_visitAll {scope maxDepth : Nat} {trees : List Json} {scopes : Arena}
    {o : Outline} (h : visitAll scope maxDepth trees (new scopes) = (.complete, o)) :
    o.heritage.Gathers trees where
  keys key hkey := by
    -- something was written under the key, and only declarations write
    rw [get?_of_visitAll h, isSome_nonempty?] at hkey
    obtain ⟨written, hwritten⟩ := List.exists_mem_of_ne_nil _ hkey
    obtain ⟨b, -, hb⟩ := List.mem_flatMap.1 hwritten
    obtain ⟨kind, q, -, hq⟩ := SpineSite.exists_declaresAs_of_writes (List.ne_nil_of_mem hb)
    exact ⟨kind, q, hq.symm⟩
  present kind q := by
    rw [get?_of_visitAll h, SpineSite.flatMap_writes_key, isSome_nonempty?]
    constructor
    · intro hne
      obtain ⟨written, hwritten⟩ := List.exists_mem_of_ne_nil _ hne
      obtain ⟨node, hnode, hmem⟩ := List.mem_flatMap.1 hwritten
      obtain ⟨b, hb, hdeclared⟩ := List.mem_filterMap.1 hnode
      obtain ⟨tree, htree, hspine⟩ := SpineSite.mem_along_iff.1 hb
      have hinherits : node.Inherits := Node.supertypes_ne_nil_iff.1 (List.ne_nil_of_mem hmem)
      exact ⟨tree, htree, b, node, hspine, hdeclared, hinherits⟩
    · rintro ⟨tree, htree, b, node, hspine, hdeclared, hinherits⟩
      obtain ⟨written, hwritten⟩ :=
        List.exists_mem_of_ne_nil _ (Node.supertypes_ne_nil_iff.2 hinherits)
      have hb : b ∈ SpineSite.along trees := SpineSite.mem_along_iff.2 ⟨tree, htree, hspine⟩
      have hnode : node ∈ (SpineSite.along trees).filterMap (SpineSite.declaration? kind q) :=
        List.mem_filterMap.2 ⟨b, hb, hdeclared⟩
      exact List.ne_nil_of_mem (List.mem_flatMap.2 ⟨node, hnode, hwritten⟩)
  listed := by
    refine ⟨trees.map fun tree => (SpineSite.root tree).spine, ?_, ?_⟩
    · rw [List.forall₂_map_right_iff]
      exact List.forall₂_same.2 fun tree _ => SpineSite.isSpine_spine tree
    · intro kind q names hnames
      rw [get?_of_visitAll h, SpineSite.flatMap_writes_key] at hnames
      rw [← List.flatMap_def]
      exact (eq_of_nonempty?_eq_some hnames).symm

/-- After visits that all end, the supertypes are those of the declarations on the spines. Resolving
them keeps all keys, and replaces each supertype on its own. -/
theorem supertypes_of_visitAll (scope maxDepth : Nat) (trees : List Json) (scopes : Arena)
    (o : Outline) (h : visitAll scope maxDepth trees (new scopes) = (.complete, o)) :
    o.heritage.Gathers trees ∧
      ∀ arena s, Assoc.keys (o.heritage.resolve arena s).entries.entries =
          Assoc.keys o.heritage.entries.entries ∧
        ∀ key names, o.heritage.get? key = some names →
          (o.heritage.resolve arena s).get? key = some (names.map (arena.resolve s)) := by
  refine ⟨gathers_of_visitAll h, ?_⟩
  intro arena s
  refine ⟨o.heritage.keys_resolve arena s, ?_⟩
  intro key names hnames
  rw [Heritage.get?_resolve, hnames]
  rfl

/-- A class with the names of its supertypes, one of which is missing. -/
def classOf (name : String) (supertypes : List String) : Json :=
  .obj [
    ("name", .obj [("type", .str "Type.Name"), ("value", .str name)]),
    ("templ", .obj [
      ("inits", .arr (.obj [("type", .str "Init")] :: supertypes.map fun s =>
        .obj [("tpe", .obj [("type", .str "Type.Name"), ("value", .str s)]),
          ("type", .str "Init")])),
      ("type", .str "Template")]),
    ("type", .str "Defn.Class")]

def packageOf (stats : List Json) : Json :=
  .obj [
    ("ref", .obj [("type", .str "Term.Name"), ("value", .str "a")]),
    ("stats", .arr stats),
    ("type", .str "Pkg")]

/-- The class `a.X` is declared twice in one tree and once in another, and the class `a.Y` without
supertypes. -/
def repeatedClass : List Json :=
  [packageOf [classOf "X" ["B", "B"], classOf "Y" [], classOf "X" ["C"]],
    packageOf [classOf "X" ["B"]]]

theorem supertypes_of_visitAll_repeatedClass :
    ∃ o, visitAll 0 2 repeatedClass (new .new) = (.complete, o) ∧
      o.heritage.entries.entries = [("class a.X", ["B", "B", "C", "B"])] ∧
      o.heritage.Gathers repeatedClass ∧
      ∀ arena s, (o.heritage.resolve arena s).get? "class a.X" =
        some [arena.resolve s "B", arena.resolve s "B", arena.resolve s "C",
          arena.resolve s "B"] := by
  have hresult : (visitAll 0 2 repeatedClass (new .new)).1 = .complete ∧
      (visitAll 0 2 repeatedClass (new .new)).2.heritage.entries.entries =
        [("class a.X", ["B", "B", "C", "B"])] := by
    decide +kernel
  cases hvisits : visitAll 0 2 repeatedClass (new .new) with
  | mk e o =>
    rw [hvisits] at hresult
    obtain ⟨rfl, hentries⟩ := hresult
    obtain ⟨hgathers, hresolve⟩ := supertypes_of_visitAll 0 2 repeatedClass .new o hvisits
    have hlisted : o.heritage.get? "class a.X" = some ["B", "B", "C", "B"] := by
      rw [Heritage.get?, Table.find?, hentries]
      rfl
    refine ⟨o, rfl, hentries, hgathers, ?_⟩
    intro arena s
    exact (hresolve arena s).2 "class a.X" _ hlisted

end Outline
end SymbolIndex
