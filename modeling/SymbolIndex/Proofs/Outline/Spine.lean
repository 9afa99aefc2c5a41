import SymbolIndex.Outline.Basic
import SymbolIndex.Proofs.Sorted.Table
import SymbolIndex.Proofs.Walk.Site

/-!
# The spine of a tree

The outline of a tree follows packages and statement lists only. This file says, without any state,
which values it visits and in which packages they stand:

- `SpineSite` : a value on the spine, with the packages around it
- `SpineSite.OnSpine` : the rules by which the spine goes on
- `SpineSite.spine` : the values on the spine, each before those behind it
- `SpineSite.mem_spine_iff`, `SpineSite.pairwise_spine` : exactly those, by increasing position
-/

namespace SymbolIndex

/-! ## Nodes -/

/-- A node is the object with its fields. -/
theorem toJson_of_node? {v : Json} {node : Node} (h : v.node? = some node) : node.toJson = v := by
  cases v with
  | obj fields =>
    simp only [Json.node?] at h
    split at h
    · split at h
      · cases h
      · cases h
        rfl
    · cases h
  | _ => cases h

theorem Node.find?_of_field? {node : Node} {name : String} {x : Json}
    (h : node.field? name = some x) : Assoc.find? name node.fields = some x := by
  simp only [Node.field?, Option.filter_eq_some_iff] at h
  exact h.1

theorem Node.holds_of_field? {v : Json} {node : Node} (hnode : v.node? = some node)
    {name : String} {x : Json} (h : node.field? name = some x) : v.Holds (.field name) x := by
  rw [← toJson_of_node? hnode]
  exact .field (mem_of_find? (Node.find?_of_field? h))

/-- The elements of an array in a field are those of the value of the field. -/
theorem Node.field?_of_mem_seq {node : Node} {name : String} {i : Nat} {x : Json}
    (h : (node.seq name)[i]? = some x) : node.field? name = some (.arr (node.seq name)) := by
  unfold Node.seq at h ⊢
  cases hfield : node.field? name with
  | none => simp [hfield] at h
  | some v =>
    cases v with
    | arr items => rfl
    | _ => simp [hfield, Json.asArray?] at h

namespace Kind

/-- Whether nodes of this kind are followed through their statements, in the packages in which they
stand. All kinds do so that have no rule of their own. -/
def passesOn : Kind → Bool
  | .pkg | .pkgObject | .importStat | .defnObject | .defnVal | .defnType => false
  | _ => true

end Kind

/-- The package that a node opens. -/
def Node.opened? (node : Node) : Option String :=
  match node.kind with
  | .pkg => node.name? "ref"
  | .pkgObject => node.name? "name"
  | _ => none

namespace Site

def statements (a : Site) (node : Node) : List Site :=
  (a.enter (.field "stats") (.arr (node.seq "stats"))).children

def part (a : Site) (node : Node) (name : String) : List Site :=
  (node.field? name).toList.map (a.enter (.field name))

/-- Where the spine goes on behind a node. -/
def contents (a : Site) (node : Node) : List Site :=
  match node.kind with
  | .pkg => if (node.field? "body").isSome then a.part node "body" else a.statements node
  | .pkgObject => if (node.name? "name").isSome then a.part node "templ" else []
  | k => if k.passesOn then a.statements node else []

/-- The statements of a node are the elements of its array. -/
theorem mem_statements_iff {a b : Site} {node : Node} :
    b ∈ a.statements node ↔ ∃ i x, (node.seq "stats")[i]? = some x ∧
      b = (a.enter (.field "stats") (.arr (node.seq "stats"))).enter (.item i) x := by
  unfold statements
  rw [mem_children_iff]
  constructor
  · rintro ⟨s, x, hx, rfl⟩
    cases hx with
    | @item _ i _ hi => exact ⟨i, x, hi, rfl⟩
  · rintro ⟨i, x, hi, rfl⟩
    exact ⟨.item i, x, .item hi, rfl⟩

theorem mem_part_iff {a b : Site} {node : Node} {name : String} :
    b ∈ a.part node name ↔ ∃ x, node.field? name = some x ∧ b = a.enter (.field name) x := by
  simp only [part, List.mem_map, Option.mem_toList]
  constructor
  · rintro ⟨x, hx, rfl⟩
    exact ⟨x, hx, rfl⟩
  · rintro ⟨x, hx, rfl⟩
    exact ⟨x, hx, rfl⟩

/-- The spine goes on in a field, or at an element of the array in a field. -/
theorem mem_contents_cases {a b : Site} {node : Node} (h : b ∈ a.contents node) :
    (∃ name x, node.field? name = some x ∧ b = a.enter (.field name) x) ∨
      ∃ i x, (node.seq "stats")[i]? = some x ∧
        b = (a.enter (.field "stats") (.arr (node.seq "stats"))).enter (.item i) x := by
  unfold contents at h
  split at h
  · split at h
    · obtain ⟨x, hx, rfl⟩ := mem_part_iff.1 h
      exact Or.inl ⟨"body", x, hx, rfl⟩
    · exact Or.inr (mem_statements_iff.1 h)
  · split at h
    · obtain ⟨x, hx, rfl⟩ := mem_part_iff.1 h
      exact Or.inl ⟨"templ", x, hx, rfl⟩
    · cases h
  · split at h
    · exact Or.inr (mem_statements_iff.1 h)
    · cases h

theorem sizeOf_lt_of_mem_contents {a b : Site} {node : Node} (hnode : a.value.node? = some node)
    (h : b ∈ a.contents node) : sizeOf b.value < sizeOf a.value := by
  rcases mem_contents_cases h with ⟨name, x, hx, rfl⟩ | ⟨i, x, hx, rfl⟩
  · exact sizeOf_lt_of_holds (Node.holds_of_field? hnode hx)
  · have hstats := Node.holds_of_field? hnode (Node.field?_of_mem_seq hx)
    exact Nat.lt_trans (sizeOf_lt_of_holds (.item hx)) (sizeOf_lt_of_holds hstats)

/-- What is behind a node has that node around it. -/
theorem around_of_mem_contents {a b : Site} {node : Node} (h : b ∈ a.contents node) :
    b.around = a.within := by
  rcases mem_contents_cases h with ⟨name, x, hx, rfl⟩ | ⟨i, x, hx, rfl⟩
  · rfl
  · rfl

theorem exists_position_of_mem_contents {a b : Site} {node : Node} (h : b ∈ a.contents node) :
    ∃ p, p ≠ [] ∧ b.position = a.position ++ p := by
  rcases mem_contents_cases h with ⟨name, x, hx, rfl⟩ | ⟨i, x, hx, rfl⟩
  · exact ⟨[.field name], List.cons_ne_nil _ _, rfl⟩
  · exact ⟨[.field "stats", .item i], List.cons_ne_nil _ _, by simp [enter]⟩

/-- Behind a node the spine goes on by increasing position. -/
theorem pairwise_contents (a : Site) (node : Node) :
    (a.contents node).Pairwise fun b c =>
      ∀ p q, b.position ++ p < c.position ++ q := by
  have hstatements : (a.statements node).Pairwise fun b c =>
      ∀ p q, b.position ++ p < c.position ++ q := by
    refine (pairwise_children ?_).imp ?_
    · intro fields h
      cases h
    · rintro b c ⟨s, t, x, y, hlt, rfl, rfl⟩ p q
      have hpos : (a.position ++ [.field "stats"]) ++ s :: p <
          (a.position ++ [.field "stats"]) ++ t :: q := position_lt_of_step hlt
      simpa [enter] using hpos
  have hpart : ∀ name, (a.part node name).Pairwise fun b c =>
      ∀ p q, b.position ++ p < c.position ++ q := by
    intro name
    unfold part
    cases node.field? name with
    | none => exact List.Pairwise.nil
    | some x => exact List.pairwise_singleton _ _
  unfold contents
  split
  · split
    · exact hpart "body"
    · exact hstatements
  · split
    · exact hpart "templ"
    · exact List.Pairwise.nil
  · split
    · exact hstatements
    · exact List.Pairwise.nil

end Site

/-! ## The spine -/

/-- A value on the spine, with the packages that enclose it, outermost first. -/
structure SpineSite where
  site : Site
  packages : List String

namespace SpineSite

def root (tree : Json) : SpineSite :=
  ⟨Site.root tree, []⟩

/-- The rules by which the spine goes on: through the statements of most nodes; through the body of
a package, or its statements if it has none, inside that package; and through the template of a
package object that has a name, inside that. -/
inductive OnSpine (tree : Json) : SpineSite → Prop where
  | root : OnSpine tree (SpineSite.root tree)
  | statement {a : SpineSite} {node : Node} {b : Site} (ha : OnSpine tree a)
      (hnode : a.site.value.node? = some node) (hkind : node.kind.passesOn = true)
      (hb : b ∈ a.site.statements node) : OnSpine tree ⟨b, a.packages⟩
  | body {a : SpineSite} {node : Node} {b : Site} (ha : OnSpine tree a)
      (hnode : a.site.value.node? = some node) (hkind : node.kind = .pkg)
      (hb : b ∈ a.site.part node "body") :
      OnSpine tree ⟨b, a.packages ++ (node.name? "ref").toList⟩
  | packaged {a : SpineSite} {node : Node} {b : Site} (ha : OnSpine tree a)
      (hnode : a.site.value.node? = some node) (hkind : node.kind = .pkg)
      (hbody : node.field? "body" = none) (hb : b ∈ a.site.statements node) :
      OnSpine tree ⟨b, a.packages ++ (node.name? "ref").toList⟩
  | template {a : SpineSite} {node : Node} {b : Site} {name : String} (ha : OnSpine tree a)
      (hnode : a.site.value.node? = some node) (hkind : node.kind = .pkgObject)
      (hname : node.name? "name" = some name) (hb : b ∈ a.site.part node "templ") :
      OnSpine tree ⟨b, a.packages ++ [name]⟩

/-- The values behind a value on the spine. -/
def children (a : SpineSite) : List SpineSite :=
  match a.site.value.node? with
  | none => []
  | some node => (a.site.contents node).map fun b => ⟨b, a.packages ++ node.opened?.toList⟩

/-- The spine goes on inside the package that a node opens, if it opens one. -/
theorem mem_children_iff {a c : SpineSite} :
    c ∈ a.children ↔ ∃ node b, a.site.value.node? = some node ∧ b ∈ a.site.contents node ∧
      c = ⟨b, a.packages ++ node.opened?.toList⟩ := by
  unfold children
  cases hnode : a.site.value.node? with
  | none => simp
  | some node =>
    simp only [List.mem_map, Option.some.injEq]
    constructor
    · rintro ⟨b, hb, rfl⟩
      exact ⟨node, b, rfl, hb, rfl⟩
    · rintro ⟨node, b, rfl, hb, rfl⟩
      exact ⟨b, hb, rfl⟩

theorem sizeOf_lt_of_mem_children {a c : SpineSite} (h : c ∈ a.children) :
    sizeOf c.site.value < sizeOf a.site.value := by
  obtain ⟨node, b, hnode, hb, rfl⟩ := mem_children_iff.1 h
  exact Site.sizeOf_lt_of_mem_contents hnode hb

/-- Induction along the spine, which is finite because values get smaller. -/
@[elab_as_elim]
theorem induction {motive : SpineSite → Prop}
    (step : ∀ a, (∀ c ∈ a.children, motive c) → motive a) (a : SpineSite) : motive a :=
  step a fun c hc =>
    have _hlt : sizeOf c.site.value < sizeOf a.site.value := sizeOf_lt_of_mem_children hc
    induction step c
termination_by sizeOf a.site.value

/-- The values on the spine from a value on, each before those behind it. -/
def spine (a : SpineSite) : List SpineSite :=
  a :: a.children.attach.flatMap fun ⟨c, hc⟩ =>
    have _hlt : sizeOf c.site.value < sizeOf a.site.value := sizeOf_lt_of_mem_children hc
    c.spine
termination_by sizeOf a.site.value

/-- The spine from a value on is the value and the spines behind it. -/
theorem spine_eq (a : SpineSite) : a.spine = a :: a.children.flatMap spine := by
  calc
    a.spine = a :: a.children.attach.flatMap fun c => spine c.1 := by
          rw [spine]
    _ = a :: (a.children.attach.map Subtype.val).flatMap spine := by rw [List.flatMap_map]
    _ = a :: a.children.flatMap spine := by rw [List.attach_map_subtype_val]

/-- The rules for the spine, as one step behind a value on it. -/
theorem OnSpine.child {tree : Json} {a c : SpineSite} (ha : OnSpine tree a) (hc : c ∈ a.children) :
    OnSpine tree c := by
  obtain ⟨node, b, hnode, hb, rfl⟩ := mem_children_iff.1 hc
  unfold Site.contents at hb
  split at hb
  · rename_i hkind
    simp only [Node.opened?, hkind]
    split at hb
    · exact .body ha hnode hkind hb
    · rename_i hbody
      exact .packaged ha hnode hkind (by simpa using hbody) hb
  · rename_i hkind
    simp only [Node.opened?, hkind]
    cases hname : node.name? "name" with
    | none => simp [hname] at hb
    | some name =>
      simp only [hname, Option.isSome_some, if_true] at hb
      exact .template ha hnode hkind hname hb
  · rename_i hpkg hobject
    split at hb
    · rename_i hkind
      have hopened : node.opened? = none := by
        unfold Node.opened?
        split
        · exact absurd ‹_› hpkg
        · exact absurd ‹_› hobject
        · rfl
      rw [hopened, Option.toList_none, List.append_nil]
      exact .statement ha hnode hkind hb
    · cases hb

theorem mem_children_of_statement {a : SpineSite} {node : Node} {b : Site}
    (hnode : a.site.value.node? = some node) (hkind : node.kind.passesOn = true)
    (hb : b ∈ a.site.statements node) : (⟨b, a.packages⟩ : SpineSite) ∈ a.children := by
  refine mem_children_iff.2 ⟨node, b, hnode, ?_, ?_⟩
  · unfold Site.contents
    cases hk : node.kind <;> simp_all [Kind.passesOn]
  · unfold Node.opened?
    cases hk : node.kind <;> simp_all [Kind.passesOn]

theorem mem_children_of_body {a : SpineSite} {node : Node} {b : Site}
    (hnode : a.site.value.node? = some node) (hkind : node.kind = .pkg)
    (hb : b ∈ a.site.part node "body") :
    (⟨b, a.packages ++ (node.name? "ref").toList⟩ : SpineSite) ∈ a.children := by
  obtain ⟨x, hx, -⟩ := Site.mem_part_iff.1 hb
  refine mem_children_iff.2 ⟨node, b, hnode, ?_, ?_⟩
  · simpa [Site.contents, hkind, hx] using hb
  · simp only [Node.opened?, hkind]

theorem mem_children_of_packaged {a : SpineSite} {node : Node} {b : Site}
    (hnode : a.site.value.node? = some node) (hkind : node.kind = .pkg)
    (hbody : node.field? "body" = none) (hb : b ∈ a.site.statements node) :
    (⟨b, a.packages ++ (node.name? "ref").toList⟩ : SpineSite) ∈ a.children := by
  refine mem_children_iff.2 ⟨node, b, hnode, ?_, ?_⟩
  · simpa [Site.contents, hkind, hbody] using hb
  · simp only [Node.opened?, hkind]

theorem mem_children_of_template {a : SpineSite} {node : Node} {b : Site} {name : String}
    (hnode : a.site.value.node? = some node) (hkind : node.kind = .pkgObject)
    (hname : node.name? "name" = some name) (hb : b ∈ a.site.part node "templ") :
    (⟨b, a.packages ++ [name]⟩ : SpineSite) ∈ a.children := by
  refine mem_children_iff.2 ⟨node, b, hnode, ?_, ?_⟩
  · simpa [Site.contents, hkind, hname] using hb
  · simp [Node.opened?, hkind, hname]

theorem mem_spine_self (a : SpineSite) : a ∈ a.spine := by
  rw [spine_eq]
  exact List.mem_cons_self

/-- The spine is closed under going on. -/
theorem mem_spine_of_children {a : SpineSite} :
    ∀ {b c : SpineSite}, b ∈ a.spine → c ∈ b.children → c ∈ a.spine := by
  induction a using SpineSite.induction with
  | step a ih =>
    intro b c hb hc
    rw [spine_eq] at hb ⊢
    rcases List.mem_cons.1 hb with rfl | hb
    · exact List.mem_cons_of_mem _ (List.mem_flatMap.2 ⟨c, hc, mem_spine_self c⟩)
    · obtain ⟨d, hd, hbd⟩ := List.mem_flatMap.1 hb
      exact List.mem_cons_of_mem _ (List.mem_flatMap.2 ⟨d, hd, ih d hd hbd hc⟩)

/-- The list holds exactly the values on the spine. -/
theorem mem_spine_iff {tree : Json} {c : SpineSite} :
    c ∈ (root tree).spine ↔ OnSpine tree c := by
  constructor
  · have hdown : ∀ a : SpineSite, OnSpine tree a → c ∈ a.spine → OnSpine tree c := by
      intro a
      induction a using SpineSite.induction with
      | step a ih =>
        intro ha h
        rw [spine_eq] at h
        rcases List.mem_cons.1 h with rfl | h
        · exact ha
        · obtain ⟨d, hd, hcd⟩ := List.mem_flatMap.1 h
          exact ih d hd (ha.child hd) hcd
    exact hdown (root tree) .root
  · intro h
    induction h with
    | root => exact mem_spine_self _
    | statement _ hnode hkind hb ih =>
      exact mem_spine_of_children ih (mem_children_of_statement hnode hkind hb)
    | body _ hnode hkind hb ih =>
      exact mem_spine_of_children ih (mem_children_of_body hnode hkind hb)
    | packaged _ hnode hkind hbody hb ih =>
      exact mem_spine_of_children ih (mem_children_of_packaged hnode hkind hbody hb)
    | template _ hnode hkind hname hb ih =>
      exact mem_spine_of_children ih (mem_children_of_template hnode hkind hname hb)

/-! ## The order of the spine -/

theorem exists_position_of_mem_spine {a c : SpineSite} (h : c ∈ a.spine) :
    ∃ p, c.site.position = a.site.position ++ p := by
  induction a using SpineSite.induction with
  | step a ih =>
    rw [spine_eq] at h
    rcases List.mem_cons.1 h with rfl | h
    · exact ⟨[], by simp⟩
    · obtain ⟨d, hd, hcd⟩ := List.mem_flatMap.1 h
      obtain ⟨q, hq⟩ := ih d hd hcd
      obtain ⟨node, b, -, hb, rfl⟩ := mem_children_iff.1 hd
      obtain ⟨p, -, hp⟩ := Site.exists_position_of_mem_contents hb
      exact ⟨p ++ q, by rw [hq, hp, List.append_assoc]⟩

/-- Of two values behind a node, everything inside the first comes before everything inside the
second. -/
theorem pairwise_children (a : SpineSite) :
    a.children.Pairwise fun b c =>
      ∀ p q, b.site.position ++ p < c.site.position ++ q := by
  unfold children
  split
  · exact List.Pairwise.nil
  · rename_i node hnode
    rw [List.pairwise_map]
    exact Site.pairwise_contents a.site node

/-- The spine goes by strictly increasing position. -/
theorem pairwise_spine (a : SpineSite) :
    a.spine.Pairwise fun b c => b.site.position < c.site.position := by
  induction a using SpineSite.induction with
  | step a ih =>
    rw [spine_eq, List.pairwise_cons, List.pairwise_flatMap]
    refine ⟨?_, ih, ?_⟩
    · intro c hc
      obtain ⟨d, hd, hcd⟩ := List.mem_flatMap.1 hc
      obtain ⟨q, hq⟩ := exists_position_of_mem_spine hcd
      obtain ⟨node, b, -, hb, rfl⟩ := mem_children_iff.1 hd
      obtain ⟨p, hne, hp⟩ := Site.exists_position_of_mem_contents hb
      rw [hq, hp, List.append_assoc]
      exact position_lt_append (by simp [hne])
    · refine (pairwise_children a).imp ?_
      intro b c hlt d hd e he
      obtain ⟨p, hp⟩ := exists_position_of_mem_spine hd
      obtain ⟨q, hq⟩ := exists_position_of_mem_spine he
      rw [hp, hq]
      exact hlt p q

end SpineSite
end SymbolIndex
