import SymbolIndex.Proofs.Json.Sorted
import SymbolIndex.Walk.Basic
import Mathlib.Data.List.Basic

/-!
# Sites of a tree

A site is a value inside a tree together with where it stands and what encloses it. This file lists
the sites inside a site without any state, and characterizes the list:

- `Position` : the steps from the root to a value, ordered so that a value precedes what it holds
- `Site` : a value, its position, its key and the nodes around it
- `Site.Reaches` : a site inside another, with nothing skipped on the way
- `Site.inside` : the sites that are reached, each before what it holds
- `Site.mem_inside_iff`, `Site.pairwise_inside` : exactly those sites, by increasing position

A list without repetition is determined by its members and their order, so the last two say all
there is to say about `Site.inside`.
-/

namespace SymbolIndex

/-! ## Positions -/

/-- One step into a value: to an element of an array, or to a field of an object. -/
inductive Step where
  | item (index : Nat)
  | field (key : String)
  deriving DecidableEq, Repr

namespace Step

/-- Elements come by index and fields by key. -/
protected def lt : Step → Step → Prop
  | .item i, .item j => i < j
  | .item _, .field _ => True
  | .field _, .item _ => False
  | .field k, .field l => k < l

instance : LT Step := ⟨Step.lt⟩

/-- The key under which a value is known: an element goes by the key of its array. -/
def key (outer : String) : Step → String
  | .item _ => outer
  | .field key => key

end Step

/-- The steps from the root of a tree to a value, compared as in a dictionary. -/
abbrev Position := List Step

theorem position_lt_of_step {p q r : Position} {s t : Step} (h : s < t) :
    p ++ s :: q < p ++ t :: r := by
  induction p with
  | nil => exact List.Lex.rel h
  | cons u p ih => exact List.Lex.cons ih

theorem position_lt_append {p q : Position} (h : q ≠ []) : p < p ++ q := by
  induction p with
  | nil =>
    cases q with
    | nil => exact absurd rfl h
    | cons s q => exact List.Lex.nil
  | cons u p ih => exact List.Lex.cons ih

/-! ## Sites -/

/-- The value that another value holds at a step. -/
inductive Json.Holds : Json → Step → Json → Prop where
  | item {items : List Json} {i : Nat} {x : Json} (h : items[i]? = some x) :
      Json.Holds (.arr items) (.item i) x
  | field {fields : List (String × Json)} {k : String} {x : Json} (h : (k, x) ∈ fields) :
      Json.Holds (.obj fields) (.field k) x

/-- A value inside a tree. -/
structure Site where
  position : Position
  key : String
  value : Json
  /-- The nodes that enclose the value, innermost first, with the keys under which they were
  reached. -/
  around : List (String × Node)

namespace Site

def root (tree : Json) : Site :=
  ⟨[], rootName, tree, []⟩

/-- What encloses the values that the value of a site holds. -/
def within (a : Site) : List (String × Node) :=
  match a.value.node? with
  | none => a.around
  | some node => (a.key, node) :: a.around

/-- Whether a site is a node with as many nodes around it as may be open. -/
def isTooDeep (maxDepth : Nat) (b : Site) : Bool :=
  b.value.node?.isSome && decide (maxDepth ≤ b.around.length)

def enter (a : Site) (s : Step) (x : Json) : Site :=
  ⟨a.position ++ [s], s.key a.key, x, a.within⟩

/-- The sites one step further inside, in order. -/
def children (a : Site) : List Site :=
  match a.value with
  | .arr items => items.zipIdx.map fun (x, i) => a.enter (.item i) x
  | .obj fields => fields.map fun (k, x) => a.enter (.field k) x
  | _ => []

/-- The sites one step further inside are what a value holds. -/
theorem mem_children_iff {a b : Site} :
    b ∈ a.children ↔ ∃ s x, a.value.Holds s x ∧ b = a.enter s x := by
  unfold children
  constructor
  · intro h
    split at h
    · rename_i items hv
      obtain ⟨⟨x, i⟩, hx, rfl⟩ := List.mem_map.1 h
      refine ⟨.item i, x, ?_, rfl⟩
      rw [hv]
      exact .item (List.mk_mem_zipIdx_iff_getElem?.1 hx)
    · rename_i fields hv
      obtain ⟨⟨k, x⟩, hx, rfl⟩ := List.mem_map.1 h
      refine ⟨.field k, x, ?_, rfl⟩
      rw [hv]
      exact .field hx
    · cases h
  · rintro ⟨s, x, hx, rfl⟩
    cases hv : a.value with
    | arr items =>
      rw [hv] at hx
      cases hx with
      | item hi => exact List.mem_map.2 ⟨(x, _), List.mk_mem_zipIdx_iff_getElem?.2 hi, rfl⟩
    | obj fields =>
      rw [hv] at hx
      cases hx with
      | field hk => exact List.mem_map.2 ⟨(_, x), hk, rfl⟩
    | _ =>
      rw [hv] at hx
      cases hx

theorem sizeOf_lt_of_holds {v x : Json} {s : Step} (h : v.Holds s x) : sizeOf x < sizeOf v := by
  cases h with
  | item hi =>
    have hlt := List.sizeOf_lt_of_mem (List.mem_of_getElem? hi)
    simp only [Json.arr.sizeOf_spec]
    omega
  | field hk =>
    have hlt := List.sizeOf_lt_of_mem hk
    simp only [Prod.mk.sizeOf_spec] at hlt
    simp only [Json.obj.sizeOf_spec]
    omega

theorem sizeOf_lt_of_mem_children {a b : Site} (h : b ∈ a.children) :
    sizeOf b.value < sizeOf a.value := by
  obtain ⟨s, x, hx, rfl⟩ := mem_children_iff.1 h
  exact sizeOf_lt_of_holds hx

/-- What holds of a site whenever it holds one step further inside holds of every site. -/
@[elab_as_elim]
theorem induction {motive : Site → Prop}
    (step : ∀ a, (∀ b ∈ a.children, motive b) → motive a) (a : Site) : motive a :=
  step a fun b hb =>
    have _hlt : sizeOf b.value < sizeOf a.value := sizeOf_lt_of_mem_children hb
    induction step b
termination_by sizeOf a.value

/-! ## Sites that are reached -/

/-- The second site lies inside the first, and no value strictly between them is skipped. -/
inductive Reaches (skips : String → Json → Bool) (a : Site) : Site → Prop where
  | child {s : Step} {x : Json} (hx : a.value.Holds s x) : Reaches skips a (a.enter s x)
  | inner {b : Site} {s : Step} {x : Json} (hb : Reaches skips a b)
      (hskip : skips b.key b.value = false) (hx : b.value.Holds s x) :
      Reaches skips a (b.enter s x)

/-- Reaching is transitive through values that are not skipped. -/
theorem Reaches.trans {skips : String → Json → Bool} {a b c : Site} (hb : Reaches skips a b)
    (hskip : skips b.key b.value = false) (hc : Reaches skips b c) : Reaches skips a c := by
  induction hc with
  | child hy => exact .inner hb hskip hy
  | inner _ hskip' hy ih => exact .inner ih hskip' hy

theorem Reaches.of_child {skips : String → Json → Bool} {a b c : Site} (hb : b ∈ a.children)
    (hskip : skips b.key b.value = false) (hc : Reaches skips b c) : Reaches skips a c := by
  obtain ⟨s, x, hx, rfl⟩ := mem_children_iff.1 hb
  exact (Reaches.child hx).trans hskip hc

/-- The sites inside a site that are reached, each before those inside it. -/
def inside (skips : String → Json → Bool) (a : Site) : List Site :=
  a.children.attach.flatMap fun ⟨b, hb⟩ =>
    have _hlt : sizeOf b.value < sizeOf a.value := sizeOf_lt_of_mem_children hb
    b :: if skips b.key b.value then [] else b.inside skips
termination_by sizeOf a.value

/-- A site that is reached, with what is reached inside it. -/
def block (skips : String → Json → Bool) (b : Site) : List Site :=
  b :: if skips b.key b.value then [] else b.inside skips

/-- What is reached inside a site, by the steps that lead there. -/
theorem inside_eq (skips : String → Json → Bool) (a : Site) :
    a.inside skips = a.children.flatMap (block skips) := by
  calc
    a.inside skips = a.children.attach.flatMap fun b => block skips b.1 := by
          rw [inside]
          rfl
    _ = (a.children.attach.map Subtype.val).flatMap (block skips) := by rw [List.flatMap_map]
    _ = a.children.flatMap (block skips) := by rw [List.attach_map_subtype_val]

theorem mem_block_iff {skips : String → Json → Bool} {b c : Site} :
    c ∈ block skips b ↔ c = b ∨ skips b.key b.value = false ∧ c ∈ b.inside skips := by
  unfold block
  cases skips b.key b.value <;> simp

/-- What is reached is closed under entering. -/
theorem mem_inside_of_children {skips : String → Json → Bool} {a c : Site} :
    ∀ {b : Site}, b ∈ a.inside skips → skips b.key b.value = false → c ∈ b.children →
      c ∈ a.inside skips := by
  induction a using Site.induction with
  | step a ih =>
    intro b hb hskip hc
    rw [inside_eq] at hb ⊢
    obtain ⟨d, hd, hbd⟩ := List.mem_flatMap.1 hb
    refine List.mem_flatMap.2 ⟨d, hd, mem_block_iff.2 (Or.inr ?_)⟩
    rcases mem_block_iff.1 hbd with rfl | ⟨hdskip, hbd⟩
    · refine ⟨hskip, ?_⟩
      rw [inside_eq]
      exact List.mem_flatMap.2 ⟨c, hc, mem_block_iff.2 (Or.inl rfl)⟩
    · exact ⟨hdskip, ih d hd hbd hskip hc⟩

/-- The list holds exactly the sites that are reached. -/
theorem mem_inside_iff {skips : String → Json → Bool} {a b : Site} :
    b ∈ a.inside skips ↔ Reaches skips a b := by
  constructor
  · intro h
    induction a using Site.induction with
    | step a ih =>
      rw [inside_eq] at h
      obtain ⟨c, hc, hb⟩ := List.mem_flatMap.1 h
      rcases mem_block_iff.1 hb with rfl | ⟨hskip, hb⟩
      · obtain ⟨s, x, hx, rfl⟩ := mem_children_iff.1 hc
        exact .child hx
      · exact .of_child hc hskip (ih c hc hb)
  · intro h
    induction h with
    | child hx =>
      rw [inside_eq]
      exact List.mem_flatMap.2 ⟨_, mem_children_iff.2 ⟨_, _, hx, rfl⟩, mem_block_iff.2 (Or.inl rfl)⟩
    | inner _ hskip hx ih =>
      exact mem_inside_of_children ih hskip (mem_children_iff.2 ⟨_, _, hx, rfl⟩)

theorem children_eq_nil {a : Site} (h : ∀ s x, ¬ a.value.Holds s x) : a.children = [] := by
  refine List.eq_nil_iff_forall_not_mem.2 fun b hb => ?_
  obtain ⟨s, x, hx, -⟩ := mem_children_iff.1 hb
  exact h s x hx

/-- Whether a value is skipped that holds nothing makes no difference. -/
theorem inside_congr {skips skips' : String → Json → Bool}
    (h : ∀ key v, (∃ s x, v.Holds s x) → skips key v = skips' key v) (a : Site) :
    a.inside skips = a.inside skips' := by
  induction a using Site.induction with
  | step a ih =>
    rw [inside_eq, inside_eq]
    refine List.flatMap_congr fun b hb => ?_
    unfold block
    rw [ih b hb]
    by_cases hholds : ∃ s x, b.value.Holds s x
    · rw [h b.key b.value hholds]
    · have hempty : b.inside skips' = [] := by
        rw [inside_eq, children_eq_nil fun s x hx => hholds ⟨s, x, hx⟩]
        rfl
      rw [hempty, ite_self, ite_self]

/-! ## The order of the list -/

/-- A site inside another one has a longer position. -/
theorem exists_position_of_reaches {skips : String → Json → Bool} {a b : Site}
    (h : Reaches skips a b) : ∃ p, p ≠ [] ∧ b.position = a.position ++ p := by
  induction h with
  | @child s x hx => exact ⟨[s], List.cons_ne_nil s [], rfl⟩
  | @inner b s x _ _ _ ih =>
    obtain ⟨p, -, hp⟩ := ih
    refine ⟨p ++ [s], by simp, ?_⟩
    simp [enter, hp]

theorem exists_position_of_mem_block {skips : String → Json → Bool} {a c : Site} {s : Step}
    {x : Json} (h : c ∈ block skips (a.enter s x)) :
    ∃ p, c.position = a.position ++ s :: p := by
  rcases mem_block_iff.1 h with rfl | ⟨-, h⟩
  · exact ⟨[], rfl⟩
  · obtain ⟨p, -, hp⟩ := exists_position_of_reaches (mem_inside_iff.1 h)
    refine ⟨p, ?_⟩
    rw [hp]
    simp [enter]

/-- One step further inside a value, sites come by increasing step, if the keys of an object do. -/
theorem pairwise_children {a : Site}
    (h : ∀ fields, a.value = .obj fields → (Assoc.keys fields).Pairwise (· < ·)) :
    a.children.Pairwise fun b c =>
      ∃ s t x y, s < t ∧ b = a.enter s x ∧ c = a.enter t y := by
  unfold children
  split
  · rename_i items hv
    rw [List.pairwise_map]
    have hidx : items.zipIdx.Pairwise fun e f => e.2 < f.2 := by
      have hrange : (items.zipIdx.map Prod.snd).Pairwise (· < ·) := by
        rw [List.zipIdx_map_snd]
        exact List.pairwise_lt_range'
      exact List.pairwise_map.1 hrange
    refine hidx.imp ?_
    intro e f hlt
    exact ⟨.item e.2, .item f.2, e.1, f.1, hlt, rfl, rfl⟩
  · rename_i fields hv
    rw [List.pairwise_map]
    refine (List.pairwise_map.1 (h fields hv)).imp ?_
    intro e f hlt
    exact ⟨.field e.1, .field f.1, e.2, f.2, hlt, rfl, rfl⟩
  · exact List.Pairwise.nil

/-- The parts of a sorted value are sorted. -/
theorem sorted_of_holds {v x : Json} {s : Step} (h : v.Sorted) (hx : v.Holds s x) : x.Sorted := by
  cases hx with
  | item hi => exact Json.sorted_arr_iff.1 h _ (List.mem_of_getElem? hi)
  | field hk => exact (Json.sorted_obj_iff.1 h).2 _ hk

/-- The list goes by strictly increasing position. -/
theorem pairwise_inside {skips : String → Json → Bool} {a : Site} (h : a.value.Sorted) :
    (a.inside skips).Pairwise fun b c => b.position < c.position := by
  induction a using Site.induction with
  | step a ih =>
    rw [inside_eq, List.pairwise_flatMap]
    refine ⟨?_, ?_⟩
    · -- inside one block: first the site itself, then what lies inside it
      intro b hb
      obtain ⟨s, x, hx, rfl⟩ := mem_children_iff.1 hb
      unfold block
      refine List.pairwise_cons.2 ⟨?_, ?_⟩
      · intro c hc
        split at hc
        · cases hc
        · obtain ⟨p, hp, hpos⟩ := exists_position_of_reaches (mem_inside_iff.1 hc)
          rw [hpos]
          exact position_lt_append hp
      · split
        · exact List.Pairwise.nil
        · exact ih _ hb (sorted_of_holds h hx)
    · -- between two blocks the steps to them decide
      have hkeys : ∀ fields, a.value = .obj fields → (Assoc.keys fields).Pairwise (· < ·) := by
        intro fields hv
        rw [hv, Json.sorted_obj_iff] at h
        exact h.1
      refine (pairwise_children hkeys).imp ?_
      rintro b c ⟨s, t, x, y, hlt, rfl, rfl⟩ d hd e he
      obtain ⟨p, hp⟩ := exists_position_of_mem_block hd
      obtain ⟨q, hq⟩ := exists_position_of_mem_block he
      rw [hp, hq]
      exact position_lt_of_step hlt

end Site
end SymbolIndex
