import SymbolIndex.Proofs.Index.Bindings
import SymbolIndex.Proofs.Outline.Heritage
import SymbolIndex.Proofs.Tree.Reference
import Mathlib.Data.List.Forall2
import Mathlib.Data.List.Perm.Basic

/-!
# Statements in another order

The statements of a node stand in its field `stats`. This file relates trees that differ in the
order of statements only, and shows that nothing that is read off a single node depends on it:

- `Json.Reordered` : the same tree, with the elements of arrays in fields `stats` in another order
- `Rearranged` : lists with related elements, in any order
- `Json.Reordered.node?`, `Node.Reordered.field?` : nodes and their fields
- `Json.ReorderedIn.name?_eq` : references keep their names
- `Node.Reordered.declared_eq`, `Json.ReorderedIn.bindings_eq` : the same declarations and bindings

Nothing here asks for sorted keys: both trees have the same keys in the same places.
-/

namespace SymbolIndex

/-! ## Lists up to order -/

/-- The elements of the second list are related to those of the first, in any order. -/
def Rearranged {α : Type} (r : α → α → Prop) (xs ys : List α) : Prop :=
  ∃ zs, List.Forall₂ r xs zs ∧ zs.Perm ys

namespace Rearranged

variable {α β : Type} {r : α → α → Prop}

/-- Keeping the order is one way of rearranging. -/
theorem of_forall₂ {xs ys : List α} (h : List.Forall₂ r xs ys) : Rearranged r xs ys :=
  ⟨ys, h, List.Perm.refl ys⟩

theorem nil : Rearranged r [] [] :=
  of_forall₂ .nil

theorem cons {x y : α} {xs ys : List α} (hx : r x y) (h : Rearranged r xs ys) :
    Rearranged r (x :: xs) (y :: ys) := by
  rcases h with ⟨zs, hzs, hperm⟩
  exact ⟨y :: zs, .cons hx hzs, hperm.cons y⟩

theorem append {xs ys us vs : List α} (h : Rearranged r xs ys) (h' : Rearranged r us vs) :
    Rearranged r (xs ++ us) (ys ++ vs) := by
  rcases h with ⟨zs, hzs, hperm⟩
  rcases h' with ⟨ws, hws, hperm'⟩
  exact ⟨zs ++ ws, List.rel_append hzs hws, hperm.append hperm'⟩

theorem perm_right {xs ys zs : List α} (h : Rearranged r xs ys) (hperm : ys.Perm zs) :
    Rearranged r xs zs := by
  rcases h with ⟨ws, hws, hperm'⟩
  exact ⟨ws, hws, hperm'.trans hperm⟩

/-- Every element has a counterpart. -/
theorem exists_of_mem {xs ys : List α} (h : Rearranged r xs ys) {x : α} (hx : x ∈ xs) :
    ∃ y ∈ ys, r x y := by
  rcases h with ⟨zs, hzs, hperm⟩
  induction hzs generalizing ys with
  | nil => cases hx
  | @cons a b as bs hab _ ih =>
    rcases List.mem_cons.1 hx with rfl | hx
    · exact ⟨b, hperm.mem_iff.1 List.mem_cons_self, hab⟩
    · rcases ih hx (List.Perm.refl bs) with ⟨y, hy, hxy⟩
      exact ⟨y, hperm.mem_iff.1 (List.mem_cons_of_mem b hy), hxy⟩

/-- What is listed for each element may be rearranged, too. -/
theorem flatMap {f g : α → List β} {p : β → β → Prop} {xs ys : List α} (h : Rearranged r xs ys)
    (hf : ∀ x ∈ xs, ∀ y, r x y → Rearranged p (f x) (g y)) :
    Rearranged p (xs.flatMap f) (ys.flatMap g) := by
  rcases h with ⟨zs, hzs, hperm⟩
  have hflat : Rearranged p (xs.flatMap f) (zs.flatMap g) := by
    clear hperm
    induction hzs with
    | nil => exact nil
    | @cons a b as bs hab _ ih =>
      have hrest := ih fun x hx => hf x (List.mem_cons_of_mem a hx)
      exact (hf a List.mem_cons_self b hab).append hrest
  exact hflat.perm_right (hperm.flatMap_right g)

theorem map {f : α → β} {p : β → β → Prop} {xs ys : List α} (h : Rearranged r xs ys)
    (hf : ∀ x y, r x y → p (f x) (f y)) : Rearranged p (xs.map f) (ys.map f) := by
  rcases h with ⟨zs, hzs, hperm⟩
  refine ⟨zs.map f, ?_, hperm.map f⟩
  rw [List.forall₂_map_left_iff, List.forall₂_map_right_iff]
  exact hzs.imp hf

/-- Lists are rearranged if what is read off their elements is. -/
theorem comap {f : β → α} {p : β → β → Prop} {us vs : List β}
    (h : Rearranged r (us.map f) (vs.map f))
    (hp : ∀ u ∈ us, ∀ v ∈ vs, r (f u) (f v) → p u v) : Rearranged p us vs := by
  rcases h with ⟨zs, hzs, hperm⟩
  -- the elements in between come from the second list as well
  have hlift : List.Forall₂ (fun z v => z = f v) (vs.map f) vs := by
    rw [List.forall₂_map_left_iff]
    exact List.forall₂_same.2 fun _ _ => rfl
  rcases List.perm_comp_forall₂ hperm hlift with ⟨ws, hws, hperm'⟩
  refine ⟨ws, ?_, hperm'⟩
  have hmem : ∀ w ∈ ws, w ∈ vs := fun w hw => hperm'.mem_iff.1 hw
  clear hlift hperm hperm'
  induction hws generalizing us with
  | nil =>
    cases us with
    | nil => exact .nil
    | cons u us => cases hzs
  | @cons z w zs ws hzw _ ih =>
    cases us with
    | nil => cases hzs
    | cons u us =>
      rw [List.map_cons] at hzs
      cases hzs with
      | cons huz hzs =>
        have hw : w ∈ vs := hmem w List.mem_cons_self
        refine .cons (hp u List.mem_cons_self w hw (hzw ▸ huz)) ?_
        exact ih (fun u' hu' => hp u' (List.mem_cons_of_mem u hu')) hzs
          fun w' hw' => hmem w' (List.mem_cons_of_mem w hw')

/-- A rearrangement of the same elements is a permutation. -/
theorem perm_of_eq {xs ys : List α} (h : Rearranged (· = ·) xs ys) : xs.Perm ys := by
  rcases h with ⟨zs, hzs, hperm⟩
  rw [List.forall₂_eq_eq_eq] at hzs
  rw [hzs]
  exact hperm

end Rearranged

theorem filterMap_eq_of_forall₂ {α β : Type} {r : α → α → Prop} {f : α → Option β} {xs ys : List α}
    (h : List.Forall₂ r xs ys) (hf : ∀ x y, r x y → f x = f y) :
    xs.filterMap f = ys.filterMap f := by
  induction h with
  | nil => rfl
  | cons hxy _ ih => simp only [List.filterMap_cons, hf _ _ hxy, ih]

theorem flatMap_eq_of_forall₂ {α β : Type} {r : α → α → Prop} {f : α → List β} {xs ys : List α}
    (h : List.Forall₂ r xs ys) (hf : ∀ x y, r x y → f x = f y) : xs.flatMap f = ys.flatMap f := by
  induction h with
  | nil => rfl
  | cons hxy _ ih => simp only [List.flatMap_cons, hf _ _ hxy, ih]

/-- Related options are both empty, or both hold related values. -/
theorem rel_cases {α : Type} {r : α → α → Prop} {a b : Option α} (h : Option.Rel r a b) :
    a = none ∧ b = none ∨ ∃ x y, a = some x ∧ b = some y ∧ r x y := by
  cases h with
  | none => exact Or.inl ⟨rfl, rfl⟩
  | some hxy => exact Or.inr ⟨_, _, rfl, rfl, hxy⟩

/-! ## The two trees -/

namespace Json

mutual

/-- The second value is the first with the elements of arrays in fields `stats` in another order, at
any depth. -/
inductive Reordered : Json → Json → Prop where
  | same (v : Json) : Reordered v v
  | arr {xs ys : List Json} (h : ReorderedItems xs ys) : Reordered (.arr xs) (.arr ys)
  | obj {fs gs : List (String × Json)} (h : ReorderedFields fs gs) : Reordered (.obj fs) (.obj gs)

/-- The elements of an array keep their places and are reordered inside. -/
inductive ReorderedItems : List Json → List Json → Prop where
  | nil : ReorderedItems [] []
  | cons {x y : Json} {xs ys : List Json} (hx : Reordered x y) (h : ReorderedItems xs ys) :
      ReorderedItems (x :: xs) (y :: ys)

/-- The fields of an object keep their places and are reordered inside. The elements of an array
under the key `stats` may change places as well. -/
inductive ReorderedFields : List (String × Json) → List (String × Json) → Prop where
  | nil : ReorderedFields [] []
  | field (k : String) {x y : Json} {fs gs : List (String × Json)} (hx : Reordered x y)
      (h : ReorderedFields fs gs) : ReorderedFields ((k, x) :: fs) ((k, y) :: gs)
  | stats {xs zs ys : List Json} {fs gs : List (String × Json)} (hxs : ReorderedItems xs zs)
      (hperm : zs.Perm ys) (h : ReorderedFields fs gs) :
      ReorderedFields (("stats", .arr xs) :: fs) (("stats", .arr ys) :: gs)

end

theorem reorderedItems_iff {xs ys : List Json} :
    ReorderedItems xs ys ↔ List.Forall₂ Reordered xs ys := by
  constructor
  · intro h
    induction xs generalizing ys with
    | nil =>
      cases h
      exact .nil
    | cons x xs ih =>
      cases h with
      | cons hx h => exact .cons hx (ih h)
  · intro h
    induction h with
    | nil => exact .nil
    | cons hx _ ih => exact .cons hx ih

mutual

/-- Reordering can be undone. -/
theorem Reordered.symm {v w : Json} : Reordered v w → Reordered w v
  | .same v => .same v
  | .arr h => .arr h.symm
  | .obj h => .obj h.symm

theorem ReorderedItems.symm {xs ys : List Json} : ReorderedItems xs ys → ReorderedItems ys xs
  | .nil => .nil
  | .cons hx h => .cons hx.symm h.symm

theorem ReorderedFields.symm {fs gs : List (String × Json)} :
    ReorderedFields fs gs → ReorderedFields gs fs
  | .nil => .nil
  | .field k hx h => .field k hx.symm h.symm
  | .stats hxs hperm h => by
    -- undo the change of places first, then go back element by element
    have hback := reorderedItems_iff.1 hxs.symm
    rcases List.perm_comp_forall₂ hperm.symm hback with ⟨ws, hws, hperm'⟩
    exact .stats (reorderedItems_iff.2 hws) hperm' h.symm

end

/-- What becomes of the value under a key. -/
def ReorderedIn (key : String) (x y : Json) : Prop :=
  Reordered x y ∨ key = "stats" ∧ ∃ xs ys, x = .arr xs ∧ y = .arr ys ∧ Rearranged Reordered xs ys

theorem ReorderedFields.forall₂ {fs gs : List (String × Json)} (h : ReorderedFields fs gs) :
    List.Forall₂ (fun e f => e.1 = f.1 ∧ ReorderedIn e.1 e.2 f.2) fs gs := by
  induction fs generalizing gs with
  | nil =>
    cases h
    exact .nil
  | cons e fs ih =>
    cases h with
    | field k hx h => exact .cons ⟨rfl, Or.inl hx⟩ (ih h)
    | @stats xs zs ys _ _ hxs hperm h =>
      have hmoved : Rearranged Reordered xs ys := ⟨zs, reorderedItems_iff.1 hxs, hperm⟩
      exact .cons ⟨rfl, Or.inr ⟨rfl, xs, ys, rfl, rfl, hmoved⟩⟩ (ih h)

/-- A field is found under the same key. -/
theorem ReorderedFields.find? {fs gs : List (String × Json)} (h : ReorderedFields fs gs)
    (key : String) : Option.Rel (ReorderedIn key) (Assoc.find? key fs) (Assoc.find? key gs) := by
  have hpairs := h.forall₂
  clear h
  induction hpairs with
  | nil => exact .none
  | @cons e f fs gs hef _ ih =>
    obtain ⟨k, x⟩ := e
    obtain ⟨l, y⟩ := f
    obtain ⟨rfl, hxy⟩ : k = l ∧ ReorderedIn k x y := hef
    by_cases hk : k = key
    · subst hk
      simpa [Assoc.find?] using Option.Rel.some hxy
    · simpa [Assoc.find?, hk] using ih

/-! ## Values -/

theorem Reordered.refl_fields (fs : List (String × Json)) : ReorderedFields fs fs := by
  induction fs with
  | nil => exact .nil
  | cons e fs ih => exact .field e.1 (.same e.2) ih

namespace ReorderedIn

variable {key : String} {x y : Json}

theorem of_ne_stats (h : ReorderedIn key x y) (hkey : key ≠ "stats") : Reordered x y := by
  rcases h with h | ⟨hstats, -⟩
  · exact h
  · exact absurd hstats hkey

theorem isNull_eq (h : ReorderedIn key x y) : x.isNull = y.isNull := by
  rcases h with h | ⟨-, xs, ys, rfl, rfl, -⟩
  · cases h <;> rfl
  · rfl

theorem asString?_eq (h : ReorderedIn key x y) : x.asString? = y.asString? := by
  rcases h with h | ⟨-, xs, ys, rfl, rfl, -⟩
  · cases h <;> rfl
  · rfl

theorem asArray? (h : ReorderedIn key x y) :
    Option.Rel (Rearranged Reordered) x.asArray? y.asArray? := by
  rcases h with h | ⟨-, xs, ys, rfl, rfl, hmoved⟩
  · cases h with
    | same =>
      cases x with
      | arr xs => exact .some (Rearranged.of_forall₂ (List.forall₂_same.2 fun x _ => .same x))
      | _ => exact .none
    | arr h => exact .some (Rearranged.of_forall₂ (reorderedItems_iff.1 h))
    | obj h => exact .none
  · exact .some hmoved

/-- What the first value holds, the second one holds as well, perhaps in another place. -/
theorem exists_holds (h : ReorderedIn key x y) {s : Step} {u : Json} (hu : x.Holds s u) :
    ∃ t w key', y.Holds t w ∧ ReorderedIn key' u w := by
  cases hu with
  | @item items i _ hi =>
    have hitem : u ∈ items := List.mem_of_getElem? hi
    rcases rel_cases h.asArray? with ⟨hx, -⟩ | ⟨xs, ys, hx, hy, hmoved⟩
    · cases hx
    · cases hx
      rcases hmoved.exists_of_mem hitem with ⟨w, hw, huw⟩
      rcases List.mem_iff_getElem?.1 hw with ⟨j, hj⟩
      have hvalue : y = .arr ys := by
        cases y with
        | arr items => exact congrArg Json.arr (Option.some.inj hy)
        | _ => cases hy
      subst hvalue
      exact ⟨.item j, w, "", .item hj, Or.inl huw⟩
  | @field fields k _ hk =>
    rcases h with h | ⟨-, xs, ys, hx, -⟩
    · cases h with
      | same => exact ⟨.field k, u, k, .field hk, Or.inl (.same u)⟩
      | obj h =>
        rcases (Rearranged.of_forall₂ h.forall₂).exists_of_mem hk with ⟨⟨l, w⟩, hw, -, huw⟩
        exact ⟨.field l, w, k, .field hw, huw⟩
    · cases hx

end ReorderedIn

end Json

/-! ## Nodes -/

structure Node.Reordered (n m : Node) : Prop where
  tag : n.tag = m.tag
  fields : Json.ReorderedFields n.fields m.fields

namespace Json

/-- The tag decides whether an object is a node. -/
theorem ReorderedFields.node?_eq_some {fs gs : List (String × Json)} (h : ReorderedFields fs gs)
    {n : Node} (hn : (Json.obj fs).node? = some n) :
    ∃ m, (Json.obj gs).node? = some m ∧ n.Reordered m := by
  obtain ⟨hfields, htag, hempty⟩ := node?_eq_some_iff.1 hn
  injection hfields with hfields
  subst hfields
  have htag' : (Assoc.find? "type" gs).bind asString? = some n.tag := by
    rcases rel_cases (h.find? "type") with ⟨hx, -⟩ | ⟨x, y, hx, hy, hxy⟩
    · rw [hx] at htag
      cases htag
    · rw [hx, Option.bind_some, hxy.asString?_eq] at htag
      rw [hy, Option.bind_some, htag]
  exact ⟨⟨n.tag, gs⟩, node?_eq_some_iff.2 ⟨rfl, htag', hempty⟩, rfl, h⟩

/-- A node stays a node with the same tag. -/
theorem Reordered.node? {v w : Json} (h : Reordered v w) :
    Option.Rel Node.Reordered v.node? w.node? := by
  cases h with
  | same =>
    cases v.node? with
    | none => exact .none
    | some n => exact .some ⟨rfl, Reordered.refl_fields n.fields⟩
  | arr h => exact .none
  | @obj fs gs h =>
    cases hn : (Json.obj fs).node? with
    | some n =>
      rcases h.node?_eq_some hn with ⟨m, hm, hnm⟩
      rw [hm]
      exact .some hnm
    | none =>
      cases hm : (Json.obj gs).node? with
      | none => exact .none
      | some m =>
        rcases h.symm.node?_eq_some hm with ⟨n, hn', -⟩
        rw [hn] at hn'
        cases hn'

theorem ReorderedIn.node? {key : String} {v w : Json} (h : ReorderedIn key v w) :
    Option.Rel Node.Reordered v.node? w.node? := by
  rcases h with h | ⟨-, xs, ys, rfl, rfl, -⟩
  · exact h.node?
  · exact .none

end Json

namespace Node.Reordered

variable {n m : Node}

theorem kind_eq (h : n.Reordered m) : n.kind = m.kind := by
  rw [kind, kind, h.tag]

theorem field? (h : n.Reordered m) (name : String) :
    Option.Rel (Json.ReorderedIn name) (n.field? name) (m.field? name) := by
  unfold Node.field?
  rcases rel_cases (h.fields.find? name) with ⟨hx, hy⟩ | ⟨x, y, hx, hy, hxy⟩
  · rw [hx, hy]
    exact .none
  · rw [hx, hy]
    cases hnull : y.isNull with
    | true => simp [Option.filter, hxy.isNull_eq, hnull]
    | false => simpa [Option.filter, hxy.isNull_eq, hnull] using hxy

/-- An array in a field has the same elements, reordered inside and possibly in another order. -/
theorem seq (h : n.Reordered m) (name : String) :
    Rearranged Json.Reordered (n.seq name) (m.seq name) := by
  unfold Node.seq
  rcases rel_cases (h.field? name) with ⟨hx, hy⟩ | ⟨x, y, hx, hy, hxy⟩
  · rw [hx, hy]
    exact .nil
  · rw [hx, hy, Option.bind_some, Option.bind_some]
    rcases rel_cases hxy.asArray? with ⟨hx, hy⟩ | ⟨xs, ys, hx, hy, hmoved⟩
    · rw [hx, hy]
      exact .nil
    · rw [hx, hy]
      exact hmoved

/-- Only statements change places. -/
theorem forall₂_seq (h : n.Reordered m) (name : String) (hname : name ≠ "stats") :
    List.Forall₂ Json.Reordered (n.seq name) (m.seq name) := by
  unfold Node.seq
  rcases rel_cases (h.field? name) with ⟨hx, hy⟩ | ⟨x, y, hx, hy, hxy⟩
  · rw [hx, hy]
    exact .nil
  · rw [hx, hy]
    cases hxy.of_ne_stats hname with
    | same => exact List.forall₂_same.2 fun x _ => .same x
    | arr hxs => exact Json.reorderedItems_iff.1 hxs
    | obj hfs => exact .nil

theorem child? (h : n.Reordered m) (name : String) :
    Option.Rel Node.Reordered (n.child? name) (m.child? name) := by
  unfold Node.child?
  rcases rel_cases (h.field? name) with ⟨hx, hy⟩ | ⟨x, y, hx, hy, hxy⟩
  · rw [hx, hy]
    exact .none
  · rw [hx, hy]
    exact hxy.node?

theorem value?_eq (h : n.Reordered m) : n.value? = m.value? := by
  unfold Node.value? Node.str?
  rcases rel_cases (h.field? "value") with ⟨hx, hy⟩ | ⟨x, y, hx, hy, hxy⟩
  · rw [hx, hy]
  · rw [hx, hy, Option.bind_some, Option.bind_some, hxy.asString?_eq]

end Node.Reordered

/-! ## References -/

/-- References keep their names: no statement is part of one. -/
theorem Json.ReorderedIn.name?_eq {key : String} {v w : Json} (h : ReorderedIn key v w) :
    v.name? = w.name? := by
  rw [Json.name?_eq, Json.name?_eq]
  rcases rel_cases h.node? with ⟨hv, hw⟩ | ⟨n, m, hv, hw, hnm⟩
  · rw [hv, hw]
  · have hname : ∀ name, n.name? name = m.name? name := by
      intro name
      unfold Node.name?
      rcases rel_cases (hnm.field? name) with ⟨hx, hy⟩ | ⟨x, y, hx, hy, hxy⟩
      · rw [hx, hy]
      · have _hlt : sizeOf x < sizeOf v := Site.sizeOf_lt_of_holds (Node.holds_of_field? hv hx)
        rw [hx, hy]
        exact hxy.name?_eq
    simp only [hv, hw, Option.bind_some, Node.reference?, hnm.kind_eq, hnm.value?_eq, hname]
termination_by sizeOf v

/-! ## What a node says -/

namespace Node.Reordered

variable {n m : Node}

/-- References have the same names: none of their parts stands in an array. -/
theorem name?_eq (h : n.Reordered m) (name : String) : n.name? name = m.name? name := by
  unfold Node.name?
  rcases rel_cases (h.field? name) with ⟨hx, hy⟩ | ⟨x, y, hx, hy, hxy⟩
  · rw [hx, hy]
  · rw [hx, hy]
    exact hxy.name?_eq

theorem opened?_eq (h : n.Reordered m) : n.opened? = m.opened? := by
  simp only [opened?, h.kind_eq, h.name?_eq]

theorem valName?_eq (h : n.Reordered m) : n.valName? = m.valName? := by
  have hpats := h.forall₂_seq "pats" (by decide)
  unfold Node.valName?
  generalize n.seq "pats" = xs at hpats
  generalize m.seq "pats" = ys at hpats
  cases hpats with
  | nil => rfl
  | @cons x y xs ys hxy _ =>
    simp only [List.head?_cons, Option.bind_some]
    rcases rel_cases hxy.node? with ⟨hx, hy⟩ | ⟨p, q, hx, hy, hpat⟩
    · rw [hx, hy]
    · simp only [hx, hy, hpat.kind_eq, hpat.name?_eq]

/-- The named supertypes of a template keep their order. -/
theorem supertypes_eq (h : n.Reordered m) : n.supertypes = m.supertypes := by
  unfold Node.supertypes
  rcases rel_cases (h.child? "templ") with ⟨hx, hy⟩ | ⟨t, u, hx, hy, htu⟩
  · rw [hx, hy]
  · simp only [hx, hy]
    refine filterMap_eq_of_forall₂ (htu.forall₂_seq "inits" (by decide)) ?_
    intro x y hxy
    rcases rel_cases hxy.node? with ⟨hx, hy⟩ | ⟨p, q, hx, hy, hinit⟩
    · rw [hx, hy]
    · rw [hx, hy]
      exact hinit.name?_eq "tpe"

/-- A node declares the same. -/
theorem declared_eq (h : n.Reordered m) : n.declared = m.declared := by
  simp only [declared, h.kind_eq, h.name?_eq, h.valName?_eq]

theorem declares_iff (h : n.Reordered m) {name : String} {part : Tables.Part} :
    n.Declares name part ↔ m.Declares name part := by
  rw [← mem_declared_iff, ← mem_declared_iff, h.declared_eq]

theorem declKind?_eq (h : n.Reordered m) : n.declKind? = m.declKind? := by
  simp only [declKind?, h.kind_eq]

end Node.Reordered

/-! ## Import statements -/

namespace Json

theorem Reordered.importeeBinding?_eq {v w : Json} (h : Reordered v w) (prefixName : String) :
    importeeBinding? prefixName v = importeeBinding? prefixName w := by
  unfold importeeBinding?
  rcases rel_cases h.node? with ⟨hv, hw⟩ | ⟨n, m, hv, hw, hnm⟩
  · rw [hv, hw]
  · have hname : (n.child? "name").bind Node.value? = (m.child? "name").bind Node.value? := by
      rcases rel_cases (hnm.child? "name") with ⟨hx, hy⟩ | ⟨p, q, hx, hy, hpq⟩
      · rw [hx, hy]
      · rw [hx, hy]
        exact hpq.value?_eq
    simp only [hv, hw, hnm.kind_eq, hname]

/-- An importer binds the same in the same order, since importees are no statements. -/
theorem Reordered.importerBindings_eq {v w : Json} (h : Reordered v w) :
    v.importerBindings = w.importerBindings := by
  unfold importerBindings
  rcases rel_cases h.node? with ⟨hv, hw⟩ | ⟨n, m, hv, hw, hnm⟩
  · rw [hv, hw]
  · simp only [hv, hw, hnm.name?_eq]
    cases m.name? "ref" with
    | none => rfl
    | some prefixName =>
      exact filterMap_eq_of_forall₂ (hnm.forall₂_seq "importees" (by decide))
        fun x y hxy => hxy.importeeBinding?_eq prefixName

namespace ReorderedIn

variable {key : String} {v w : Json}

theorem isImport_eq (h : ReorderedIn key v w) : v.isImport = w.isImport := by
  unfold isImport
  rcases rel_cases h.node? with ⟨hv, hw⟩ | ⟨n, m, hv, hw, hnm⟩
  · rw [hv, hw]
  · simp only [hv, hw, Option.map_some, hnm.kind_eq]

theorem importBindings_eq (h : ReorderedIn key v w) : v.importBindings = w.importBindings := by
  unfold importBindings
  rcases rel_cases h.node? with ⟨hv, hw⟩ | ⟨n, m, hv, hw, hnm⟩
  · rw [hv, hw]
  · simp only [hv, hw]
    exact flatMap_eq_of_forall₂ (hnm.forall₂_seq "importers" (by decide))
      fun x y hxy => hxy.importerBindings_eq

/-- An import statement binds the same in the same order. -/
theorem bindings_eq (h : ReorderedIn key v w) : v.bindings = w.bindings := by
  rw [bindings, bindings, h.isImport_eq, h.importBindings_eq]

end ReorderedIn

theorem Reordered.treeError? {v w : Json} (h : Reordered v w) (hv : v.treeError? = none) :
    w.treeError? = none := by
  rw [treeError?_eq_none_iff] at hv ⊢
  intro y hy
  cases h with
  | same => exact hv y hy
  | arr h => cases hy
  | @obj fs gs h =>
    have hfind : Assoc.find? "error" gs = some y := hy
    rcases rel_cases (h.find? "error") with ⟨-, hnone⟩ | ⟨x, y', hx, hy', hxy⟩
    · rw [hnone] at hfind
      cases hfind
    · rw [hy'] at hfind
      cases hfind
      rw [← hxy.isNull_eq]
      exact hv x hx

end Json
end SymbolIndex
