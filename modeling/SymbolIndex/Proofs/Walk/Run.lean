import SymbolIndex.Proofs.Scope.Opened
import SymbolIndex.Proofs.Walk.Site

/-!
# Runs of a walk

A walk keeps the key, the parent, the open nodes and the open scopes apart. This file shows that
they always agree with the site that is being offered, and that what a visitor keeps is the result
of its steps at the sites in the order of `Site.inside`, up to the first site at which the walk has
to stop:

- `Walk.StandsAt` : the open nodes and scopes are those around a site
- `Visitor.Follows` : what the visitor does at a site, as a step on a part of the state
- `Walk.run_overSites`, `Walk.run_through` : the run lemmas
-/

namespace SymbolIndex

/-! ## Lists up to a mark -/

/-- The elements up to the first that is marked, which is the last one kept. -/
def upTo {α : Type} (marked : α → Bool) : List α → List α
  | [] => []
  | x :: xs => if marked x then [x] else x :: upTo marked xs

theorem upTo_of_any_eq_false {α : Type} {marked : α → Bool} {xs : List α}
    (h : xs.any marked = false) : upTo marked xs = xs := by
  induction xs with
  | nil => rfl
  | cons x xs ih =>
    simp only [List.any_cons, Bool.or_eq_false_iff] at h
    simp [upTo, h.1, ih h.2]

/-- A mark in the first part ends the list. -/
theorem upTo_append {α : Type} (marked : α → Bool) (xs ys : List α) :
    upTo marked (xs ++ ys) =
      if xs.any marked then upTo marked xs else xs ++ upTo marked ys := by
  induction xs with
  | nil => rfl
  | cons x xs ih =>
    simp only [List.cons_append, upTo, List.any_cons, ih]
    by_cases hx : marked x
    · simp [hx]
    · by_cases hxs : xs.any marked
      · simp [hx, hxs]
      · simp [hx, hxs]

theorem exists_of_any {α : Type} {marked : α → Bool} {xs : List α} (h : xs.any marked = true) :
    ∃ pre x post, xs = pre ++ x :: post ∧ upTo marked xs = pre ++ [x] ∧ marked x = true ∧
      ∀ y ∈ pre, marked y = false := by
  induction xs with
  | nil => cases h
  | cons x xs ih =>
    by_cases hx : marked x
    · refine ⟨[], x, xs, rfl, ?_, hx, ?_⟩
      · simp [upTo, hx]
      · intro y hy
        cases hy
    · have hxs : xs.any marked = true := by simpa [hx] using h
      obtain ⟨pre, y, post, rfl, hupTo, hy, hpre⟩ := ih hxs
      refine ⟨x :: pre, y, post, rfl, ?_, hy, ?_⟩
      · simp [upTo, hx, hupTo]
      · intro z hz
        rcases List.mem_cons.1 hz with rfl | hz
        · simpa using hx
        · exact hpre z hz

/-! ## The walk as a loop over sites -/

variable {σ τ : Type}

namespace Walk

/-- Offers sites that stand in one scope and have one parent one after another, and walks through
each. -/
def overSites (v : Visitor σ) (maxDepth scope : Nat) (parent? : Option Node) :
    List Site → Walk σ → Traversal × Walk σ
  | [], w => (.complete, w)
  | b :: bs, w =>
    match w.offer v b.key b.value parent? scope with
    | (.skip, w) => overSites v maxDepth scope parent? bs w
    | (.enter, w) =>
      match through v maxDepth scope b.key parent? b.value w with
      | (.complete, w) => overSites v maxDepth scope parent? bs w
      | (.tooDeep, w) => (.tooDeep, w)

/-- Walking through an array is offering its elements. -/
theorem throughItems_eq_overSites (v : Visitor σ) (maxDepth scope : Nat) (parent? : Option Node)
    (a : Site) (items : List Json) (i : Nat) (w : Walk σ) :
    throughItems v maxDepth scope a.key parent? items w =
      overSites v maxDepth scope parent?
        ((items.zipIdx i).map fun (x, i) => a.enter (.item i) x) w := by
  induction items generalizing i w with
  | nil => rw [throughItems, List.zipIdx_nil, List.map_nil, overSites]
  | cons x xs ih =>
    rw [throughItems, List.zipIdx_cons, List.map_cons, overSites]
    simp only [ih (i + 1)]
    rfl

/-- Walking through an object is offering its fields. -/
theorem throughFields_eq_overSites (v : Visitor σ) (maxDepth scope : Nat) (parent? : Option Node)
    (a : Site) (fields : List (String × Json)) (w : Walk σ) :
    throughFields v maxDepth scope parent? fields w =
      overSites v maxDepth scope parent? (fields.map fun (k, x) => a.enter (.field k) x) w := by
  induction fields generalizing w with
  | nil => rw [throughFields, List.map_nil, overSites]
  | cons e rest ih =>
    obtain ⟨k, x⟩ := e
    rw [throughFields, List.map_cons, overSites]
    simp only [ih]
    rfl

/-- A value that is no node is walked through in the scope in which it stands, and what it holds has
the parent that it has itself. -/
theorem through_of_node?_eq_none (v : Visitor σ) (maxDepth scope : Nat) (parent? : Option Node)
    {a : Site} (h : a.value.node? = none) (w : Walk σ) :
    through v maxDepth scope a.key parent? a.value w =
      overSites v maxDepth scope parent? a.children w := by
  unfold Site.children
  cases hv : a.value with
  | arr items => rw [through, throughItems_eq_overSites v maxDepth scope parent? a items 0]
  | obj fields =>
    rw [hv] at h
    rw [through]
    simp only [h]
    rw [throughFields_eq_overSites v maxDepth scope parent? a]
  | _ =>
    simp only [overSites]
    rw [through]
    all_goals simp

/-- A node is walked through in a scope of its own and is the parent of what it holds, unless too
many nodes are open. -/
theorem through_of_node?_eq_some (v : Visitor σ) (maxDepth scope : Nat) (parent? : Option Node)
    {a : Site} {node : Node} (h : a.value.node? = some node) (w : Walk σ) :
    through v maxDepth scope a.key parent? a.value w =
      if maxDepth ≤ w.nodes.length then (.tooDeep, w)
      else
        let r := overSites v maxDepth w.scopes.size (some node) a.children
          (w.enter node a.key scope)
        (r.1, r.2.leave w.scopes.size) := by
  unfold Site.children
  cases hv : a.value with
  | obj fields =>
    rw [hv] at h
    rw [through]
    simp only [h]
    rw [throughFields_eq_overSites v maxDepth w.scopes.size (some node) a]
  | _ =>
    rw [hv] at h
    cases h

end Walk

/-! ## What a visitor does at a site -/

namespace Site

def nodes (b : Site) : List Node :=
  b.around.map Prod.snd

/-- The keys under which the nodes that enclose a site were reached, innermost first. -/
def keys (b : Site) : List String :=
  b.around.map Prod.fst

/-- What is offered at a site in a scope. The parent is the innermost node around the site. -/
@[simps] def offeredIn (b : Site) (scope : Nat) : Offer :=
  ⟨b.key, b.value, b.nodes.head?, b.nodes, scope⟩

/-- What is offered at a site by a walk that starts in scope `s`. -/
def offer (base : Arena) (s : Nat) (b : Site) : Offer :=
  b.offeredIn (base.innermost s b.keys)

/-- Whether the walk stops at a site: it is not skipped, and it is too deep. -/
def halts (skips : String → Json → Bool) (maxDepth : Nat) (b : Site) : Bool :=
  !skips b.key b.value && b.isTooDeep maxDepth

end Site

/-- What a visitor does at the sites of a walk that starts in scope `s` of `base`: it skips as
`skips` says, leaves the nesting of the scopes alone, and makes the step `step` on the part of the
state that `view` shows. Opening and closing scopes does not change that part. -/
structure Visitor.Follows (v : Visitor σ) (base : Arena) (s : Nat) (skips : String → Json → Bool)
    (view : Arena → σ → τ) (step : τ → Site → τ) : Prop where
  verdict : ∀ (b : Site) (a : Arena) (seen : σ),
    a.skeleton = (base.openAll s b.keys).skeleton →
      (v.visit (b.offer base s) a seen).1 = if skips b.key b.value then .skip else .enter
  skeleton : ∀ (b : Site) (a : Arena) (seen : σ),
    a.skeleton = (base.openAll s b.keys).skeleton →
      (v.visit (b.offer base s) a seen).2.1.skeleton = a.skeleton
  view_visit : ∀ (b : Site) (a : Arena) (seen : σ),
    a.skeleton = (base.openAll s b.keys).skeleton →
      view (v.visit (b.offer base s) a seen).2.1 (v.visit (b.offer base s) a seen).2.2 =
        step (view a seen) b
  view_push : ∀ (a : Arena) (seen : σ) (name : String) (parent : Nat), base.size ≤ a.size →
    view (a.push name parent) seen = view a seen
  view_pop : ∀ (a : Arena) (seen : σ) (id : Nat), base.size ≤ id →
    view (a.pop id) seen = view a seen

namespace Walk

/-- The open nodes and scopes are those inside which a value stands. -/
structure StandsAt (base : Arena) (s : Nat) (w : Walk σ) (around : List (String × Node)) :
    Prop where
  nodes : w.nodes = around.map Prod.snd
  skeleton : w.scopes.skeleton = (base.openAll s (around.map Prod.fst)).skeleton

/-- How a run over sites ends: with the same nodes and scopes open, after the steps at all sites up
to the first at which the walk stops. -/
structure Runs (base : Arena) (s : Nat) (skips : String → Json → Bool) (maxDepth : Nat)
    (view : Arena → σ → τ) (step : τ → Site → τ) (around : List (String × Node))
    (sites : List Site) (w : Walk σ) (r : Traversal × Walk σ) : Prop where
  stands : StandsAt base s r.2 around
  view_eq : view r.2.scopes r.2.seen =
    (upTo (Site.halts skips maxDepth) sites).foldl step (view w.scopes w.seen)
  ending : r.1 = if sites.any (Site.halts skips maxDepth) then .tooDeep else .complete

section Runs

variable {v : Visitor σ} {base : Arena} {s : Nat} {skips : String → Json → Bool}
  {view : Arena → σ → τ} {step : τ → Site → τ} {maxDepth : Nat}

/-- Offering a site makes the step there and keeps the nesting. -/
theorem stands_offer (hv : v.Follows base s skips view step) {w : Walk σ} {b : Site}
    (hw : StandsAt base s w b.around) :
    ∃ w', w.offer v b.key b.value b.nodes.head? (base.innermost s b.keys) =
        (if skips b.key b.value then .skip else .enter, w') ∧
      StandsAt base s w' b.around ∧
      view w'.scopes w'.seen = step (view w.scopes w.seen) b := by
  have hoffer : (⟨b.key, b.value, b.nodes.head?, w.nodes, base.innermost s b.keys⟩ : Offer) =
      b.offer base s := by
    rw [hw.nodes]
    rfl
  have hverdict := hv.verdict b w.scopes w.seen hw.skeleton
  have hskeleton := hv.skeleton b w.scopes w.seen hw.skeleton
  have hview := hv.view_visit b w.scopes w.seen hw.skeleton
  rw [← hoffer] at hverdict hskeleton hview
  refine ⟨(w.offer v b.key b.value b.nodes.head? (base.innermost s b.keys)).2, ?_,
    ⟨hw.nodes, ?_⟩, hview⟩
  · rw [← hverdict]
    rfl
  · exact hskeleton.trans hw.skeleton

/-- One more site in front. -/
theorem Runs.cons {around : List (String × Node)} {sites : List Site} {b : Site} {w w' : Walk σ}
    {r : Traversal × Walk σ} (hb : b.halts skips maxDepth = false)
    (hview : view w'.scopes w'.seen = step (view w.scopes w.seen) b)
    (h : Runs base s skips maxDepth view step around sites w' r) :
    Runs base s skips maxDepth view step around (b :: sites) w r := by
  refine ⟨h.stands, ?_, ?_⟩
  · rw [h.view_eq, hview]
    simp [upTo, hb]
  · rw [h.ending]
    simp [hb]

/-- A run that does not stop can be followed by another one. -/
theorem Runs.append {around around' : List (String × Node)} {xs ys : List Site} {w : Walk σ}
    {r r' : Traversal × Walk σ} (hxs : xs.any (Site.halts skips maxDepth) = false)
    (h : Runs base s skips maxDepth view step around xs w r)
    (h' : Runs base s skips maxDepth view step around' ys r.2 r') :
    Runs base s skips maxDepth view step around' (xs ++ ys) w r' := by
  refine ⟨h'.stands, ?_, ?_⟩
  · rw [h'.view_eq, h.view_eq, upTo_append, upTo_of_any_eq_false hxs]
    simp [hxs]
  · rw [h'.ending]
    simp [hxs]

/-- A run that stops does not get to what comes later. -/
theorem Runs.append_of_any {around : List (String × Node)} {xs : List Site} {w : Walk σ}
    {r : Traversal × Walk σ} (hxs : xs.any (Site.halts skips maxDepth) = true) (ys : List Site)
    (h : Runs base s skips maxDepth view step around xs w r) :
    Runs base s skips maxDepth view step around (xs ++ ys) w r := by
  refine ⟨h.stands, ?_, ?_⟩
  · rw [h.view_eq, upTo_append]
    simp [hxs]
  · rw [h.ending]
    simp [hxs]

/-- The walk does not enter a node that is too deep. -/
theorem through_of_isTooDeep {b : Site} (hb : b.isTooDeep maxDepth = true) {w : Walk σ}
    (hw : StandsAt base s w b.around) (scope : Nat) (parent? : Option Node) :
    through v maxDepth scope b.key parent? b.value w = (.tooDeep, w) := by
  simp only [Site.isTooDeep, Bool.and_eq_true, decide_eq_true_eq] at hb
  obtain ⟨node, hnode⟩ := Option.isSome_iff_exists.1 hb.1
  have hlen : maxDepth ≤ w.nodes.length := by
    rw [hw.nodes, List.length_map]
    exact hb.2
  rw [through_of_node?_eq_some v maxDepth scope parent? hnode, if_pos hlen]

/-- The run over sites with the same surroundings, from the runs through each of them. -/
theorem run_overSites (hv : v.Follows base s skips view step) {around : List (String × Node)}
    {bs : List Site} (haround : ∀ b ∈ bs, b.around = around)
    (hrun : ∀ b ∈ bs, b.isTooDeep maxDepth = false → ∀ w : Walk σ, StandsAt base s w b.around →
      Runs base s skips maxDepth view step b.around (b.inside skips) w
        (through v maxDepth (base.innermost s b.keys) b.key b.nodes.head? b.value w))
    {w : Walk σ} (hw : StandsAt base s w around) :
    Runs base s skips maxDepth view step around (bs.flatMap (Site.block skips)) w
      (overSites v maxDepth (base.innermost s (around.map Prod.fst)) (around.map Prod.snd).head? bs
        w) := by
  induction bs generalizing w with
  | nil => exact ⟨hw, rfl, rfl⟩
  | cons b bs ih =>
    have hb : b.around = around := haround b List.mem_cons_self
    have hkeys : b.keys = around.map Prod.fst := by rw [Site.keys, hb]
    have hnodes : b.nodes = around.map Prod.snd := by rw [Site.nodes, hb]
    have ih' : ∀ {w : Walk σ}, StandsAt base s w around →
        Runs base s skips maxDepth view step around (bs.flatMap (Site.block skips)) w
          (overSites v maxDepth (base.innermost s (around.map Prod.fst)) (around.map Prod.snd).head?
            bs w) :=
      fun hw => ih (fun c hc => haround c (List.mem_cons_of_mem b hc))
        (fun c hc => hrun c (List.mem_cons_of_mem b hc)) hw
    obtain ⟨w₁, hoffer, hw₁, hview₁⟩ := stands_offer hv (hb ▸ hw)
    rw [hkeys, hnodes] at hoffer
    rw [List.flatMap_cons, Site.block, overSites, hoffer]
    by_cases hskip : skips b.key b.value
    · -- the site is skipped, and the run goes on behind it
      simp only [hskip, if_true]
      exact Runs.cons (by simp [Site.halts, hskip]) hview₁ (ih' (hb ▸ hw₁))
    · simp only [hskip, if_false, Bool.false_eq_true]
      by_cases hdeep : b.isTooDeep maxDepth
      · -- the walk stops here, with this site as the last
        have hhalts : b.halts skips maxDepth = true := by simp [Site.halts, hskip, hdeep]
        rw [through_of_isTooDeep hdeep hw₁]
        refine ⟨hb ▸ hw₁, ?_, ?_⟩
        · simp [upTo, hhalts, hview₁]
        · simp [hhalts]
      · have hhalts : b.halts skips maxDepth = false := by simp [Site.halts, hdeep]
        have hinner := hrun b List.mem_cons_self (by simpa using hdeep) w₁ hw₁
        rw [hkeys, hnodes, hb] at hinner
        generalize through v maxDepth (base.innermost s (around.map Prod.fst)) b.key
          (around.map Prod.snd).head? b.value w₁ = r at hinner
        obtain ⟨e, w₂⟩ := r
        refine Runs.cons hhalts hview₁ ?_
        have hend := hinner.ending
        cases hany : (b.inside skips).any (Site.halts skips maxDepth) with
        | true =>
          -- it stops somewhere inside this site
          simp only [hany, if_true] at hend
          subst hend
          exact hinner.append_of_any hany _
        | false =>
          simp only [hany, if_false, Bool.false_eq_true] at hend
          subst hend
          exact hinner.append hany (ih' hinner.stands)

/-- The scope of a node is closed again behind it. -/
theorem stands_leave (hs : s < base.size) {w w' : Walk σ} {node : Node} {key : String}
    {around : List (String × Node)} (hw : StandsAt base s w around)
    (hw' : StandsAt base s w' ((key, node) :: around)) :
    StandsAt base s (w'.leave w.scopes.size) around := by
  have hsize : w.scopes.size = base.size + around.length := by
    rw [Arena.size_eq_of_skeleton hw.skeleton]
    simp
  have hne : w.scopes.size ≠ Arena.root := by
    rw [hsize]
    exact Nat.ne_of_gt (by show 0 < _; omega)
  refine ⟨?_, ?_⟩
  · simp [leave, hw'.nodes]
  · have hlen : w.scopes.size = (base.openAll s (around.map Prod.fst)).skeleton.length := by
      simp [hsize]
    simp only [leave]
    rw [Arena.skeleton_pop _ hne, hw'.skeleton, hlen, List.map_cons, Arena.openAll,
      Arena.skeleton_push, List.take_left]

/-- The run through a node, from the run over what it holds. -/
theorem run_node (hv : v.Follows base s skips view step) (hs : s < base.size) {a : Site}
    (ha : a.isTooDeep maxDepth = false) {node : Node} (hnode : a.value.node? = some node)
    {w : Walk σ} (hw : StandsAt base s w a.around)
    (hloop : ∀ {w : Walk σ}, StandsAt base s w ((a.key, node) :: a.around) →
      Runs base s skips maxDepth view step ((a.key, node) :: a.around)
        (a.children.flatMap (Site.block skips)) w
        (overSites v maxDepth (base.innermost s (((a.key, node) :: a.around).map Prod.fst))
          (((a.key, node) :: a.around).map Prod.snd).head? a.children w)) :
    Runs base s skips maxDepth view step a.around (a.children.flatMap (Site.block skips)) w
      (through v maxDepth (base.innermost s a.keys) a.key a.nodes.head? a.value w) := by
  have hlen : ¬ maxDepth ≤ w.nodes.length := by
    rw [hw.nodes, List.length_map]
    simpa [Site.isTooDeep, hnode] using ha
  have hsize : w.scopes.size = base.size + a.around.length := by
    rw [Arena.size_eq_of_skeleton hw.skeleton]
    simp
  have henter : StandsAt base s (w.enter node a.key (base.innermost s a.keys))
      ((a.key, node) :: a.around) := by
    refine ⟨?_, ?_⟩
    · simp [enter, hw.nodes]
    · simp [enter, hw.skeleton, Arena.openAll, Site.keys]
  have hinner := hloop henter
  -- the scope that was opened last has the number that the arena had room for
  have hscope : base.innermost s (((a.key, node) :: a.around).map Prod.fst) =
      w.scopes.size := by
    simp [Arena.innermost, hsize]
  rw [hscope] at hinner
  rw [through_of_node?_eq_some v maxDepth _ _ hnode, if_neg hlen]
  refine ⟨stands_leave hs hw hinner.stands, ?_, hinner.ending⟩
  -- neither opening nor closing the scope shows in the view
  have hpush : view (w.enter node a.key (base.innermost s a.keys)).scopes w.seen =
      view w.scopes w.seen :=
    hv.view_push w.scopes w.seen a.key _ (by omega)
  have hview := hinner.view_eq
  simp only [enter] at hview hpush
  rw [hpush] at hview
  rw [← hview]
  exact hv.view_pop _ _ _ (by omega)

/-- The run through a site that is not too deep. The parent that is handed down is always the
innermost node around the site. -/
theorem run_through (hv : v.Follows base s skips view step) (hs : s < base.size) (a : Site)
    (ha : a.isTooDeep maxDepth = false) {w : Walk σ} (hw : StandsAt base s w a.around) :
    Runs base s skips maxDepth view step a.around (a.inside skips) w
      (through v maxDepth (base.innermost s a.keys) a.key a.nodes.head? a.value w) := by
  induction a using Site.induction generalizing w with
  | step a ih =>
    have haround : ∀ b ∈ a.children, b.around = a.within := by
      intro b hb
      obtain ⟨t, x, -, rfl⟩ := Site.mem_children_iff.1 hb
      rfl
    have hloop : ∀ {w : Walk σ}, StandsAt base s w a.within →
        Runs base s skips maxDepth view step a.within (a.children.flatMap (Site.block skips)) w
          (overSites v maxDepth (base.innermost s (a.within.map Prod.fst))
            (a.within.map Prod.snd).head? a.children w) :=
      fun hw => run_overSites hv haround (fun b hb hdeep w hw => ih b hb hdeep hw) hw
    rw [Site.inside_eq]
    cases hnode : a.value.node? with
    | none =>
      have hwithin : a.within = a.around := by simp [Site.within, hnode]
      rw [hwithin] at hloop
      rw [through_of_node?_eq_none v maxDepth _ _ hnode]
      exact hloop hw
    | some node =>
      have hwithin : a.within = (a.key, node) :: a.around := by simp [Site.within, hnode]
      rw [hwithin] at hloop
      exact run_node hv hs ha hnode hw hloop

/-- The run of a walk through a tree whose root is not too deep. -/
theorem run_walk (hv : v.Follows base s skips view step) (hs : s < base.size) {tree : Json}
    (hroot : (Site.root tree).isTooDeep maxDepth = false) (seen : σ) :
    Runs base s skips maxDepth view step [] ((Site.root tree).inside skips) ⟨[], base, seen⟩
      (walk v maxDepth s tree ⟨[], base, seen⟩) :=
  run_through hv hs (Site.root tree) hroot ⟨rfl, rfl⟩

/-- A root that is too deep ends the walk before anything is offered. -/
theorem walk_of_isTooDeep {tree : Json} (hroot : (Site.root tree).isTooDeep maxDepth = true)
    (base : Arena) (s : Nat) (seen : σ) :
    walk v maxDepth s tree ⟨[], base, seen⟩ = (.tooDeep, ⟨[], base, seen⟩) := by
  have hstands : StandsAt base s (⟨[], base, seen⟩ : Walk σ) (Site.root tree).around := ⟨rfl, rfl⟩
  exact through_of_isTooDeep hroot hstands s none

/-- A walk that ends has made the step at every site inside the tree. -/
theorem of_walk_complete (hv : v.Follows base s skips view step) (hs : s < base.size) {tree : Json}
    {seen : σ} {w : Walk σ} (h : walk v maxDepth s tree ⟨[], base, seen⟩ = (.complete, w)) :
    w.scopes.skeleton = base.skeleton ∧
      view w.scopes w.seen = ((Site.root tree).inside skips).foldl step (view base seen) ∧
      (Site.root tree).isTooDeep maxDepth = false ∧
      ∀ b ∈ (Site.root tree).inside skips, b.halts skips maxDepth = false := by
  cases hroot : (Site.root tree).isTooDeep maxDepth with
  | true =>
    rw [walk_of_isTooDeep hroot] at h
    cases h
  | false =>
    have hrun := run_walk hv hs hroot seen
    rw [h] at hrun
    have hnone : ((Site.root tree).inside skips).any (Site.halts skips maxDepth) = false := by
      by_contra hany
      have hend := hrun.ending
      rw [if_pos (by simpa using hany)] at hend
      cases hend
    have hview := hrun.view_eq
    rw [upTo_of_any_eq_false hnone] at hview
    refine ⟨hrun.stands.skeleton, hview, rfl, ?_⟩
    intro b hb
    simpa using List.any_eq_false.1 hnone b hb

/-- A walk that fails does so at the root, or has made the steps up to the first site at which it
has to stop. -/
theorem of_walk_tooDeep (hv : v.Follows base s skips view step) (hs : s < base.size) {tree : Json}
    {seen : σ} {w : Walk σ} (h : walk v maxDepth s tree ⟨[], base, seen⟩ = (.tooDeep, w)) :
    ((Site.root tree).isTooDeep maxDepth = true ∧ w = ⟨[], base, seen⟩) ∨
      ∃ pre b post, (Site.root tree).inside skips = pre ++ b :: post ∧
        view w.scopes w.seen = (pre ++ [b]).foldl step (view base seen) ∧
        (Site.root tree).isTooDeep maxDepth = false ∧ b.halts skips maxDepth = true ∧
        ∀ c ∈ pre, c.halts skips maxDepth = false := by
  cases hroot : (Site.root tree).isTooDeep maxDepth with
  | true =>
    rw [walk_of_isTooDeep hroot] at h
    cases h
    exact Or.inl ⟨rfl, rfl⟩
  | false =>
    have hrun := run_walk hv hs hroot seen
    rw [h] at hrun
    have hany : ((Site.root tree).inside skips).any (Site.halts skips maxDepth) = true := by
      by_contra hnone
      have hend := hrun.ending
      rw [if_neg hnone] at hend
      cases hend
    obtain ⟨pre, b, post, hsites, hupTo, hb, hpre⟩ := exists_of_any hany
    have hview := hrun.view_eq
    rw [hupTo] at hview
    exact Or.inr ⟨pre, b, post, hsites, hview, rfl, hb, hpre⟩

end Runs

end Walk
end SymbolIndex
