import SymbolIndex.Proofs.Scope.Inside
import SymbolIndex.Proofs.Scope.Root
import SymbolIndex.Proofs.Walk.Run
import SymbolIndex.Walk.Trace

/-!
# What a walk leaves behind

A walk opens nodes and scopes, and may fail at any depth in the middle of an array or an object.
Either way it closes what it has opened, and of the scopes that were there before it changes only
the one in which it starts and those around it:

- `Visitor.AddsInPlace` : a visitor that only adds imports in the scope of the offered value
- `Arena.ParentsLive.pop_addImports_push` : imports in a scope that is opened and closed again
- `Walk.Restores` : the nodes are those from before, and the scopes have got imports in one scope
- `Walk.restores_through` : every part of a walk does so, from one step to the whole
- `walk_frame` : what a walk leaves unchanged, and what it adds
-/

namespace SymbolIndex

variable {σ : Type}

/-- The visitor changes the scopes only by adding imports in the scope in which the offered value
stands. -/
def Visitor.AddsInPlace (v : Visitor σ) : Prop :=
  ∀ o a seen, ∃ bs, (v.visit o a seen).2.1 = a.addImports o.scope bs

/-! ## A scope that is opened and closed again -/

namespace Arena

/-- Imports in a scope that is opened and closed again are imports in the scope around it. -/
theorem ParentsLive.pop_addImports_push {a : Arena} (ha : a.ParentsLive) {s : Nat} (hs : s < a.size)
    (name : String) (bs : List Binding) :
    ((a.push name s).addImports a.size bs).pop a.size = a.addImports s bs := by
  have hroot : a.size ≠ root := Nat.ne_of_gt (Nat.zero_lt_of_lt hs)
  have hpop : ∀ b : Arena, b.pop a.size = b.below a.size := fun b => if_neg hroot
  refine ext_get? fun i => ?_
  rw [hpop, get?_below, get?_addImports, get?_addImports, ha.lineage_push_size name hs]
  by_cases hi : i < a.size
  · have hne : i ≠ a.size := Nat.ne_of_lt hi
    simp [hi, hne, get?_push_of_lt hi]
  · have hnone : a.get? i = none := List.getElem?_eq_none (Nat.le_of_not_lt hi)
    simp [hi, hnone]

end Arena

namespace Walk

/-! ## Parts of a walk -/

/-- The open nodes are those from before, and the scopes have got imports in `scope` and nothing
else. -/
structure Restores (scope : Nat) (w w' : Walk σ) : Prop where
  nodes : w'.nodes = w.nodes
  scopes : ∃ bs, w'.scopes = w.scopes.addImports scope bs

theorem Restores.refl (scope : Nat) (w : Walk σ) : Restores scope w w :=
  ⟨rfl, [], rfl⟩

theorem Restores.trans {scope : Nat} {w w' w'' : Walk σ} (h : Restores scope w w')
    (h' : Restores scope w' w'') : Restores scope w w'' := by
  obtain ⟨bs, hbs⟩ := h.scopes
  obtain ⟨cs, hcs⟩ := h'.scopes
  refine ⟨h'.nodes.trans h.nodes, bs ++ cs, ?_⟩
  rw [hcs, hbs, Arena.addImports_append]

/-- The walk is in an open scope, and what encloses open scopes is open. -/
structure InScope (w : Walk σ) (scope : Nat) : Prop where
  parents : w.scopes.ParentsLive
  live : scope < w.scopes.size

/-- A walk that restores its surroundings is still in its scope. -/
theorem InScope.of_restores {scope : Nat} {w w' : Walk σ} (hw : w.InScope scope)
    (h : Restores scope w w') : w'.InScope scope := by
  obtain ⟨bs, hbs⟩ := h.scopes
  have hskeleton : w'.scopes.skeleton = w.scopes.skeleton := by
    rw [hbs, Arena.skeleton_addImports]
  refine ⟨hw.parents.of_skeleton hskeleton, ?_⟩
  rw [Arena.size_eq_of_skeleton hskeleton]
  exact hw.live

section Restores

variable {v : Visitor σ} {maxDepth scope : Nat} {parent? : Option Node} {w : Walk σ}

/-- An offer leaves the open nodes alone. -/
theorem restores_offer (hv : v.AddsInPlace) (w : Walk σ) (key : String) (child : Json)
    (parent? : Option Node) (scope : Nat) :
    Restores scope w (w.offer v key child parent? scope).2 :=
  ⟨rfl, hv ⟨key, child, parent?, w.nodes, scope⟩ w.scopes w.seen⟩

/-- The loop over sites in one scope, from what happens inside each of them. -/
theorem restores_overSites (hv : v.AddsInPlace) {bs : List Site}
    (hrun : ∀ b ∈ bs, ∀ w : Walk σ, w.InScope scope →
      Restores scope w (through v maxDepth scope b.key parent? b.value w).2)
    (hw : w.InScope scope) : Restores scope w (overSites v maxDepth scope parent? bs w).2 := by
  induction bs generalizing w with
  | nil => exact .refl scope w
  | cons b bs ih =>
    have hrest : ∀ w' : Walk σ, Restores scope w w' →
        Restores scope w (overSites v maxDepth scope parent? bs w').2 := fun w' h =>
      h.trans (ih (fun c hc => hrun c (List.mem_cons_of_mem b hc)) (hw.of_restores h))
    have hoffer := restores_offer hv w b.key b.value parent? scope
    rw [overSites]
    generalize w.offer v b.key b.value parent? scope = r at hoffer
    obtain ⟨verdict, w₁⟩ := r
    cases verdict with
    | skip => exact hrest w₁ hoffer
    | enter =>
      have hinside := hoffer.trans (hrun b List.mem_cons_self w₁ (hw.of_restores hoffer))
      generalize hr : through v maxDepth scope b.key parent? b.value w₁ = r at hinside
      obtain ⟨e, w₂⟩ := r
      simp only [hr]
      -- a failure ends the loop, with the state as it is
      cases e with
      | complete => exact hrest w₂ hinside
      | tooDeep => exact hinside

/-- What is left behind by the loop inside a node is the same for the scope around the node. -/
theorem Restores.leave {node : Node} {key : String} {w' : Walk σ} (hw : w.InScope scope)
    (h : Restores w.scopes.size (w.enter node key scope) w') :
    Restores scope w (w'.leave w.scopes.size) := by
  obtain ⟨bs, hbs⟩ := h.scopes
  refine ⟨?_, bs, ?_⟩
  · rw [Walk.leave, h.nodes]
    rfl
  · rw [Walk.leave, hbs]
    exact hw.parents.pop_addImports_push hw.live key bs

/-- Whatever a walk meets in a value and however it ends there, it closes what it has opened. -/
theorem restores_through (hv : v.AddsInPlace) (a : Site) (hw : w.InScope scope) :
    Restores scope w (through v maxDepth scope a.key parent? a.value w).2 := by
  induction a using Site.induction generalizing scope parent? w with
  | step a ih =>
    cases hnode : a.value.node? with
    | none =>
      rw [through_of_node?_eq_none v maxDepth scope parent? hnode]
      exact restores_overSites hv (fun b hb w hw => ih b hb hw) hw
    | some node =>
      rw [through_of_node?_eq_some v maxDepth scope parent? hnode]
      split
      · exact .refl scope w
      · have hinner : (w.enter node a.key scope).InScope w.scopes.size :=
          ⟨hw.parents.push a.key hw.live, by simp [enter]⟩
        exact .leave hw (restores_overSites hv (fun b hb w hw => ih b hb hw) hinner)

end Restores
end Walk

/-! ## Whole walks -/

/-- Whether a walk ends or fails, afterwards the nodes are those from before, there are the same
scopes with the same names inside each other, a scope that is not the one in which the walk starts
and does not enclose it is as it was, and all others have got one and the same set of imports. -/
theorem walk_frame (v : Visitor σ) (hv : v.AddsInPlace) (maxDepth s : Nat) (tree : Json)
    (w : Walk σ) (hparents : w.scopes.ParentsLive) (hs : s < w.scopes.size) :
    ∃ e w', walk v maxDepth s tree w = (e, w') ∧
      w'.nodes = w.nodes ∧ w'.scopes.skeleton = w.scopes.skeleton ∧
      (∀ x, ¬ w.scopes.Inside x s → w'.scopes.get? x = w.scopes.get? x) ∧
      ∃ added : List String, ∀ x, w.scopes.Inside x s → ∀ i,
        i ∈ w'.scopes.imports x ↔ i ∈ w.scopes.imports x ∨ i ∈ added := by
  have hrestores : Walk.Restores s w (walk v maxDepth s tree w).2 :=
    Walk.restores_through hv (Site.root tree) ⟨hparents, hs⟩
  generalize walk v maxDepth s tree w = r at hrestores
  obtain ⟨e, w'⟩ := r
  obtain ⟨hnodes, bs, hscopes⟩ := hrestores
  refine ⟨e, w', rfl, hnodes, ?_, ?_, bs.map (·.path), ?_⟩
  · rw [hscopes, Arena.skeleton_addImports]
  · intro x hx
    rw [hscopes, Arena.get?_addImports, if_neg (mt Arena.mem_lineage_iff.1 hx)]
  · intro x hx i
    obtain ⟨t, ht⟩ := Arena.get?_isSome_iff.2 hx.live
    have himports : w'.scopes.imports x = (bs.foldl Scope.bind t).imports := by
      rw [hscopes, Arena.imports, Arena.get?_addImports, if_pos (Arena.mem_lineage_iff.2 hx), ht]
      rfl
    have hbefore : w.scopes.imports x = t.imports := by
      rw [Arena.imports, ht]
      rfl
    rw [himports, hbefore, Scope.mem_imports_foldl_bind, List.mem_map, or_comm]

/-- The visitor of a traced walk records import statements where they stand. -/
theorem Plan.addsInPlace (p : Plan) : p.visitor.AddsInPlace := by
  intro o a seen
  by_cases hrecords : p.records o.child
  · exact ⟨o.child.importBindings, by simp [visitor, hrecords, Arena.recordImport]⟩
  · exact ⟨[], by simp [visitor, hrecords, Arena.addImports]⟩

def Walk.importing : Json :=
  .obj [("stats", .arr [importOf "x" "Y"]), ("type", .str "Source")]

/-- The scope `a` lies inside `b`, which comes later, and `c` stands beside them. -/
def Arena.crossed : Arena :=
  ⟨[.new rootName none, .new "a" (some 2), .new "b" (some 0), .new "c" (some 0)]⟩

/-- A walk in `a` fails inside an import statement: nothing is left of the nodes and scopes it has
opened, `c` is as it was, and what reaches `a` reaches the root too. -/
theorem walk_frame_crossed :
    (Plan.mk [] [] true).visitor.AddsInPlace ∧ Arena.crossed.ParentsLive ∧ 1 < Arena.crossed.size ∧
      ∃ w',
        walk (Plan.mk [] [] true).visitor 2 1 Walk.importing ⟨[], .crossed, ⟨[]⟩⟩ = (.tooDeep, w') ∧
        w'.nodes = [] ∧ w'.scopes.skeleton = Arena.crossed.skeleton ∧
        w'.scopes.get? 3 = Arena.crossed.get? 3 ∧
        ∃ added : List String, "x.Y" ∈ added ∧ ∀ x ∈ [1, 2, Arena.root], ∀ i,
          i ∈ w'.scopes.imports x ↔ i ∈ Arena.crossed.imports x ∨ i ∈ added := by
  have hparents : Arena.crossed.ParentsLive := by decide
  have hlive : 1 < Arena.crossed.size := by decide
  have hresult :
      let r := walk (Plan.mk [] [] true).visitor 2 1 Walk.importing ⟨[], .crossed, ⟨[]⟩⟩
      r.1 = .tooDeep ∧ (r.2.scopes.imports 1).toList = ["x.Y"] := by
    decide +kernel
  obtain ⟨e, w', hwalk, hnodes, hskeleton, helsewhere, added, hadded⟩ :=
    walk_frame (Plan.mk [] [] true).visitor (Plan.addsInPlace _) 2 1 Walk.importing
      ⟨[], .crossed, ⟨[]⟩⟩ hparents hlive
  rw [hwalk] at hresult
  obtain ⟨rfl, himports⟩ := hresult
  have hinside : ∀ x ∈ [1, 2, Arena.root], Arena.crossed.Inside x 1 := fun x hx =>
    Arena.mem_lineage_iff.1 hx
  have hbeside : ¬ Arena.crossed.Inside 3 1 := mt Arena.mem_lineage_iff.2 (by decide)
  have hnew : "x.Y" ∈ added := by
    have hmem : "x.Y" ∈ w'.scopes.imports 1 := by
      show "x.Y" ∈ (w'.scopes.imports 1).toList
      rw [himports]
      exact List.mem_singleton_self _
    rcases (hadded 1 (hinside 1 (by decide)) "x.Y").1 hmem with hold | hnew
    · exact absurd hold (StringSet.mem_empty _)
    · exact hnew
  exact ⟨Plan.addsInPlace _, hparents, hlive, w', hwalk, hnodes, hskeleton, helsewhere 3 hbeside,
    added, hnew, fun x hx => hadded x (hinside x hx)⟩

end SymbolIndex
