import SymbolIndex.Proofs.Scope.Inside
import SymbolIndex.Proofs.Scope.Opened
import SymbolIndex.Proofs.Scope.Root
import Mathlib.Data.List.Chain
import Mathlib.Data.List.Induction

/-!
# What a scope has seen since it was opened

The index of a scope that was closed is given to the next scope that is opened, so an index alone
does not say which scope is meant. This file says what each open scope holds in terms of the history
since it was opened:

- `Arena.performAll` : the scopes after a history of changes
- `Arena.gathered` : the bindings that a history adds in a scope or inside it, in order
- `Arena.Lifetime` : the part of a history since a scope was opened
- `Arena.get?_performAll` : what a scope holds after changes that leave it open
- `Arena.scopes_of_history` : what all open scopes hold after any history
-/

namespace SymbolIndex

/-- The bindings that a change adds. -/
def Action.bindings : Action → List Binding
  | .push _ _ | .pop _ => []
  | .addImport _ binding => [binding]
  | .recordImport _ statement => statement.importBindings

/-- What a scope holds if these bindings were added there, in order: all their paths, and for each
short name that is not empty the path it was last bound to. -/
structure Scope.Reflects (s : Scope) (bs : List Binding) : Prop where
  imports : ∀ i, i ∈ s.imports ↔ ∃ b ∈ bs, b.path = i
  symbols : ∀ symbol i, s.symbols.find? symbol = some i ↔
    symbol ≠ "" ∧ lastBound? bs symbol = some i

/-- A new scope to which bindings have been added reflects them. -/
theorem Scope.reflects_foldl_bind (name : String) (parent : Option Nat) (bs : List Binding) :
    (bs.foldl Scope.bind (Scope.new name parent)).Reflects bs := by
  have hnone : ∀ symbol, (Scope.new name parent).symbols.find? symbol = none := fun _ => rfl
  refine ⟨?_, ?_⟩
  · intro i
    rw [mem_imports_foldl_bind]
    exact or_iff_left (StringSet.mem_empty i)
  · intro symbol i
    rw [find?_symbols_foldl_bind, hnone, Option.or_none]
    by_cases hempty : symbol = ""
    · simp [hempty]
    · simp [hempty]

namespace Arena

/-! ## Histories -/

/-- The open scopes after changes one after another. The first one that is refused ends the
history. -/
def performAll (a : Arena) : List Action → Except Refusal Arena
  | [] => .ok a
  | action :: rest => (a.perform action).bind (·.performAll rest)

theorem performAll_cons_eq_ok_iff {a c : Arena} {action : Action} {rest : List Action} :
    a.performAll (action :: rest) = .ok c ↔
      ∃ b, a.perform action = .ok b ∧ b.performAll rest = .ok c := by
  rw [performAll]
  cases a.perform action with
  | error r => simp [Except.bind]
  | ok b => simp [Except.bind]

/-- A history can be divided at any point. -/
theorem performAll_append_eq_ok_iff {a c : Arena} {done rest : List Action} :
    a.performAll (done ++ rest) = .ok c ↔
      ∃ b, a.performAll done = .ok b ∧ b.performAll rest = .ok c := by
  induction done generalizing a with
  | nil => simp [performAll]
  | cons action done ih =>
    rw [List.cons_append, performAll_cons_eq_ok_iff]
    constructor
    · rintro ⟨b, hstep, hrest⟩
      obtain ⟨d, hdone, hrest⟩ := ih.1 hrest
      exact ⟨d, performAll_cons_eq_ok_iff.2 ⟨b, hstep, hdone⟩, hrest⟩
    · rintro ⟨d, hdone, hrest⟩
      obtain ⟨b, hstep, hdone⟩ := performAll_cons_eq_ok_iff.1 hdone
      exact ⟨b, hstep, ih.2 ⟨d, hdone, hrest⟩⟩

theorem Nested.performAll {a b : Arena} (ha : a.Nested) {history : List Action}
    (h : a.performAll history = .ok b) : b.Nested := by
  induction history generalizing a with
  | nil =>
    cases h
    exact ha
  | cons action rest ih =>
    obtain ⟨c, hstep, hrest⟩ := performAll_cons_eq_ok_iff.1 h
    exact ih (nested_perform ha hstep) hrest

/-! ## Scopes inside a scope -/

/-- Every open scope lies inside the root. -/
theorem Nested.inside_root {a : Arena} (ha : a.Nested) {id : Nat} (hid : id < a.size) :
    a.Inside Arena.root id :=
  mem_lineage_iff.1 (ha.root_mem_lineage hid)

/-- The loop outwards goes from each scope to the one around it, and ends at the root. -/
theorem Nested.lineage_isChain {a : Arena} (ha : a.Nested) {id : Nat} (hid : id < a.size) :
    (a.lineage id).head? = some id ∧ (a.lineage id).getLast? = some Arena.root ∧
      (a.lineage id).IsChain fun i p => ∃ s, a.get? i = some s ∧ s.parent = some p := by
  induction id using Nat.strongRecOn with
  | ind id ih =>
    obtain ⟨s, hget⟩ := get?_isSome_iff.2 hid
    cases hparent : s.parent with
    | none =>
      have hroot : id = Arena.root := by
        have hmem := ha.root_mem_lineage hid
        rw [lineage_eq_singleton hget hparent, List.mem_singleton] at hmem
        exact hmem.symm
      rw [lineage_eq_singleton hget hparent, hroot]
      exact ⟨rfl, rfl, List.IsChain.singleton _⟩
    | some p =>
      have hlt : p < id := ha.parent_lt hget hparent
      obtain ⟨hhead, hlast, hchain⟩ := ih p hlt (Nat.lt_trans hlt hid)
      rw [ha.lineage_eq_cons hget hparent]
      refine ⟨rfl, ?_, ?_⟩
      · rw [List.getLast?_cons, hlast]
        rfl
      · refine List.isChain_cons.2 ⟨?_, hchain⟩
        intro q hq
        rw [hhead, Option.mem_some] at hq
        subst hq
        exact ⟨s, hget, hparent⟩

/-! ## What a history adds -/

open scoped Classical in
/-- The bindings that a history adds in the scope `x` or inside it, in order. Whether a scope lies
inside `x` is a matter of the scopes that are open when the change is made. -/
noncomputable def gathered (x : Nat) : Arena → List Action → List Binding
  | _, [] => []
  | a, action :: rest =>
    (if a.Inside x action.scope then action.bindings else []) ++ gathered x (a.act action) rest

/-- What one change does to a scope that is open before and after it. -/
theorem get?_perform {a b : Arena} {action : Action} (h : a.perform action = .ok b) {x : Nat}
    (hx : x < a.size) (hx' : x < b.size) :
    b.get? x = (a.get? x).map fun s => (gathered x a [action]).foldl Scope.bind s := by
  classical
  obtain ⟨-, -, rfl⟩ := perform_eq_ok_iff.1 h
  have hgathered : gathered x a [action] =
      if x ∈ a.lineage action.scope then action.bindings else [] := by
    simp [gathered, mem_lineage_iff]
  rw [hgathered]
  cases action with
  | push name parent => simpa [act, Action.bindings] using get?_push_of_lt hx
  | pop id =>
    have hsame : (a.pop id).get? x = a.get? x := by
      unfold Arena.pop
      split
      · rfl
      · -- what is closed lies behind what stays open
        rename_i hid
        have hlt : x < id := by
          simp only [act, Arena.pop, hid, if_false, size, List.length_take] at hx'
          omega
        exact List.getElem?_take_of_lt hlt
    simpa [act, Action.bindings] using hsame
  | addImport id b =>
    by_cases hmem : x ∈ a.lineage id
    · simp [act, get?_addImport, Action.scope, Action.bindings, hmem]
    · simp [act, get?_addImport, Action.scope, hmem]
  | recordImport id statement =>
    by_cases hmem : x ∈ a.lineage id
    · simp [act, recordImport, get?_addImports, Action.scope, Action.bindings, hmem]
    · simp [act, recordImport, get?_addImports, Action.scope, hmem]

/-- What a history does to a scope that it leaves open all the time. -/
theorem get?_performAll {a b : Arena} {history : List Action} (h : a.performAll history = .ok b)
    {x : Nat}
    (hx : ∀ done left c, history = done ++ left → a.performAll done = .ok c → x < c.size) :
    b.get? x = (a.get? x).map fun s => (gathered x a history).foldl Scope.bind s := by
  induction history generalizing a with
  | nil =>
    cases h
    simp [gathered]
  | cons action rest ih =>
    obtain ⟨c, hstep, hrest⟩ := performAll_cons_eq_ok_iff.1 h
    have hnow : x < a.size := hx [] (action :: rest) a rfl rfl
    have hnext : x < c.size :=
      hx [action] rest c rfl (performAll_cons_eq_ok_iff.2 ⟨c, hstep, rfl⟩)
    have hlater : ∀ done left d, rest = done ++ left → c.performAll done = .ok d → x < d.size :=
      fun done left d hsplit hdone =>
        hx (action :: done) left d (by rw [hsplit]; rfl)
          (performAll_cons_eq_ok_iff.2 ⟨c, hstep, hdone⟩)
    have hact : c = a.act action := (perform_eq_ok_iff.1 hstep).2.2
    have hsplit : gathered x a (action :: rest) = gathered x a [action] ++ gathered x c rest := by
      simp [gathered, hact]
    rw [ih hrest hlater, get?_perform hstep hnow hnext, hsplit, Option.map_map]
    simp [Function.comp_def, List.foldl_append]

/-- Everything that is added is added inside the root. -/
theorem gathered_root {a b : Arena} (ha : a.Nested) {history : List Action}
    (h : a.performAll history = .ok b) :
    gathered root a history = history.flatMap Action.bindings := by
  induction history generalizing a with
  | nil => rfl
  | cons action rest ih =>
    obtain ⟨c, hstep, hrest⟩ := performAll_cons_eq_ok_iff.1 h
    obtain ⟨hlive, -, hact⟩ := perform_eq_ok_iff.1 hstep
    rw [gathered, if_pos (ha.inside_root hlive), ← hact, ih (nested_perform ha hstep) hrest,
      List.flatMap_cons]

/-! ## Lifetimes -/

/-- The scope `x` was opened with the scopes `born`, and `recent` is what has been done since: it is
the root, which was there from the start, or it was the newest scope after a push. It has been open
ever since. -/
structure Lifetime (history : List Action) (x : Nat) (born : Arena) (recent : List Action) :
    Prop where
  opened : (x = root ∧ born = new ∧ history = recent) ∨
    ∃ past name parent before, history = past ++ .push name parent :: recent ∧
      new.performAll past = .ok before ∧ before.size = x ∧ born = before.push name parent
  stays : ∀ done left a, recent = done ++ left → born.performAll done = .ok a → x < a.size

theorem lifetime_root (history : List Action) : Lifetime history root new history where
  opened := Or.inl ⟨rfl, rfl, rfl⟩
  stays _ _ _ _ hdone := (nested_new.performAll hdone).root_lt_size

/-- The scopes are those in which `x` was new, after what has been done since. -/
theorem Lifetime.performAll_born {history recent : List Action} {x : Nat} {born a : Arena}
    (hlife : Lifetime history x born recent) (h : new.performAll history = .ok a) :
    born.performAll recent = .ok a ∧ ∃ name parent, born.get? x = some (Scope.new name parent) := by
  rcases hlife.opened with
    ⟨rfl, rfl, rfl⟩ | ⟨past, name, parent, before, rfl, hpast, rfl, rfl⟩
  · exact ⟨h, rootName, none, rfl⟩
  · obtain ⟨b, hb, hrest⟩ := performAll_append_eq_ok_iff.1 h
    rw [hpast, Except.ok.injEq] at hb
    subst hb
    obtain ⟨c, hpush, hrecent⟩ := performAll_cons_eq_ok_iff.1 hrest
    have hc : c = before.push name parent := (perform_eq_ok_iff.1 hpush).2.2
    subst hc
    exact ⟨hrecent, name, some parent, get?_push_size before name parent⟩

/-- A scope holds what has been added in it or inside it since it was opened. -/
theorem Lifetime.reflects {history recent : List Action} {x : Nat} {born a : Arena}
    (hlife : Lifetime history x born recent) (h : new.performAll history = .ok a) :
    ∃ s, a.get? x = some s ∧ s.Reflects (gathered x born recent) := by
  obtain ⟨hrecent, name, parent, hget⟩ := hlife.performAll_born h
  refine ⟨_, ?_, Scope.reflects_foldl_bind name parent (gathered x born recent)⟩
  rw [get?_performAll hrecent hlife.stays, hget]
  rfl

/-- A scope that is not there before a change is the newest after it. -/
theorem size_perform {a b : Arena} {action : Action} (h : a.perform action = .ok b) {x : Nat}
    (hx : ¬ x < a.size) (hx' : x < b.size) :
    ∃ name parent, action = .push name parent ∧ a.size = x := by
  obtain ⟨-, -, rfl⟩ := perform_eq_ok_iff.1 h
  cases action with
  | push name parent =>
    refine ⟨name, parent, rfl, ?_⟩
    simp only [act, size_push] at hx'
    omega
  | pop id =>
    exfalso
    simp only [act, Arena.pop] at hx'
    split at hx'
    · exact hx hx'
    · simp only [size, List.length_take] at hx hx'
      omega
  | addImport id b =>
    rw [act, size_eq_of_skeleton (skeleton_addImport a id b)] at hx'
    exact absurd hx' hx
  | recordImport id statement =>
    rw [act, size_eq_of_skeleton (skeleton_recordImport a id statement)] at hx'
    exact absurd hx' hx

/-- The lifetime of a scope that has just been opened. -/
theorem lifetime_push {past : List Action} {name : String} {parent : Nat} {a b : Arena}
    (hpast : new.performAll past = .ok a) (hstep : a.perform (.push name parent) = .ok b) :
    Lifetime (past ++ [.push name parent]) a.size b [] := by
  have hborn : b = a.push name parent := (perform_eq_ok_iff.1 hstep).2.2
  refine ⟨Or.inr ⟨past, name, parent, a, rfl, hpast, rfl, hborn⟩, ?_⟩
  intro done left c hsplit hdone
  have hnil : done = [] := (List.append_eq_nil_iff.1 hsplit.symm).1
  subst hnil
  cases hdone
  rw [hborn, size_push]
  exact Nat.lt_succ_self _

/-- A change that leaves the scope open belongs to its lifetime. -/
theorem Lifetime.concat {history recent : List Action} {x : Nat} {born a b : Arena}
    {action : Action} (hlife : Lifetime history x born recent)
    (hhistory : new.performAll history = .ok a) (hstep : a.perform action = .ok b)
    (hx : x < b.size) :
    Lifetime (history ++ [action]) x born (recent ++ [action]) := by
  obtain ⟨hrecent, -⟩ := hlife.performAll_born hhistory
  refine ⟨?_, ?_⟩
  · rcases hlife.opened with
      ⟨rfl, rfl, rfl⟩ | ⟨past, name, parent, before, rfl, hpast, hsize, hborn⟩
    · exact Or.inl ⟨rfl, rfl, rfl⟩
    · exact Or.inr ⟨past, name, parent, before, by simp, hpast, hsize, hborn⟩
  · intro done left c hsplit hdone
    rcases List.eq_nil_or_concat left with rfl | ⟨left, last, rfl⟩
    · -- the last change has been made too
      rw [List.append_nil] at hsplit
      rw [← hsplit] at hdone
      obtain ⟨d, hd, hlast⟩ := performAll_append_eq_ok_iff.1 hdone
      rw [hrecent, Except.ok.injEq] at hd
      subst hd
      obtain ⟨e, he, hc⟩ := performAll_cons_eq_ok_iff.1 hlast
      rw [hstep, Except.ok.injEq] at he
      subst he
      cases hc
      exact hx
    · rw [List.concat_eq_append, ← List.append_assoc] at hsplit
      exact hlife.stays done left c (List.append_inj_left' hsplit rfl) hdone

/-- Every scope that is open was opened at some time and has been open since. -/
theorem exists_lifetime {history : List Action} {a : Arena} (h : new.performAll history = .ok a)
    {x : Nat} (hx : x < a.size) : ∃ born recent, Lifetime history x born recent := by
  induction history using List.reverseRecOn generalizing a with
  | nil =>
    cases h
    have hroot : x = root := Nat.lt_one_iff.1 hx
    subst hroot
    exact ⟨new, [], lifetime_root []⟩
  | append_singleton history action ih =>
    obtain ⟨b, hhistory, hlast⟩ := performAll_append_eq_ok_iff.1 h
    obtain ⟨c, hstep, hc⟩ := performAll_cons_eq_ok_iff.1 hlast
    cases hc
    by_cases hbefore : x < b.size
    · obtain ⟨born, recent, hlife⟩ := ih hhistory hbefore
      exact ⟨born, recent ++ [action], hlife.concat hhistory hstep hx⟩
    · -- the last change opened the scope
      obtain ⟨name, parent, rfl, rfl⟩ := size_perform hstep hbefore hx
      exact ⟨a, [], lifetime_push hhistory hstep⟩

/-! ## All open scopes -/

/-- After any history of changes that were not refused, every scope but the root lies inside one
with a smaller index, the loop outwards from any scope ends at the root, and every scope holds what
was added in it or inside it since it was opened. The root holds what was added at any time,
whatever has been closed or opened since. -/
theorem scopes_of_history (history : List Action) (a : Arena) (h : new.performAll history = .ok a) :
    (∀ x, x < a.size → x ≠ root → ∃ s p, a.get? x = some s ∧ s.parent = some p ∧ p < x) ∧
    (∀ x, x < a.size → (a.lineage x).head? = some x ∧ (a.lineage x).getLast? = some root ∧
      (a.lineage x).IsChain fun i p => ∃ s, a.get? i = some s ∧ s.parent = some p) ∧
    (∀ x, x < a.size → (∃ born recent, Lifetime history x born recent) ∧
      ∀ born recent, Lifetime history x born recent →
        ∃ s, a.get? x = some s ∧ s.Reflects (gathered x born recent)) ∧
    ∃ s, a.get? root = some s ∧ s.parent = none ∧
      s.Reflects (history.flatMap Action.bindings) := by
  have hnested : a.Nested := nested_new.performAll h
  refine ⟨?_, fun x hx => hnested.lineage_isChain hx, ?_, ?_⟩
  · intro x hx hne
    obtain ⟨s, hget⟩ := get?_isSome_iff.2 hx
    have hskeleton : a.skeleton[x]? = some (s.name, s.parent) := by
      rw [getElem?_skeleton, hget, Option.map_some]
    obtain ⟨p, hparent, hlt⟩ := hnested.inner x s.name s.parent hskeleton hne
    exact ⟨s, p, hget, hparent, hlt⟩
  · intro x hx
    exact ⟨exists_lifetime h hx, fun born recent hlife => hlife.reflects h⟩
  · obtain ⟨s, hget, hreflects⟩ := (lifetime_root history).reflects h
    obtain ⟨name, hroot⟩ := hnested.root
    rw [getElem?_skeleton, hget, Option.map_some, Option.some.injEq, Prod.mk.injEq] at hroot
    rw [gathered_root nested_new h] at hreflects
    exact ⟨s, hget, hroot.2, hreflects⟩

/-- A scope with an import is closed, and its index is given to another one. -/
def reusedIndex : List Action :=
  [.push "a" 0, .addImport 1 ⟨"x.A", some "A"⟩, .pop 1, .push "b" 0,
    .addImport 1 ⟨"y.B", some "B"⟩]

/-- The scope that has the index last knows its own import only, and the root knows both. -/
theorem scopes_of_history_reusedIndex :
    ∃ a, new.performAll reusedIndex = .ok a ∧
      (∃ s, a.get? 1 = some s ∧ s.Reflects [⟨"y.B", some "B"⟩]) ∧
      ∃ s, a.get? root = some s ∧ s.Reflects [⟨"x.A", some "A"⟩, ⟨"y.B", some "B"⟩] := by
  have hrun : ∃ before born a, new.performAll (reusedIndex.take 3) = .ok before ∧
      before.size = 1 ∧ before.perform (.push "b" 0) = .ok born ∧
      born.perform (.addImport 1 ⟨"y.B", some "B"⟩) = .ok a ∧ 1 < a.size := by
    exact ⟨_, _, _, rfl, rfl, rfl, rfl, by decide⟩
  obtain ⟨before, born, a, hpast, hsize, hpush, hadd, hlive⟩ := hrun
  have hopened : new.performAll (reusedIndex.take 4) = .ok born :=
    performAll_append_eq_ok_iff.2 ⟨before, hpast, performAll_cons_eq_ok_iff.2 ⟨born, hpush, rfl⟩⟩
  have ha : new.performAll reusedIndex = .ok a :=
    performAll_append_eq_ok_iff.2 ⟨born, hopened, performAll_cons_eq_ok_iff.2 ⟨a, hadd, rfl⟩⟩
  obtain ⟨-, -, hscopes, s, hroot, -, hreflects⟩ := scopes_of_history reusedIndex a ha
  have hlife := (lifetime_push hpast hpush).concat hopened hadd (hsize ▸ hlive)
  have hgathered : gathered 1 born [.addImport 1 ⟨"y.B", some "B"⟩] = [⟨"y.B", some "B"⟩] := by
    have hinside : born.Inside 1 1 := .self (perform_eq_ok_iff.1 hadd).1
    simp [gathered, Action.scope, Action.bindings, hinside]
  rw [hsize] at hlife
  obtain ⟨t, ht, hown⟩ := (hscopes 1 hlive).2 _ _ hlife
  rw [List.nil_append, hgathered] at hown
  exact ⟨a, ha, ⟨t, ht, hown⟩, s, hroot, hreflects⟩

end Arena
end SymbolIndex
