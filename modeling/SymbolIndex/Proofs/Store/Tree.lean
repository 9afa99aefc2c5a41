import SymbolIndex.Proofs.Sorted.Table
import SymbolIndex.Proofs.Store.Path

/-!
# Trees of entries

- `Entry.wellFormed` : directories list names in order
- `Entry.view` : what stands at a place, whatever a directory there holds
- `Entry.at?_put_self`, `Entry.view_put` : a file that is put at a place, and all other places
- `Store.follow_singleton`, `Store.follow_append`, `Store.follow_of_at?` : where names lead
-/

namespace SymbolIndex

/-! ## Well-formed trees -/

mutual

/-- Each directory lists names in increasing order. -/
def Entry.wellFormed : Entry → Bool
  | .dir entries => decide ((Assoc.keys entries).Pairwise (· < ·)) && wellFormedIn entries
  | _ => true

/-- Names, with trees that are well-formed themselves. -/
def wellFormedIn : List (String × Entry) → Bool
  | [] => true
  | (n, e) :: rest => decide (IsName n) && e.wellFormed && wellFormedIn rest

end

namespace Entry

variable {e new : Entry} {entries : List (String × Entry)} {n : String} {ns ms : List String}

theorem wellFormedIn_iff : wellFormedIn entries = true ↔
    ∀ n e, (n, e) ∈ entries → IsName n ∧ e.wellFormed = true := by
  induction entries with
  | nil => simp [wellFormedIn]
  | cons pair rest ih =>
    obtain ⟨n, e⟩ := pair
    rw [wellFormedIn, Bool.and_eq_true, Bool.and_eq_true, decide_eq_true_eq, ih]
    constructor
    · rintro ⟨hfirst, hrest⟩ m d h
      rcases List.mem_cons.1 h with heq | h
      · cases heq
        exact hfirst
      · exact hrest m d h
    · intro h
      exact ⟨h n e List.mem_cons_self, fun m d hmem => h m d (List.mem_cons_of_mem _ hmem)⟩

theorem wellFormed_dir_iff : (Entry.dir entries).wellFormed = true ↔
    (Assoc.keys entries).Pairwise (· < ·) ∧
      ∀ n e, (n, e) ∈ entries → IsName n ∧ e.wellFormed = true := by
  rw [Entry.wellFormed, Bool.and_eq_true, decide_eq_true_eq, wellFormedIn_iff]

/-- Directories after what they hold. -/
theorem induction {motive : Entry → Prop} (leaf : ∀ e, e.isDir = false → motive e)
    (dir : ∀ entries, (∀ n e, (n, e) ∈ entries → motive e) → motive (.dir entries)) : ∀ e, motive e
  | .dir entries => dir entries fun _ e _ => induction leaf dir e
  | .file id => leaf _ rfl
  | .device d => leaf _ rfl
  | .program name => leaf _ rfl
termination_by e => sizeOf e
decreasing_by
  -- an entry is smaller than the pair that lists it, and the pair than the list
  have hpair := List.sizeOf_lt_of_mem (by assumption : _ ∈ entries)
  simp only [Prod.mk.sizeOf_spec, Entry.dir.sizeOf_spec] at hpair ⊢
  omega

/-! ## Places -/

/-- Names can be followed in parts. -/
theorem at?_append : e.at? (ns ++ ms) = (e.at? ns).bind (·.at? ms) := by
  induction ns generalizing e with
  | nil => simp [at?]
  | cons n ns ih =>
    cases e with
    | dir entries =>
      simp only [List.cons_append, at?]
      cases Assoc.find? n entries with
      | none => rfl
      | some d => exact ih
    | file id => rfl
    | device d => rfl
    | program name => rfl

theorem exists_of_at?_cons {d : Entry} (h : e.at? (n :: ns) = some d) :
    ∃ entries f, e = .dir entries ∧ Assoc.find? n entries = some f ∧ f.at? ns = some d := by
  cases e with
  | dir entries =>
    obtain ⟨f, hfind, hrest⟩ := Option.bind_eq_some_iff.1 h
    exact ⟨entries, f, rfl, hfind, hrest⟩
  | file id => cases h
  | device d => cases h
  | program name => cases h

theorem at?_cons_of_not_isDir (h : e.isDir = false) : e.at? (n :: ns) = none := by
  cases e with
  | dir entries => cases h
  | file id => rfl
  | device d => rfl
  | program name => rfl

theorem isDir_of_at? {d : Entry} (hne : ns ≠ []) (h : e.at? ns = some d) : e.isDir = true := by
  obtain ⟨n, rest, rfl⟩ := List.exists_cons_of_ne_nil hne
  obtain ⟨entries, f, rfl, -, -⟩ := exists_of_at?_cons h
  rfl

/-- Everything inside a well-formed tree is well-formed, and reached by names. -/
theorem wellFormed_of_at? {d : Entry} (hwf : e.wellFormed = true) (h : e.at? ns = some d) :
    (∀ n ∈ ns, IsName n) ∧ d.wellFormed = true := by
  induction ns generalizing e with
  | nil =>
    cases h
    exact ⟨fun n hn => absurd hn List.not_mem_nil, hwf⟩
  | cons n ns ih =>
    obtain ⟨entries, f, rfl, hfind, hrest⟩ := exists_of_at?_cons h
    obtain ⟨hn, hf⟩ := (wellFormed_dir_iff.1 hwf).2 n f (mem_of_find? hfind)
    obtain ⟨hns, hd⟩ := ih hf hrest
    exact ⟨List.forall_mem_cons.2 ⟨hn, hns⟩, hd⟩

/-- The entry without what it holds, if it is a directory. -/
def bare : Entry → Entry
  | .dir _ => .dir []
  | e => e

/-- What stands at a place, whatever a directory there holds. -/
def view (e : Entry) (ns : List String) : Option Entry :=
  (e.at? ns).map bare

theorem isSome_view {d : Entry} (h : e.at? ns = some d) : (e.view ns).isSome := by
  rw [view, h]
  rfl

theorem bare_eq_iff {f : Entry} (hf : f.isDir = false) : e.bare = f ↔ e = f := by
  cases e with
  | dir entries =>
    constructor
    · rintro rfl
      cases hf
    · rintro rfl
      cases hf
  | file id => rfl
  | device d => rfl
  | program name => rfl

theorem bare_eq_dir_iff : e.bare = .dir [] ↔ ∃ entries, e = .dir entries := by
  cases e <;> simp [bare]

theorem view_eq_some_iff {f : Entry} (hf : f.isDir = false) :
    e.view ns = some f ↔ e.at? ns = some f := by
  simp only [view, Option.map_eq_some_iff, bare_eq_iff hf, exists_eq_right]

theorem view_eq_dir_iff :
    e.view ns = some (.dir []) ↔ ∃ entries, e.at? ns = some (.dir entries) := by
  simp only [view, Option.map_eq_some_iff, bare_eq_dir_iff]
  constructor
  · rintro ⟨d, hd, entries, rfl⟩
    exact ⟨entries, hd⟩
  · rintro ⟨entries, h⟩
    exact ⟨_, h, entries, rfl⟩

theorem isDir_eq_false_of_view {d : Entry} (h : e.view ns ≠ some (.dir []))
    (hat : e.at? ns = some d) :
    d.isDir = false := by
  cases d with
  | dir entries => exact absurd (view_eq_dir_iff.2 ⟨entries, hat⟩) h
  | file id => rfl
  | device d => rfl
  | program name => rfl

/-! ## Putting a file at a place -/

theorem put_cons : (Entry.dir entries).put (n :: ns) new =
    .dir (Assoc.insert n (((Assoc.find? n entries).getD (.dir [])).put ns new) entries) :=
  rfl

/-- What has been put somewhere is there. -/
theorem at?_put_self (hparent : e.at? ns = some (.dir entries)) :
    (e.put (ns ++ [n]) new).at? (ns ++ [n]) = some new := by
  induction ns generalizing e with
  | nil =>
    cases hparent
    simp [put, at?, Assoc.find?_insert]
  | cons m ns ih =>
    obtain ⟨siblings, f, rfl, hfind, hrest⟩ := exists_of_at?_cons hparent
    rw [List.cons_append, put_cons, hfind, at?, Assoc.find?_insert, if_pos rfl, Option.bind_some]
    exact ih hrest

/-- Below something that is no directory there is nothing, before and after. -/
theorem view_insert_file (hold : ∀ old, Assoc.find? n entries = some old → old.isDir = false)
    (hnew : new.isDir = false) (hne : ms ≠ [n]) :
    (Entry.dir (Assoc.insert n new entries)).view ms = (Entry.dir entries).view ms := by
  cases ms with
  | nil => rfl
  | cons m ms =>
    unfold view
    rw [at?, at?, Assoc.find?_insert]
    split
    · rename_i hm
      subst hm
      cases ms with
      | nil => exact absurd rfl hne
      | cons k ks =>
        rw [Option.bind_some, at?_cons_of_not_isDir hnew]
        cases hfind : Assoc.find? n entries with
        | none => rfl
        | some old => rw [Option.bind_some, at?_cons_of_not_isDir (hold old hfind)]
    · rfl

theorem view_insert (hfind : Assoc.find? n entries = some e) (hview : ∀ ms, n :: ms ≠ ns →
    new.view ms = e.view ms) (hne : ms ≠ ns) :
    (Entry.dir (Assoc.insert n new entries)).view ms = (Entry.dir entries).view ms := by
  cases ms with
  | nil => rfl
  | cons m ms =>
    unfold view at hview ⊢
    rw [at?, at?, Assoc.find?_insert]
    split
    · rename_i hm
      subst hm
      rw [hfind, Option.bind_some, Option.bind_some]
      exact hview ms hne
    · rfl

/-- Putting a file somewhere leaves everything else as it was, as far as one sees it from outside.
-/
theorem view_put (hparent : e.at? ns = some (.dir entries))
    (hold : ∀ old, e.at? (ns ++ [n]) = some old → old.isDir = false) (hnew : new.isDir = false)
    (hne : ms ≠ ns ++ [n]) : (e.put (ns ++ [n]) new).view ms = e.view ms := by
  -- along the directories above the file: each of them stays one, and only one of its entries
  -- changes
  induction ns generalizing e ms with
  | nil =>
    cases hparent
    refine view_insert_file ?_ hnew hne
    intro old hfind
    exact hold old (Option.bind_eq_some_iff.2 ⟨old, hfind, rfl⟩)
  | cons m ns ih =>
    obtain ⟨siblings, f, rfl, hfind, hrest⟩ := exists_of_at?_cons hparent
    have hlater : ∀ old, f.at? (ns ++ [n]) = some old → old.isDir = false := by
      intro old hat
      exact hold old (Option.bind_eq_some_iff.2 ⟨f, hfind, hat⟩)
    rw [List.cons_append, put_cons, hfind]
    refine view_insert hfind ?_ hne
    intro ms hms
    exact ih hrest hlater fun heq => hms (congrArg (m :: ·) heq)

theorem wellFormed_insert (hwf : (Entry.dir entries).wellFormed = true) (hn : IsName n)
    (hnew : new.wellFormed = true) :
    (Entry.dir (Assoc.insert n new entries)).wellFormed = true := by
  obtain ⟨hsorted, hall⟩ := wellFormed_dir_iff.1 hwf
  refine wellFormed_dir_iff.2 ⟨Assoc.pairwise_keys_insert hsorted, ?_⟩
  intro m d h
  rcases Assoc.mem_of_mem_insert h with heq | h
  · cases heq
    exact ⟨hn, hnew⟩
  · exact hall m d h

/-- A well-formed tree stays so if a name gets a well-formed entry. -/
theorem wellFormed_put (hparent : e.at? ns = some (.dir entries)) (hwf : e.wellFormed = true)
    (hn : IsName n) (hnew : new.wellFormed = true) : (e.put (ns ++ [n]) new).wellFormed = true := by
  induction ns generalizing e with
  | nil =>
    cases hparent
    exact wellFormed_insert hwf hn hnew
  | cons m ns ih =>
    obtain ⟨siblings, f, rfl, hfind, hrest⟩ := exists_of_at?_cons hparent
    obtain ⟨hm, hf⟩ := (wellFormed_dir_iff.1 hwf).2 m f (mem_of_find? hfind)
    rw [List.cons_append, put_cons, hfind]
    exact wellFormed_insert hwf hm (ih hrest hf)

end Entry

/-! ## Where names lead -/

namespace Store

variable {s : Store} {place p q : List String} {n : String} {ns ms : List String}

theorem at?_reverse_cons {entries : List (String × Entry)}
    (h : s.root.at? p.reverse = some (.dir entries)) :
    s.root.at? (n :: p).reverse = Assoc.find? n entries := by
  rw [List.reverse_cons, Entry.at?_append, h, Option.bind_some, Entry.at?]
  cases Assoc.find? n entries <;> rfl

/-- One name of a path: what it leads to can be told from two views. -/
theorem follow_singleton : s.follow p [n] =
    match s.root.view p.reverse with
    | some (.dir _) =>
      if n = "." then .ok p
      else if n = ".." then .ok p.tail
      else if maxNameSize < n.utf8ByteSize then .error .nameTooLong
      else if (s.root.view (n :: p).reverse).isSome then .ok (n :: p)
      else .error .notFound
    | some _ => .error .notDirectory
    | none => .error .notFound := by
  unfold follow Entry.view
  cases hp : s.root.at? p.reverse with
  | none => rfl
  | some e =>
    cases e with
    | dir entries =>
      rw [at?_reverse_cons hp]
      simp only [follow, Option.map_some, Entry.bare]
      cases Assoc.find? n entries <;> rfl
    | file id => rfl
    | device d => rfl
    | program name => rfl

theorem follow_cons : s.follow p (n :: ns) = (s.follow p [n]).bind fun q => s.follow q ns := by
  simp only [follow]
  split
  · split
    · rfl
    · split
      · rfl
      · split
        · rfl
        · split
          · rfl
          · rfl
  · rfl
  · rfl

/-- A path can be followed in parts. -/
theorem follow_append : s.follow p (ns ++ ms) = (s.follow p ns).bind fun q => s.follow q ms := by
  induction ns generalizing p with
  | nil => rfl
  | cons n ns ih =>
    have hfirst : s.follow p (n :: ns) = (s.follow p [n]).bind fun q => s.follow q ns := follow_cons
    rw [List.cons_append, follow_cons, hfirst]
    cases s.follow p [n] with
    | error f => rfl
    | ok q => exact ih

/-- A path whose names are those of entries leads to them. -/
theorem follow_of_at? (hns : ∀ n ∈ ns, IsName n) {e : Entry}
    (hat : s.root.at? (p.reverse ++ ns) = some e) : s.follow p ns = .ok (ns.reverse ++ p) := by
  induction ns generalizing p with
  | nil => rfl
  | cons n ns ih =>
    obtain ⟨hn, hns⟩ := List.forall_mem_cons.1 hns
    have hmoved : s.root.at? ((n :: p).reverse ++ ns) = some e := by
      rw [List.reverse_cons, List.append_assoc]
      exact hat
    have hdir : s.root.view p.reverse = some (.dir []) := by
      rw [Entry.at?_append] at hat
      obtain ⟨d, hd, hrest⟩ := Option.bind_eq_some_iff.1 hat
      obtain ⟨entries, f, rfl, -, -⟩ := Entry.exists_of_at?_cons hrest
      exact Entry.view_eq_dir_iff.2 ⟨entries, hd⟩
    have hthere : (s.root.view (n :: p).reverse).isSome := by
      rw [Entry.at?_append] at hmoved
      obtain ⟨d, hd, -⟩ := Option.bind_eq_some_iff.1 hmoved
      exact Entry.isSome_view hd
    have hone : s.follow p [n] = .ok (n :: p) := by
      rw [follow_singleton, hdir]
      simp only [if_neg hn.ne_dot, if_neg hn.ne_up, if_neg (Nat.not_lt.2 hn.size_le), if_pos hthere]
    calc
      s.follow p (n :: ns) = s.follow (n :: p) ns := by
        rw [follow_cons, hone]
        rfl
      _ = .ok ((n :: ns).reverse ++ p) := by
        rw [ih hns hmoved, List.reverse_cons, List.append_assoc]
        rfl

theorem exists_of_follow_cons (hfollow : s.follow p (n :: ns) = .ok q) :
    ∃ r, s.follow p [n] = .ok r ∧ s.follow r ns = .ok q := by
  rw [follow_cons] at hfollow
  cases hstep : s.follow p [n] with
  | error f =>
    rw [hstep] at hfollow
    cases hfollow
  | ok r =>
    rw [hstep] at hfollow
    exact ⟨r, rfl, hfollow⟩

/-- Nothing leads on from what is no directory. -/
theorem ne_of_follow (hplace : ∀ e, s.root.at? place.reverse = some e → e.isDir = false)
    (hq : q ≠ place) (hfollow : s.follow p ns = .ok q) : p ≠ place := by
  rintro rfl
  cases ns with
  | nil =>
    cases hfollow
    exact hq rfl
  | cons n ns =>
    obtain ⟨r, hstep, -⟩ := exists_of_follow_cons hfollow
    rw [follow_singleton, Entry.view] at hstep
    cases hat : s.root.at? p.reverse with
    | none =>
      rw [hat] at hstep
      cases hstep
    | some e =>
      have hbare : e.bare = e := (Entry.bare_eq_iff (hplace e hat)).2 rfl
      rw [hat, Option.map_some, hbare] at hstep
      cases e with
      | dir entries => cases hplace _ hat
      | file id => cases hstep
      | device d => cases hstep
      | program name => cases hstep

end Store
end SymbolIndex
