import SymbolIndex.Proofs.Store.Files
import SymbolIndex.Proofs.Store.Sources

/-!
# Stores that differ in one file

- `Store.SameBut` : stores that differ in one file, and perhaps in whether it is listed at one place
- `Store.follow_of_sameBut`, `Store.follow_eq_of_sameBut` : paths that lead around that place
- `Store.Targets`, `Store.HoldsFile` : a path that names a file, and what the file holds
- `Store.exists_create`, `Store.WritesOver.holdsFile` : files that are emptied and written
- `Store.Meets` : a path that leads to a file or through it
- `Store.readText_eq_of_sameBut`, `Store.expand_eq_of_sameBut` : other paths do not show the
  difference
-/

namespace SymbolIndex
namespace Store

variable {s t a b : Store} {place p q : List String} {n path : String} {ns : List String} {id : Nat}

/-- The stores differ in one file only, which may be listed at the place in one of them only. -/
structure SameBut (place : List String) (id : Nat) (a b : Store) : Prop where
  home : a.home = b.home
  view : ∀ ns, ns ≠ place → a.root.view ns = b.root.view ns
  file : ∀ i, i ≠ id → a.file i = b.file i

theorem SameBut.symm (h : SameBut ns id a b) : SameBut ns id b a where
  home := h.home.symm
  view ms hms := (h.view ms hms).symm
  file i hi := (h.file i hi).symm

theorem SameBut.trans (hab : SameBut ns id a b) (hbt : SameBut ns id b t) : SameBut ns id a t where
  home := hab.home.trans hbt.home
  view ms hms := (hab.view ms hms).trans (hbt.view ms hms)
  file i hi := (hab.file i hi).trans (hbt.file i hi)

/-- Writing to a file leaves the stores the same but for it. -/
theorem WritesOver.sameBut {text : List UInt8} (h : WritesOver a b id text) (place : List String) :
    SameBut place id a b where
  home := h.home.symm
  view ns _ := by rw [h.root]
  file i hi := (h.other i hi).symm

theorem SameBut.view_reverse (h : SameBut place.reverse id a b) (hp : p ≠ place) :
    a.root.view p.reverse = b.root.view p.reverse :=
  h.view p.reverse fun heq => hp (List.reverse_injective heq)

theorem SameBut.start_eq (h : SameBut ns id a b) (path : String) : a.start path = b.start path := by
  rw [start, start, h.home]

/-- A step that neither starts nor ends at the place can be made in both stores. -/
theorem follow_singleton_of_sameBut (h : SameBut place.reverse id a b) (hp : p ≠ place)
    (hq : q ≠ place) (hfollow : a.follow p [n] = .ok q) : b.follow p [n] = .ok q := by
  rw [follow_singleton] at hfollow ⊢
  rw [← h.view_reverse hp]
  cases hview : a.root.view p.reverse with
  | none =>
    rw [hview] at hfollow
    cases hfollow
  | some e =>
    rw [hview] at hfollow
    cases e with
    | dir entries =>
      dsimp only at hfollow ⊢
      split_ifs at hfollow with hdot hup hlong ha
      · rw [if_pos hdot]
        exact hfollow
      · rw [if_neg hdot, if_pos hup]
        exact hfollow
      · cases hfollow
        rw [h.view_reverse hq] at ha
        rw [if_neg hdot, if_neg hup, if_neg hlong, if_pos ha]
    | file i => cases hfollow
    | device d => cases hfollow
    | program name => cases hfollow

/-- Where one store leads, past a place that is no directory there, the other leads too. -/
theorem follow_of_sameBut (h : SameBut place.reverse id a b)
    (hplace : ∀ e, a.root.at? place.reverse = some e → e.isDir = false) (hq : q ≠ place)
    (hfollow : a.follow p ns = .ok q) : b.follow p ns = .ok q := by
  -- a path that ends elsewhere has not come to the place, since nothing leads on from there
  induction ns generalizing p with
  | nil => exact hfollow
  | cons n ns ih =>
    have hp : p ≠ place := ne_of_follow hplace hq hfollow
    obtain ⟨r, hstep, hrest⟩ := exists_of_follow_cons hfollow
    have hr : r ≠ place := ne_of_follow hplace hq hrest
    rw [follow_cons, follow_singleton_of_sameBut h hp hr hstep]
    exact ih hrest

theorem follow_singleton_eq_of_sameBut (h : SameBut place.reverse id a b)
    (hplace : (b.root.view place.reverse).isSome) (hp : p ≠ place)
    (hfree : b.follow p [n] ≠ .ok place) :
    a.follow p [n] = b.follow p [n] := by
  rw [follow_singleton] at hfree
  rw [follow_singleton, follow_singleton, h.view_reverse hp]
  cases hview : b.root.view p.reverse with
  | none => rfl
  | some e =>
    rw [hview] at hfree
    cases e with
    | dir entries =>
      by_cases hn : n :: p = place
      · subst hn
        dsimp only at hfree ⊢
        rw [if_pos hplace] at hfree ⊢
        split_ifs at hfree ⊢ with hdot hup hlong ha
        · rfl
        · rfl
        · rfl
        · exact absurd rfl hfree
        · exact absurd rfl hfree
      · rw [h.view_reverse hn]
    | file i => rfl
    | device d => rfl
    | program name => rfl

/-- A path that does not come to the place leads to the same in both stores. -/
theorem follow_eq_of_sameBut (h : SameBut place.reverse id a b)
    (hplace : (b.root.view place.reverse).isSome)
    (hfree : ∀ front, front <+: ns → b.follow p front ≠ .ok place) :
    a.follow p ns = b.follow p ns := by
  induction ns generalizing p with
  | nil => rfl
  | cons n ns ih =>
    have hp : p ≠ place := by
      rintro rfl
      exact hfree [] List.nil_prefix rfl
    have hn : b.follow p [n] ≠ .ok place := hfree [n] ⟨ns, rfl⟩
    have hb : b.follow p (n :: ns) = (b.follow p [n]).bind fun q => b.follow q ns := follow_cons
    rw [follow_cons, hb, follow_singleton_eq_of_sameBut h hplace hp hn]
    cases hstep : b.follow p [n] with
    | error f => rfl
    | ok r =>
      refine ih ?_
      intro front hfront
      have hlonger := hfree (n :: front) (List.cons_prefix_cons.2 ⟨rfl, hfront⟩)
      rw [follow_cons, hstep] at hlonger
      exact hlonger

/-! ## Naming a file -/

/-- A path that names a file: names that lead to a directory, and one more name. -/
structure Targets (s : Store) (path : String) (above : List String) (last : String)
    (parent : List String) : Prop where
  fault : pathFault? path = none
  names : Path.names path = above ++ [last]
  follow : s.follow (s.start path) above = .ok parent
  parent_isDir : s.root.view parent.reverse = some (.dir [])
  ne_dot : last ≠ "."
  ne_up : last ≠ ".."
  size_le : last.utf8ByteSize ≤ maxNameSize
  not_isDir : s.root.view (last :: parent).reverse ≠ some (.dir [])
  slash : Path.endsWithSlash path = false

/-- A path that names a file is a directory and one more name. -/
theorem exists_targets (h : s.target path = .ok place) :
    ∃ above last parent, s.Targets path above last parent ∧ place = last :: parent := by
  unfold target at h
  split at h
  · cases h
  · rename_i hfault
    split at h
    · cases h
    · rename_i last above hnames
      split at h
      · cases h
      · rename_i parent hfollow
        split at h
        · rename_i entries hparent
          split_ifs at h with hdot hlong hslash
          · split at h <;> cases h
          · split at h
            · cases h
            · rename_i hdir
              cases h
              obtain ⟨hdot, hup⟩ := not_or.1 hdot
              have hnames : Path.names path = above.reverse ++ [last] := by
                rw [← List.reverse_reverse (Path.names path), hnames, List.reverse_cons]
              have hlast : s.root.view (last :: parent).reverse ≠ some (.dir []) := by
                intro hview
                obtain ⟨inner, hat⟩ := Entry.view_eq_dir_iff.1 hview
                rw [at?_reverse_cons hparent] at hat
                exact hdir inner hat
              exact ⟨above.reverse, last, parent, ⟨hfault, hnames, hfollow,
                Entry.view_eq_dir_iff.2 ⟨entries, hparent⟩, hdot, hup, Nat.not_lt.1 hlong, hlast,
                eq_false_of_ne_true hslash⟩, rfl⟩
        · cases h

theorem Targets.target_eq {above parent : List String} {last : String}
    (h : s.Targets path above last parent) : s.target path = .ok (last :: parent) := by
  obtain ⟨entries, hparent⟩ := Entry.view_eq_dir_iff.1 h.parent_isDir
  have hdot : ¬ (last = "." ∨ last = "..") := not_or.2 ⟨h.ne_dot, h.ne_up⟩
  have hnames : (Path.names path).reverse = last :: above.reverse := by simp [h.names]
  unfold target
  rw [h.fault]
  simp only [hnames, List.reverse_reverse, h.follow, hparent, if_neg hdot,
    if_neg (Nat.not_lt.2 h.size_le), h.slash]
  split
  · rename_i inner hfind
    rw [← at?_reverse_cons hparent] at hfind
    exact absurd (Entry.view_eq_dir_iff.2 ⟨inner, hfind⟩) h.not_isDir
  · rfl

/-- Such a path names the file in the other store, too. -/
theorem Targets.of_sameBut {above parent : List String} {last : String}
    (h : SameBut (last :: parent).reverse id a b) (ha : a.Targets path above last parent)
    (hb : b.root.view (last :: parent).reverse ≠ some (.dir [])) :
    b.Targets path above last parent := by
  have hne : parent ≠ last :: parent := (List.cons_ne_self last parent).symm
  refine { ha with follow := ?_, parent_isDir := ?_, not_isDir := hb }
  · rw [← h.start_eq]
    exact follow_of_sameBut h (fun e => Entry.isDir_eq_false_of_view ha.not_isDir) hne ha.follow
  · rw [← h.view_reverse hne]
    exact ha.parent_isDir

/-- The path names the file with the number at the place, and the file holds the bytes. -/
structure HoldsFile (s : Store) (path : String) (place : List String) (id : Nat)
    (bytes : List UInt8) : Prop where
  target : s.target path = .ok place
  listed : s.root.at? place.reverse = some (.file id)
  bytes : (s.file id).bytes = bytes

theorem Targets.isName {above parent : List String} {last : String}
    (h : s.Targets path above last parent) : IsName last := by
  have hmem : last ∈ Path.names path := by
    rw [h.names]
    exact List.mem_append_right _ List.mem_cons_self
  obtain ⟨hempty, hslash⟩ := Path.of_mem_names hmem
  exact ⟨hempty, hslash, h.ne_dot, h.ne_up, h.size_le⟩

/-- A file that has been made at the place is found by the same path. -/
theorem target_of_sameBut (h : s.target path = .ok place) (hsame : SameBut place.reverse id s t)
    (hat : t.root.at? place.reverse = some (.file id)) : t.target path = .ok place := by
  obtain ⟨above, last, parent, htargets, rfl⟩ := exists_targets h
  have hview : t.root.view (last :: parent).reverse ≠ some (.dir []) := by
    rw [Entry.view, hat]
    simp [Entry.bare]
  exact (htargets.of_sameBut hsame hview).target_eq

/-- A file in place of what a path names: nothing else changes. -/
theorem newFile_of_target (h : s.target path = .ok place) (f : File) :
    SameBut place.reverse s.unused s (s.newFile place.reverse f).2 ∧
      (s.newFile place.reverse f).2.HoldsFile path place s.unused f.bytes ∧
      (s.root.wellFormed = true → (s.newFile place.reverse f).2.root.wellFormed = true) := by
  obtain ⟨above, last, parent, htargets, rfl⟩ := exists_targets h
  obtain ⟨entries, hparent⟩ := Entry.view_eq_dir_iff.1 htargets.parent_isDir
  have hroot : (s.newFile (last :: parent).reverse f).2.root =
      s.root.put (parent.reverse ++ [last]) (.file s.unused) := by
    rw [← List.reverse_cons]
    rfl
  have hat : (s.newFile (last :: parent).reverse f).2.root.at? (last :: parent).reverse =
      some (.file s.unused) := by
    rw [hroot, List.reverse_cons]
    exact Entry.at?_put_self hparent
  have hsame : SameBut (last :: parent).reverse s.unused s
      (s.newFile (last :: parent).reverse f).2 := by
    refine ⟨rfl, ?_, fun i hi => (file_setFile_of_ne hi).symm⟩
    intro ns hns
    rw [List.reverse_cons] at hns
    rw [hroot]
    refine (Entry.view_put hparent ?_ rfl hns).symm
    intro old hold
    rw [← List.reverse_cons] at hold
    exact Entry.isDir_eq_false_of_view htargets.not_isDir hold
  have hfile : (s.newFile (last :: parent).reverse f).2.file s.unused = f :=
    file_setFile_self s s.unused f
  refine ⟨hsame, ⟨target_of_sameBut h hsame hat, hat, by rw [hfile]⟩, ?_⟩
  intro hwf
  rw [hroot]
  exact Entry.wellFormed_put hparent hwf htargets.isName rfl

/-- Another content of the file that a path names: nothing else changes. -/
theorem setFile_of_target (h : s.target path = .ok place)
    (hat : s.root.at? place.reverse = some (.file id)) (f : File) :
    SameBut place.reverse id s (s.setFile id f) ∧
    (s.setFile id f).HoldsFile path place id f.bytes := by
  have hsame : SameBut place.reverse id s (s.setFile id f) :=
    ⟨rfl, fun _ _ => rfl, fun i hi => (file_setFile_of_ne hi).symm⟩
  exact ⟨hsame, target_of_sameBut h hsame hat, hat, by rw [file_setFile_self]⟩

/-- What a path names is emptied, or made if there is nothing. What is made has a number of its
own. -/
theorem exists_create (h : s.target path = .ok place)
    (hfile : ∀ e, s.root.at? place.reverse = some e → e.isFile = true) :
    ∃ id t, s.create path false = .ok (.file id, t) ∧
      (s.root.at? place.reverse = some (.file id) ∨ ∀ ns, s.root.at? ns ≠ some (.file id)) ∧
      SameBut place.reverse id s t ∧ t.HoldsFile path place id [] ∧
      (s.root.wellFormed = true → t.root.wellFormed = true) := by
  unfold create
  rw [h]
  dsimp only
  cases hat : s.root.at? place.reverse with
  | none => exact ⟨_, _, rfl, Or.inr s.at?_ne_unused, newFile_of_target h {}⟩
  | some e =>
    cases e with
    | file id =>
      obtain ⟨hsame, hholds⟩ := setFile_of_target h hat { s.file id with bytes := [] }
      exact ⟨id, _, rfl, Or.inl rfl, hsame, hholds, fun hwf => hwf⟩
    | program name =>
      exact ⟨_, _, rfl, Or.inr s.at?_ne_unused, newFile_of_target h { executable := true }⟩
    | dir entries => cases hfile _ hat
    | device d => cases hfile _ hat

/-- An empty file holds what is written to it. -/
theorem WritesOver.holdsFile {text : List UInt8} (hwrite : WritesOver a b id text)
    (h : a.HoldsFile path place id []) : b.HoldsFile path place id text := by
  have hat : b.root.at? place.reverse = some (.file id) := by
    rw [hwrite.root]
    exact h.listed
  refine ⟨target_of_sameBut h.target (hwrite.sameBut _) hat, hat, ?_⟩
  rw [hwrite.self, h.bytes, List.drop_nil, List.append_nil]

theorem Targets.resolve_eq {above parent : List String} {last : String}
    (h : s.Targets path above last parent)
    (hthere : (s.root.view (last :: parent).reverse).isSome) :
    s.resolve path = .ok (last :: parent) := by
  have hlast : s.follow parent [last] = .ok (last :: parent) := by
    rw [follow_singleton, h.parent_isDir]
    simp only [if_neg h.ne_dot, if_neg h.ne_up, if_neg (Nat.not_lt.2 h.size_le), if_pos hthere]
  unfold resolve
  rw [h.fault]
  simp only [h.slash, h.names, Bool.false_eq_true, if_false, List.append_nil]
  rw [follow_append, h.follow]
  exact hlast

/-- What the file holds is what is read by the path. -/
theorem HoldsFile.read_eq {bytes : List UInt8} (h : s.HoldsFile path place id bytes) :
    s.read path = .ok bytes := by
  obtain ⟨above, last, parent, htargets, rfl⟩ := exists_targets h.target
  have hthere : (s.root.view (last :: parent).reverse).isSome := Entry.isSome_view h.listed
  have hlookup : s.lookup path = .ok (.file id) :=
    lookup_eq_ok_iff.2 ⟨_, htargets.resolve_eq hthere, h.listed⟩
  rw [read, hlookup, ← h.bytes]

/-! ## Paths that lead around a file -/

/-- The path leads to the file with the number, or through it. -/
def Meets (s : Store) (path : String) (id : Nat) : Prop :=
  ∃ front place, front <+: Path.names path ∧ s.follow (s.start path) front = .ok place ∧
    s.root.at? place.reverse = some (.file id)

theorem eq_of_follow_dot (h : s.follow p ["."] = .ok q) : q = p := by
  rw [follow_singleton] at h
  split at h
  · rw [if_pos rfl] at h
    exact (Except.ok.inj h).symm
  · cases h
  · cases h

/-- A slash at the end asks for one more step, to the directory itself. -/
theorem resolve_eq_follow (hfault : pathFault? path = none) : s.resolve path =
    (s.follow (s.start path) (Path.names path)).bind fun q =>
      if Path.endsWithSlash path then s.follow q ["."] else .ok q := by
  unfold resolve
  rw [hfault]
  dsimp only
  rw [follow_append]
  split
  · rfl
  · rfl

theorem follow_names_of_resolve (h : s.resolve path = .ok p) :
    s.follow (s.start path) (Path.names path) = .ok p := by
  cases hfault : pathFault? path with
  | some f =>
    rw [resolve, hfault] at h
    cases h
  | none =>
    rw [resolve_eq_follow hfault] at h
    cases hfollow : s.follow (s.start path) (Path.names path) with
    | error f =>
      rw [hfollow] at h
      cases h
    | ok q =>
      rw [hfollow, Except.bind] at h
      split at h
      · rw [eq_of_follow_dot h]
      · exact h

/-- The view of the place that a path leads to. -/
def look (s : Store) (path : String) : Except IoFault (Option Entry) :=
  (s.resolve path).map fun p => s.root.view p.reverse

/-- What is read depends on nothing but what stands at the place. -/
theorem read_eq_look : s.read path =
    (s.look path).bind fun
      | none => .error .notFound
      | some (.file i) => .ok (s.file i).bytes
      | some (.program _) => .ok Entry.programBytes
      | some (.device _) => .ok []
      | some (.dir _) => .error .isDirectory := by
  unfold read lookup look Entry.view
  cases s.resolve path with
  | error f => rfl
  | ok p =>
    dsimp only
    cases hat : s.root.at? p.reverse with
    | none => simp [Except.map, Except.bind, hat]
    | some e => cases e <;> simp [Except.map, Except.bind, hat, Entry.bare]

theorem isDir_iff_look : s.isDir path = true ↔ s.look path = .ok (some (.dir [])) := by
  unfold isDir lookup look
  cases s.resolve path with
  | error f => simp [Except.map]
  | ok p =>
    simp only [Except.map, Except.ok.injEq, Entry.view_eq_dir_iff]
    cases hat : s.root.at? p.reverse with
    | none => simp
    | some e => cases e <;> simp [Entry.isDir]

/-- What a path leads to is not a file that it does not meet. -/
theorem look_ne_of_not_meets (hfree : ¬ s.Meets path id) : s.look path ≠ .ok (some (.file id)) := by
  unfold look
  cases hresolve : s.resolve path with
  | error f =>
    rintro ⟨⟩
  | ok p =>
    intro hview
    have hat := (Entry.view_eq_some_iff rfl).1 (Except.ok.inj hview)
    exact hfree ⟨_, p, List.prefix_rfl, follow_names_of_resolve hresolve, hat⟩

section Around

-- two stores, and a path that leads around the file in which they differ
variable (h : SameBut place.reverse id a b) (hplace : b.root.at? place.reverse = some (.file id))
  (hfree : ¬ b.Meets path id)
include h hplace hfree

/-- A path that does not meet the file leads to the same place in both stores, and elsewhere. -/
theorem resolve_eq_of_sameBut : a.resolve path = b.resolve path ∧ b.resolve path ≠ .ok place := by
  have haround : ∀ front, front <+: Path.names path → b.follow (b.start path) front ≠ .ok place :=
    fun front hfront hvisit => hfree ⟨front, place, hfront, hvisit, hplace⟩
  have hthere : (b.root.view place.reverse).isSome := Entry.isSome_view hplace
  refine ⟨?_, fun hresolve => haround _ List.prefix_rfl (follow_names_of_resolve hresolve)⟩
  cases hfault : pathFault? path with
  | some f => rw [resolve, resolve, hfault]
  | none =>
    have hfollow : a.follow (b.start path) (Path.names path) =
        b.follow (b.start path) (Path.names path) := follow_eq_of_sameBut h hthere haround
    rw [resolve_eq_follow hfault, resolve_eq_follow hfault, h.start_eq, hfollow]
    cases hq : b.follow (b.start path) (Path.names path) with
    | error f => rfl
    | ok q =>
      have hne : q ≠ place := by
        rintro rfl
        exact haround _ List.prefix_rfl hq
      dsimp only [Except.bind]
      split
      · -- to stay at a place needs a directory there
        refine follow_singleton_eq_of_sameBut h hthere hne ?_
        intro hdot
        exact hne (eq_of_follow_dot hdot).symm
      · rfl

/-- A path that stays away from the file sees the same in both stores. -/
theorem look_eq_of_sameBut : a.look path = b.look path := by
  obtain ⟨hresolve, hne⟩ := resolve_eq_of_sameBut h hplace hfree
  unfold look
  rw [hresolve]
  cases hp : b.resolve path with
  | error f => rfl
  | ok p =>
    have hp' : p ≠ place := fun heq => hne (heq ▸ hp)
    exact congrArg Except.ok (h.view_reverse hp')

theorem isDir_eq_of_sameBut : a.isDir path = b.isDir path := by
  rw [Bool.eq_iff_iff, isDir_iff_look, isDir_iff_look, look_eq_of_sameBut h hplace hfree]

theorem readText_eq_of_sameBut : a.readText path = b.readText path := by
  have hread : a.read path = b.read path := by
    have hne := look_ne_of_not_meets hfree
    rw [read_eq_look, read_eq_look, look_eq_of_sameBut h hplace hfree]
    cases hlook : b.look path with
    | error f => rfl
    | ok view =>
      rw [hlook] at hne
      rcases view with _ | (i | entries | d | name)
      · rfl
      · have hi : i ≠ id := by
          rintro rfl
          exact hne rfl
        exact congrArg (fun file : File => Except.ok file.bytes) (h.file i hi)
      · rfl
      · rfl
      · rfl
  rw [readText, readText, hread]

theorem channel?_eq_of_sameBut : a.channel? path = b.channel? path := by
  rw [channel?, channel?, (resolve_eq_of_sameBut h hplace hfree).1]

end Around

/-! ## Directories that list the file -/

theorem exists_resolve_of_isDir (h : s.isDir path = true) :
    ∃ p entries, s.resolve path = .ok p ∧ s.root.at? p.reverse = some (.dir entries) := by
  have hlook := isDir_iff_look.1 h
  unfold look at hlook
  cases hresolve : s.resolve path with
  | error f =>
    rw [hresolve] at hlook
    cases hlook
  | ok p =>
    rw [hresolve] at hlook
    obtain ⟨entries, hat⟩ := Entry.view_eq_dir_iff.1 (Except.ok.inj hlook)
    exact ⟨p, entries, rfl, hat⟩

/-- Nothing leads through a file to a directory. -/
theorem not_meets_of_isDir (h : s.isDir path = true) : ¬ s.Meets path id := by
  rintro ⟨front, place, ⟨rest, hnames⟩, hmeets, hat⟩
  obtain ⟨p, entries, hresolve, hdir⟩ := exists_resolve_of_isDir h
  have hplace : ∀ e, s.root.at? place.reverse = some e → e.isDir = false := by
    intro e he
    cases hat.symm.trans he
    rfl
  have hp : p ≠ place := by
    rintro rfl
    cases hplace _ hdir
  have hfollow := follow_names_of_resolve hresolve
  rw [← hnames, follow_append, hmeets] at hfollow
  exact ne_of_follow hplace hp hfollow rfl

theorem start_below {dir : String} (hdir : dir ≠ "") (ns : List String) :
    s.start (Path.below dir ns) = s.start dir := by
  have habsolute : Path.isAbsolute (Path.below dir ns) = Path.isAbsolute dir := by
    unfold Path.isAbsolute Path.below
    cases hchars : dir.toList with
    | nil => exact absurd (String.toList_inj.1 hchars) hdir
    | cons c cs => simp [hchars]
  rw [start, start, habsolute]

/-- The path of a file below a directory leads to the file. -/
theorem meets_below {dir : String} (hdir : dir ≠ "") (hresolve : s.resolve dir = .ok p)
    (hne : ns ≠ []) (hns : ∀ n ∈ ns, IsName n) (heq : p.reverse ++ ns = place.reverse)
    (hat : s.root.at? place.reverse = some (.file id)) : s.Meets (Path.below dir ns) id := by
  have hplace : ns.reverse ++ p = place := by
    apply List.reverse_injective
    rw [List.reverse_append, List.reverse_reverse, heq]
  refine ⟨Path.names dir ++ ns, place, ?_, ?_, hat⟩
  · exact Path.names_below hdir hne hns ▸ List.prefix_rfl
  · rw [start_below hdir, follow_append, follow_names_of_resolve hresolve, ← hplace]
    exact follow_of_at? hns (heq ▸ hat)

/-- Source files other than the one file are the same in both stores. -/
theorem holdsSource_of_sameBut {d e : Entry} {above : List String} {last : String}
    (h : SameBut place.reverse id a b) (hd : a.root.at? p.reverse = some d)
    (he : b.root.at? p.reverse = some e) (hne : p.reverse ++ (above ++ [last]) ≠ place.reverse)
    (hsource : d.HoldsSource above last) :
    e.HoldsSource above last := by
  obtain ⟨file, hat, hfile⟩ := hsource.exists_file
  have hleaf : file.isDir = false := Entry.isDir_eq_false_of_isFile hfile
  have hthere : a.root.at? (p.reverse ++ (above ++ [last])) = some file := by
    rw [Entry.at?_append, hd]
    exact hat
  have hview := h.view _ hne
  rw [(Entry.view_eq_some_iff hleaf).2 hthere, eq_comm, Entry.view_eq_some_iff hleaf,
    Entry.at?_append, he]
    at hview
  exact ⟨⟨file, hview, hfile⟩, hsource.isOpenDir, hsource.extension⟩

/-- The file is no source file below a directory, if none of the paths that are listed leads to
it. -/
theorem not_holdsSource {dir : String} {d : Entry} {above : List String} {last : String}
    (hroot : s.root.wellFormed = true) (hresolve : s.resolve dir = .ok p)
    (hat : s.root.at? p.reverse = some d) (hd : d.isDir = true)
    (hplace : s.root.at? place.reverse = some (.file id))
    (hfree : ∀ path ∈ s.collect dir, ¬ s.Meets path id)
    (heq : p.reverse ++ (above ++ [last]) = place.reverse) : ¬ d.HoldsSource above last := by
  intro hsource
  have hlookup : s.lookup dir = .ok d := lookup_eq_ok_iff.2 ⟨p, hresolve, hat⟩
  have hpath : Path.below dir (above ++ [last]) ∈ s.collect dir :=
    ((collect_listsSources hroot hlookup hd).mem_iff _).2 ⟨above, last, hsource, rfl⟩
  have hnames : ∀ n ∈ above ++ [last], IsName n := by
    intro n hn
    exact (Entry.wellFormed_of_at? hroot hplace).1 n (heq ▸ List.mem_append_right _ hn)
  exact hfree _ hpath
    (meets_below (ne_empty_of_lookup hlookup) hresolve (by simp) hnames heq hplace)

/-- The same source files are collected in the same order. -/
theorem collect_eq_of_mem_iff {dir : String} (ha : a.root.wellFormed = true)
    (hb : b.root.wellFormed = true) (h : ∀ path, path ∈ a.collect dir ↔ path ∈ b.collect dir) :
    a.collect dir = b.collect dir := by
  have hsets : (⟨a.collect dir, collect_increasing ha dir⟩ : StringSet) =
      ⟨b.collect dir, collect_increasing hb dir⟩ := StringSet.eq_of_mem_iff h
  exact congrArg StringSet.toList hsets

/-- The source files of a directory are the same in both stores, unless the file is one of them. -/
theorem collect_eq_of_sameBut {dir : String} (h : SameBut place.reverse id a b)
    (ha : a.root.wellFormed = true) (hb : b.root.wellFormed = true)
    (hplace : b.root.at? place.reverse = some (.file id)) (hdir : b.isDir dir = true)
    (hfree : ∀ path ∈ b.collect dir, ¬ b.Meets path id) : a.collect dir = b.collect dir := by
  have haround : ¬ b.Meets dir id := not_meets_of_isDir hdir
  have hadir : a.isDir dir = true := (isDir_eq_of_sameBut h hplace haround).trans hdir
  obtain ⟨p, entries, hresolve, hat⟩ := exists_resolve_of_isDir hdir
  obtain ⟨q, entries', hresolve', hat'⟩ := exists_resolve_of_isDir hadir
  have hpq : p = q := by
    rw [(resolve_eq_of_sameBut h hplace haround).1, hresolve] at hresolve'
    exact Except.ok.inj hresolve'
  subst hpq
  have hiff : ∀ above last, (Entry.dir entries').HoldsSource above last ↔
      (Entry.dir entries).HoldsSource above last := by
    intro above last
    by_cases heq : p.reverse ++ (above ++ [last]) = place.reverse
    · -- in both stores the names alone decide, and in one of them the file is not listed
      have hnone := not_holdsSource hb hresolve hat rfl hplace hfree heq
      refine ⟨fun hsource => ?_, fun hsource => absurd hsource hnone⟩
      refine ⟨⟨.file id, ?_, rfl⟩, hsource.isOpenDir, hsource.extension⟩
      rw [← heq, Entry.at?_append, hat] at hplace
      exact hplace
    · exact ⟨holdsSource_of_sameBut h hat' hat heq, holdsSource_of_sameBut h.symm hat hat' heq⟩
  refine collect_eq_of_mem_iff ha hb ?_
  intro path
  have hleft := collect_listsSources ha (lookup_eq_ok_iff.2 ⟨p, hresolve', hat'⟩) rfl
  have hright := collect_listsSources hb (lookup_eq_ok_iff.2 ⟨p, hresolve, hat⟩) rfl
  rw [hleft.mem_iff, hright.mem_iff]
  simp only [hiff]

/-- Inputs stand for the same paths in both stores, unless one of these leads to the file. -/
theorem expand_eq_of_sameBut {inputs : List String} (h : SameBut place.reverse id a b)
    (ha : a.root.wellFormed = true) (hb : b.root.wellFormed = true)
    (hplace : b.root.at? place.reverse = some (.file id))
    (hfree : ∀ path ∈ b.expand inputs, ¬ b.Meets path id) : a.expand inputs = b.expand inputs := by
  unfold expand at hfree ⊢
  refine List.flatMap_congr ?_
  intro input hinput
  have hpart : ∀ path ∈ (if b.isDir input then b.collect input else [input]), ¬ b.Meets path id :=
    fun path hpath => hfree path (List.mem_flatMap.2 ⟨input, hinput, hpath⟩)
  cases hdir : b.isDir input with
  | true =>
    rw [hdir] at hpart
    rw [isDir_eq_of_sameBut h hplace (not_meets_of_isDir hdir), hdir]
    exact collect_eq_of_sameBut h ha hb hplace hdir hpart
  | false =>
    rw [hdir] at hpart
    rw [isDir_eq_of_sameBut h hplace (hpart input (List.mem_singleton_self input)), hdir]
    rfl

end Store
end SymbolIndex
