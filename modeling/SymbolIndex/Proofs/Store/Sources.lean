import Mathlib.Data.List.Nodup
import SymbolIndex.Proofs.Store.Tree
import SymbolIndex.Proofs.Text.Utf8
import SymbolIndex.Store.Sources

/-!
# Source files below a directory

- `Entry.HoldsSource` : a source file below a directory, and the names that lead to it
- `Entry.ListsSources` : the paths of all of them, in the order of their bytes
- `Entry.mem_sources_iff`, `Entry.nodup_sources` : the walk through a directory meets each of them
  once
- `Store.Expands` : what a path stands for
- `Store.sources_of_inputs` : directories are replaced by their source files
-/

namespace SymbolIndex

/-- Sources are looked for in a directory with this name. -/
def IsOpenDir (n : String) : Prop :=
  n.toList.head? ≠ some '.' ∧ n ∉ ["target", "node_modules", "bazel-out"]

theorem isSkippedDir_eq_false_iff {n : String} : isSkippedDir n = false ↔ IsOpenDir n := by
  unfold isSkippedDir IsOpenDir builtDirs
  simp

namespace Entry

variable {e : Entry} {entries : List (String × Entry)} {dir path last : String}
    {above : List String}

/-- Below the directory there is a source file. The names of the directories on the way are looked
at, the name of the directory itself is not. -/
structure HoldsSource (e : Entry) (above : List String) (last : String) : Prop where
  exists_file : ∃ file, e.at? (above ++ [last]) = some file ∧ file.isFile = true
  isOpenDir : ∀ n ∈ above, IsOpenDir n
  extension : ∃ stem, stem ≠ "" ∧ last = stem ++ ".scala"

/-- The paths of all source files below a directory. -/
structure ListsSources (e : Entry) (dir : String) (files : List String) : Prop where
  increasing : files.Pairwise fun a b => Utf8.encode a < Utf8.encode b
  mem_iff : ∀ path, path ∈ files ↔
    ∃ above last, e.HoldsSource above last ∧ path = Path.below dir (above ++ [last])

/-! ## The walk through a directory -/

/-- The sources of a directory are those of its entries, without directories that are passed over.
-/
theorem sources_dir (entries : List (String × Entry)) (dir : String) :
    (Entry.dir entries).sources dir = entries.flatMap fun p =>
      if p.2.isDir && isSkippedDir p.1 then [] else p.2.sources (Path.join dir p.1) := by
  rw [Entry.sources]
  induction entries with
  | nil => rfl
  | cons p rest ih =>
    rw [sourcesIn, ih, List.flatMap_cons]

theorem sources_of_not_isDir (h : e.isDir = false) (dir : String) :
    e.sources dir = if e.isFile && Path.isSource dir then [dir] else [] := by
  cases e with
  | dir entries => cases h
  | file id => rfl
  | device d => rfl
  | program name => rfl

theorem isDir_eq_false_of_isFile (h : e.isFile = true) : e.isDir = false := by
  cases e with
  | dir entries => cases h
  | file id => rfl
  | device d => cases h
  | program name => rfl

/-- The source files of a directory are those of its entries, below open directories and among the
entries themselves. -/
theorem mem_sources_dir_iff (hwf : (Entry.dir entries).wellFormed = true) :
    path ∈ (Entry.dir entries).sources dir ↔ ∃ n f, (n, f) ∈ entries ∧
      ((f.isDir = true ∧ IsOpenDir n ∧ path ∈ f.sources (Path.join dir n)) ∨
        (f.isFile = true ∧ (∃ stem, stem ≠ "" ∧ n = stem ++ ".scala") ∧
          path = Path.join dir n)) := by
  have hname : ∀ n f, (n, f) ∈ entries → IsName n :=
    fun n f h => ((wellFormed_dir_iff.1 hwf).2 n f h).1
  rw [sources_dir, List.mem_flatMap]
  constructor
  · rintro ⟨⟨n, f⟩, hmem, h⟩
    refine ⟨n, f, hmem, ?_⟩
    cases hf : f.isDir with
    | true =>
      cases hskip : isSkippedDir n with
      | true =>
        rw [hf, hskip] at h
        cases h
      | false =>
        rw [hf, hskip] at h
        exact Or.inl ⟨rfl, isSkippedDir_eq_false_iff.1 hskip, h⟩
    | false =>
      rw [hf, Bool.false_and, if_neg Bool.false_ne_true, sources_of_not_isDir hf] at h
      -- a file has no sources below it, so that it counts by its own name only
      split at h
      · rename_i hsource
        obtain ⟨hfile, hsource⟩ := Bool.and_eq_true_iff.1 hsource
        have hext := (Path.isSource_join_iff dir (hname n f hmem)).1 hsource
        exact Or.inr ⟨hfile, hext, List.mem_singleton.1 h⟩
      · cases h
  · rintro ⟨n, f, hmem, ⟨hf, hopen, h⟩ | ⟨hf, hext, rfl⟩⟩
    · refine ⟨(n, f), hmem, ?_⟩
      rw [isSkippedDir_eq_false_iff.2 hopen, Bool.and_false, if_neg Bool.false_ne_true]
      exact h
    · have hdir : f.isDir = false := isDir_eq_false_of_isFile hf
      have hsource : Path.isSource (Path.join dir n) = true :=
        (Path.isSource_join_iff dir (hname n f hmem)).2 hext
      refine ⟨(n, f), hmem, ?_⟩
      rw [hdir, Bool.false_and, if_neg Bool.false_ne_true, sources_of_not_isDir hdir, hf, hsource]
      exact List.mem_singleton_self _

theorem exists_of_mem_sources (hwf : e.wellFormed = true) (hdir : e.isDir = true)
    (h : path ∈ e.sources dir) :
    ∃ above last, e.HoldsSource above last ∧ path = (above ++ [last]).foldl Path.join dir := by
  -- every directory on the way down is walked under a path of its own
  revert dir
  induction e using Entry.induction with
  | leaf e hleaf =>
    rw [hleaf] at hdir
    cases hdir
  | dir entries ih =>
    intro dir h
    obtain ⟨hsorted, hall⟩ := wellFormed_dir_iff.1 hwf
    obtain ⟨n, f, hmem, hcase⟩ := (mem_sources_dir_iff hwf).1 h
    have hfind : Assoc.find? n entries = some f := Assoc.find?_of_mem hsorted hmem
    rcases hcase with ⟨hf, hopen, hpath⟩ | ⟨hf, hext, rfl⟩
    · obtain ⟨above, last, hsource, rfl⟩ := ih n f hmem (hall n f hmem).2 hf hpath
      obtain ⟨file, hat, hfile⟩ := hsource.exists_file
      refine ⟨n :: above, last, ⟨⟨file, ?_, hfile⟩, ?_, hsource.extension⟩, rfl⟩
      · exact Option.bind_eq_some_iff.2 ⟨f, hfind, hat⟩
      · exact List.forall_mem_cons.2 ⟨hopen, hsource.isOpenDir⟩
    · refine ⟨[], n, ⟨⟨f, ?_, hf⟩, ?_, hext⟩, rfl⟩
      · exact Option.bind_eq_some_iff.2 ⟨f, hfind, rfl⟩
      · intro m hm
        cases hm

theorem HoldsSource.mem_sources (hwf : e.wellFormed = true) (h : e.HoldsSource above last)
    (dir : String) :
    (above ++ [last]).foldl Path.join dir ∈ e.sources dir := by
  induction above generalizing e dir with
  | nil =>
    obtain ⟨file, hat, hfile⟩ := h.exists_file
    obtain ⟨entries, f, rfl, hfind, hrest⟩ := exists_of_at?_cons hat
    cases hrest
    exact (mem_sources_dir_iff hwf).2
      ⟨last, file, mem_of_find? hfind, Or.inr ⟨hfile, h.extension, rfl⟩⟩
  | cons n above ih =>
    obtain ⟨file, hat, hfile⟩ := h.exists_file
    obtain ⟨entries, f, rfl, hfind, hrest⟩ := exists_of_at?_cons hat
    obtain ⟨hopen, habove⟩ := List.forall_mem_cons.1 h.isOpenDir
    have hmem : (n, f) ∈ entries := mem_of_find? hfind
    have hdir : f.isDir = true := isDir_of_at? (by simp) hrest
    have hbelow : f.HoldsSource above last := ⟨⟨file, hrest, hfile⟩, habove, h.extension⟩
    have hpath := ih ((wellFormed_dir_iff.1 hwf).2 n f hmem).2 hbelow (Path.join dir n)
    exact (mem_sources_dir_iff hwf).2 ⟨n, f, hmem, Or.inl ⟨hdir, hopen, hpath⟩⟩

/-- The paths below a directory are those of the source files that it holds, joined name by name. -/
theorem mem_sources_iff (hwf : e.wellFormed = true) (hdir : e.isDir = true) :
    path ∈ e.sources dir ↔
      ∃ above last, e.HoldsSource above last ∧ path = (above ++ [last]).foldl Path.join dir := by
  constructor
  · exact exists_of_mem_sources hwf hdir
  · rintro ⟨above, last, h, rfl⟩
    exact h.mem_sources hwf dir

theorem names_prefix_of_mem_sources (hwf : e.wellFormed = true) (h : path ∈ e.sources dir) :
    Path.names dir <+: Path.names path := by
  cases hdir : e.isDir with
  | true =>
    obtain ⟨above, last, hsource, rfl⟩ := exists_of_mem_sources hwf hdir h
    obtain ⟨file, hat, -⟩ := hsource.exists_file
    rw [Path.names_foldl_join dir (wellFormed_of_at? hwf hat).1]
    exact List.prefix_append _ _
  | false =>
    rw [sources_of_not_isDir hdir] at h
    split at h
    · exact List.mem_singleton.1 h ▸ List.prefix_rfl
    · cases h

/-- Different names in a directory lead to different paths. -/
theorem disjoint_sources {n m : String} {f g : Entry} (hn : IsName n) (hm : IsName m) (hne : n ≠ m)
    (hf : f.wellFormed = true) (hg : g.wellFormed = true) :
    (f.sources (Path.join dir n)).Disjoint (g.sources (Path.join dir m)) := by
  intro path hpath hpath'
  have hfront := names_prefix_of_mem_sources hf hpath
  have hfront' := names_prefix_of_mem_sources hg hpath'
  rw [Path.names_join dir hn] at hfront
  rw [Path.names_join dir hm] at hfront'
  -- both begin the names of one path, and they are equally long
  have hsame : Path.names dir ++ [n] = Path.names dir ++ [m] :=
    (List.prefix_of_prefix_length_le hfront hfront' (by simp)).eq_of_length (by simp)
  exact hne (List.singleton_inj.1 (List.append_cancel_left hsame))

/-- No source file is listed twice: entries have different names. -/
theorem nodup_sources (hwf : e.wellFormed = true) (dir : String) : (e.sources dir).Nodup := by
  induction e using Entry.induction generalizing dir with
  | leaf e hleaf =>
    rw [sources_of_not_isDir hleaf]
    split
    · exact List.nodup_singleton dir
    · exact List.nodup_nil
  | dir entries ih =>
    obtain ⟨hsorted, hall⟩ := wellFormed_dir_iff.1 hwf
    rw [sources_dir, List.nodup_flatMap]
    constructor
    · rintro ⟨n, f⟩ hmem
      dsimp only
      split
      · exact List.nodup_nil
      · exact ih n f hmem (hall n f hmem).2 _
    · refine (List.pairwise_map.1 hsorted).imp_of_mem ?_
      rintro ⟨n, f⟩ ⟨m, g⟩ hn hm hlt
      obtain ⟨hname, hf⟩ := hall n f hn
      obtain ⟨hname', hg⟩ := hall m g hm
      have hne : n ≠ m := by
        rintro rfl
        exact String.lt_irrefl n hlt
      dsimp only [Function.onFun]
      split
      · exact List.disjoint_nil_left _
      · split
        · exact List.disjoint_nil_right _
        · exact disjoint_sources hname hname' hne hf hg

end Entry

/-! ## Paths of a command line -/

namespace Store

variable {s : Store} {path dir : String} {e : Entry} {files : List String}

/-- What a path stands for: a directory for its source files, anything else for itself. -/
inductive Expands (s : Store) (path : String) : List String → Prop where
  | directory {e : Entry} {files : List String} (hlookup : s.lookup path = .ok e)
      (hdir : e.isDir = true) (hfiles : e.ListsSources path files) : Expands s path files
  | other (h : ∀ e, s.lookup path = .ok e → e.isDir = false) : Expands s path [path]

theorem lookup_eq_ok_iff : s.lookup path = .ok e ↔
    ∃ place, s.resolve path = .ok place ∧ s.root.at? place.reverse = some e := by
  unfold lookup
  cases s.resolve path with
  | error f => simp
  | ok place => cases hat : s.root.at? place.reverse <;> simp [hat]

theorem ne_empty_of_lookup (h : s.lookup path = .ok e) : path ≠ "" := by
  rintro rfl
  cases h

theorem wellFormed_of_lookup (hroot : s.root.wellFormed = true) (h : s.lookup path = .ok e) :
    e.wellFormed = true := by
  obtain ⟨place, -, hat⟩ := lookup_eq_ok_iff.1 h
  exact (Entry.wellFormed_of_at? hroot hat).2

/-- Sorting makes a list without repeats strictly increasing. -/
theorem pairwise_lt_mergeSort {xs : List String} (h : xs.Nodup) :
    (xs.mergeSort fun a b => decide (a ≤ b)).Pairwise (· < ·) := by
  have hsorted : (xs.mergeSort fun a b => decide (a ≤ b)).Pairwise fun a b =>
      decide (a ≤ b) = true := by
    apply List.pairwise_mergeSort
    · intro a b c hab hbc
      exact decide_eq_true (String.le_trans (of_decide_eq_true hab) (of_decide_eq_true hbc))
    · intro a b
      simpa using String.le_total a b
  have hnodup : (xs.mergeSort fun a b => decide (a ≤ b)).Nodup :=
    (List.mergeSort_perm xs _).nodup_iff.2 h
  refine (List.pairwise_and_iff.2 ⟨hsorted, hnodup⟩).imp ?_
  rintro a b ⟨hle, hne⟩
  exact lt_of_not_lt_of_ne (of_decide_eq_true hle) (Ne.symm hne)

/-- Paths are sorted, without repetition. -/
theorem collect_increasing (hroot : s.root.wellFormed = true) (dir : String) :
    (s.collect dir).Pairwise (· < ·) := by
  unfold collect
  cases hlookup : s.lookup dir with
  | error f => exact List.Pairwise.nil
  | ok e =>
    exact pairwise_lt_mergeSort (Entry.nodup_sources (wellFormed_of_lookup hroot hlookup) dir)

/-- All source files below a directory are collected, and nothing else. -/
theorem collect_listsSources (hroot : s.root.wellFormed = true) (hlookup : s.lookup dir = .ok e)
    (hdir : e.isDir = true) : e.ListsSources dir (s.collect dir) := by
  have hwf : e.wellFormed = true := wellFormed_of_lookup hroot hlookup
  have hcollect : s.collect dir = (e.sources dir).mergeSort fun a b => decide (a ≤ b) := by
    rw [collect, hlookup]
  constructor
  · exact (collect_increasing hroot dir).imp Utf8.encode_lt
  · intro path
    rw [hcollect, (List.mergeSort_perm _ _).mem_iff, Entry.mem_sources_iff hwf hdir]
    refine exists_congr fun above => exists_congr fun last => and_congr_right fun hsource => ?_
    obtain ⟨file, hat, -⟩ := hsource.exists_file
    rw [Path.foldl_join_eq_below (ne_empty_of_lookup hlookup) (by simp)
      (Entry.wellFormed_of_at? hwf hat).1]

/-- What a path stands for is what it is replaced by. -/
theorem expands (hroot : s.root.wellFormed = true) (path : String) :
    s.Expands path (if s.isDir path then s.collect path else [path]) := by
  cases hlookup : s.lookup path with
  | error f =>
    have hdir : s.isDir path = false := by rw [isDir, hlookup]
    rw [hdir]
    refine .other ?_
    intro e he
    rw [hlookup] at he
    cases he
  | ok e =>
    have hdir : s.isDir path = e.isDir := by rw [isDir, hlookup]
    rw [hdir]
    cases hcase : e.isDir with
    | true => exact .directory hlookup hcase (collect_listsSources hroot hlookup hcase)
    | false =>
      refine .other ?_
      intro d hd
      cases hlookup.symm.trans hd
      exact hcase

/-- The source files below a directory are collected completely, each once and in the order of the
bytes of their paths. Paths of a command line are replaced one after another, and those that lead to
no directory stay as they are. -/
theorem sources_of_inputs (s : Store) (hroot : s.root.wellFormed = true) :
    (∀ dir e, s.lookup dir = .ok e → e.isDir = true → e.ListsSources dir (s.collect dir)) ∧
    ∀ inputs, ∃ parts, List.Forall₂ s.Expands inputs parts ∧ s.expand inputs = parts.flatten := by
  refine ⟨fun dir e hlookup hdir => collect_listsSources hroot hlookup hdir, ?_⟩
  intro inputs
  refine ⟨inputs.map fun path => if s.isDir path then s.collect path else [path], ?_, ?_⟩
  · rw [List.forall₂_map_right_iff, List.forall₂_same]
    exact fun path _ => expands hroot path
  · rw [expand, List.flatMap_def]

/-- A directory with hidden and built directories, and with names that begin with other names. -/
def mixedStore : Store :=
  ["src/a/B.scala", "src/a.b/A.scala", "src/.git/Hidden.scala", "src/a/target/Built.scala",
    "src/.scala", "src/..scala", "src/target.scala"].foldl
    (fun s path => s.addFile path [] false) ⟨.dir [], [], []⟩

theorem sources_of_inputs_mixedStore :
    mixedStore.root.wellFormed = true ∧
    (∃ e, mixedStore.lookup "src" = .ok e ∧ e.isDir = true ∧
      e.ListsSources "src" (mixedStore.collect "src")) ∧
    ∃ parts, List.Forall₂ mixedStore.Expands ["src", "missing", "src/a/target"] parts ∧
      mixedStore.expand ["src", "missing", "src/a/target"] = parts.flatten := by
  have hroot : mixedStore.root.wellFormed = true := by decide +kernel
  obtain ⟨e, hlookup, hdir⟩ : ∃ e, mixedStore.lookup "src" = .ok e ∧ e.isDir = true :=
    ⟨_, rfl, by decide +kernel⟩
  obtain ⟨hcollect, hexpand⟩ := sources_of_inputs mixedStore hroot
  exact ⟨hroot, ⟨e, hlookup, hdir, hcollect "src" e hlookup hdir⟩, hexpand _⟩

end Store
end SymbolIndex
