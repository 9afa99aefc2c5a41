import Mathlib.Data.List.Basic
import SymbolIndex.Batch
import SymbolIndex.Proofs.Parser.Memo

/-!
# Batches of files

Each file is a matter of its own, so that it does not show who has indexed it, and when.

- `indexFile_pure`, `indexInTurn_pure` : summaries by a parser that depends on the source alone
- `indexFile_memoized`, `indexInTurn_memoized` : a memory changes no summary
- `inOrder_of_perm` : numbered files are brought back into their order
- `indexFiles_of_perm` : if files in any order get summaries of their own, so they do from any
  workers
- `indexFiles_pure`, `indexFiles_memoized` : neither the workers nor the memory change a summary
-/

namespace SymbolIndex

variable {f : String → Except ParserFault Json} {used : Set String} {store : Store}

/-! ## One file after another -/

/-- With a parser that depends on the source alone, the memory has no part in a summary, and stays
as it is. -/
theorem indexFile_pure (options : Options) (path : String) (memo memo' : Memo) :
    indexFile (Parser.pure f) options path { store, memo := memo' } =
      ((indexFile (Parser.pure f) options path { store, memo }).1, { store, memo := memo' }) := by
  unfold indexFile World.readText
  cases store.readText path with
  | error fault => rfl
  | ok source =>
    simp only [indexSource, Parser.pure]
    cases f source with
    | error fault => rfl
    | ok tree =>
      simp only
      cases index options path tree with
      | ok summary => rfl
      | error fault => rfl

/-- A parser that leaves the world alone gives each file the summary that it has by itself. -/
theorem indexInTurn_pure (options : Options) (paths : List String) (memo : Memo) :
    indexInTurn (Parser.pure f) options paths { store, memo } =
      (paths.map fun path => (indexFile (Parser.pure f) options path { store, memo }).1,
        { store, memo }) := by
  induction paths with
  | nil => rfl
  | cons path paths ih =>
    rw [indexInTurn, indexFile_pure options path memo memo]
    simp only [ih, List.map_cons]

/-- With a sound memory in between, the summary of a file is the same and the memory stays sound. -/
theorem indexFile_memoized (options : Options) (hdigest : Set.InjOn sourceDigest used)
    {path : String} (hused : ∀ source, store.readText path = .ok source → source ∈ used)
    {memo : Memo} (hmemo : memo.Sound f used) :
    ∃ memo', indexFile (Parser.memoized (Parser.pure f)) options path { store, memo } =
        ((indexFile (Parser.pure f) options path { store, memo }).1, { store, memo := memo' }) ∧
      memo'.Sound f used := by
  unfold indexFile World.readText
  cases hread : store.readText path with
  | error fault => exact ⟨memo, rfl, hmemo⟩
  | ok source =>
    have hworld : ({ store, memo } : World).memo.Sound f used := hmemo
    rcases hworld.memoized hdigest (hused source hread) with ⟨memo', hcall, hsound⟩
    refine ⟨memo', ?_, hsound⟩
    simp only [indexSource, hcall, Parser.pure]
    cases f source with
    | error fault => rfl
    | ok tree =>
      simp only
      cases index options path tree with
      | ok summary => rfl
      | error fault => rfl

/-- The memory makes no difference to the summaries of several files either. -/
theorem indexInTurn_memoized (options : Options) (hdigest : Set.InjOn sourceDigest used)
    {paths : List String}
    (hused : ∀ path ∈ paths, ∀ source, store.readText path = .ok source → source ∈ used)
    {memo : Memo} (hmemo : memo.Sound f used) :
    (indexInTurn (Parser.memoized (Parser.pure f)) options paths { store, memo }).1 =
      paths.map fun path => (indexFile (Parser.pure f) options path { store, memo }).1 := by
  induction paths generalizing memo with
  | nil => rfl
  | cons path paths ih =>
    have hpath := hused path List.mem_cons_self
    have hpaths : ∀ p ∈ paths, ∀ source, store.readText p = .ok source → source ∈ used :=
      fun p hp => hused p (List.mem_cons_of_mem path hp)
    rcases indexFile_memoized options hdigest hpath hmemo with ⟨memo', hfile, hsound⟩
    simp only [indexInTurn, hfile, ih hpaths hsound, List.map_cons]
    congr 1
    refine List.map_congr_left fun p _ => ?_
    rw [indexFile_pure options p memo memo']

/-! ## Several workers -/

/-- The workers leave no file out and take none up twice. -/
theorem Pool.perm_taken (pool : Pool) (paths : List String) :
    ((pool.order paths.zipIdx).map Prod.fst).Perm paths := by
  have hperm := (pool.order_perm paths.zipIdx).map Prod.fst
  rwa [List.zipIdx_map_fst] at hperm

/-- Whoever takes a file up, its number says where its summary belongs. -/
theorem inOrder_of_perm {α : Type} {paths : List String} {taken : List (String × Nat)}
    (hperm : taken.Perm paths.zipIdx) (g : String → α) :
    inOrder paths.length ((taken.map Prod.snd).zip ((taken.map Prod.fst).map g)) = paths.map g := by
  have hzip : (taken.map Prod.snd).zip ((taken.map Prod.fst).map g) =
      taken.map fun p => (p.2, g p.1) := by
    rw [List.map_map, List.zip_map']
    rfl
  have hgetD : ∀ i (hlt : i < paths.length), paths.getD i "" = paths[i] := by
    intro i hlt
    rw [List.getD_eq_getElem?_getD, List.getElem?_eq_getElem hlt, Option.getD_some]
  -- the one file with a number is the one at that place of the list
  have hfind : ∀ i ∈ List.range paths.length,
      ((taken.map fun p => (p.2, g p.1)).find? (·.1 == i)).map Prod.snd =
        some (g (paths.getD i "")) := by
    intro i hi
    have hlt : i < paths.length := List.mem_range.1 hi
    have hmem : (paths.getD i "", i) ∈ taken := by
      rw [hperm.mem_iff, List.mem_zipIdx_iff_getElem?, hgetD i hlt]
      exact List.getElem?_eq_getElem hlt
    cases hfound : (taken.map fun p => (p.2, g p.1)).find? (·.1 == i) with
    | none =>
      have hnone := List.find?_eq_none.1 hfound _ (List.mem_map_of_mem hmem)
      exact absurd (beq_self_eq_true i) hnone
    | some e =>
      obtain ⟨⟨path, j⟩, hpath, rfl⟩ := List.mem_map.1 (List.mem_of_find?_eq_some hfound)
      have hj : j = i := by simpa using List.find?_some hfound
      have hget : paths[j]? = some path := by
        rw [hperm.mem_iff, List.mem_zipIdx_iff_getElem?] at hpath
        exact hpath
      rw [Option.map_some, List.getD_eq_getElem?_getD, ← hj, hget, Option.getD_some]
  rw [inOrder, hzip, List.filterMap_congr hfind, List.filterMap_eq_map']
  refine List.ext_getElem (by simp) ?_
  intro i hleft hright
  have hlt : i < paths.length := by simpa using hright
  rw [List.getElem_map, List.getElem_range, hgetD i hlt, List.getElem_map]

variable {parser : Parser} {options : Options} {paths : List String} {w : World}

/-- If files have summaries of their own in whatever order they are taken up, then workers find
these summaries and put them in the order of the files. -/
theorem indexFiles_of_perm {g : String → Summary}
    (h : ∀ taken : List String, taken.Perm paths →
      (indexInTurn parser options taken w).1 = taken.map g) (pool : Pool) :
    (indexFiles parser options pool paths w).1 = paths.map g := by
  unfold indexFiles
  split
  · exact h paths (.refl paths)
  · simp only [indexPooled, h _ (pool.perm_taken paths)]
    exact inOrder_of_perm (pool.order_perm paths.zipIdx) g

/-- The world is the one that the files leave behind in the order in which they are taken up. -/
theorem exists_indexFiles_world (parser : Parser) (options : Options) (pool : Pool)
    (paths : List String) (w : World) :
    ∃ taken : List String, taken.Perm paths ∧
      (indexFiles parser options pool paths w).2 = (indexInTurn parser options taken w).2 := by
  unfold indexFiles
  split
  · exact ⟨paths, .refl paths, rfl⟩
  · exact ⟨_, pool.perm_taken paths, rfl⟩

/-- With a parser that depends on the source alone, every file gets the summary that it gets on its
own, from any number of workers and in any order. -/
theorem indexFiles_pure (options : Options) (pool : Pool) (paths : List String) (memo : Memo) :
    indexFiles (Parser.pure f) options pool paths { store, memo } =
      (paths.map fun path => (indexFile (Parser.pure f) options path { store, memo }).1,
        { store, memo }) := by
  refine Prod.ext ?_ ?_
  · exact indexFiles_of_perm (fun taken _ => by rw [indexInTurn_pure]) pool
  · obtain ⟨taken, -, hworld⟩ :=
      exists_indexFiles_world (Parser.pure f) options pool paths { store, memo }
    rw [hworld, indexInTurn_pure]

/-- A memory that the workers share changes no summary. -/
theorem indexFiles_memoized (options : Options) (pool : Pool)
    (hdigest : Set.InjOn sourceDigest used) {paths : List String}
    (hused : ∀ path ∈ paths, ∀ source, store.readText path = .ok source → source ∈ used)
    {memo : Memo} (hmemo : memo.Sound f used) :
    (indexFiles (Parser.memoized (Parser.pure f)) options pool paths { store, memo }).1 =
      paths.map fun path => (indexFile (Parser.pure f) options path { store, memo }).1 := by
  refine indexFiles_of_perm (fun taken hperm => ?_) pool
  exact indexInTurn_memoized options hdigest
    (fun path hpath => hused path (hperm.mem_iff.1 hpath)) hmemo

end SymbolIndex
