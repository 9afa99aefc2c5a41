import SymbolIndex.Proofs.Batch.Workers
import SymbolIndex.Proofs.Parser.Sharing

/-!
# Batches that run in parallel

Every file of a batch is one caller of the parser, with one call if the file can be read:

- `Caller.summary?` : the summary that a file gets from the answer to its caller
- `Sharing.ofBatch` : the callers of a batch
- `Sharing.Sound.summaries_eq` : all files at once, with a shared memory
- `Sharing.summaries_eq_indexFiles` : every number of workers and every schedule gives what
  `indexFiles` gives
- `batch_of_every_schedule` : neither the memory nor the schedule changes a summary
-/

namespace SymbolIndex

/-! ## All files at once -/

/-- The summary that a file gets as soon as its caller has been answered. No answer is needed for a
file that cannot be read. -/
def Caller.summary? (options : Options) (w : World) (path : String) (c : Caller) : Option Summary :=
  match w.readText path with
  | (.ok source, w) => c.answers.head?.map fun answer =>
    (indexSource (fun _ w => (answer.2, w)) options path source w).1
  | (.error fault, _) => some (.failed path (Fault.ofIo path fault).message)

/-- A caller that has been told what `f` gives has the summary that indexing the file by itself
gives. -/
theorem Caller.Faithful.summary?_eq {f : String → Except ParserFault Json} {w : World}
    {path : String} {c : Caller} (hc : c.Faithful f (w.readText path).1.toOption.toList)
    (hdone : c.IsDone) (options : Options) :
    c.summary? options w path = some (indexFile (Parser.pure f) options path w).1 := by
  unfold Caller.summary? indexFile
  rcases hread : w.readText path with ⟨result, w'⟩
  cases result with
  | error fault => rfl
  | ok source =>
    have hcalls : [source] = c.answers.map Prod.fst := by
      have hcalls := hc.calls_eq
      rw [hread, hdone.1, hdone.2] at hcalls
      simpa [Except.toOption] using hcalls
    rcases List.map_eq_singleton_iff.1 hcalls.symm with ⟨answer, hanswers, rfl⟩
    have hanswer : answer.2 = f answer.1 := hc.answered answer.1 answer.2 (by rw [hanswers]; simp)
    simp only [hanswers, List.head?_cons, Option.map_some, indexSource, Parser.pure, hanswer]

namespace Sharing

/-- The callers of a batch: one for each file, with the text of the file to parse. -/
def ofBatch (capacity : Nat) (w : World) (paths : List String) : Sharing :=
  start capacity (paths.map fun path => (w.readText path).1.toOption.toList)

def summaries (options : Options) (w : World) (paths : List String) (s : Sharing) :
    List (Option Summary) :=
  List.zipWith (Caller.summary? options w) paths s.callers

/-- A batch takes at most two steps for each of its files. -/
theorem rank_ofBatch_le (capacity : Nat) (w : World) (paths : List String) :
    (ofBatch capacity w paths).rank ≤ 2 * paths.length := by
  have hone : ∀ path, (w.readText path).1.toOption.toList.length ≤ 1 := by
    intro path
    cases (w.readText path).1.toOption with
    | none => exact Nat.zero_le 1
    | some source => exact le_rfl
  rw [ofBatch, rank_start]
  induction paths with
  | nil => exact le_rfl
  | cons path paths ih =>
    have hfirst := hone path
    simp only [List.map_cons, List.flatten_cons, List.length_append, List.length_cons] at ih ⊢
    omega

/-- Once all callers are done, every file has the summary that it gets on its own. -/
theorem Sound.summaries_eq {f : String → Except ParserFault Json} {used : Set String}
    {capacity : Nat} {w : World} {paths : List String} {s : Sharing}
    (hs : s.Sound f used capacity (paths.map fun path => (w.readText path).1.toOption.toList))
    (hdone : s.IsDone) (options : Options) :
    s.summaries options w paths =
      paths.map fun path => some (indexFile (Parser.pure f) options path w).1 := by
  have hcallers := List.forall₂_map_left_iff.1 hs.callers
  clear hs
  unfold IsDone at hdone
  unfold summaries
  generalize s.callers = callers at hcallers hdone
  induction hcallers with
  | nil => rfl
  | @cons path c paths callers hc _ ih =>
    have hrest := ih fun c' hc' => hdone c' (List.mem_cons_of_mem c hc')
    rw [List.zipWith_cons_cons, List.map_cons, hrest,
      hc.summary?_eq (hdone c List.mem_cons_self) options]

/-- Whatever the schedule, and whatever the workers that `indexFiles` has: the summaries are the
same. -/
theorem summaries_eq_indexFiles {f : String → Except ParserFault Json} {used : Set String}
    (hdigest : Set.InjOn sourceDigest used) {capacity : Nat} {store : Store} {paths : List String}
    (hused : ∀ path ∈ paths, ∀ source, store.readText path = .ok source → source ∈ used)
    {schedule : List Nat} {s : Sharing}
    (hrun : run f schedule (.ofBatch capacity { store, memo := .new capacity } paths) = some s)
    (hdone : s.IsDone) (options : Options) (pool : Pool) :
    s.summaries options { store, memo := .new capacity } paths =
      (indexFiles (Parser.memoized (Parser.pure f)) options pool paths
        { store, memo := .new capacity }).1.map some := by
  have hcalls : ∀ calls ∈ paths.map (fun path =>
      (({ store, memo := .new capacity } : World).readText path).1.toOption.toList),
      ∀ source ∈ calls, source ∈ used := by
    intro calls hcalls source hsource
    rcases List.mem_map.1 hcalls with ⟨path, hpath, rfl⟩
    refine hused path hpath source ?_
    have hread : (store.readText path).toOption = some source := by
      simpa [World.readText] using hsource
    cases hresult : store.readText path with
    | ok source' =>
      rw [hresult] at hread
      rw [Option.some.inj hread]
    | error fault =>
      rw [hresult] at hread
      cases hread
  have hsound := (sound_start f used capacity _).run hdigest hcalls hrun
  rw [indexFiles_memoized options pool hdigest hused (Memo.sound_new f used capacity), List.map_map]
  exact hsound.summaries_eq hdone options

end Sharing

/-! ## Every schedule -/

/-- Around a parser that depends on the source alone, and for sources with different digests,
callers may share a memory in any order: it stays sound, and all answers are those of the parser. A
caller that is not interrupted calls the parser with a memory. Hence a batch gives each file the
summary that it gets on its own without a memory: from workers that take the files up in any order,
and at most `jobs` files at once by any schedule. Such a schedule is at most twice as long as the
batch, and can go on until all files are done. -/
theorem batch_of_every_schedule (f : String → Except ParserFault Json) (used : Set String)
    (hdigest : Set.InjOn sourceDigest used) (capacity : Nat) :
    (∀ lists : List (List String), (∀ calls ∈ lists, ∀ source ∈ calls, source ∈ used) →
      ∀ schedule s, Sharing.run f schedule (.start capacity lists) = some s →
        s.Sound f used capacity lists) ∧
    (∀ (w : World) (source : String), ∃ schedule result memo,
      Parser.memoized (Parser.pure f) source w = (result, { w with memo }) ∧
      Sharing.run f schedule ⟨w.memo, [{ calls := [source] }]⟩ =
        some ⟨memo, [{ calls := [], answers := [(source, result)] }]⟩) ∧
    ∀ (store : Store) (options : Options) (paths : List String) (w : World),
      w = { store, memo := .new capacity } →
      (∀ path ∈ paths, ∀ source, store.readText path = .ok source → source ∈ used) →
      (∀ pool, (indexFiles (Parser.memoized (Parser.pure f)) options pool paths w).1 =
        paths.map fun path => (indexFile (Parser.pure f) options path w).1) ∧
      ∀ jobs schedule, 0 < jobs → (Sharing.ofBatch capacity w paths).Feasible f jobs schedule →
        schedule.length ≤ 2 * paths.length ∧
        ((∃ i, (Sharing.ofBatch capacity w paths).Feasible f jobs (schedule ++ [i])) ∨
          ∃ s, Sharing.run f schedule (.ofBatch capacity w paths) = some s ∧ s.IsDone ∧
            s.summaries options w paths =
              paths.map fun path => some (indexFile (Parser.pure f) options path w).1) := by
  refine ⟨?_, Sharing.run_alone f, ?_⟩
  · intro lists hused schedule s hrun
    exact (Sharing.sound_start f used capacity lists).run hdigest hused hrun
  · rintro store options paths w rfl hused
    have hfiles : ∀ pool, (indexFiles (Parser.memoized (Parser.pure f)) options pool paths
        { store, memo := .new capacity }).1 = paths.map fun path =>
          (indexFile (Parser.pure f) options path { store, memo := .new capacity }).1 :=
      fun pool => indexFiles_memoized options pool hdigest hused (Memo.sound_new f used capacity)
    refine ⟨hfiles, ?_⟩
    intro jobs schedule hjobs hfeasible
    rcases hfeasible schedule (List.prefix_refl schedule) with ⟨s, hrun, -⟩
    -- every turn lowers the rank, which starts at no more than two for each file
    have hlength := Sharing.length_add_rank_le hrun
    have hrank := Sharing.rank_ofBatch_le capacity { store, memo := .new capacity } paths
    refine ⟨by omega, ?_⟩
    by_cases hdone : s.IsDone
    · right
      refine ⟨s, hrun, hdone, ?_⟩
      rw [Sharing.summaries_eq_indexFiles hdigest hused hrun hdone options ⟨jobs, id, .refl⟩,
        hfiles, List.map_map]
      rfl
    · left
      exact Sharing.exists_feasible_concat hjobs hfeasible hrun hdone

/-- A parser that has a tree for one source only. -/
def parseOnlyA (source : String) : Except ParserFault Json :=
  if source = "a" then .ok (.obj [("type", .str "Source")]) else .error .emptyCommand

/-- Two files with the same text and one with another text, and room for one tree. -/
def worldOfThree : World :=
  { store :=
      ⟨.dir [("u", .file 0), ("v", .file 1), ("w", .file 2)],
        [(0, { bytes := [97] }), (1, { bytes := [97] }), (2, { bytes := [98] })], []⟩
    memo := .new 1 }

/-- Two callers look the same source up in vain before one of them remembers its tree. -/
theorem batch_of_every_schedule_three :
    Set.InjOn sourceDigest {"a", "b"} ∧
    (Sharing.ofBatch 1 worldOfThree ["u", "v", "w"]).Feasible parseOnlyA 2 [0, 1, 0, 1, 2, 2] ∧
    ∃ s,
      Sharing.run parseOnlyA [0, 1, 0, 1, 2, 2] (.ofBatch 1 worldOfThree ["u", "v", "w"]) = some s ∧
      s.IsDone ∧ s.summaries {} worldOfThree ["u", "v", "w"] = ["u", "v", "w"].map fun path =>
        some (indexFile (Parser.pure parseOnlyA) {} path worldOfThree).1 := by
  have hdigest : Set.InjOn sourceDigest {"a", "b"} := by
    have hne : sourceDigest "a" ≠ sourceDigest "b" := by decide +kernel
    rintro s (rfl | rfl) t (rfl | rfl) heq
    · rfl
    · exact absurd heq hne
    · exact absurd heq.symm hne
    · rfl
  have hused : ∀ path ∈ ["u", "v", "w"], ∀ source, worldOfThree.store.readText path = .ok source →
      source ∈ ({"a", "b"} : Set String) := by
    have hread : ∀ path ∈ ["u", "v", "w"], worldOfThree.store.readText path = .ok "a" ∨
        worldOfThree.store.readText path = .ok "b" := by decide +kernel
    intro path hpath source hsource
    rcases hread path hpath with ha | hb
    · rw [ha] at hsource
      cases hsource
      exact Or.inl rfl
    · rw [hb] at hsource
      cases hsource
      exact Or.inr rfl
  have hfeasible : (Sharing.ofBatch 1 worldOfThree ["u", "v", "w"]).Feasible parseOnlyA 2
      [0, 1, 0, 1, 2, 2] := by
    have hall : ∀ before ∈ [0, 1, 0, 1, 2, 2].inits, ((Sharing.run parseOnlyA before
        (.ofBatch 1 worldOfThree ["u", "v", "w"])).any fun s => s.busy ≤ 2) = true := by
      decide +kernel
    intro before hbefore
    have hwithin := hall before ((List.mem_inits _ _).2 hbefore)
    cases hrun : Sharing.run parseOnlyA before (.ofBatch 1 worldOfThree ["u", "v", "w"]) with
    | none =>
      rw [hrun] at hwithin
      cases hwithin
    | some s =>
      rw [hrun] at hwithin
      exact ⟨s, rfl, of_decide_eq_true hwithin⟩
  obtain ⟨-, -, hbatch⟩ := batch_of_every_schedule parseOnlyA {"a", "b"} hdigest 1
  have hschedule := (hbatch worldOfThree.store {} ["u", "v", "w"] worldOfThree rfl hused).2 2
  refine ⟨hdigest, hfeasible, (hschedule _ (by decide) hfeasible).2.resolve_left ?_⟩
  -- a longer schedule would be more than twice as long as the batch
  rintro ⟨i, hlonger⟩
  exact absurd (hschedule _ (by decide) hlonger).1 (by simp)

end SymbolIndex
