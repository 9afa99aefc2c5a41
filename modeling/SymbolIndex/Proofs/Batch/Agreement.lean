import SymbolIndex.Proofs.Batch.Workers

/-!
# Batches in two stores

- `Alike` : an action that does the same in two stores and changes neither
- `ParserSettings.Agrees` : settings that ask for a parser of which that can be said
- `Parser.exists_ofSettings` : such a parser is built in both stores or in none
- `alike_answer` : then the same is answered in both
-/

namespace SymbolIndex

variable {α β : Type} {a b : Store}

/-! ## Actions -/

/-- The action gives the same result in both stores, changes neither, and leaves the rest of the
world in the same state. -/
def Alike (a b : Store) (f : World → α × World) : Prop :=
  ∀ w : World, ∃ (x : α) (w' : World), f { w with store := a } = (x, { w' with store := a }) ∧
    f { w with store := b } = (x, { w' with store := b })

namespace Alike

theorem pure (x : α) : Alike a b fun w => (x, w) :=
  fun w => ⟨x, w, rfl, rfl⟩

/-- One action after another. -/
theorem bind {f : World → α × World} {g : α → World → β × World} (hf : Alike a b f)
    (hg : ∀ x, Alike a b (g x)) : Alike a b fun w => g (f w).1 (f w).2 := by
  intro w
  -- the second action starts in the same world twice, up to the store
  obtain ⟨x, w₁, hfa, hfb⟩ := hf w
  obtain ⟨y, w₂, hga, hgb⟩ := hg x w₁
  refine ⟨y, w₂, ?_, ?_⟩
  · dsimp only
    rw [hfa]
    exact hga
  · dsimp only
    rw [hfb]
    exact hgb

theorem map {f : World → α × World} (hf : Alike a b f) (g : α → β) :
    Alike a b fun w => (g (f w).1, (f w).2) :=
  hf.bind fun x => pure (g x)

end Alike

/-! ## Parsers -/

theorem alike_tree (source : String) : Alike a b (Parser.tree source) :=
  fun w => ⟨.ok (Parser.treeOf source), w, rfl, rfl⟩

/-- A command that does the same in both stores is a parser that does. -/
theorem alike_command {host : Host} {c : Command} {source : String}
    {result : Except ParserFault Json} (ha : c.parse host source a = (result, a))
    (hb : c.parse host source b = (result, b)) : Alike a b (Parser.command host c source) := by
  intro w
  refine ⟨result, w, ?_, ?_⟩
  · simp only [Parser.command, ha]
  · simp only [Parser.command, hb]

/-- The trees that are remembered are no part of the stores. -/
theorem alike_memoized {parser : Parser} {source : String} (h : Alike a b (parser source)) :
    Alike a b (parser.memoized source) := by
  intro w
  unfold Parser.memoized
  dsimp only
  cases w.memo.lookup (sourceDigest source) with
  | some found =>
    obtain ⟨tree, memo⟩ := found
    exact ⟨.ok tree, { w with memo }, rfl, rfl⟩
  | none =>
    obtain ⟨result, w', ha, hb⟩ := h w
    rw [ha, hb]
    cases result with
    | ok tree =>
      exact ⟨.ok tree, { w' with memo := w'.memo.put (sourceDigest source) tree }, rfl, rfl⟩
    | error f => exact ⟨.error f, w', rfl, rfl⟩

/-- The parser that settings ask for is the same in both stores. If it is a command, the command
makes the same trees in both and changes neither. -/
structure ParserSettings.Agrees (p : ParserSettings) (host : Host) (a b : Store) : Prop where
  ofArgv_eq : p.kind = .command →
    Command.ofArgv host a p.command (1000 * p.timeoutSecs) =
      Command.ofArgv host b p.command (1000 * p.timeoutSecs)
  parse_eq : p.kind = .command →
    ∀ c, Command.ofArgv host a p.command (1000 * p.timeoutSecs) = .ok c →
    ∀ source, ∃ result, c.parse host source a = (result, a) ∧ c.parse host source b = (result, b)

/-- Files that hold trees are read in the same way everywhere. -/
theorem ParserSettings.agrees_of_tree {p : ParserSettings} (h : p.kind = .tree) (host : Host)
    (a b : Store) : p.Agrees host a b := by
  constructor
  · intro hcommand
    cases h.symm.trans hcommand
  · intro hcommand
    cases h.symm.trans hcommand

/-- Settings that ask for the same parser in both stores either fail in both or give it in both. -/
theorem Parser.exists_ofSettings {p : ParserSettings} {host : Host} (h : p.Agrees host a b) :
    (∃ f, Parser.ofSettings host p a = .error f ∧ Parser.ofSettings host p b = .error f) ∨
    ∃ (parser : Parser) (w : World),
      Parser.ofSettings host p a = .ok (parser, { w with store := a }) ∧
      Parser.ofSettings host p b = .ok (parser, { w with store := b }) ∧
      ∀ source, Alike a b (parser source) := by
  unfold Parser.ofSettings
  cases hkind : p.kind with
  | tree => exact Or.inr ⟨Parser.tree, { store := a, memo := .new 0 }, rfl, rfl, alike_tree⟩
  | command =>
    have hsame := h.ofArgv_eq hkind
    have hparse := h.parse_eq hkind
    dsimp only
    rw [← hsame]
    cases hargv : Command.ofArgv host a p.command (1000 * p.timeoutSecs) with
    | error f => exact Or.inl ⟨_, rfl, rfl⟩
    | ok c =>
      have hcommand : ∀ source, Alike a b (Parser.command host c source) := by
        intro source
        obtain ⟨result, ha, hb⟩ := hparse c hargv source
        exact alike_command ha hb
      dsimp only
      split
      · cases host.refusal? p.memoCapacity with
        | some f => exact Or.inl ⟨_, rfl, rfl⟩
        | none =>
          exact Or.inr ⟨_, { store := a, memo := .new p.memoCapacity }, rfl, rfl,
            fun source => alike_memoized (hcommand source)⟩
      · exact Or.inr ⟨_, { store := a, memo := .new 0 }, rfl, rfl, hcommand⟩

/-! ## Batches -/

/-- A path with the same text in both stores is read alike, the input included. -/
theorem alike_readText {path : String} (htext : a.readText path = b.readText path)
    (hchannel : a.channel? path = b.channel? path) : Alike a b fun w => w.readText path := by
  intro w
  unfold World.readText
  dsimp only
  rw [htext, hchannel]
  split
  · exact ⟨_, { w with input := some [] }, rfl, rfl⟩
  · exact ⟨_, w, rfl, rfl⟩

theorem alike_indexSource {parser : Parser} {source : String} (h : Alike a b (parser source))
    (options : Options) (filename : String) :
    Alike a b (indexSource parser options filename source) := by
  intro w
  obtain ⟨result, w', ha, hb⟩ := h w
  unfold indexSource
  rw [ha, hb]
  cases result with
  | error f => exact ⟨_, w', rfl, rfl⟩
  | ok tree =>
    dsimp only
    cases index options filename tree with
    | ok summary => exact ⟨_, w', rfl, rfl⟩
    | error f => exact ⟨_, w', rfl, rfl⟩

/-- A file that is read and parsed alike is indexed alike. -/
theorem alike_indexFile {parser : Parser} {path : String} (h : ∀ source, Alike a b (parser source))
    (hread : Alike a b fun w => w.readText path) (options : Options) :
    Alike a b (indexFile parser options path) := by
  intro w
  obtain ⟨text, w', ha, hb⟩ := hread w
  dsimp only at ha hb
  unfold indexFile
  rw [ha, hb]
  cases text with
  | error f => exact ⟨_, w', rfl, rfl⟩
  | ok source => exact alike_indexSource (h source) options path w'

/-- So are files one after another: what one of them leaves behind is again alike. -/
theorem alike_indexInTurn {parser : Parser} {paths : List String}
    (h : ∀ source, Alike a b (parser source))
    (hread : ∀ path ∈ paths, Alike a b fun w => w.readText path) (options : Options) :
    Alike a b (indexInTurn parser options paths) := by
  induction paths with
  | nil => exact Alike.pure []
  | cons path paths ih =>
    obtain ⟨hpath, hpaths⟩ := List.forall_mem_cons.1 hread
    have hfirst := alike_indexFile h hpath options
    exact hfirst.bind fun summary => (ih hpaths).map (summary :: ·)

/-- So are files that workers share, since workers take them up in the same order in both stores. -/
theorem alike_indexFiles {parser : Parser} {paths : List String}
    (h : ∀ source, Alike a b (parser source))
    (hread : ∀ path ∈ paths, Alike a b fun w => w.readText path) (options : Options) (pool : Pool) :
    Alike a b (indexFiles parser options pool paths) := by
  unfold indexFiles
  split
  · exact alike_indexInTurn h hread options
  · -- the workers take up the same files, and their order is the same in both stores
    have htaken : ∀ path ∈ (pool.order paths.zipIdx).map Prod.fst,
        Alike a b fun w => w.readText path :=
      fun path hpath => hread path ((pool.perm_taken paths).mem_iff.1 hpath)
    exact (alike_indexInTurn h htaken options).map fun summaries =>
      inOrder paths.length (((pool.order paths.zipIdx).map Prod.snd).zip summaries)

/-- A request is answered alike if all its files are read and parsed alike. -/
theorem alike_answer {parser : Parser} {request : Request} (h : ∀ source, Alike a b (parser source))
    (hread : ∀ path ∈ request.filenames, Alike a b fun w => w.readText path) (options : Options)
    (pool : Pool) : Alike a b (answer parser options pool request) := by
  have hfiles := alike_indexFiles h hread (options.forRequest request) pool
  exact hfiles.map fun files => ({ files, elapsedMillis := 0 } : Response)

end SymbolIndex
