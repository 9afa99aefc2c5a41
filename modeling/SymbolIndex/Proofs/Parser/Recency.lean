import SymbolIndex.Proofs.Parser.Memo
import Mathlib.Data.List.Nodup

/-!
# The memory holds the sources that were used last

Calls go through the memory one after another, and the inner parser may answer differently each
time. What the memory holds is told from the calls alone:

- `LoggedWorld` : the world and the calls so far
- `recent` : the sources of the last calls that were answered with a tree, each once
- `latestTree?` : the tree that the inner parser has last given for a source
- `recent_cons_ok` : an answered source moves to the front
- `LoggedWorld.call_cases` : what one call can do
- `LoggedWorld.Faithful.call`, `LoggedWorld.Faithful.calls` : the memory agrees with the calls
  throughout
- `LoggedWorld.memory_of_calls` : what each call of a run does
-/

namespace SymbolIndex

/-! ## Calls -/

structure Parsing where
  source : String
  /-- Whether the inner parser was run. -/
  ran : Bool
  answer : Except ParserFault Json

namespace Parsing

/-- The source, if the call was answered with a tree. -/
def answered? (p : Parsing) : Option String :=
  match p.answer with
  | .ok _ => some p.source
  | .error _ => none

/-- The tree that the inner parser has given for a source in the call. -/
def treeOf? (source : String) (p : Parsing) : Option Json :=
  if p.ran ∧ p.source = source then p.answer.toOption else none

end Parsing

/-- The sources of the last calls that were answered with a tree, each once and the latest first; at
most `capacity` of them. -/
def recent (capacity : Nat) (log : List Parsing) : List String :=
  (log.filterMap Parsing.answered?).eraseDups.take capacity

/-- The tree that the inner parser has last given for a source. -/
def latestTree? (log : List Parsing) (source : String) : Option Json :=
  log.findSome? (Parsing.treeOf? source)

/-- The world and the calls so far, the latest first. -/
structure LoggedWorld where
  world : World
  log : List Parsing

namespace LoggedWorld

def start (w : World) : LoggedWorld :=
  ⟨w, []⟩

def call (s : LoggedWorld) (inner : Parser) (source : String) : LoggedWorld :=
  let (answer, world) := Parser.memoized inner source s.world
  ⟨world, ⟨source, !s.world.memo.holds source, answer⟩ :: s.log⟩

/-- Calls one after another, each with an inner parser of its own. -/
def calls (s : LoggedWorld) (cs : List (Parser × String)) : LoggedWorld :=
  cs.foldl (fun s c => s.call c.1 c.2) s

end LoggedWorld

/-! ## Distinct sources -/

theorem eraseDups_filter (p : String → Bool) (l : List String) :
    (l.filter p).eraseDups = l.eraseDups.filter p := by
  -- not an induction on the list: what equals the head is dropped before the rest is looked at
  match l with
  | [] => rfl
  | a :: l =>
    have hshorter : (l.filter fun b => !b == a).length < l.length + 1 :=
      Nat.lt_succ_of_le (List.length_filter_le _ l)
    have hrest : ((l.filter fun b => !b == a).filter p).eraseDups =
        (l.filter fun b => !b == a).eraseDups.filter p :=
      eraseDups_filter p _
    rw [List.eraseDups_cons]
    by_cases hp : p a
    · rw [List.filter_cons_of_pos hp, List.filter_cons_of_pos hp, List.eraseDups_cons, ← hrest,
        List.filter_filter, List.filter_filter]
      simp only [Bool.and_comm]
    · have hdropped : (l.filter fun b => !b == a).filter p = l.filter p := by
        rw [List.filter_filter]
        refine List.filter_congr fun b _ => ?_
        by_cases hb : b = a
        · simp [hb, hp]
        · simp [hb]
      rw [List.filter_cons_of_neg hp, List.filter_cons_of_neg hp, ← hrest, hdropped]
termination_by l.length

theorem eraseDups_cons_eq_filter (a : String) (l : List String) :
    (a :: l).eraseDups = a :: l.eraseDups.filter (· ≠ a) := by
  rw [List.eraseDups_cons, eraseDups_filter]
  simp only [beq_eq_decide, decide_not]

theorem nodup_eraseDups (l : List String) : l.eraseDups.Nodup := by
  induction l with
  | nil => exact List.nodup_nil
  | cons a l ih =>
    rw [eraseDups_cons_eq_filter, List.nodup_cons]
    exact ⟨by simp, ih.filter _⟩

/-- What is beyond the first `n + 1` sources does not come among the first `n` when one is taken
out. -/
theorem take_filter_take {l : List String} (hl : l.Nodup) (a : String) (n : Nat) :
    ((l.take (n + 1)).filter (· ≠ a)).take n = (l.filter (· ≠ a)).take n := by
  induction l generalizing n with
  | nil => rfl
  | cons b l ih =>
    obtain ⟨hb, hl⟩ := List.nodup_cons.1 hl
    rw [List.take_succ_cons]
    by_cases hba : b = a
    · -- the one that is taken out stands here, and nowhere else
      subst hba
      have hkept : ∀ l' : List String, l'.Sublist l → l'.filter (· ≠ b) = l' := by
        intro l' hsub
        refine List.filter_eq_self.2 fun x hx => ?_
        simpa using fun h : x = b => hb (h ▸ hsub.subset hx)
      rw [List.filter_cons_of_neg (by simp), List.filter_cons_of_neg (by simp),
        hkept _ (List.take_sublist n l), hkept l (List.Sublist.refl l), List.take_take,
        Nat.min_self]
    · rw [List.filter_cons_of_pos (by simpa using hba),
        List.filter_cons_of_pos (by simpa using hba)]
      cases n with
      | zero => rfl
      | succ n => rw [List.take_succ_cons, List.take_succ_cons, ih hl n]

/-! ## What the calls tell -/

section Log

variable (capacity : Nat) (log : List Parsing) (source : String) (ran : Bool)

/-- An answered source moves to the front, and the last one goes if there are too many. -/
theorem recent_cons_ok (tree : Json) :
    recent capacity (⟨source, ran, .ok tree⟩ :: log) =
      (source :: (recent capacity log).filter (· ≠ source)).take capacity := by
  have hanswered : (⟨source, ran, .ok tree⟩ :: log).filterMap Parsing.answered? =
      source :: log.filterMap Parsing.answered? := rfl
  rw [recent, hanswered, eraseDups_cons_eq_filter]
  cases capacity with
  | zero => rfl
  | succ n =>
    rw [List.take_succ_cons, List.take_succ_cons, recent, take_filter_take (nodup_eraseDups _)]

/-- A call that failed is not remembered. -/
theorem recent_cons_error (f : ParserFault) :
    recent capacity (⟨source, ran, .error f⟩ :: log) = recent capacity log := by
  rw [recent, List.filterMap_cons_none rfl, recent]

theorem latestTree?_cons_of_ran (tree : Json) :
    latestTree? (⟨source, true, .ok tree⟩ :: log) source = some tree := by
  simp [latestTree?, Parsing.treeOf?, Except.toOption]

/-- Only a tree that the inner parser gives for the source itself counts. -/
theorem latestTree?_cons {p : Parsing}
    (h : p.ran = false ∨ p.source ≠ source ∨ p.answer.toOption = none) :
    latestTree? (p :: log) source = latestTree? log source := by
  have hnone : p.treeOf? source = none := by
    rcases h with h | h | h <;> simp [Parsing.treeOf?, h]
  rw [latestTree?, List.findSome?_cons, hnone]
  rfl

end Log

/-! ## One call -/

namespace Memo

theorem find?_eq_none_iff {key : String} {entries : List (String × Json)} :
    Assoc.find? key entries = none ↔ key ∉ entries.map Prod.fst := by
  induction entries with
  | nil => simp [Assoc.find?]
  | cons e rest ih =>
    obtain ⟨k, v⟩ := e
    by_cases hk : k = key
    · simp [Assoc.find?, hk]
    · simp [Assoc.find?, hk, Ne.symm hk, ih]

/-- A tree that is looked up is remembered anew. -/
theorem lookup_eq_put {m : Memo} (hbounded : m.entries.length ≤ m.capacity) {key : String}
    {tree : Json} (hfind : Assoc.find? key m.entries = some tree) :
    m.lookup key = some (tree, m.put key tree) := by
  have hshorter : (without key m.entries).length < m.entries.length :=
    List.length_filter_lt_length_iff_exists.2 ⟨(key, tree), mem_of_find? hfind, by simp⟩
  -- so nothing has to go when the tree comes to the front
  have hfits : ((key, tree) :: without key m.entries).length ≤ m.capacity :=
    hshorter.trans_le hbounded
  rw [lookup, hfind, Option.map_some, put, List.take_of_length_le hfits]

/-- A tree that is put in comes first, and the last one goes if there are too many. -/
theorem keys_put (m : Memo) (key : String) (tree : Json) :
    (m.put key tree).entries.map Prod.fst =
      (key :: (m.entries.map Prod.fst).filter (· ≠ key)).take m.capacity := by
  rw [put, List.map_take, List.map_cons, without, List.filter_map]
  rfl

end Memo

namespace Parser

/-- The parser does not touch what is remembered. -/
def KeepsMemo (inner : Parser) : Prop :=
  ∀ source w, (inner source w).2.memo = w.memo

/-- Commands know nothing of what is remembered. -/
theorem keepsMemo_command (host : Host) (c : Command) : (command host c).KeepsMemo :=
  fun _ _ => rfl

/-- A tree that is remembered is given without parsing, and becomes the most recently used. -/
theorem memoized_of_find? (inner : Parser) {source : String} {w : World}
    (hbounded : w.memo.entries.length ≤ w.memo.capacity) {tree : Json}
    (hfind : Assoc.find? (sourceDigest source) w.memo.entries = some tree) :
    memoized inner source w =
      (.ok tree, { w with memo := w.memo.put (sourceDigest source) tree }) := by
  simp only [memoized, Memo.lookup_eq_put hbounded hfind]

end Parser

theorem LoggedWorld.memoized_of_call {s : LoggedWorld} {inner : Parser} {source : String}
    {w : World} {p : Parsing} {log : List Parsing} (h : s.call inner source = ⟨w, p :: log⟩) :
    Parser.memoized inner source s.world = (p.answer, w) := by
  have hcall : s.call inner source = ⟨(Parser.memoized inner source s.world).2,
      ⟨source, !s.world.memo.holds source, (Parser.memoized inner source s.world).1⟩ :: s.log⟩ :=
    rfl
  rw [hcall] at h
  cases h
  rfl

/-- A call finds a tree, or the inner parser is run. -/
theorem LoggedWorld.call_cases {s : LoggedWorld}
    (hbounded : s.world.memo.entries.length ≤ s.world.memo.capacity) {inner : Parser}
    (hinner : inner.KeepsMemo) (source : String) :
    (∃ tree, Assoc.find? (sourceDigest source) s.world.memo.entries = some tree ∧
      s.call inner source =
        ⟨{ s.world with memo := s.world.memo.keep source (.ok tree) },
          ⟨source, false, .ok tree⟩ :: s.log⟩) ∨
    (Assoc.find? (sourceDigest source) s.world.memo.entries = none ∧
      s.call inner source =
        ⟨{ (inner source s.world).2 with
          memo := s.world.memo.keep source (inner source s.world).1 },
          ⟨source, true, (inner source s.world).1⟩ :: s.log⟩) := by
  cases hfind : Assoc.find? (sourceDigest source) s.world.memo.entries with
  | some tree =>
    refine Or.inl ⟨tree, rfl, ?_⟩
    simp only [call, Parser.memoized_of_find? inner hbounded hfind, Memo.holds,
      Memo.lookup_eq_put hbounded hfind, Memo.keep, Option.isSome_some, Bool.not_true]
  | none =>
    have hlookup : s.world.memo.lookup (sourceDigest source) = none := by
      rw [Memo.lookup, hfind, Option.map_none]
    -- the answer goes into the memory that the inner parser leaves, which is the one before
    have hmemo : (inner source s.world).2.memo = s.world.memo := hinner source s.world
    refine Or.inr ⟨rfl, ?_⟩
    obtain ⟨parsed, w, houtcome⟩ : ∃ parsed w, inner source s.world = (parsed, w) := ⟨_, _, rfl⟩
    rw [houtcome] at hmemo ⊢
    simp only at hmemo
    cases parsed with
    | ok tree =>
      simp only [call, Parser.memoized, Memo.holds, hlookup, houtcome, hmemo, Memo.keep,
        Option.isSome_none, Bool.not_false]
    | error f =>
      rw [← hmemo] at hlookup
      simp only [call, Parser.memoized, Memo.holds, hlookup, houtcome, ← hmemo, Memo.keep,
        Option.isSome_none, Bool.not_false]

/-! ## Runs -/

namespace LoggedWorld

/-- The memory holds the recent sources in their order, each with the tree that was last parsed for
it. -/
structure Faithful (capacity : Nat) (used : Set String) (s : LoggedWorld) : Prop where
  capacity_eq : s.world.memo.capacity = capacity
  used_of_mem : ∀ source ∈ recent capacity s.log, source ∈ used
  keys : s.world.memo.entries.map Prod.fst = (recent capacity s.log).map sourceDigest
  trees : ∀ source ∈ used, ∀ tree, (sourceDigest source, tree) ∈ s.world.memo.entries →
    latestTree? s.log source = some tree

variable {capacity : Nat} {used : Set String} {s : LoggedWorld} {source : String}

theorem faithful_start {w : World} (hw : w.memo = .new capacity) (used : Set String) :
    (start w).Faithful capacity used where
  capacity_eq := by rw [start, hw, Memo.new]
  used_of_mem source h := by simp [start, recent] at h
  keys := by simp [start, hw, Memo.new, recent]
  trees source _ tree h := by simp [start, hw, Memo.new] at h

theorem Faithful.bounded (h : s.Faithful capacity used) :
    s.world.memo.entries.length ≤ s.world.memo.capacity := by
  have hlength := congrArg List.length h.keys
  rw [List.length_map, List.length_map] at hlength
  rw [hlength, h.capacity_eq]
  exact List.length_take_le _ _

/-- A source has no tree in the memory if and only if it is not a recent one. -/
theorem Faithful.find?_eq_none_iff (h : s.Faithful capacity used)
    (hdigest : Set.InjOn sourceDigest used) (hsource : source ∈ used) :
    Assoc.find? (sourceDigest source) s.world.memo.entries = none ↔
      source ∉ recent capacity s.log := by
  rw [Memo.find?_eq_none_iff, h.keys, not_iff_not, List.mem_map]
  constructor
  · rintro ⟨other, hother, heq⟩
    rwa [← hdigest (h.used_of_mem other hother) hsource heq]
  · exact fun hmem => ⟨source, hmem, rfl⟩

/-- Remembering a tree moves digests as its source moves among the recent ones. -/
theorem Faithful.keys_put (h : s.Faithful capacity used) (hdigest : Set.InjOn sourceDigest used)
    (hsource : source ∈ used) (ran : Bool) (tree : Json) :
    (s.world.memo.put (sourceDigest source) tree).entries.map Prod.fst =
      (recent capacity (⟨source, ran, .ok tree⟩ :: s.log)).map sourceDigest := by
  have hfilter : ((recent capacity s.log).map sourceDigest).filter (· ≠ sourceDigest source) =
      ((recent capacity s.log).filter (· ≠ source)).map sourceDigest := by
    rw [List.filter_map]
    refine congrArg (List.map sourceDigest) (List.filter_congr fun other hother => ?_)
    -- the digest tells the sources apart, since both have been used
    have hiff : sourceDigest other = sourceDigest source ↔ other = source :=
      ⟨fun heq => hdigest (h.used_of_mem other hother) hsource heq, fun heq => heq ▸ rfl⟩
    simp [hiff]
  rw [Memo.keys_put, h.keys, hfilter, h.capacity_eq, recent_cons_ok, List.map_take, List.map_cons]

/-- A remembered tree, and the trees that were there before, are those last parsed. -/
theorem Faithful.put (h : s.Faithful capacity used) (hdigest : Set.InjOn sourceDigest used)
    (hsource : source ∈ used) {ran : Bool} {tree : Json} {w : World}
    (hlatest : latestTree? (⟨source, ran, .ok tree⟩ :: s.log) source = some tree) :
    Faithful capacity used
      ⟨{ w with memo := s.world.memo.put (sourceDigest source) tree },
        ⟨source, ran, .ok tree⟩ :: s.log⟩ where
  capacity_eq := h.capacity_eq
  used_of_mem other hother := by
    rw [recent_cons_ok] at hother
    rcases List.mem_cons.1 (List.mem_of_mem_take hother) with rfl | hother
    · exact hsource
    · exact h.used_of_mem other (List.mem_filter.1 hother).1
  keys := h.keys_put hdigest hsource ran tree
  trees other hother tree' he := by
    rcases List.mem_cons.1 (List.mem_of_mem_take he) with heq | he
    · obtain ⟨hkey, rfl⟩ := Prod.mk.inj heq
      rw [hdigest hother hsource hkey]
      exact hlatest
    · obtain ⟨he, hne⟩ := List.mem_filter.1 he
      have hother_ne : source ≠ other := by
        rintro rfl
        simp at hne
      rw [latestTree?_cons s.log other (Or.inr (Or.inl hother_ne))]
      exact h.trees other hother tree' he

/-- An answer is remembered, unless it is a failure, and all trees are still those last parsed. -/
theorem Faithful.keep (h : s.Faithful capacity used) (hdigest : Set.InjOn sourceDigest used)
    (hsource : source ∈ used) {ran : Bool} {answer : Except ParserFault Json} {w : World}
    (hlatest : ∀ tree, answer = .ok tree →
      latestTree? (⟨source, ran, answer⟩ :: s.log) source = some tree) :
    Faithful capacity used
      ⟨{ w with memo := s.world.memo.keep source answer }, ⟨source, ran, answer⟩ :: s.log⟩ := by
  cases answer with
  | ok tree => exact h.put hdigest hsource (hlatest tree rfl)
  | error f =>
    refine ⟨h.capacity_eq, ?_, ?_, ?_⟩
    · rw [recent_cons_error]
      exact h.used_of_mem
    · rw [recent_cons_error]
      exact h.keys
    · intro other hother tree he
      rw [latestTree?_cons s.log other (Or.inr (Or.inr rfl))]
      exact h.trees other hother tree he

/-- One call keeps the memory faithful. -/
theorem Faithful.call (h : s.Faithful capacity used) (hdigest : Set.InjOn sourceDigest used)
    {inner : Parser} (hinner : inner.KeepsMemo) (hsource : source ∈ used) :
    (s.call inner source).Faithful capacity used := by
  rcases call_cases h.bounded hinner source with ⟨found, hfind, hcall⟩ | ⟨-, hcall⟩
  · rw [hcall]
    refine h.keep hdigest hsource ?_
    rintro tree ⟨rfl⟩
    -- the inner parser has not been run, so the latest tree is still the one that was remembered
    rw [latestTree?_cons s.log source (Or.inl rfl)]
    exact h.trees source hsource found (mem_of_find? hfind)
  · rw [hcall]
    refine h.keep hdigest hsource ?_
    intro tree hanswer
    rw [hanswer]
    exact latestTree?_cons_of_ran s.log source tree

/-- So do calls one after another. -/
theorem Faithful.calls (h : s.Faithful capacity used) (hdigest : Set.InjOn sourceDigest used)
    {cs : List (Parser × String)} (hcs : ∀ c ∈ cs, c.1.KeepsMemo ∧ c.2 ∈ used) :
    (s.calls cs).Faithful capacity used := by
  induction cs generalizing s with
  | nil => exact h
  | cons c cs ih =>
    obtain ⟨hinner, hsource⟩ := hcs c List.mem_cons_self
    exact ih (h.call hdigest hinner hsource) fun c hc => hcs c (List.mem_cons_of_mem _ hc)

/-- After any calls through a memory, and then one more: the memory holds the digests of the sources
that were answered last, in their order. The inner parser is run exactly if the source is not among
those before the call, and then the answer and all else that happens is its own. Otherwise the
answer is the tree that it has last given for the source, and nothing depends on it. A failure
leaves the memory as it was. -/
theorem memory_of_calls (capacity : Nat) (w : World) (hw : w.memo = .new capacity)
    (past : List (Parser × String)) (inner : Parser) (source : String)
    (hinner : ∀ c ∈ past ++ [(inner, source)], c.1.KeepsMemo)
    (hdigest : Set.InjOn sourceDigest {t | t ∈ (past ++ [(inner, source)]).map Prod.snd}) :
    ∃ before after ran answer, (start w).calls past = before ∧
      Parser.memoized inner source before.world = (answer, after.world) ∧
      before.call inner source = after ∧ after.log = ⟨source, ran, answer⟩ :: before.log ∧
      after.world.memo.entries.map Prod.fst = (recent capacity after.log).map sourceDigest ∧
      (ran = true ↔ source ∉ recent capacity before.log) ∧
      (ran = true → answer = (inner source before.world).1 ∧
        after.world = { (inner source before.world).2 with memo := after.world.memo }) ∧
      (ran = false → ∃ tree, latestTree? before.log source = some tree ∧
        ∀ other, Parser.memoized other source before.world = (.ok tree, after.world)) ∧
      ∀ f, answer = .error f → after.world.memo = before.world.memo := by
  have hcalls : ∀ c ∈ past, c.1.KeepsMemo ∧
      c.2 ∈ {t | t ∈ (past ++ [(inner, source)]).map Prod.snd} :=
    fun c hc =>
      ⟨hinner c (List.mem_append_left _ hc), List.mem_map_of_mem (List.mem_append_left _ hc)⟩
  have hkeeps : inner.KeepsMemo := hinner (inner, source) (by simp)
  have hsource : source ∈ {t | t ∈ (past ++ [(inner, source)]).map Prod.snd} := by simp
  have hbefore := (faithful_start hw _).calls hdigest hcalls
  have hkeys := (hbefore.call hdigest hkeeps hsource).keys
  have hiff := hbefore.find?_eq_none_iff hdigest hsource
  generalize (start w).calls past = before at hbefore hkeys hiff ⊢
  rcases call_cases hbefore.bounded hkeeps source with ⟨tree, hfind, hcall⟩ | ⟨hfind, hcall⟩
  · -- the tree is in the memory, so that no parser is asked
    have hmemoized : ∀ other, Parser.memoized other source before.world =
        (.ok tree, (before.call inner source).world) := by
      intro other
      rw [hcall, Parser.memoized_of_find? other hbefore.bounded hfind, Memo.keep]
    have hlatest := hbefore.trees source hsource tree (mem_of_find? hfind)
    rw [hfind] at hiff
    exact ⟨before, _, false, .ok tree, rfl, hmemoized inner, rfl, by rw [hcall], hkeys,
      by simp [← hiff], by simp, fun _ => ⟨tree, hlatest, hmemoized⟩, by simp⟩
  · have hmemoized : Parser.memoized inner source before.world =
        ((inner source before.world).1, (before.call inner source).world) := by
      rw [memoized_of_call hcall, hcall]
    refine ⟨before, _, true, (inner source before.world).1, rfl, hmemoized, rfl, by rw [hcall],
      hkeys, by simp [← hiff, hfind], fun _ => ⟨rfl, by rw [hcall]⟩, by simp, ?_⟩
    intro f hfails
    rw [hcall, hfails, Memo.keep]

/-- A world without files, and with room for two trees. -/
def roomForTwo : World :=
  { store := ⟨.dir [], [], []⟩, memo := .new 2 }

/-- Calls with the answers that the inner parser would give. The third one finds its tree, the
fourth fails, and the last one takes the place of the source `b`. -/
def evicting : List (Parser × String) :=
  [(Parser.pure fun _ => .ok (.str "1"), "a"), (Parser.pure fun _ => .ok (.str "2"), "b"),
    (Parser.pure fun _ => .ok (.str "3"), "a"), (Parser.failing .emptyCommand, "c"),
    (Parser.pure fun _ => .ok (.str "4"), "c")]

/-- In a memory of two trees, `a` is found after all these calls, with its first tree, although the
inner parser would fail by now. -/
theorem memory_of_calls_evicting :
    (∀ c ∈ evicting ++ [(Parser.failing .emptyCommand, "a")], c.1.KeepsMemo) ∧
    Set.InjOn sourceDigest
      {t | t ∈ (evicting ++ [(Parser.failing .emptyCommand, "a")]).map Prod.snd} ∧
    ∃ before after : LoggedWorld, (start roomForTwo).calls evicting = before ∧
      before.call (Parser.failing .emptyCommand) "a" = after ∧
      (∃ tree, tree.asString? = some "1" ∧
        Parser.memoized (Parser.failing .emptyCommand) "a" before.world = (.ok tree, after.world)) ∧
      after.world.memo.entries.map Prod.fst = ["a", "c"].map sourceDigest := by
  have hkeeps : ∀ c ∈ evicting ++ [(Parser.failing .emptyCommand, "a")], c.1.KeepsMemo := by
    simp [evicting, Parser.KeepsMemo, Parser.pure, Parser.failing]
  have hdigest : Set.InjOn sourceDigest
      {t | t ∈ (evicting ++ [(Parser.failing .emptyCommand, "a")]).map Prod.snd} := by
    have hall : ∀ s ∈ ["a", "b", "a", "c", "c", "a"], ∀ t ∈ ["a", "b", "a", "c", "c", "a"],
        sourceDigest s = sourceDigest t → s = t := by decide +kernel
    exact fun s hs t ht heq => hall s hs t ht heq
  have hlog : recent 2 ((start roomForTwo).calls evicting).log = ["c", "a"] ∧
      (latestTree? ((start roomForTwo).calls evicting).log "a").bind
        Json.asString? = some "1" := by
    decide +kernel
  obtain ⟨before, after, ran, answer, hbefore, hmemoized, hcall, hcons, hkeys, hran, -,
    hfound, -⟩ :=
    memory_of_calls 2 roomForTwo rfl evicting (Parser.failing .emptyCommand) "a" hkeeps
      hdigest
  rw [hbefore] at hlog
  obtain ⟨hrecent, hlatest⟩ := hlog
  obtain rfl : ran = false := by
    rw [hrecent] at hran
    simpa using hran
  obtain ⟨tree, htree, hanswer⟩ := hfound rfl
  rw [htree, Option.bind_some] at hlatest
  rw [hanswer, Prod.mk.injEq] at hmemoized
  rw [hcons, ← hmemoized.1, recent_cons_ok, hrecent] at hkeys
  exact ⟨hkeeps, hdigest, before, after, hbefore, hcall, ⟨tree, hlatest, hanswer _⟩, hkeys⟩

end LoggedWorld

end SymbolIndex
