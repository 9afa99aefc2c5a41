import Mathlib.Data.Nat.Digits.Defs
import Mathlib.Tactic.Ring
import SymbolIndex.Proofs.Text.Blank
import SymbolIndex.Settings.Layers

/-!
# What wins among layers of settings

- `Spells` : a number in a variable, with white space around it
- `setting?_trim_eq_some_iff` : that is what is read
- `Settings.Reads`, `Settings.Malformed` : what a variable says about a number
- `Settings.applyVariables_of_reads` : all variables together
- `Settings.Layered` : where each setting comes from
- `Settings.layers_of_settings` : which variables are refused, and what wins if none is
-/

namespace SymbolIndex

/-! ## Numbers in text -/

/-- One of the ten ASCII digits. -/
def IsDecimal (c : Char) : Prop :=
  '0' ≤ c ∧ c ≤ '9'

/-- The number that decimal digits denote, the highest place first. -/
def decimalValue (digits : List Char) : Nat :=
  Nat.ofDigits 10 (digits.reverse.map fun c => c.toNat - '0'.toNat)

/-- A sign that may be left out, and one or more digits that denote a number below `2 ^ 64`. -/
def Denotes (cs : List Char) (n : Nat) : Prop :=
  ∃ sign digits : List Char, cs = sign ++ digits ∧ (sign = [] ∨ sign = ['+']) ∧ digits ≠ [] ∧
    (∀ c ∈ digits, IsDecimal c) ∧ decimalValue digits = n ∧ n < 2 ^ 64

/-- The text is such a number with white space around it. -/
def Spells (text : String) (n : Nat) : Prop :=
  ∃ left core right : List Char, text.toList = left ++ core ++ right ∧ Text.AllBlank left ∧
    Text.AllBlank right ∧ Denotes core n

/-- The first digit counts by its place. -/
theorem decimalValue_cons (c : Char) (digits : List Char) :
    decimalValue (c :: digits) = (c.toNat - 48) * 10 ^ digits.length + decimalValue digits := by
  have hlength : (digits.reverse.map fun c => c.toNat - '0'.toNat).length = digits.length := by simp
  calc
    decimalValue (c :: digits)
        = decimalValue digits +
            10 ^ (digits.reverse.map fun c => c.toNat - '0'.toNat).length * (c.toNat - 48) := by
          rw [decimalValue, List.reverse_cons, List.map_append, Nat.ofDigits_append]
          rfl
    _ = (c.toNat - 48) * 10 ^ digits.length + decimalValue digits := by
          rw [hlength]
          ring

theorem digit?_eq_some_iff {c : Char} {d : Nat} :
    Toml.digit? c = some d ↔ IsDecimal c ∧ c.toNat - 48 = d := by
  unfold Toml.digit? IsDecimal
  split
  · rename_i hc
    simp_all
  · rename_i hc
    simp_all

/-- Digits behind others: each of them makes the number ten times as large. -/
theorem foldl_digit?_eq_some_iff {digits : List Char} {m n : Nat} :
    digits.foldl (fun n c => n.bind fun n => (Toml.digit? c).map (10 * n + ·)) (some m) = some n ↔
      (∀ c ∈ digits, IsDecimal c) ∧ m * 10 ^ digits.length + decimalValue digits = n := by
  -- `m` is what the digits in front of these denote
  induction digits generalizing m with
  | nil => simp [decimalValue]
  | cons c digits ih =>
    rw [List.foldl_cons, Option.bind_some]
    cases hc : Toml.digit? c with
    | none =>
      have hstuck : ∀ digits : List Char,
          digits.foldl (fun n c => n.bind fun n => (Toml.digit? c).map (10 * n + ·)) none =
            none := by
        intro digits
        induction digits with
        | nil => rfl
        | cons _ _ ih => exact ih
      have hnot : ¬ IsDecimal c := by
        intro hdecimal
        rw [digit?_eq_some_iff.2 ⟨hdecimal, rfl⟩] at hc
        cases hc
      rw [Option.map_none, hstuck]
      constructor
      · intro h
        cases h
      · intro h
        exact absurd (h.1 c List.mem_cons_self) hnot
    | some d =>
      obtain ⟨hdecimal, rfl⟩ := digit?_eq_some_iff.1 hc
      have hvalue : (10 * m + (c.toNat - 48)) * 10 ^ digits.length + decimalValue digits =
          m * 10 ^ (c :: digits).length + decimalValue (c :: digits) := by
        rw [decimalValue_cons, List.length_cons]
        ring
      rw [Option.map_some, ih, hvalue, List.forall_mem_cons]
      exact and_congr_left fun _ => (and_iff_right hdecimal).symm

/-- Digits are read as the number that they denote. -/
theorem decimal?_eq_some_iff {digits : List Char} {n : Nat} :
    decimal? digits = some n ↔
    digits ≠ [] ∧ (∀ c ∈ digits, IsDecimal c) ∧ decimalValue digits = n := by
  unfold decimal?
  cases digits with
  | nil => simp
  | cons c digits =>
    have hempty : (c :: digits).isEmpty = false := rfl
    rw [hempty, if_neg Bool.false_ne_true, foldl_digit?_eq_some_iff, Nat.zero_mul, Nat.zero_add]
    exact (and_iff_right (List.cons_ne_nil c digits)).symm

/-- A text is read as a number if and only if it denotes it. -/
theorem setting?_eq_some_iff {text : String} {n : Nat} :
    setting? text = some n ↔ Denotes text.toList n := by
  have hbound : ∀ digits, (decimal? digits).filter (· ≤ maxSetting) = some n ↔
      digits ≠ [] ∧ (∀ c ∈ digits, IsDecimal c) ∧ decimalValue digits = n ∧ n < 2 ^ 64 := by
    intro digits
    have hlast : n ≤ maxSetting ↔ n < 2 ^ 64 := by
      unfold maxSetting
      omega
    rw [Option.filter_eq_some_iff, decimal?_eq_some_iff, decide_eq_true_eq, hlast]
    tauto
  unfold setting? Denotes
  generalize text.toList = cs
  rw [hbound]
  constructor
  · intro h
    split at h
    · rename_i cs
      exact ⟨['+'], cs, rfl, Or.inr rfl, h⟩
    · exact ⟨[], cs, rfl, Or.inl rfl, h⟩
  · rintro ⟨sign, digits, rfl, rfl | rfl, h⟩
    · split
      · -- a plus sign is no digit
        rename_i rest heq
        have hplus : digits = '+' :: rest := heq
        have hdecimal : IsDecimal '+' := h.2.1 '+' (by rw [hplus]; exact List.mem_cons_self)
        exact absurd hdecimal (by unfold IsDecimal; decide)
      · exact h
    · exact h

/-- A number has no white space in it. -/
theorem Denotes.solid {core : List Char} {n : Nat} (h : Denotes core n) :
    core ≠ [] ∧ ∀ c ∈ core, Text.isBlank c = false := by
  obtain ⟨sign, digits, rfl, hsign, hdigits, hdecimal, -, -⟩ := h
  have hnumber : ∀ m < 58, 48 ≤ m → (Text.blankRuns.any fun r => r.holds m) = false := by decide
  have hsolid : ∀ c, IsDecimal c → Text.isBlank c = false := by
    rintro c ⟨hlow, hhigh⟩
    have hlow : 48 ≤ c.toNat := hlow
    have hhigh : c.toNat ≤ 57 := hhigh
    exact hnumber c.toNat (by omega) hlow
  refine ⟨by simp [hdigits], ?_⟩
  intro c hc
  rcases List.mem_append.1 hc with hc | hc
  · rcases hsign with rfl | rfl
    · cases hc
    · rw [List.mem_singleton.1 hc]
      decide
  · exact hsolid c (hdecimal c hc)

/-- What is read is a number with white space around it. -/
theorem setting?_trim_eq_some_iff {text : String} {n : Nat} :
    setting? (Text.trim text) = some n ↔ Spells text n := by
  have htrim : (Text.trim text).toList = Text.trimChars text.toList := String.toList_ofList
  rw [setting?_eq_some_iff, htrim]
  constructor
  · intro h
    obtain ⟨left, right, hleft, hright, htext⟩ := Text.exists_trimChars text.toList
    exact ⟨left, _, right, htext, hleft, hright, h⟩
  · rintro ⟨left, core, right, htext, hleft, hright, h⟩
    rw [htext, Text.trimChars_of_padded hleft hright h.solid.1 h.solid.2]
    exact h

theorem setting?_trim_eq_none_iff {text : String} :
    setting? (Text.trim text) = none ↔ ∀ n, ¬ Spells text n := by
  rw [Option.eq_none_iff_forall_ne_some]
  exact forall_congr' fun n => not_congr setting?_trim_eq_some_iff

/-- White space around a number leaves no doubt about the number. -/
theorem Spells.unique {text : String} {m n : Nat} (hm : Spells text m) (hn : Spells text n) :
    m = n := by
  have hsame : some m = some n :=
    (setting?_trim_eq_some_iff.2 hm).symm.trans (setting?_trim_eq_some_iff.2 hn)
  exact Option.some.inj hsame

namespace Settings

variable {c s : Settings} {lookup : String → Option String} {o : Overrides}

/-! ## Variables -/

/-- A number after a variable: the one that it spells, or the one from before if it is not set. -/
def Reads (value? : Option String) (before after : Nat) : Prop :=
  match value? with
  | none => after = before
  | some value => Spells value after

/-- The variable is set to something that is no number. -/
def Malformed (value? : Option String) (value : String) : Prop :=
  value? = some value ∧ ∀ n, ¬ Spells value n

/-- The variable for the command is set to something that is not blank. -/
def GivesCommand (lookup : String → Option String) : Prop :=
  ∃ value, lookup "SCALAIDX_PARSER_COMMAND" = some value ∧ ¬ Text.AllBlank value.toList

theorem Reads.unique {value? : Option String} {before m n : Nat} (hm : Reads value? before m)
    (hn : Reads value? before n) : m = n := by
  cases value? with
  | none => exact Eq.trans hm (Eq.symm hn)
  | some value => exact Spells.unique hm hn

theorem Reads.not_malformed {value? : Option String} {before after : Nat}
    (h : Reads value? before after) (value : String) : ¬ Malformed value? value := by
  rintro ⟨rfl, hnone⟩
  exact hnone after h

theorem Malformed.unique {value? : Option String} {v w : String} (hv : Malformed value? v)
    (hw : Malformed value? w) : v = w :=
  Option.some.inj (hv.1.symm.trans hw.1)

/-- A variable gives a number or is malformed. -/
theorem exists_reads_or_malformed (value? : Option String) (before : Nat) :
    (∃ after, Reads value? before after) ∨ ∃ value, Malformed value? value := by
  cases value? with
  | none => exact Or.inl ⟨before, rfl⟩
  | some value =>
    by_cases h : ∃ n, Spells value n
    · exact Or.inl h
    · exact Or.inr ⟨value, rfl, not_exists.1 h⟩

theorem applyCommand_of_allBlank {value : String} (h : Text.AllBlank value.toList) :
    c.applyCommand value = c := by
  unfold applyCommand
  rw [Text.words_eq_nil_iff.2 h]

/-- A command that is not blank is used, word by word. -/
theorem applyCommand_of_not_allBlank {value : String} (h : ¬ Text.AllBlank value.toList) :
    c.applyCommand value =
      { c with parser := { c.parser with command := Text.words value, kind := .command } } := by
  unfold applyCommand
  split
  · rename_i hnone
    exact absurd (Text.words_eq_nil_iff.1 hnone) h
  · rfl

theorem afterCommand_of_not_givesCommand (h : ¬ GivesCommand lookup) :
    c.afterCommand lookup = c := by
  unfold afterCommand
  split
  · rename_i value hvalue
    exact applyCommand_of_allBlank (not_not.1 fun hwords => h ⟨value, hvalue, hwords⟩)
  · rfl

theorem afterCommand_of_givesCommand {value : String} (hvalue : lookup commandVariable = some value)
    (hwords : ¬ Text.AllBlank value.toList) :
    c.afterCommand lookup =
      { c with parser := { c.parser with command := Text.words value, kind := .command } } := by
  unfold afterCommand
  rw [hvalue]
  exact applyCommand_of_not_allBlank hwords

/-- The variable for the command leaves everything but the command and the kind of parser alone. -/
theorem exists_afterCommand_eq (c : Settings) (lookup : String → Option String) :
    ∃ argv kind, c.afterCommand lookup =
      { c with parser := { c.parser with command := argv, kind := kind } } := by
  by_cases h : GivesCommand lookup
  · obtain ⟨value, hvalue, hwords⟩ := h
    exact ⟨_, _, afterCommand_of_givesCommand hvalue hwords⟩
  · exact ⟨_, _, afterCommand_of_not_givesCommand h⟩

/-- A variable that spells a number sets it. -/
theorem setNumber_of_reads {s : Settings} {value? : Option String} {set : Settings → Nat → Settings}
    {refuse : String → Fault} {before after : Nat} (h : Reads value? before after)
    (hbefore : set s before = s) : s.setNumber value? set refuse = (set s after, none) := by
  cases value? with
  | none =>
    cases h
    exact congrArg (·, none) hbefore.symm
  | some value =>
    simp only [setNumber, setting?_trim_eq_some_iff.2 h]

/-- A malformed variable sets nothing. -/
theorem setNumber_of_malformed {s : Settings} {value? : Option String}
    {set : Settings → Nat → Settings} {refuse : String → Fault} {value : String}
    (h : Malformed value? value) :
    s.setNumber value? set refuse = (s, some (refuse value)) := by
  obtain ⟨rfl, hnone⟩ := h
  simp only [setNumber, setting?_trim_eq_none_iff.2 hnone]

/-- The variables, if both numbers can be read. -/
theorem applyVariables_of_reads {jobs secs : Nat} (hjobs : Reads (lookup jobsVariable) c.jobs jobs)
    (hsecs : Reads (lookup timeoutVariable) c.parser.timeoutSecs secs) :
    c.applyVariables lookup =
      ({ c with
          parser := { c.parser with
            command := (c.afterCommand lookup).parser.command
            kind := (c.afterCommand lookup).parser.kind
            timeoutSecs := secs }
          jobs := jobs }, none) := by
  -- what the command variable has done shows in neither number
  obtain ⟨argv, kind, hcommand⟩ := exists_afterCommand_eq c lookup
  rw [applyVariables, hcommand, setNumber_of_reads hjobs rfl]
  exact setNumber_of_reads hsecs rfl

theorem applyVariables_of_malformed_jobs {value : String}
    (h : Malformed (lookup jobsVariable) value) :
    (c.applyVariables lookup).2 = some (jobsFault value) := by
  rw [applyVariables, setNumber_of_malformed h]

theorem applyVariables_of_malformed_timeout {jobs : Nat} {value : String}
    (hjobs : Reads (lookup jobsVariable) c.jobs jobs)
    (h : Malformed (lookup timeoutVariable) value) :
    (c.applyVariables lookup).2 = some (timeoutFault value) := by
  obtain ⟨argv, kind, hcommand⟩ := exists_afterCommand_eq c lookup
  rw [applyVariables, hcommand, setNumber_of_reads hjobs rfl]
  exact congrArg Prod.snd (setNumber_of_malformed h)

/-- The fault of the first of the two numeric variables that is malformed. It names the variable and
quotes what it is set to. -/
def FirstMalformed (lookup : String → Option String) (f : Fault) : Prop :=
  (∃ value, Malformed (lookup "SCALAIDX_JOBS") value ∧
    f = .config ("SCALAIDX_JOBS must be a number, got " ++ Text.quoted value)) ∨
  ((∀ value, ¬ Malformed (lookup "SCALAIDX_JOBS") value) ∧
    ∃ value, Malformed (lookup "SCALAIDX_PARSER_TIMEOUT") value ∧
      f = .config
        ("SCALAIDX_PARSER_TIMEOUT must be a number of seconds, got " ++ Text.quoted value))

theorem jobsFault_eq (value : String) :
    jobsFault value = .config ("SCALAIDX_JOBS must be a number, got " ++ Text.quoted value) := by
  have htext : jobsVariable ++ " must be a number, got " =
      "SCALAIDX_JOBS must be a number, got " := by
    decide +kernel
  rw [jobsFault, htext]

theorem timeoutFault_eq (value : String) :
    timeoutFault value = .config
      ("SCALAIDX_PARSER_TIMEOUT must be a number of seconds, got " ++ Text.quoted value) := by
  have htext : timeoutVariable ++ " must be a number of seconds, got " =
      "SCALAIDX_PARSER_TIMEOUT must be a number of seconds, got " := by
    decide +kernel
  rw [timeoutFault, htext]

theorem FirstMalformed.unique {f g : Fault} (hf : FirstMalformed lookup f)
    (hg : FirstMalformed lookup g) :
    f = g := by
  rcases hf with ⟨v, hv, rfl⟩ | ⟨hnone, v, hv, rfl⟩
  · rcases hg with ⟨w, hw, rfl⟩ | ⟨hnone, -⟩
    · rw [Malformed.unique hv hw]
    · exact absurd hv (hnone v)
  · rcases hg with ⟨w, hw, -⟩ | ⟨-, w, hw, rfl⟩
    · exact absurd hw (hnone w)
    · rw [Malformed.unique hv hw]

/-- Both numbers can be read, or the first that cannot be read is what the variables end with. -/
theorem applyVariables_cases (c : Settings) (lookup : String → Option String) :
    (∃ jobs secs, Reads (lookup jobsVariable) c.jobs jobs ∧
      Reads (lookup timeoutVariable) c.parser.timeoutSecs secs) ∨
    ∃ f, FirstMalformed lookup f ∧ (c.applyVariables lookup).2 = some f := by
  rcases exists_reads_or_malformed (lookup jobsVariable) c.jobs with ⟨jobs, hjobs⟩ | ⟨value, hjobs⟩
  · rcases exists_reads_or_malformed (lookup timeoutVariable) c.parser.timeoutSecs with
      ⟨secs, hsecs⟩ | ⟨value, hsecs⟩
    · exact Or.inl ⟨jobs, secs, hjobs, hsecs⟩
    · exact Or.inr ⟨_, Or.inr ⟨hjobs.not_malformed, value, hsecs, timeoutFault_eq value⟩,
        applyVariables_of_malformed_timeout hjobs hsecs⟩
  · exact Or.inr ⟨_, Or.inl ⟨value, hjobs, jobsFault_eq value⟩,
      applyVariables_of_malformed_jobs hjobs⟩

/-- The fault is that of the first malformed variable, if there is one. -/
theorem applyVariables_fault_iff {f : Fault} :
    (c.applyVariables lookup).2 = some f ↔ FirstMalformed lookup f := by
  rcases applyVariables_cases c lookup with ⟨jobs, secs, hjobs, hsecs⟩ | ⟨g, hg, hfault⟩
  · rw [applyVariables_of_reads hjobs hsecs]
    constructor
    · intro h
      cases h
    · rintro (⟨value, h, -⟩ | ⟨-, value, h, -⟩)
      · exact absurd h (hjobs.not_malformed value)
      · exact absurd h (hsecs.not_malformed value)
  · rw [hfault]
    constructor
    · intro h
      exact Option.some.inj h ▸ hg
    · intro h
      exact congrArg some (hg.unique h)

/-! ## All layers -/

/-- Where each setting comes from, if `c` is what the file says. -/
structure Layered (c : Settings) (lookup : String → Option String) (o : Overrides) (s : Settings) :
    Prop where
  jobs_of_override : ∀ n, o.jobs = some n → s.jobs = n
  jobs_of_variable : o.jobs = none → Reads (lookup "SCALAIDX_JOBS") c.jobs s.jobs
  timeoutSecs : Reads (lookup "SCALAIDX_PARSER_TIMEOUT") c.parser.timeoutSecs s.parser.timeoutSecs
  /-- The command line may set an empty command. -/
  command_of_override : ∀ argv, o.parserCommand = some argv → s.parser.command = argv
  command_of_variable : o.parserCommand = none →
    ∀ value, lookup "SCALAIDX_PARSER_COMMAND" = some value → ¬ Text.AllBlank value.toList →
      Text.SplitInto value.toList (s.parser.command.map String.toList)
  command_of_file : o.parserCommand = none → ¬ GivesCommand lookup →
    s.parser.command = c.parser.command
  kind_of_override : ∀ kind, o.parserKind = some kind → s.parser.kind = kind
  kind_of_command : o.parserKind = none → o.parserCommand.isSome ∨ GivesCommand lookup →
    s.parser.kind = .command
  kind_of_file : o.parserKind = none → o.parserCommand = none → ¬ GivesCommand lookup →
    s.parser.kind = c.parser.kind
  memoize : s.parser.memoize = c.parser.memoize
  memoCapacity : s.parser.memoCapacity = c.parser.memoCapacity
  index : s.index = { c.index with wantParseTree := o.wantParseTree.getD c.index.wantParseTree }

/-- The variables, and then the command line. -/
theorem layered_override (h : (c.applyVariables lookup).2 = none) (o : Overrides) :
    Layered c lookup o ((c.applyVariables lookup).1.override o) := by
  rcases applyVariables_cases c lookup with ⟨jobs, secs, hjobs, hsecs⟩ | ⟨f, -, hfault⟩
  · rw [applyVariables_of_reads hjobs hsecs]
    exact {
      jobs_of_override := by
        intro n hn
        simp [override, hn]
      jobs_of_variable := by
        intro hnone
        simpa [override, hnone, jobsVariable] using hjobs
      timeoutSecs := hsecs
      command_of_override := by
        intro argv hargv
        simp [override, hargv]
      command_of_variable := by
        intro hnone value hvalue hwords
        rw [← Text.words_eq_iff]
        simp [override, hnone, afterCommand_of_givesCommand hvalue hwords]
      command_of_file := by
        intro hnone hblank
        simp [override, hnone, afterCommand_of_not_givesCommand hblank]
      kind_of_override := by
        intro kind hkind
        simp [override, hkind]
      kind_of_command := by
        rintro hkind (hsome | ⟨value, hvalue, hwords⟩)
        · simp [override, hkind, hsome]
        · simp [override, hkind, afterCommand_of_givesCommand hvalue hwords]
      kind_of_file := by
        intro hkind hnone hblank
        simp [override, hkind, hnone, afterCommand_of_not_givesCommand hblank]
      memoize := rfl
      memoCapacity := rfl
      index := rfl }
  · rw [h] at hfault
    cases hfault

/-- Nothing is left open. -/
theorem Layered.unique {t : Settings} (hs : Layered c lookup o s) (ht : Layered c lookup o t) :
    s = t := by
  have hjobs : s.jobs = t.jobs := by
    cases ho : o.jobs with
    | none => exact (hs.jobs_of_variable ho).unique (ht.jobs_of_variable ho)
    | some n => rw [hs.jobs_of_override n ho, ht.jobs_of_override n ho]
  have hcommand : s.parser.command = t.parser.command := by
    cases ho : o.parserCommand with
    | none =>
      by_cases h : GivesCommand lookup
      · obtain ⟨value, hvalue, hwords⟩ := h
        have hleft := Text.words_eq_iff.2 (hs.command_of_variable ho value hvalue hwords)
        have hright := Text.words_eq_iff.2 (ht.command_of_variable ho value hvalue hwords)
        exact hleft.symm.trans hright
      · rw [hs.command_of_file ho h, ht.command_of_file ho h]
    | some argv => rw [hs.command_of_override argv ho, ht.command_of_override argv ho]
  have hkind : s.parser.kind = t.parser.kind := by
    cases ho : o.parserKind with
    | none =>
      by_cases h : o.parserCommand.isSome ∨ GivesCommand lookup
      · rw [hs.kind_of_command ho h, ht.kind_of_command ho h]
      · obtain ⟨hnone, hblank⟩ := not_or.1 h
        have hnone : o.parserCommand = none := Option.not_isSome_iff_eq_none.1 hnone
        rw [hs.kind_of_file ho hnone hblank, ht.kind_of_file ho hnone hblank]
    | some kind => rw [hs.kind_of_override kind ho, ht.kind_of_override kind ho]
  have hindex : s.index = t.index := hs.index.trans ht.index.symm
  have hsecs : s.parser.timeoutSecs = t.parser.timeoutSecs := hs.timeoutSecs.unique ht.timeoutSecs
  have hmemoize : s.parser.memoize = t.parser.memoize := hs.memoize.trans ht.memoize.symm
  have hcapacity : s.parser.memoCapacity = t.parser.memoCapacity :=
    hs.memoCapacity.trans ht.memoCapacity.symm
  -- these are all fields
  obtain ⟨_, ⟨_, _, _, _, _⟩, _⟩ := s
  obtain ⟨_, ⟨_, _, _, _, _⟩, _⟩ := t
  cases hindex
  cases hjobs
  cases hcommand
  cases hkind
  cases hsecs
  cases hmemoize
  cases hcapacity
  rfl

/-- The variables fail with the first number that cannot be read, and with nothing else. If they do
not fail, the settings after the command line are those that come from the command line first, then
from the variables and then from the file. -/
theorem layers_of_settings (c : Settings) (lookup : String → Option String) :
    (∀ f, (c.applyVariables lookup).2 = some f ↔ FirstMalformed lookup f) ∧
    ((c.applyVariables lookup).2 = none →
      ∀ o s, s = (c.applyVariables lookup).1.override o ↔ Layered c lookup o s) := by
  refine ⟨fun f => applyVariables_fault_iff, ?_⟩
  intro hfine o s
  have hlayered := layered_override hfine o
  constructor
  · rintro rfl
    exact hlayered
  · intro hs
    exact hs.unique hlayered

/-- Two variables with white space around what they say. -/
def paddedVariables (name : String) : Option String :=
  if name = "SCALAIDX_JOBS" then some " +07\u3000"
  else if name = "SCALAIDX_PARSER_COMMAND" then some "\tparse  --fast "
  else none

/-- Two variables that are no numbers, of which the one for the jobs may be left out. -/
def malformedVariables (withJobs : Bool) (name : String) : Option String :=
  if name = "SCALAIDX_JOBS" && withJobs then some "7\n\"x"
  else if name = "SCALAIDX_PARSER_TIMEOUT" then some "18446744073709551616"
  else none

/-- White space around the values is no part of them; of two malformed numbers the first is the
fault, and it is quoted with escapes. -/
theorem layers_of_settings_paddedVariables :
    (({} : Settings).applyVariables paddedVariables).2 = none ∧
    Layered {} paddedVariables { parserKind := some .tree }
      { parser := { command := ["parse", "--fast"] }, jobs := 7 } ∧
    FirstMalformed (malformedVariables true)
      (.config "SCALAIDX_JOBS must be a number, got \"7\\n\\\"x\"") ∧
    FirstMalformed (malformedVariables false) (.config
      "SCALAIDX_PARSER_TIMEOUT must be a number of seconds, got \"18446744073709551616\"") := by
  have hfine : (({} : Settings).applyVariables paddedVariables).2 = none := by decide +kernel
  have hsettings : ({ parser := { command := ["parse", "--fast"] }, jobs := 7 } : Settings) =
      (({} : Settings).applyVariables paddedVariables).1.override { parserKind := some .tree } := by
    decide +kernel
  have hjobs : (({} : Settings).applyVariables (malformedVariables true)).2 =
      some (.config "SCALAIDX_JOBS must be a number, got \"7\\n\\\"x\"") := by
    decide +kernel
  have htimeout : (({} : Settings).applyVariables (malformedVariables false)).2 = some (.config
      "SCALAIDX_PARSER_TIMEOUT must be a number of seconds, got \"18446744073709551616\"") := by
    decide +kernel
  exact ⟨hfine, ((layers_of_settings {} paddedVariables).2 hfine _ _).1 hsettings,
    ((layers_of_settings {} (malformedVariables true)).1 _).1 hjobs,
    ((layers_of_settings {} (malformedVariables false)).1 _).1 htimeout⟩

end Settings
end SymbolIndex
