import Mathlib.Data.List.Infix
import SymbolIndex.Proofs.Json.Scan
import SymbolIndex.Record.Message

/-!
# How deep a text is nested

A limit on nesting refuses exactly the texts in which a scan finds more arrays and objects open at
once. What counts is the text and not the document: a value that is replaced by a later one has been
open, too.

- `Json.State.step_limited_iff` : the steps that a limit refuses
- `Json.run_limited_iff`, `Json.read_limited_iff` : runs and documents
- `Request.ofText_of_nesting` : requests
-/

namespace SymbolIndex
namespace Json
namespace State

/-! ## One byte -/

theorem opened_deliver (v : Json) (frames : List Frame) :
    (deliver v frames).opened = frames.length :=
  congrArg Scan.opened (scan_deliver v frames)

/-- Only the brackets ask the limit. -/
theorem Starts.limited_iff {n : Nat} {b : UInt8} {frames : List Frame} {t : State}
    (h : frames.length ≤ n) :
    Starts (some n) frames b t ↔ Starts none frames b t ∧ t.opened ≤ n := by
  -- only the two brackets ask the limit, and it lets them open one more
  constructor
  · intro hstart
    cases hstart with
    | text => exact ⟨.text, h⟩
    | list hroom => exact ⟨.list rfl, of_decide_eq_true hroom⟩
    | object hroom => exact ⟨.object rfl, of_decide_eq_true hroom⟩
    | yes => exact ⟨.yes, h⟩
    | no => exact ⟨.no, h⟩
    | null => exact ⟨.null, h⟩
    | minus => exact ⟨.minus, h⟩
    | zero hdigit => exact ⟨.zero hdigit, h⟩
    | whole hdigit hd => exact ⟨.whole hdigit hd, h⟩
  · rintro ⟨hstart, hle⟩
    cases hstart with
    | text => exact .text
    | list hroom => exact .list (decide_eq_true hle)
    | object hroom => exact .object (decide_eq_true hle)
    | yes => exact .yes
    | no => exact .no
    | null => exact .null
    | minus => exact .minus
    | zero hdigit => exact .zero hdigit
    | whole hdigit hd => exact .whole hdigit hd

/-- Either a value starts at a byte, or the limit does not matter and nothing is opened. -/
theorem Advances.starts_or {limit : Option Nat} {b : UInt8} {s t : State}
    (h : Advances limit b s t) :
    (∃ frames : List Frame, frames.length = s.opened ∧ Starts limit frames b t ∧
      ∀ l, Starts l frames b t → Advances l b s t) ∨
    t.opened ≤ s.opened ∧ ∀ l, Advances l b s t := by
  have hend : ∀ (v : Json) (frames : List Frame), (deliver v frames).opened ≤ frames.length + 1 :=
    fun v frames => (opened_deliver v frames).trans_le (Nat.le_succ _)
  cases h with
  | value hstart => exact Or.inl ⟨_, rfl, hstart, fun _ => .value⟩
  | item hstart => exact Or.inl ⟨_, rfl, hstart, fun _ => .item⟩
  | blank hb hs => exact Or.inr ⟨Nat.le_refl _, fun _ => .blank hb hs⟩
  | noItem => exact Or.inr ⟨hend _ _, fun _ => .noItem⟩
  | nextItem => exact Or.inr ⟨Nat.le_refl _, fun _ => .nextItem⟩
  | listEnd => exact Or.inr ⟨hend _ _, fun _ => .listEnd⟩
  | key => exact Or.inr ⟨Nat.le_refl _, fun _ => .key⟩
  | noMember => exact Or.inr ⟨hend _ _, fun _ => .noMember⟩
  | keyText hstep => exact Or.inr ⟨Nat.le_refl _, fun _ => .keyText hstep⟩
  | keyEnd hstep => exact Or.inr ⟨Nat.le_refl _, fun _ => .keyEnd hstep⟩
  | colon => exact Or.inr ⟨Nat.le_refl _, fun _ => .colon⟩
  | nextMember => exact Or.inr ⟨Nat.le_refl _, fun _ => .nextMember⟩
  | objectEnd => exact Or.inr ⟨hend _ _, fun _ => .objectEnd⟩
  | noLetter => exact Or.inr ⟨(opened_deliver _ _).le, fun _ => .noLetter⟩
  | letter hrest => exact Or.inr ⟨Nat.le_refl _, fun _ => .letter hrest⟩
  | lastLetter => exact Or.inr ⟨(opened_deliver _ _).le, fun _ => .lastLetter⟩
  | text hstep => exact Or.inr ⟨Nat.le_refl _, fun _ => .text hstep⟩
  | textEnd hstep => exact Or.inr ⟨(opened_deliver _ _).le, fun _ => .textEnd hstep⟩
  | number => exact Or.inr ⟨Nat.le_refl _, fun _ => .number⟩

/-- A limit refuses the bytes after which too much would be open. -/
theorem advance_limited_iff {n : Nat} {b : UInt8} {s t : State} (h : s.opened ≤ n) :
    advance (some n) b s = .ok t ↔ advance none b s = .ok t ∧ t.opened ≤ n := by
  rw [advance_eq_ok_iff, advance_eq_ok_iff]
  constructor
  · intro hadvance
    rcases hadvance.starts_or with ⟨frames, hlength, hstart, hback⟩ | ⟨hle, hany⟩
    · obtain ⟨hstart, hle⟩ := (Starts.limited_iff (hlength.trans_le h)).1 hstart
      exact ⟨hback none hstart, hle⟩
    · exact ⟨hany none, hle.trans h⟩
  · rintro ⟨hadvance, hopened⟩
    rcases hadvance.starts_or with ⟨frames, hlength, hstart, hback⟩ | ⟨-, hany⟩
    · exact hback (some n) ((Starts.limited_iff (hlength.trans_le h)).2 ⟨hstart, hopened⟩)
    · exact hany (some n)

/-- A limit refuses exactly the steps after which too many arrays and objects are open. -/
theorem step_limited_iff {n : Nat} {b : UInt8} {s t : State} (h : s.opened ≤ n) :
    step (some n) b s = .ok t ↔ step none b s = .ok t ∧ t.opened ≤ n := by
  unfold step
  split
  · rename_i m frames
    split
    · rw [iff_self_and]
      rintro ⟨⟩
      exact h
    · simp
    · split
      · refine advance_limited_iff ?_
        rw [opened_deliver]
        exact h
      · simp
  · exact advance_limited_iff h

end State

/-! ## Runs -/

/-- A run with a limit is a run without one on bytes in which a scan finds no more than the limit
open. -/
theorem run_limited_iff {n : Nat} {s : State} {bytes : List UInt8} {v : Json} (hs : s.Proper)
    (hopened : s.opened ≤ n) :
    run (some n) s bytes = .ok v ↔
      run none s bytes = .ok v ∧ ∀ seen, seen <+: bytes →
      (seen.foldl Scan.next s.scan).opened ≤ n := by
  -- what the scan has counted is what the machine has open, after each byte that the machine
  -- accepts
  induction bytes generalizing s with
  | nil =>
    have hnothing : ∀ seen : List UInt8, seen <+: [] →
        (seen.foldl Scan.next s.scan).opened ≤ n := by
      intro seen hseen
      rw [List.prefix_nil.1 hseen]
      exact hopened
    exact ⟨fun hrun => ⟨hrun, hnothing⟩, And.left⟩
  | cons b rest ih =>
    rw [run_cons_eq_ok_iff, run_cons_eq_ok_iff]
    constructor
    · rintro ⟨t, hstep, hrun⟩
      obtain ⟨hstep, ht⟩ := (State.step_limited_iff hopened).1 hstep
      obtain ⟨hproper, hscan⟩ := State.scan_step hs hstep (not_doomed_of_run hrun)
      obtain ⟨hrun, hseen⟩ := (ih hproper ht).1 hrun
      refine ⟨⟨t, hstep, hrun⟩, ?_⟩
      intro seen hprefix
      rcases List.prefix_cons_iff.1 hprefix with rfl | ⟨later, rfl, hlater⟩
      · exact hopened
      · rw [List.foldl_cons, ← hscan]
        exact hseen later hlater
    · rintro ⟨⟨t, hstep, hrun⟩, hseen⟩
      obtain ⟨hproper, hscan⟩ := State.scan_step hs hstep (not_doomed_of_run hrun)
      have ht : t.opened ≤ n := by
        have hfirst := hseen [b] (List.prefix_append [b] rest)
        rw [List.foldl_cons, List.foldl_nil, ← hscan] at hfirst
        exact hfirst
      refine ⟨t, (State.step_limited_iff hopened).2 ⟨hstep, ht⟩, (ih hproper ht).2 ⟨hrun, ?_⟩⟩
      intro seen hprefix
      have hlonger := hseen (b :: seen) (List.cons_prefix_cons.2 ⟨rfl, hprefix⟩)
      rw [List.foldl_cons, ← hscan] at hlonger
      exact hlonger

/-- A limit refuses exactly the documents in which too many arrays and objects are open at some
point. -/
theorem read_limited_iff {n : Nat} {bytes : List UInt8} {v : Json} :
    read (some n) bytes = .ok v ↔
      read none bytes = .ok v ∧ ∀ seen, seen <+: bytes → openedAfter seen ≤ n := by
  have hread : ∀ limit, read limit bytes = .ok v ↔ run limit (.value []) bytes = .ok v := by
    intro limit
    unfold read
    cases run limit (.value []) bytes with
    | error stop => simp
    | ok w => simp
  rw [hread, hread]
  exact run_limited_iff trivial (Nat.zero_le n)

end Json

/-! ## Requests -/

namespace Request

/-- Whatever is no request is a bad one. -/
theorem badRequest_of_ofText {text : String} {f : Fault} (h : ofText text = .error f) :
    ∃ message, f = .badRequest message := by
  unfold ofText at h
  split at h
  · cases h
    exact ⟨_, rfl⟩
  · unfold ofJson at h
    split at h
    · cases h
      exact ⟨_, rfl⟩
    · cases h

/-- What a text must be to be a request. -/
theorem ofText_eq_ok_iff {text : String} {r : Request} :
    ofText text = .ok r ↔
      ∃ v, Json.read none (Utf8.encode text) = .ok v ∧ ofJson v = .ok r ∧
        ∀ seen, seen <+: Utf8.encode text → Json.openedAfter seen ≤ maxNesting := by
  have hread : ofText text = .ok r ↔
      ∃ v, Json.read (some maxNesting) (Utf8.encode text) = .ok v ∧ ofJson v = .ok r := by
    rw [ofText, Json.readText]
    cases Json.read (some maxNesting) (Utf8.encode text) with
    | error f => simp
    | ok v => simp
  rw [hread]
  constructor
  · rintro ⟨v, hv, hr⟩
    obtain ⟨hv, hseen⟩ := Json.read_limited_iff.1 hv
    exact ⟨v, hv, hr, hseen⟩
  · rintro ⟨v, hv, hr, hseen⟩
    exact ⟨v, Json.read_limited_iff.2 ⟨hv, hseen⟩, hr⟩

/-- A text holds the request that its document stands for, as long as at no point more than 127
arrays and objects are open; otherwise it is a bad request. -/
theorem ofText_of_nesting (text : String) :
    (∀ r, ofText text = .ok r →
      ∃ v, Json.read none (Utf8.encode text) = .ok v ∧ ofJson v = .ok r) ∧
    (∀ v r, Json.read none (Utf8.encode text) = .ok v → ofJson v = .ok r →
      (∀ seen, seen <+: Utf8.encode text → Json.openedAfter seen ≤ 127) → ofText text = .ok r) ∧
    ((∃ seen, seen <+: Utf8.encode text ∧ 127 < Json.openedAfter seen) →
      ∃ message, ofText text = .error (.badRequest message)) := by
  refine ⟨?_, ?_, ?_⟩
  · intro r h
    obtain ⟨v, hv, hr, -⟩ := ofText_eq_ok_iff.1 h
    exact ⟨v, hv, hr⟩
  · intro v r hv hr hseen
    exact ofText_eq_ok_iff.2 ⟨v, hv, hr, hseen⟩
  · rintro ⟨seen, hprefix, hdeep⟩
    cases h : ofText text with
    | error f =>
      obtain ⟨message, rfl⟩ := badRequest_of_ofText h
      exact ⟨message, rfl⟩
    | ok r =>
      obtain ⟨v, -, -, hseen⟩ := ofText_eq_ok_iff.1 h
      exact absurd (hseen seen hprefix) (Nat.not_le.2 hdeep)

/-- A request with a nested list that is replaced by another one. -/
def replacedList (n : Nat) : String :=
  "\x7b\"filenames\":" ++ String.ofList (List.replicate n '[') ++
    String.ofList (List.replicate n ']') ++
    ",\"filenames\":[\"[.scala\"]\x7d"

/-- With the object around it, the second nested list exceeds the limit by one. -/
theorem ofText_of_nesting_replacedList :
    ofText (replacedList 2) = .ok ⟨["[.scala"], false⟩ ∧
      (∃ v, Json.read none (Utf8.encode (replacedList 127)) = .ok v ∧
        ofJson v = .ok ⟨["[.scala"], false⟩) ∧
      ∃ message, ofText (replacedList 127) = .error (.badRequest message) := by
  have hdocument : ∀ n ∈ [2, 127], ∃ v, Json.read none (Utf8.encode (replacedList n)) = .ok v ∧
      ofJson v = .ok ⟨["[.scala"], false⟩ := by
    intro n hn
    have hread : ∀ n ∈ [2, 127], ((Json.read none (Utf8.encode (replacedList n))).toOption.bind
        fun v => (ofJson v).toOption) = some ⟨["[.scala"], false⟩ := by
      decide +kernel
    have hok : ∀ {ε α : Type} {x : Except ε α} {a : α}, x.toOption = some a → x = .ok a := by
      rintro ε α (e | a) _ ⟨⟩
      rfl
    obtain ⟨v, hv, hr⟩ := Option.bind_eq_some_iff.1 (hread n hn)
    exact ⟨v, hok hv, hok hr⟩
  refine ⟨?_, hdocument 127 (by simp), ?_⟩
  · obtain ⟨v, hv, hr⟩ := hdocument 2 (by simp)
    refine (ofText_of_nesting (replacedList 2)).2.1 v _ hv hr ?_
    intro seen hprefix
    have hinits : ∀ seen ∈ (Utf8.encode (replacedList 2)).inits, Json.openedAfter seen ≤ 127 := by
      decide +kernel
    exact hinits seen ((List.mem_inits _ _).2 hprefix)
  · refine (ofText_of_nesting (replacedList 127)).2.2
      ⟨(Utf8.encode (replacedList 127)).take 140, ?_, ?_⟩
    · exact List.take_prefix 140 _
    · decide +kernel

end Request
end SymbolIndex
