import SymbolIndex.Record.Message
import SymbolIndex.Proofs.Json.RoundTrip

/-!
# Records in written form

- `Summary.integral_toJson`, `Response.integral_toJson` : all numbers of a record are kept exactly
- `Json.readText_compact` : a document on one line holds no line feed, and can be read
-/

namespace SymbolIndex

namespace Json

theorem integral_strings (xs : List String) : (strings xs).Integral := by
  rw [strings, Integral, integralItems_iff]
  intro x hx
  rcases List.mem_map.1 hx with ⟨s, -, rfl⟩
  simp [Integral]

/-- The text of a document on one line holds no line feed, and can be read. -/
theorem readText_compact {v : Json} (hv : v.Integral) :
    '\n' ∉ v.compact.toList ∧ readText none v.compact = .ok v.arranged := by
  refine ⟨?_, readText_render hv .oneLine none fun n hn => by cases hn⟩
  rw [compact, render, String.toList_ofList]
  exact newline_not_mem_write 0 v hv List.not_mem_nil

end Json

namespace Summary

theorem integral_optionalText (key : String) (text : Option String) :
    Json.IntegralFields (optionalText key text) := by
  cases text with
  | none => simp [optionalText, Json.IntegralFields]
  | some text => simp [optionalText, Json.IntegralFields, Json.Integral]

theorem integral_texts (key : String) (xs : List String) : Json.IntegralFields (texts key xs) := by
  cases xs with
  | nil => simp [texts, Json.IntegralFields]
  | cons x xs => simp [texts, Json.IntegralFields, Json.integral_strings]

theorem integral_heritage (key : String) (t : Table (List String)) :
    Json.IntegralFields (heritage key t) := by
  unfold heritage
  split
  · simp [Json.IntegralFields]
  · rw [Json.integralFields_iff]
    intro e he
    rw [List.mem_singleton] at he
    subst he
    rw [Json.Integral, Json.integralFields_iff]
    intro e he
    rcases List.mem_map.1 he with ⟨entry, -, rfl⟩
    exact Json.integral_strings entry.2

theorem integral_toJson (s : Summary) : s.toJson.Integral := by
  simp only [toJson, written, Json.Integral, Json.integralFields_append, Json.IntegralFields,
    integral_optionalText, integral_texts, integral_heritage, List.cons_append, and_self]

end Summary

namespace Response

theorem integral_toJson {r : Response} (helapsed : r.elapsedMillis ≤ Number.maxInt) :
    r.toJson.Integral := by
  rw [toJson, Json.Integral, written, Json.integralFields_append]
  refine ⟨⟨?_, ?_, trivial⟩, Summary.integral_optionalText "error" r.error⟩
  · rw [Json.Integral, Json.integralItems_iff]
    intro x hx
    rcases List.mem_map.1 hx with ⟨s, -, rfl⟩
    exact s.integral_toJson
  · rw [Json.nat, Json.Integral]
    exact ⟨by omega, Int.ofNat_le.2 helapsed⟩

end Response
end SymbolIndex
