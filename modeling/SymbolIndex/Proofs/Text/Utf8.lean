import SymbolIndex.Text.Utf8
import Mathlib.Data.List.Basic

/-!
# Bytes of a text

- `Utf8.bytes`, `Utf8.encode_eq` : the bytes of a text are those of its characters, one after
  another
- `Utf8.decode?_bytes` : bytes of characters are well-formed
- `Utf8.encodeChar_append_lt` : the bytes of a smaller character come first, whatever follows
- `Utf8.encode_lt` : texts are ordered as their bytes are
-/

namespace SymbolIndex
namespace Utf8

def bytes (cs : List Char) : List UInt8 :=
  cs.flatMap String.utf8EncodeChar

theorem bytes_cons (c : Char) (cs : List Char) :
    bytes (c :: cs) = String.utf8EncodeChar c ++ bytes cs :=
  rfl

theorem bytes_append (cs ds : List Char) : bytes (cs ++ ds) = bytes cs ++ bytes ds :=
  List.flatMap_append

theorem encode_eq (s : String) : encode s = bytes s.toList := by
  rw [encode, String.toUTF8_eq_toByteArray, ← String.utf8Encode_toList, List.utf8Encode,
    List.data_toByteArray]
  rfl

theorem decode?_bytes (cs : List Char) : decode? (bytes cs) = some (String.ofList cs) := by
  have hbytes : (⟨(bytes cs).toArray⟩ : ByteArray) = cs.utf8Encode := by
    rw [List.utf8Encode, bytes]
    exact ByteArray.ext (by simp)
  have hvalid : cs.utf8Encode.IsValidUTF8 := ByteArray.isValidUTF8_utf8Encode
  rw [decode?, hbytes, String.fromUTF8?, dif_pos hvalid]
  rfl

/-- A text is read back from its bytes. -/
theorem decode?_encode (s : String) : decode? (encode s) = some s := by
  rw [encode_eq, decode?_bytes, String.ofList_toList]

theorem encodeChar_of_lt {c : Char} (h : c.toNat < 128) :
    String.utf8EncodeChar c = [UInt8.ofNat c.toNat] := by
  have hval : c.val.toNat ≤ 127 := Nat.le_of_lt_succ h
  unfold String.utf8EncodeChar
  exact if_pos hval

/-- All bytes of a longer sequence are at least 128. -/
theorem le_of_mem_encodeChar {c : Char} (h : 128 ≤ c.toNat) {b : UInt8}
    (hb : b ∈ String.utf8EncodeChar c) : 128 ≤ b.toNat := by
  have hval : 128 ≤ c.val.toNat := h
  unfold String.utf8EncodeChar at hb
  generalize c.val.toNat = n at hb hval
  have hshort : ¬ n ≤ 127 := by omega
  simp only [hshort, if_false] at hb
  split_ifs at hb <;> simp only [List.mem_cons, List.not_mem_nil, or_false] at hb
  · rcases hb with rfl | rfl <;> rw [UInt8.toNat_ofNat'] <;> omega
  · rcases hb with rfl | rfl | rfl <;> rw [UInt8.toNat_ofNat'] <;> omega
  · rcases hb with rfl | rfl | rfl | rfl <;> rw [UInt8.toNat_ofNat'] <;> omega

/-! ## Order -/

/-- The first of the digits to base 64 that differs decides. -/
theorem lt_cases_of_lt {m n : Nat} (h : m < n) :
    m / 262144 < n / 262144 ∨ m / 262144 = n / 262144 ∧
      (m / 4096 % 64 < n / 4096 % 64 ∨ m / 4096 % 64 = n / 4096 % 64 ∧
        (m / 64 % 64 < n / 64 % 64 ∨ m / 64 % 64 = n / 64 % 64 ∧ m % 64 < n % 64)) := by
  have hdigit : ∀ {m n : Nat}, m < n → m / 64 < n / 64 ∨ m / 64 = n / 64 ∧ m % 64 < n % 64 := by
    intro m n h
    omega
  have hnested : ∀ k, k / 4096 = k / 64 / 64 ∧ k / 262144 = k / 64 / 64 / 64 := by
    intro k
    rw [Nat.div_div_eq_div_mul, Nat.div_div_eq_div_mul]
    exact ⟨rfl, rfl⟩
  rw [(hnested m).1, (hnested m).2, (hnested n).1, (hnested n).2]
  rcases hdigit h with h | ⟨heq, h⟩
  · rcases hdigit h with h | ⟨heq, h⟩
    · rcases hdigit h with h | ⟨heq, h⟩
      · exact Or.inl h
      · exact Or.inr ⟨heq, Or.inl h⟩
    · rw [heq]
      exact Or.inr ⟨rfl, Or.inr ⟨rfl, Or.inl h⟩⟩
  · rw [heq]
    exact Or.inr ⟨rfl, Or.inr ⟨rfl, Or.inr ⟨rfl, h⟩⟩⟩

/-- The bytes of a smaller character come first, whatever follows. -/
theorem encodeChar_append_lt {c d : Char} (h : c < d) (xs ys : List UInt8) :
    String.utf8EncodeChar c ++ xs < String.utf8EncodeChar d ++ ys := by
  have hlt : c.val.toNat < d.val.toNat := h
  have hd : d.val.toNat < 1114112 := by
    rcases d.valid with hlow | hhigh
    · omega
    · omega
  have hfirst := lt_cases_of_lt hlt
  unfold String.utf8EncodeChar
  generalize c.val.toNat = m at hlt hfirst
  generalize d.val.toNat = n at hlt hd hfirst
  have hnext : ∀ k, (k % 64 + 128) % 2 ^ 8 = k % 64 + 128 := by omega
  have hm : (m / 262144 % 8 + 240) % 2 ^ 8 = m / 262144 + 240 := by omega
  have hn : (n / 262144 % 8 + 240) % 2 ^ 8 = n / 262144 + 240 := by omega
  -- a lead byte grows with the length of its sequence, so only equal lengths need the digits
  simp only
  split_ifs <;> simp only [List.cons_append, List.nil_append, List.cons_lt_cons_iff,
    UInt8.lt_iff_toNat_lt, ← UInt8.toNat_inj, UInt8.toNat_ofNat', hnext, hm, hn] <;> omega

/-- Texts are in the order of their bytes. -/
theorem encode_lt {s t : String} (h : s < t) : encode s < encode t := by
  rw [encode_eq, encode_eq, bytes, bytes]
  have hlist : s.toList < t.toList := String.lt_iff.1 h
  generalize s.toList = cs at hlist
  generalize t.toList = ds at hlist
  induction hlist with
  | nil =>
    rename_i d ds
    rw [List.flatMap_nil, List.flatMap_cons]
    cases hbytes : String.utf8EncodeChar d with
    | nil => exact absurd hbytes String.utf8EncodeChar_ne_nil
    | cons b bytes => exact List.Lex.nil
  | rel hlt =>
    rw [List.flatMap_cons, List.flatMap_cons]
    exact encodeChar_append_lt hlt _ _
  | @cons c cs ds _ ih =>
    rw [List.flatMap_cons, List.flatMap_cons]
    exact List.append_left_lt ih

end Utf8
end SymbolIndex
