import Mathlib.Data.List.Lex
import Mathlib.Data.String.Basic
import Mathlib.Order.Defs.LinearOrder
import Mathlib.Tactic.SplitIfs

/-!
# The order of identifiers

Identifiers are compared character by character.  UTF-8 is made so that this is
the order of the bytes as well: the first byte of a character grows with the
number of its bytes, and among characters of one length the bytes are the
digits of the character's number, the greatest one first.

`append_encode_lt` is the comparison at the first character that differs, and
`lt_iff_bytes_lt` is the result for whole texts.
-/

namespace RelayMesh

namespace Text

/-- The bytes of a text in UTF-8. -/
def bytes (text : String) : List UInt8 :=
  text.toUTF8.data.toList

theorem bytes_eq_flatMap (text : String) :
    bytes text = text.toList.flatMap String.utf8EncodeChar := by
  rw [bytes, String.toUTF8_eq_toByteArray, ← String.utf8Encode_toList]
  exact List.toList_data_toByteArray

/-! ## Single characters -/

theorem ofNat_lt_ofNat {a b : Nat} (ha : a < 256) (hb : b < 256) :
    UInt8.ofNat a < UInt8.ofNat b ↔ a < b := by
  rw [UInt8.lt_iff_toNat_lt, UInt8.toNat_ofNat_of_lt' ha, UInt8.toNat_ofNat_of_lt' hb]

theorem ofNat_inj {a b : Nat} (ha : a < 256) (hb : b < 256) :
    UInt8.ofNat a = UInt8.ofNat b ↔ a = b := by
  rw [← UInt8.toNat_inj, UInt8.toNat_ofNat_of_lt' ha, UInt8.toNat_ofNat_of_lt' hb]

/-- If a number without its last digits is smaller, then the number without one digit more is, or
that digit. -/
theorem digit_lt {m n k : Nat} (h : m / k < n / k) :
    m / (k * 64) < n / (k * 64) ∨
      m / (k * 64) = n / (k * 64) ∧ m / k % 64 < n / k % 64 := by
  rw [← Nat.div_div_eq_div_mul, ← Nat.div_div_eq_div_mul]
  omega

/-- The bytes of a smaller character come first, whatever follows them. -/
theorem append_encode_lt {c d : Char} (h : c < d) (rest rest' : List UInt8) :
    String.utf8EncodeChar c ++ rest < String.utf8EncodeChar d ++ rest' := by
  have hlt : c.val.toNat < d.val.toNat := h
  have hmax : d.val.toNat < 1114112 := by
    rcases d.valid with hlow | ⟨-, hhigh⟩
    · exact Nat.lt_trans hlow (by decide)
    · exact hhigh
  rw [String.utf8EncodeChar, String.utf8EncodeChar]
  generalize c.val.toNat = m at *
  generalize d.val.toNat = n at *
  have hlow : m / 64 < n / 64 ∨ m / 64 = n / 64 ∧ m % 64 < n % 64 := by omega
  have hmiddle := @digit_lt m n 64
  have hhigh := @digit_lt m n 4096
  have hm : m / 262144 % 8 = m / 262144 := by omega
  have hn : n / 262144 % 8 = n / 262144 := by omega
  split_ifs <;>
    simp (disch := omega) only [List.cons_append, List.nil_append, List.cons_lt_cons_iff,
      ofNat_lt_ofNat, ofNat_inj] <;>
    omega

/-! ## Texts -/

theorem flatMap_encode_lt {a b : List Char} (h : a < b) :
    a.flatMap String.utf8EncodeChar < b.flatMap String.utf8EncodeChar := by
  induction b generalizing a with
  | nil => exact absurd h (List.not_lt_nil a)
  | cons d ds ih =>
    rw [List.flatMap_cons]
    cases a with
    | nil =>
      obtain ⟨byte, bytes, hbytes⟩ := List.exists_cons_of_ne_nil (@String.utf8EncodeChar_ne_nil d)
      rw [hbytes]
      exact List.nil_lt_cons _ _
    | cons c cs =>
      rw [List.flatMap_cons]
      rcases List.cons_lt_cons_iff.1 h with hlt | ⟨rfl, hrest⟩
      · exact append_encode_lt hlt _ _
      · exact List.append_left_lt (ih hrest)

theorem bytes_lt_of_lt {a b : String} (h : a < b) : bytes a < bytes b := by
  rw [bytes_eq_flatMap, bytes_eq_flatMap]
  exact flatMap_encode_lt (String.lt_iff_toList_lt.1 h)

/-- Texts are in the order of their bytes. -/
theorem lt_iff_bytes_lt {a b : String} : a < b ↔ bytes a < bytes b := by
  constructor
  · exact bytes_lt_of_lt
  · intro h
    rcases lt_trichotomy a b with hlt | heq | hgt
    · exact hlt
    · rw [heq] at h
      exact absurd h (List.lt_irrefl _)
    · exact absurd h (List.lt_asymm (bytes_lt_of_lt hgt))

end Text

end RelayMesh
