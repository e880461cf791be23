import ExpiringCache.Agenda
import Mathlib.Tactic.SplitIfs

/-!
# The order of bytes

Keys are compared character by character. The first byte of a character tells how many there are,
and grows with their number, so of two characters the encoding of the smaller is below that of the
larger at a byte that both have (`utf8EncodeChar_append_lt`). Hence keys and due records are in
the order in which their UTF-8 bytes are (`lt_iff_toUTF8_lt`, `DueRecord.le_iff_toUTF8_le`).
-/

namespace ExpiringCache

theorem utf8EncodeChar_append_lt {c d : Char} (h : c < d) (s t : List UInt8) :
    String.utf8EncodeChar c ++ s < String.utf8EncodeChar d ++ t := by
  have hd : d.val.toNat < 0x110000 := by
    rcases d.valid with h | h
    · exact Nat.lt_trans h (by decide)
    · exact h.2
  rw [Char.lt_def, UInt32.lt_iff_toNat_lt] at h
  simp only [String.utf8EncodeChar]
  split_ifs <;>
    simp (disch := omega) only [List.cons_append, List.nil_append, List.cons_lt_cons_iff,
      UInt8.lt_iff_toNat_lt, ← UInt8.toNat_inj, UInt8.toNat_ofNat', Nat.mod_eq_of_lt] <;>
    omega

theorem flatMap_utf8EncodeChar_lt {a b : List Char} (h : a < b) :
    a.flatMap String.utf8EncodeChar < b.flatMap String.utf8EncodeChar := by
  induction h with
  | @nil c rest =>
    obtain ⟨x, l, hx⟩ := List.exists_cons_of_ne_nil (String.utf8EncodeChar_ne_nil (c := c))
    rw [List.flatMap_nil, List.flatMap_cons, hx]
    exact List.nil_lt_cons ..
  | rel h => exact utf8EncodeChar_append_lt h _ _
  | cons _ ih => exact List.append_left_lt ih

theorem toList_data_toUTF8 (s : String) :
    s.toUTF8.data.toList = s.toList.flatMap String.utf8EncodeChar := by
  rw [String.toUTF8_eq_toByteArray, ← String.utf8Encode_toList, List.utf8Encode,
    List.toList_data_toByteArray]

theorem lt_iff_toUTF8_lt {a b : String} :
    a < b ↔ a.toUTF8.data.toList < b.toUTF8.data.toList := by
  have hlt : ∀ {a b : String}, a < b → a.toUTF8.data.toList < b.toUTF8.data.toList := by
    intro a b h
    rw [toList_data_toUTF8, toList_data_toUTF8]
    exact flatMap_utf8EncodeChar_lt (String.lt_iff.1 h)
  refine ⟨hlt, fun h => String.not_le.1 fun hle => ?_⟩
  by_cases heq : b = a
  · rw [heq] at h
    exact List.lt_irrefl _ h
  · exact List.lt_asymm h (hlt (Std.lt_of_le_of_ne hle heq))

theorem DueRecord.le_iff_toUTF8_le {r s : DueRecord} :
    r ≤ s ↔ r.expiresAt < s.expiresAt ∨
      r.expiresAt = s.expiresAt ∧ r.key.toUTF8.data.toList ≤ s.key.toUTF8.data.toList := by
  rw [DueRecord.le_iff, ← List.not_lt, ← lt_iff_toUTF8_lt, String.not_lt]

end ExpiringCache
