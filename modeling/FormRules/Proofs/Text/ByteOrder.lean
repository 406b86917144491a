/-!
# The order of texts by their bytes

Texts are compared character by character.  Written in UTF-8 they can also be
compared byte by byte, and the two orders are the same (`Text.bytes_lt_bytes`).

Two texts first differ at a character, so it is enough that the bytes of the
smaller character come first, whatever follows on either side
(`Text.utf8EncodeChar_append_lt`).  No character is written as the beginning of
another, so what follows cannot turn the order around.
-/

namespace FormRules.Text

/-- The bytes of a text in UTF-8. -/
def bytes (s : String) : List UInt8 := s.toUTF8.data.toList

theorem bytes_eq_flatMap (s : String) : bytes s = s.toList.flatMap String.utf8EncodeChar := by
  rw [bytes, String.toUTF8_eq_toByteArray, ← String.utf8Encode_toList, List.utf8Encode,
    List.toList_data_toByteArray]

theorem ofNat_cons_lt_iff {m n : Nat} (hm : m < 256) (hn : n < 256) (l k : List UInt8) :
    UInt8.ofNat m :: l < UInt8.ofNat n :: k ↔ m < n ∨ m = n ∧ l < k := by
  rw [List.cons_lt_cons_iff, UInt8.lt_iff_toNat_lt, ← UInt8.toNat_inj, UInt8.toNat_ofNat_of_lt' hm,
    UInt8.toNat_ofNat_of_lt' hn]

/-- The bytes of a smaller character come first, whatever bytes follow. -/
theorem utf8EncodeChar_append_lt {c d : Char} (h : c < d) (s t : List UInt8) :
    String.utf8EncodeChar c ++ s < String.utf8EncodeChar d ++ t := by
  have hcd : c.val.toNat < d.val.toNat := h
  have hd : d.val.toNat < 1114112 := by
    rcases d.valid with h | h <;> omega
  -- All bytes but the first are digits to base 64, so the first byte comes from the number after
  -- as many divisions by 64.
  have two (n : Nat) : n / 4096 = n / 64 / 64 := by omega
  have three (n : Nat) : n / 262144 = n / 64 / 64 / 64 := by omega
  -- A character with more bytes has a greater first byte.  Those with equally many bytes compare
  -- digit by digit, as their numbers do.
  fun_cases String.utf8EncodeChar c <;> fun_cases String.utf8EncodeChar d <;>
    simp (disch := omega) only [List.cons_append, ofNat_cons_lt_iff, two, three] <;> omega

theorem flatMap_utf8EncodeChar_lt {l k : List Char} (h : l < k) :
    l.flatMap String.utf8EncodeChar < k.flatMap String.utf8EncodeChar := by
  induction h with
  | @nil d k =>
    obtain ⟨b, bs, hd⟩ := List.exists_cons_of_ne_nil (String.utf8EncodeChar_ne_nil (c := d))
    rw [List.flatMap_nil, List.flatMap_cons, hd]
    exact List.nil_lt_cons b _
  | rel hcd =>
    rw [List.flatMap_cons, List.flatMap_cons]
    exact utf8EncodeChar_append_lt hcd _ _
  | cons _ ih =>
    rw [List.flatMap_cons, List.flatMap_cons]
    exact List.append_left_lt ih

/-- A smaller text has smaller bytes. -/
theorem bytes_lt_bytes {a b : String} (h : a < b) : bytes a < bytes b := by
  rw [bytes_eq_flatMap, bytes_eq_flatMap]
  exact flatMap_utf8EncodeChar_lt h

end FormRules.Text
