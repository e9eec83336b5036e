import AeadEnvelope.Binary.Bytes

/-!
# The order of texts is that of their bytes

Texts are ordered by their characters. A character that comes before another one is written in
UTF-8 bytes that come before those of the other one, and neither are the beginning of the other
(`lex_utf8EncodeChar`). Main statement: a text comes before another one exactly when its UTF-8
form does, byte by byte (`lex_utf8_iff`).
-/
namespace AeadEnvelope

/-- Whether bytes come before other bytes: at the first place where they differ, or where they end
first. -/
abbrev BytesBefore (left right : Bytes) : Prop := List.Lex (fun low high => low < high) left right

/-- The UTF-8 form of a text is that of its characters in a row. -/
theorem utf8_eq_flatMap (text : String) :
    utf8 text = text.toList.flatMap String.utf8EncodeChar := by
  rw [utf8, ← String.utf8Encode_toList, List.utf8Encode, List.toList_data_toByteArray]

/-- The bytes of a character come before those of a later one, whatever follows them. -/
theorem lex_utf8EncodeChar {left right : Char} (before : left < right) (first second : Bytes) :
    BytesBefore (String.utf8EncodeChar left ++ first) (String.utf8EncodeChar right ++ second) := by
  have codes : left.val.toNat < right.val.toNat := before
  have bound : right.val.toNat < 0x110000 := by
    have valid := right.valid
    simp only [UInt32.isValidChar, Nat.isValidChar] at valid
    omega
  have third : ∀ code : Nat, code / 4096 = code / 64 / 64 := fun code => by omega
  have fourth : ∀ code : Nat, code / 262144 = code / 64 / 64 / 64 := fun code => by omega
  have digit : ∀ code : Nat, (code % 64 + 128) % 256 = code % 64 + 128 := fun code => by omega
  -- Between forms of one length the digits decide, and between others their first bytes.
  simp only [BytesBefore, String.utf8EncodeChar, third, fourth]
  repeat' split
  all_goals
    simp only [List.cons_append, List.nil_append, List.cons_lex_cons_iff, UInt8.lt_iff_toNat_lt,
      ← UInt8.toNat_inj, UInt8.toNat_ofNat', Nat.reducePow, digit]
    omega

/-- The order of characters in a row carries over to their UTF-8 forms. -/
theorem lex_flatMap_utf8EncodeChar {left right : List Char} (before : left < right) :
    BytesBefore (left.flatMap String.utf8EncodeChar) (right.flatMap String.utf8EncodeChar) := by
  induction before with
  | @nil head tail =>
    have some : 0 < (String.utf8EncodeChar head).length := by
      rw [String.length_utf8EncodeChar]
      exact head.utf8Size_pos
    obtain ⟨byte, others, form⟩ := List.exists_cons_of_length_pos some
    rw [List.flatMap_nil, List.flatMap_cons, form]
    exact .nil
  | rel lower =>
    rw [List.flatMap_cons, List.flatMap_cons]
    exact lex_utf8EncodeChar lower _ _
  | cons _ step =>
    rw [List.flatMap_cons, List.flatMap_cons]
    exact List.append_left_lt step

/-- A text comes before another one exactly when its UTF-8 form comes before that of the other. -/
theorem lex_utf8_iff {left right : String} :
    BytesBefore (utf8 left) (utf8 right) ↔ left < right := by
  have carried : ∀ {low high : String}, low < high → BytesBefore (utf8 low) (utf8 high) := by
    intro low high before
    rw [utf8_eq_flatMap, utf8_eq_flatMap]
    exact lex_flatMap_utf8EncodeChar before
  refine ⟨fun before => ?_, carried⟩
  apply Decidable.byContradiction
  intro notBefore
  by_cases same : left = right
  · rw [same] at before
    exact List.lt_irrefl _ before
  · have above : right ≤ left := String.not_lt.mp notBefore
    have after : right < left := Std.lt_of_le_of_ne above (Ne.symm same)
    exact List.lt_asymm before (carried after)

/-- A text is at most another one exactly when its UTF-8 form comes before that of the other or
they are the same. -/
theorem le_iff_lex_utf8 {left right : String} :
    left ≤ right ↔ BytesBefore (utf8 left) (utf8 right) ∨ left = right := by
  rw [lex_utf8_iff]
  exact Std.le_iff_lt_or_eq

end AeadEnvelope
