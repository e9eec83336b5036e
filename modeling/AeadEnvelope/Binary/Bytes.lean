/-!
# Bytes and the UTF-8 form of texts

Wires, ciphertexts and associated data are lists of bytes. A text has one UTF-8 form, and only
a UTF-8 form is read as a text (`textOfUtf8?_eq_some_iff`).
-/
namespace AeadEnvelope

/-- Bytes in the order in which they are written. -/
abbrev Bytes := List UInt8

/-- UTF-8 form of a text. -/
def utf8 (text : String) : Bytes := text.toByteArray.data.toList

/-- The text with the given UTF-8 form, if there is one. -/
def textOfUtf8? (bytes : Bytes) : Option String := String.fromUTF8? ⟨bytes.toArray⟩

/-- Exactly the UTF-8 form of a text is read as that text. -/
theorem textOfUtf8?_eq_some_iff {bytes : Bytes} {text : String} :
    textOfUtf8? bytes = some text ↔ utf8 text = bytes := by
  unfold textOfUtf8? utf8 String.fromUTF8?
  constructor
  · intro read
    split at read
    · obtain rfl := Option.some.inj read
      rfl
    · exact absurd read (by simp)
  · rintro rfl
    simp only [Array.toArray_toList]
    rw [dif_pos text.isValidUTF8]
    rfl

/-- A text is read back from its UTF-8 form. -/
theorem textOfUtf8?_utf8 (text : String) : textOfUtf8? (utf8 text) = some text :=
  textOfUtf8?_eq_some_iff.mpr rfl

/-- Texts with the same UTF-8 form are the same. -/
theorem utf8_injective {left right : String} (same : utf8 left = utf8 right) : left = right :=
  Option.some.inj (by rw [← textOfUtf8?_utf8 left, same, textOfUtf8?_utf8])

/-- The UTF-8 form of a text has as many bytes as the text takes. -/
theorem length_utf8 (text : String) : (utf8 text).length = text.utf8ByteSize := by
  rw [utf8, Array.length_toList, ← String.size_toByteArray]
  rfl

/-- Joined texts have joined UTF-8 forms. -/
theorem utf8_append (left right : String) : utf8 (left ++ right) = utf8 left ++ utf8 right := by
  simp [utf8, String.toByteArray_append]

end AeadEnvelope
