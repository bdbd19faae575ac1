/-!
# Text/Utf8 — texts as bytes

Bytes are a text when they are the UTF-8 form of one. Then there is only one such text, so
`ofUtf8?` undoes `utf8` and finds nothing else (`ofUtf8?_utf8`, `eq_utf8_of_ofUtf8?`).
-/

namespace RelyingParty.Text

/-- The UTF-8 bytes of a text. -/
def utf8 (cs : List Char) : List UInt8 := cs.flatMap String.utf8EncodeChar

theorem utf8_append (cs ds : List Char) : utf8 (cs ++ ds) = utf8 cs ++ utf8 ds :=
  List.flatMap_append

/-- The text that the bytes encode, if they are UTF-8. -/
def ofUtf8? (bytes : List UInt8) : Option String := String.fromUTF8? bytes.toByteArray

/-- A text is recovered from its bytes. -/
@[simp] theorem ofUtf8?_utf8 (cs : List Char) : ofUtf8? (utf8 cs) = some (String.ofList cs) := by
  have h : (utf8 cs).toByteArray.IsValidUTF8 := ⟨cs, rfl⟩
  simp only [ofUtf8?, String.fromUTF8?, dif_pos h]
  rfl

/-- Bytes that decode are the bytes of the text they decode to. -/
theorem eq_utf8_of_ofUtf8? {bytes : List UInt8} {s : String} (h : ofUtf8? bytes = some s) :
    bytes = utf8 s.toList := by
  have hv : bytes.toByteArray.IsValidUTF8 :=
    Decidable.byContradiction fun hv => by simp [ofUtf8?, String.fromUTF8?, hv] at h
  obtain ⟨cs, hcs⟩ := hv
  obtain rfl : bytes = utf8 cs := by simpa [utf8, List.utf8Encode] using congrArg ByteArray.data hcs
  rw [ofUtf8?_utf8, Option.some.injEq] at h
  simp [← h]

end RelyingParty.Text
