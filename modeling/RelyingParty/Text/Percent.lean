import RelyingParty.Text.Hex
import RelyingParty.Text.Utf8

/-!
# Text/Percent — percent-encoding of texts through their UTF-8 bytes

Encoding keeps the unreserved characters and writes every other byte as `%` and two upper-case
digits. Decoding replaces each `%` that two digits follow by the byte they spell, leaves every other
byte alone, and succeeds when the bytes that result are UTF-8.
-/

namespace RelyingParty.Text

namespace Percent

/-- Letters, digits and `-._~` stand for themselves everywhere in an address. -/
def isUnreserved (b : UInt8) : Bool :=
  let c := Char.ofUInt8 b
  c.isAlphanum || c == '-' || c == '.' || c == '_' || c == '~'

/-- The written form of one byte. -/
def encodeByte (b : UInt8) : List Char :=
  if isUnreserved b then [Char.ofUInt8 b]
  else ['%', hexUpper (b.toNat / 16), hexUpper (b.toNat % 16)]

/-- **The percent-encoded form of a text.** -/
def encode (s : String) : String := String.ofList ((utf8 s.toList).flatMap encodeByte)

/-- The byte that `%` and the two given characters spell. -/
def byteOf? (hi lo : UInt8) : Option UInt8 :=
  match hexValue (Char.ofUInt8 hi), hexValue (Char.ofUInt8 lo) with
  | some h, some l => some (UInt8.ofNat (16 * h + l))
  | _, _ => none

/-- Decodes once, from left to right; a `%` that no two digits follow stays. -/
def decodeBytes : List UInt8 → List UInt8
  | [] => []
  | [a] => [a]
  | [a, b] => [a, b]
  | a :: b :: c :: rest =>
    if a = 37 then
      match byteOf? b c with
      | some x => x :: decodeBytes rest
      | none => a :: decodeBytes (b :: c :: rest)
    else a :: decodeBytes (b :: c :: rest)

/-- **The text behind a percent-encoded one**, unless its bytes are no UTF-8. -/
def decode (s : String) : Option String := ofUtf8? (decodeBytes (utf8 s.toList))

/-! ## Decoding undoes encoding -/

theorem forall_byte {P : UInt8 → Prop} (h : ∀ n < 256, P (UInt8.ofNat n)) (b : UInt8) : P b := by
  simpa using h b.toNat b.toNat_lt

theorem byteOf?_hexUpper : ∀ b : UInt8,
    byteOf? (hexUpper (b.toNat / 16)).toUInt8 (hexUpper (b.toNat % 16)).toUInt8 = some b :=
  forall_byte (by decide +kernel)

theorem utf8_encodeByte_of_isUnreserved : ∀ b : UInt8, isUnreserved b = true →
    utf8 (encodeByte b) = [b] ∧ b ≠ 37 :=
  forall_byte (by decide +kernel)

theorem utf8_encodeByte_of_not_isUnreserved : ∀ b : UInt8, isUnreserved b = false →
    utf8 (encodeByte b) =
      [37, (hexUpper (b.toNat / 16)).toUInt8, (hexUpper (b.toNat % 16)).toUInt8] :=
  forall_byte (by decide +kernel)

theorem decodeBytes_cons_of_ne {a : UInt8} (h : a ≠ 37) (bs : List UInt8) :
    decodeBytes (a :: bs) = a :: decodeBytes bs := by
  rcases bs with _ | ⟨b, _ | ⟨c, r⟩⟩ <;> simp [decodeBytes, h]

theorem decodeBytes_encodeByte_append (b : UInt8) (bs : List UInt8) :
    decodeBytes (utf8 (encodeByte b) ++ bs) = b :: decodeBytes bs := by
  cases h : isUnreserved b with
  | true =>
    obtain ⟨hb, hne⟩ := utf8_encodeByte_of_isUnreserved b h
    rw [hb, List.singleton_append, decodeBytes_cons_of_ne hne]
  | false => simp [utf8_encodeByte_of_not_isUnreserved b h, decodeBytes, byteOf?_hexUpper]

theorem decodeBytes_flatMap_encodeByte (bs : List UInt8) :
    decodeBytes (utf8 (bs.flatMap encodeByte)) = bs := by
  induction bs with
  | nil => rfl
  | cons b bs ih => rw [List.flatMap_cons, utf8_append, decodeBytes_encodeByte_append, ih]

/-- **Every text is reached by its encoded form.** -/
theorem decode_encode (s : String) : decode (encode s) = some s := by
  simp [decode, encode, decodeBytes_flatMap_encodeByte]

end Percent

end RelyingParty.Text
