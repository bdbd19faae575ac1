import RelyingParty.Json.Write
import RelyingParty.Proofs.Json.Document

/-!
# Proofs/Json/Escaping — every text has a spelling that says it

`Spelling.ofText` spells a text as `writeText` does: seven characters by an escape of one letter,
the other controls by their code, and all the rest by themselves.  What it spells says the text
again (`content_ofText`), so no text is beyond JSON.
-/

namespace RelyingParty.Json

/-! ## One character -/

/-- The letter of the escape that a character is written as, if it is one. -/
def escapeLetter? : Char → Option Char
  | '"' => some '"'
  | '\\' => some '\\'
  | '\x08' => some 'b'
  | '\x0c' => some 'f'
  | '\n' => some 'n'
  | '\r' => some 'r'
  | '\t' => some 't'
  | _ => none

theorem letterEscape_of_escapeLetter? {c mark : Char} (h : escapeLetter? c = some mark) :
    letterEscape mark = some c := by
  unfold escapeLetter? at h
  split at h <;> first | contradiction | (obtain rfl := Option.some.inj h; rfl)

/-- The digits of a control character. -/
def HexDigits.ofControl (c : Char) (control : c.toNat < 0x20) : HexDigits where
  digits
    | 0 | 1 => '0'
    | 2 => Text.hexLower (c.toNat / 16)
    | 3 => Text.hexLower (c.toNat % 16)
  value
    | 0 | 1 => 0
    | 2 => c.toNat / 16
    | 3 => c.toNat % 16
  hexValue_digits
    | 0 | 1 => rfl
    | 2 => Text.hexValue_hexLower _ (by omega)
    | 3 => Text.hexValue_hexLower _ (by omega)

theorem HexDigits.code_ofControl (c : Char) (control : c.toNat < 0x20) :
    (ofControl c control).code = c.toNat := by
  change 16 * (16 * 0 + c.toNat / 16) + c.toNat % 16 = c.toNat
  omega

/-- **The piece that spells a character.** -/
def Piece.ofChar (c : Char) : Piece :=
  match h : escapeLetter? c with
  | some mark => .letter mark c (letterEscape_of_escapeLetter? h)
  | none =>
    if control : c.toNat < 0x20 then .unit (.ofControl c control)
    else .plain c (by rintro rfl; contradiction) (by rintro rfl; contradiction) control

theorem Piece.write_ofChar (c : Char) : (ofChar c).write = writeChar c := by
  unfold ofChar
  split
  · next mark h =>
    unfold escapeLetter? at h
    split at h <;> first | contradiction | (obtain rfl := Option.some.inj h; rfl)
  · next h =>
    unfold escapeLetter? at h
    split at h <;> try contradiction
    split
    · next control => simp [writeChar, write, HexDigits.write, HexDigits.ofControl, *]
    · next control => simp [writeChar, write, *]

/-- A unit that is no half of a surrogate pair says a character. -/
theorem Spelling.content_unit {q : HexDigits} (noTrail : ¬q.IsTrail) (noLead : ¬q.IsLead)
    (s : Spelling) : Spelling.content (.unit q :: s) = s.content.map (Char.ofNat q.code :: ·) := by
  rw [content.eq_def]
  exact (if_neg noTrail).trans (if_neg noLead)

/-- **What a character is spelled as says the character.** -/
theorem Spelling.content_ofChar_cons (c : Char) (s : Spelling) :
    Spelling.content (Piece.ofChar c :: s) = (Spelling.content s).map (c :: ·) := by
  unfold Piece.ofChar
  split
  · rw [content]
  · split
    · next control =>
      have noTrail : ¬(HexDigits.ofControl c control).IsTrail := by
        rw [HexDigits.IsTrail, HexDigits.code_ofControl]
        omega
      have noLead : ¬(HexDigits.ofControl c control).IsLead := by
        rw [HexDigits.IsLead, HexDigits.code_ofControl]
        omega
      rw [content_unit noTrail noLead, HexDigits.code_ofControl, Char.ofNat_toNat]
    · rw [content]

/-! ## Texts -/

namespace Spelling

/-- **The spelling of a text.** -/
def ofText (cs : List Char) : Spelling := cs.map Piece.ofChar

/-- **Every text is said by its spelling.** -/
theorem content_ofText (cs : List Char) : (ofText cs).content = .ok cs := by
  induction cs with
  | nil => rfl
  | cons c cs ih =>
    change content (Piece.ofChar c :: ofText cs) = _
    rw [content_ofChar_cons, ih]
    rfl

/-- **A text is written as it is spelled.** -/
theorem write_ofText (cs : List Char) : (ofText cs).write = cs.flatMap writeChar ++ ['"'] := by
  simp only [write, ofText, List.flatMap_map, Piece.write_ofChar]

end Spelling

end RelyingParty.Json
