import RelyingParty.Text.CharClass

/-!
# Text/Blank — white space, trimming, and texts that say nothing

An identifier that consists of white space only is as good as none. `isBlank` decides that by the
White_Space property of all characters, so a no-break space is blank and a zero-width space is not.
-/

namespace RelyingParty.Text

/-- **The White_Space property.** -/
def whiteSpace : CharClass := [
  (0x9, 0xD), (0x20, 0x20), (0x85, 0x85), (0xA0, 0xA0), (0x1680, 0x1680), (0x2000, 0x200A),
  (0x2028, 0x2029), (0x202F, 0x202F), (0x205F, 0x205F), (0x3000, 0x3000)]

/-- Whether `c` is white space. -/
def isBlankChar (c : Char) : Bool := whiteSpace.holds c

/-- **A text is blank** when nothing is left of it after trimming. -/
def isBlank (s : String) : Bool := s.toList.all isBlankChar

/-- The text less the white space in front. -/
def dropBlank (cs : List Char) : List Char := cs.dropWhile isBlankChar

/-- The text less the white space at both ends. -/
def trim (s : String) : String :=
  String.ofList (dropBlank (dropBlank s.toList).reverse).reverse

@[simp] theorem isBlank_empty : isBlank "" = true := rfl

theorem ne_empty_of_not_isBlank {s : String} (h : isBlank s = false) : s ≠ "" := by
  rintro rfl
  simp at h

theorem isBlank_append (s t : String) : isBlank (s ++ t) = (isBlank s && isBlank t) := by
  simp [isBlank, String.toList_append]

/-- White space of ASCII is white space. -/
theorem isBlankChar_of_isWhitespace {c : Char} (h : c.isWhitespace = true) :
    isBlankChar c = true := by
  simp only [Char.isWhitespace, Bool.or_eq_true, decide_eq_true_eq] at h
  rcases h with ((rfl | rfl) | rfl) | rfl <;> decide

end RelyingParty.Text
