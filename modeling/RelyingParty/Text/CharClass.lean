/-!
# Text/CharClass — a character class is a list of code point ranges

Every property of characters in this library is a table of closed ranges. `CharClass.holds` is the
one question asked of such a table; a table that is right and a membership test that reads it are
then separate facts.
-/

namespace RelyingParty.Text

/-- Closed ranges of code points, in rising order. -/
abbrev CharClass := List (Nat × Nat)

/-- Whether some range of the class holds `c`. -/
def CharClass.holds (ranges : CharClass) (c : Char) : Bool :=
  ranges.any fun r => r.1 ≤ c.toNat && c.toNat ≤ r.2

theorem CharClass.holds_iff {ranges : CharClass} {c : Char} :
    ranges.holds c = true ↔ ∃ r ∈ ranges, r.1 ≤ c.toNat ∧ c.toNat ≤ r.2 := by
  simp [CharClass.holds]

@[simp] theorem CharClass.holds_nil (c : Char) : CharClass.holds [] c = false := rfl

theorem CharClass.holds_append (a b : CharClass) (c : Char) :
    CharClass.holds (a ++ b) c = (CharClass.holds a c || CharClass.holds b c) := by
  simp [CharClass.holds]

end RelyingParty.Text
