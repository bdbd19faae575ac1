import RelyingParty.Proofs.Json.Document

/-!
# Proofs/Json/Numbers — a number is scanned up to its end

Scanning `Number.write` gives back the number's numeral, wherever the text does not go on as a
number does (`Ends`).  All that may stand behind a value in a list or an object ends a number.
-/

namespace RelyingParty.Json

/-! ## Where a number ends -/

/-- **A text that does not go on as a number does.** -/
def Ends (rest : List Char) : Prop :=
  ∀ c ∈ rest.head?, c.isDigit = false ∧ c ≠ '.' ∧ c ≠ 'e' ∧ c ≠ 'E'

theorem Ends.nil : Ends [] := by simp [Ends]

theorem ends_cons {c : Char} {rest : List Char} :
    Ends (c :: rest) ↔ c.isDigit = false ∧ c ≠ '.' ∧ c ≠ 'e' ∧ c ≠ 'E' := by
  simp [Ends]

theorem Ends.gap {rest : List Char} (h : Ends rest) (g : Gap) : Ends (g.chars ++ rest) := by
  obtain ⟨_ | ⟨c, s⟩, hg⟩ := g
  · exact h
  · have hc : isSpace c = true := hg c List.mem_cons_self
    simp only [isSpace, Bool.or_eq_true, decide_eq_true_eq] at hc
    rcases hc with ((rfl | rfl) | rfl) | rfl <;> exact ends_cons.2 (by simp)

theorem Ends.writeItems_false (items : List (Slot Document)) (rest : List Char) :
    Ends (writeItems false items ++ rest) := by
  cases items <;> exact ends_cons.2 (by simp)

theorem Ends.writeMembers_false (members : List (Slot Spelling × Slot Document))
    (rest : List Char) : Ends (writeMembers false members ++ rest) := by
  cases members <;> exact ends_cons.2 (by simp)

/-! ## Digits -/

/-- What is no digit is another character than a digit. -/
theorem ne_of_isDigit {c d : Char} (h : c.isDigit = true) (hd : d.isDigit = false) : c ≠ d := by
  rintro rfl
  simp [h] at hd

namespace Numeral

/-- The text goes on with something else than a digit. -/
def NoDigit (rest : List Char) : Prop := ∀ c ∈ rest.head?, c.isDigit = false

theorem NoDigit.takeWhile {rest : List Char} (h : NoDigit rest) :
    rest.takeWhile Char.isDigit = [] := by
  cases rest with
  | nil => rfl
  | cons c s => simp [h c rfl]

theorem NoDigit.dropWhile {rest : List Char} (h : NoDigit rest) :
    rest.dropWhile Char.isDigit = rest := by
  cases rest with
  | nil => rfl
  | cons c s => simp [h c rfl]

theorem digits_chars (ds : Digits) {rest : List Char} (h : NoDigit rest) :
    digits (ds.chars ++ rest) = .ok (ds.chars, rest) := by
  have taken : (ds.chars ++ rest).takeWhile Char.isDigit = ds.chars := by
    rw [List.takeWhile_append_of_pos ds.isDigit_of_mem, h.takeWhile, List.append_nil]
  have left : (ds.chars ++ rest).dropWhile Char.isDigit = rest := by
    rw [List.dropWhile_append_of_pos ds.isDigit_of_mem, h.dropWhile]
  rw [digits, taken, left]
  split
  · next hn => exact absurd hn ds.ne_nil
  · rfl

theorem wholeDigits_chars {ds : Digits} (noLeadingZero : ∀ c s, ds.chars ≠ '0' :: c :: s)
    {rest : List Char} (h : NoDigit rest) :
    wholeDigits (ds.chars ++ rest) = .ok (ds.chars, rest) := by
  simp only [wholeDigits, digits_chars ds h, bind, Except.bind]
  split
  · next hz => exact absurd (Prod.mk.inj hz).1 (noLeadingZero _ _)
  · rfl

theorem fractionDigits_write (fraction : Option Digits) {rest : List Char} (h : NoDigit rest)
    (noPoint : ∀ c ∈ rest.head?, c ≠ '.') :
    fractionDigits (Number.writeFraction fraction ++ rest)
      = .ok (fraction.map (·.chars), rest) := by
  cases fraction with
  | none =>
    change fractionDigits rest = .ok (none, rest)
    unfold fractionDigits
    split
    · exact absurd rfl (noPoint _ rfl)
    · rfl
  | some ds =>
    change fractionDigits ('.' :: (ds.chars ++ rest)) = .ok (some ds.chars, rest)
    simp only [fractionDigits, digits_chars ds h, bind, Except.bind]

/-- The first digit of a run of digits. -/
theorem digits_head (ds : Digits) : ∃ c s, ds.chars = c :: s ∧ c.isDigit = true := by
  obtain ⟨c, s, h⟩ := List.exists_cons_of_ne_nil ds.ne_nil
  exact ⟨c, s, h, ds.isDigit_of_mem c (h ▸ List.mem_cons_self)⟩

theorem exponentDigits_write (exponent : Option Exponent) {rest : List Char} (h : Ends rest) :
    exponentDigits (Number.writeExponent exponent ++ rest)
      = .ok (exponent.map fun e => (e.sign.getD false, e.digits.chars), rest) := by
  have noDigit : NoDigit rest := fun c hc => (h c hc).1
  cases exponent with
  | none =>
    change exponentDigits rest = .ok (none, rest)
    cases rest with
    | nil => rfl
    | cons c s =>
      obtain ⟨-, -, lower, upper⟩ := ends_cons.1 h
      simp [exponentDigits, lower, upper]
  | some e =>
    obtain ⟨capital, sign, ds⟩ := e
    have letter : (if capital = true then 'E' else 'e') = 'e' ∨
        (if capital = true then 'E' else 'e') = 'E' := by
      cases capital <;> simp
    have read := digits_chars ds noDigit
    cases sign with
    | some negative =>
      cases negative with
      | true =>
        change exponentDigits (_ :: '-' :: (ds.chars ++ rest)) = _
        simp only [exponentDigits, if_pos letter, read, bind, Except.bind]
        rfl
      | false =>
        change exponentDigits (_ :: '+' :: (ds.chars ++ rest)) = _
        simp only [exponentDigits, if_pos letter, read, bind, Except.bind]
        rfl
    | none =>
      obtain ⟨c, s, hc, isDigit⟩ := digits_head ds
      have minus : c ≠ '-' := ne_of_isDigit isDigit rfl
      have plus : c ≠ '+' := ne_of_isDigit isDigit rfl
      change exponentDigits (_ :: (ds.chars ++ rest)) = _
      rw [hc] at read ⊢
      simp only [List.cons_append] at read ⊢
      simp [exponentDigits, minus, plus, read, bind, Except.bind, hc]

theorem NoDigit.exponent {rest : List Char} (h : Ends rest) (exponent : Option Exponent) :
    NoDigit (Number.writeExponent exponent ++ rest) := by
  cases exponent with
  | none => exact fun c hc => (h c hc).1
  | some e =>
    rintro c ⟨⟩
    cases e.capital <;> rfl

theorem exponent_noPoint {rest : List Char} (h : Ends rest) (exponent : Option Exponent) :
    ∀ c ∈ (Number.writeExponent exponent ++ rest).head?, c ≠ '.' := by
  cases exponent with
  | none => exact fun c hc => (h c hc).2.1
  | some e =>
    rintro c ⟨⟩
    cases e.capital <;> simp

theorem NoDigit.fraction {rest : List Char} (h : NoDigit rest) (fraction : Option Digits) :
    NoDigit (Number.writeFraction fraction ++ rest) := by
  cases fraction with
  | none => exact h
  | some ds =>
    rintro c ⟨⟩
    rfl

/-- A number without its sign. -/
theorem scan_unsigned (n : Number) {rest : List Char} (h : Ends rest) :
    (do
      let (whole, s) ← wholeDigits (n.whole.chars ++
        (Number.writeFraction n.fraction ++ (Number.writeExponent n.exponent ++ rest)))
      let (fraction, s) ← fractionDigits s
      let (exponent, s) ← exponentDigits s
      .ok ({ negative := n.negative, whole, fraction, exponent : Numeral }, s))
        = .ok (n.numeral, rest) := by
  have noDigit := NoDigit.exponent h n.exponent
  have whole := wholeDigits_chars n.noLeadingZero (noDigit.fraction n.fraction)
  have fraction := fractionDigits_write n.fraction noDigit (exponent_noPoint h n.exponent)
  have exponent := exponentDigits_write n.exponent h
  simp only [whole, fraction, exponent, bind, Except.bind]
  rfl

/-- **Scanning a number gives it back**, where the text does not go on as a number does. -/
theorem scan_write (n : Number) {rest : List Char} (h : Ends rest) :
    scan (n.write ++ rest) = .ok (n.numeral, rest) := by
  have unsigned := scan_unsigned n h
  simp only [Number.write, List.append_assoc]
  cases hn : n.negative with
  | true =>
    rw [hn] at unsigned
    exact unsigned
  | false =>
    obtain ⟨c, s, hc, isDigit⟩ := digits_head n.whole
    have minus : c ≠ '-' := ne_of_isDigit isDigit rfl
    rw [hn, hc] at unsigned
    rw [hc]
    simpa [scan, minus] using unsigned

end Numeral

/-! ## What a number begins with -/

namespace Number

/-- A number begins with its sign or a digit. -/
theorem write_eq_cons (n : Number) :
    ∃ c s, n.write = c :: s ∧ (c = '-' ∨ c.isDigit = true) := by
  simp only [write]
  cases n.negative with
  | true => exact ⟨_, _, rfl, .inl rfl⟩
  | false =>
    obtain ⟨c, s, hc, isDigit⟩ := Numeral.digits_head n.whole
    rw [hc]
    exact ⟨c, _, rfl, .inr isDigit⟩

theorem front_ne {c d : Char} (h : c = '-' ∨ c.isDigit = true)
    (hd : d ≠ '-' ∧ d.isDigit = false) : c ≠ d := by
  rcases h with rfl | isDigit
  · exact hd.1.symm
  · exact ne_of_isDigit isDigit hd.2

end Number

end RelyingParty.Json
