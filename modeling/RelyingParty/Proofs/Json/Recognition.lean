import Mathlib.Data.List.TakeWhile
import RelyingParty.Proofs.Json.Decoding

/-!
# Proofs/Json/Recognition — what is read is a document

Readers know how to go on behind every document; here is the other direction.  Each scanner that
comes out of a piece has passed over characters that spell one, so a reader that does not fail has a
document in front of it (`Reader.IsStrict`).  With locality that settles what a whole text is read
as: the value of its document, or a fault if it has none (`read_eq_ok_iff`).
-/

namespace RelyingParty.Json

variable {s t rest : List Char}

/-! ## White space and words -/

/-- Two stretches of white space in a row. -/
def Gap.append (g g' : Gap) : Gap where
  chars := g.chars ++ g'.chars
  isSpace_of_mem := fun c hc => (List.mem_append.mp hc).elim (g.isSpace_of_mem c)
    (g'.isSpace_of_mem c)

/-- What is skipped is white space. -/
theorem exists_gap (h : skipSpace s = t) : ∃ g : Gap, s = g.chars ++ t := by
  refine ⟨⟨s.takeWhile isSpace, fun _ => List.mem_takeWhile_imp⟩, ?_⟩
  rw [← h]
  exact List.takeWhile_append_dropWhile.symm

theorem eq_of_literal {word : List Char} (h : literal word s = .ok rest) : s = word ++ rest := by
  induction word generalizing s with
  | nil => exact Except.ok.inj h
  | cons w word ih =>
    cases s with
    | nil => simp [literal] at h
    | cons c s =>
      rw [literal] at h
      split at h
      · next same => rw [same, ih h, List.cons_append]
      · simp at h

theorem exists_colon (h : colon s = .ok rest) : ∃ g : Gap, s = g.chars ++ ':' :: rest := by
  rw [colon] at h
  split at h
  · simp at h
  · next here =>
    obtain rfl := Except.ok.inj h
    exact exists_gap here
  · simp at h

/-! ## Texts -/

/-- The digits of four characters. -/
def HexDigits.of {a b c d : Char} {v w x y : Nat} (ha : Text.hexValue a = some v)
    (hb : Text.hexValue b = some w) (hc : Text.hexValue c = some x)
    (hd : Text.hexValue d = some y) : HexDigits where
  digits
    | 0 => a
    | 1 => b
    | 2 => c
    | 3 => d
  value
    | 0 => v
    | 1 => w
    | 2 => x
    | 3 => y
  hexValue_digits
    | 0 => ha
    | 1 => hb
    | 2 => hc
    | 3 => hd

theorem exists_hexDigits {n : Nat} (h : hexQuad s = .ok (n, rest)) :
    ∃ q : HexDigits, s = q.write ++ rest := by
  unfold hexQuad at h
  split at h
  · split at h
    · next ha hb hc hd =>
      obtain ⟨-, rfl⟩ := Prod.mk.inj (Except.ok.inj h)
      exact ⟨.of ha hb hc hd, rfl⟩
    · simp at h
  · simp at h

theorem exists_trailSurrogate {lead : Nat} {c : Char}
    (h : trailSurrogate lead s = .ok (c, rest)) :
    ∃ q : HexDigits, s = Piece.write (.unit q) ++ rest := by
  unfold trailSurrogate at h
  split at h
  · simp at h
  · simp at h
  · obtain ⟨⟨n, s'⟩, digits, found⟩ := bind_eq_ok_iff.mp h
    obtain ⟨q, rfl⟩ := exists_hexDigits digits
    dsimp only at found
    split at found
    · obtain ⟨-, rfl⟩ := Prod.mk.inj (Except.ok.inj found)
      exact ⟨q, rfl⟩
    · simp at found
  · simp at h

/-- An escape is one piece, or the two of a surrogate pair. -/
theorem exists_escape {c : Char} (h : escape s = .ok (c, rest)) :
    ∃ pieces : Spelling, '\\' :: s = pieces.flatMap Piece.write ++ rest := by
  unfold escape at h
  split at h
  · simp at h
  · obtain ⟨⟨n, s'⟩, digits, found⟩ := bind_eq_ok_iff.mp h
    obtain ⟨q, rfl⟩ := exists_hexDigits digits
    dsimp only at found
    split at found
    · simp at found
    · split at found
      · obtain ⟨q', rfl⟩ := exists_trailSurrogate found
        exact ⟨[.unit q, .unit q'], by simp [Piece.write]⟩
      · obtain ⟨-, rfl⟩ := Prod.mk.inj (Except.ok.inj found)
        exact ⟨[.unit q], by simp [Piece.write]⟩
  · split at h
    · next known =>
      obtain ⟨-, rfl⟩ := Prod.mk.inj (Except.ok.inj h)
      exact ⟨[.letter _ _ known], rfl⟩
    · simp at h

theorem Spelling.write_append (pieces t : Spelling) (rest : List Char) :
    Spelling.write (pieces ++ t) ++ rest = pieces.flatMap Piece.write ++ (t.write ++ rest) := by
  simp [Spelling.write]

/-- **A text that is read has a spelling.** -/
theorem exists_spelling {cs : List Char} (h : textContent s = .ok (cs, rest)) :
    ∃ t : Spelling, s = t.write ++ rest := by
  fun_induction textContent s generalizing cs with
  | case1 => simp at h
  | case2 s =>
    obtain ⟨-, rfl⟩ := Prod.mk.inj (Except.ok.inj h)
    exact ⟨[], rfl⟩
  | case3 => simp at h
  | case4 s _ r escaped _ _ ih =>
    obtain ⟨⟨cs, rest'⟩, behind, same⟩ := map_eq_ok_iff.mp h
    obtain ⟨-, rfl⟩ := Prod.mk.inj same
    obtain ⟨t, rfl⟩ := ih behind
    obtain ⟨pieces, spelled⟩ := exists_escape escaped
    exact ⟨pieces ++ t, by rw [Spelling.write_append, ← spelled]⟩
  | case5 => simp at h
  | case6 c s quote backslash visible ih =>
    obtain ⟨⟨cs, rest'⟩, behind, same⟩ := map_eq_ok_iff.mp h
    obtain ⟨-, rfl⟩ := Prod.mk.inj same
    obtain ⟨t, rfl⟩ := ih behind
    exact ⟨.plain c quote backslash visible :: t, by rw [Spelling.write_cons]; rfl⟩

/-- **A text that is passed over has a spelling.** -/
theorem exists_spelling_of_skipText (h : skipText s = .ok rest) :
    ∃ t : Spelling, s = t.write ++ rest := by
  fun_induction skipText s with
  | case1 => simp at h
  | case2 s =>
    obtain rfl := Except.ok.inj h
    exact ⟨[], rfl⟩
  | case3 => simp at h
  | case4 => simp at h
  | case5 s _ r digits _ _ ih =>
    obtain ⟨q, rfl⟩ := exists_hexDigits digits
    obtain ⟨t, rfl⟩ := ih h
    exact ⟨.unit q :: t, by rw [Spelling.write_cons]; rfl⟩
  | case6 c s _ known _ ih =>
    obtain ⟨meaning, known⟩ := Option.isSome_iff_exists.mp known
    obtain ⟨t, rfl⟩ := ih h
    exact ⟨.letter c meaning known :: t, by rw [Spelling.write_cons]; rfl⟩
  | case7 => simp at h
  | case8 => simp at h
  | case9 c s quote backslash visible ih =>
    obtain ⟨t, rfl⟩ := ih h
    exact ⟨.plain c quote backslash visible :: t, by rw [Spelling.write_cons]; rfl⟩

/-! ## Numbers -/

namespace Numeral

theorem exists_digits {ds : List Char} (h : digits s = .ok (ds, rest)) :
    ∃ d : Digits, d.chars = ds ∧ s = d.chars ++ rest := by
  rw [digits] at h
  split at h
  · simp at h
  · next none =>
    obtain ⟨rfl, rfl⟩ := Prod.mk.inj (Except.ok.inj h)
    exact ⟨⟨_, none, fun _ => List.mem_takeWhile_imp⟩, rfl, List.takeWhile_append_dropWhile.symm⟩

theorem exists_wholeDigits {ds : List Char} (h : wholeDigits s = .ok (ds, rest)) :
    ∃ d : Digits, (∀ c t, d.chars ≠ '0' :: c :: t) ∧ s = d.chars ++ rest := by
  obtain ⟨⟨ds', rest'⟩, found, h⟩ := bind_eq_ok_iff.mp h
  split at h
  · simp at h
  · next zero =>
    obtain ⟨rfl, rfl⟩ := Prod.mk.inj (Except.ok.inj h)
    obtain ⟨d, rfl, rfl⟩ := exists_digits found
    exact ⟨d, fun c t leading => zero c t _ (by rw [leading]), rfl⟩

theorem exists_fraction {f : Option (List Char)} (h : fractionDigits s = .ok (f, rest)) :
    ∃ f : Option Digits, s = Number.writeFraction f ++ rest := by
  unfold fractionDigits at h
  split at h
  · obtain ⟨⟨ds, rest'⟩, found, same⟩ := bind_eq_ok_iff.mp h
    obtain ⟨d, -, rfl⟩ := exists_digits found
    obtain ⟨-, rfl⟩ := Prod.mk.inj (Except.ok.inj same)
    exact ⟨some d, rfl⟩
  · obtain ⟨-, rfl⟩ := Prod.mk.inj (Except.ok.inj h)
    exact ⟨none, rfl⟩

theorem exists_exponent {e : Option (Bool × List Char)}
    (h : exponentDigits s = .ok (e, rest)) :
    ∃ e : Option Exponent, s = Number.writeExponent e ++ rest := by
  unfold exponentDigits at h
  split at h
  · obtain ⟨-, rfl⟩ := Prod.mk.inj (Except.ok.inj h)
    exact ⟨none, rfl⟩
  · split at h
    · next c s letter =>
      obtain ⟨capital, rfl⟩ : ∃ capital, c = if capital = true then 'E' else 'e' := by
        rcases letter with rfl | rfl
        · exact ⟨false, rfl⟩
        · exact ⟨true, rfl⟩
      split at h
      next negative s' signed =>
        obtain ⟨sign, rfl⟩ : ∃ sign, s = Number.writeSign sign ++ s' := by
          split at signed
          · exact ⟨some true, by rw [(Prod.mk.inj signed).2]; rfl⟩
          · exact ⟨some false, by rw [(Prod.mk.inj signed).2]; rfl⟩
          · exact ⟨none, (Prod.mk.inj signed).2⟩
        obtain ⟨⟨ds, rest'⟩, found, same⟩ := bind_eq_ok_iff.mp h
        obtain ⟨d, -, rfl⟩ := exists_digits found
        obtain ⟨-, rfl⟩ := Prod.mk.inj (Except.ok.inj same)
        exact ⟨some ⟨capital, sign, d⟩, by simp [Number.writeExponent]⟩
    · obtain ⟨-, rfl⟩ := Prod.mk.inj (Except.ok.inj h)
      exact ⟨none, rfl⟩

/-- **A number that is scanned is one.** -/
theorem exists_number {x : Numeral} (h : scan s = .ok (x, rest)) :
    ∃ n : Number, s = n.write ++ rest := by
  unfold scan at h
  split at h
  next negative s' signed =>
    obtain ⟨minus, rfl⟩ : ∃ minus : Bool, s = (if minus then ['-'] else []) ++ s' := by
      split at signed
      · exact ⟨true, by rw [(Prod.mk.inj signed).2]; rfl⟩
      · exact ⟨false, (Prod.mk.inj signed).2⟩
    obtain ⟨⟨_, _⟩, whole, h⟩ := bind_eq_ok_iff.mp h
    obtain ⟨⟨_, _⟩, fraction, h⟩ := bind_eq_ok_iff.mp h
    obtain ⟨⟨_, _⟩, exponent, h⟩ := bind_eq_ok_iff.mp h
    obtain ⟨-, rfl⟩ := Prod.mk.inj (Except.ok.inj h)
    obtain ⟨e, rfl⟩ := exists_exponent exponent
    obtain ⟨f, rfl⟩ := exists_fraction fraction
    obtain ⟨d, noLeadingZero, rfl⟩ := exists_wholeDigits whole
    exact ⟨⟨minus, d, noLeadingZero, f, e⟩, by simp [Number.write]⟩

end Numeral

/-! ## Values and entries -/

/-- **The text begins with a document**, and `rest` is behind it. -/
def Fronts (s rest : List Char) : Prop :=
  ∃ (g : Gap) (d : Document), s = g.chars ++ (d.write ++ rest)

theorem Document.fronts (d : Document) (rest : List Char) : Fronts (d.write ++ rest) rest :=
  ⟨.none, d, rfl⟩

theorem Fronts.gap (h : Fronts s rest) (g : Gap) : Fronts (g.chars ++ s) rest := by
  obtain ⟨g', d, rfl⟩ := h
  exact ⟨g.append g', d, (List.append_assoc ..).symm⟩

theorem Fronts.of_skipSpace (h : skipSpace s = t) (fronts : Fronts t rest) : Fronts s rest := by
  obtain ⟨g, rfl⟩ := exists_gap h
  exact fronts.gap g

namespace Bracket

/-- **The text begins with an entry**, and `rest` is behind it: a value, which has a name and a
colon in front of it in an object. -/
def Enters (b : Bracket) (s rest : List Char) : Prop :=
  match b with
  | .list => Fronts s rest
  | .object => ∃ (name : Slot Spelling) (t : List Char), Fronts t rest ∧
      s = name.before.chars ++ ('"' :: (name.value.write ++ (name.after.chars ++ ':' :: t)))

/-- **The text begins with entries and the closing bracket**, and `rest` is behind it. -/
def Encloses (b : Bracket) (first : Bool) (s rest : List Char) : Prop :=
  match b with
  | .list => ∃ (g : Gap) (items : List (Slot Document)),
      s = g.chars ++ (writeItems first items ++ rest)
  | .object => ∃ (g : Gap) (members : List (Slot Spelling × Slot Document)),
      s = g.chars ++ (writeMembers first members ++ rest)

variable {b : Bracket} {first : Bool} {u : List Char}

theorem Enters.gap (h : b.Enters s rest) (g : Gap) : b.Enters (g.chars ++ s) rest := by
  cases b with
  | list => exact Fronts.gap h g
  | object =>
    obtain ⟨name, t, fronts, rfl⟩ := h
    exact ⟨{ name with before := g.append name.before }, t, fronts, (List.append_assoc ..).symm⟩

/-- No entry. -/
theorem encloses_close (b : Bracket) (first : Bool) (g : Gap) (rest : List Char) :
    b.Encloses first (g.chars ++ b.close :: rest) rest := by
  cases b with
  | list => exact ⟨g, [], rfl⟩
  | object => exact ⟨g, [], rfl⟩

/-- One more entry, in front of others. -/
theorem Enters.cons (h : b.Enters s t) (behind : b.Encloses false t rest) (g : Gap)
    (first : Bool) : b.Encloses first (g.chars ++ (comma first ++ s)) rest := by
  cases b with
  | list =>
    obtain ⟨before, d, rfl⟩ := h
    obtain ⟨after, items, rfl⟩ := behind
    exact ⟨g, ⟨before, d, after⟩ :: items, by rw [writeItems_cons]⟩
  | object =>
    obtain ⟨name, _, ⟨before, d, rfl⟩, rfl⟩ := h
    obtain ⟨after, members, rfl⟩ := behind
    exact ⟨g, (name, ⟨before, d, after⟩) :: members, by rw [writeMembers_cons]⟩

end Bracket

/-- **What a turn has passed over**: white space, and the closing bracket or the comma between two
entries. -/
theorem turn_cases {b : Bracket} {first : Bool} {move : Turn} (h : turn b first s = .ok move) :
    (∃ (g : Gap) (rest : List Char), move = .closed rest ∧ s = g.chars ++ b.close :: rest) ∨
      ∃ (g g' : Gap) (t : List Char), move = .another t ∧
        s = g.chars ++ (comma first ++ (g'.chars ++ t)) := by
  rw [turn] at h
  split at h
  · simp at h
  · next c r here =>
    obtain ⟨g, spaced⟩ := exists_gap here
    split at h
    · next close =>
      obtain rfl := Except.ok.inj h
      exact .inl ⟨g, r, rfl, by rw [spaced, close]⟩
    · split at h
      · next noneBefore =>
        obtain rfl := Except.ok.inj h
        exact .inr ⟨g, .none, _, rfl, by rw [spaced, noneBefore]; rfl⟩
      · next before =>
        obtain rfl : first = false := eq_false_of_ne_true before
        split at h
        · next separated =>
          split at h
          · simp at h
          · next here' =>
            obtain ⟨g', spaced'⟩ := exists_gap here'
            split at h
            · simp at h
            · obtain rfl := Except.ok.inj h
              exact .inr ⟨g, g', _, rfl, by rw [spaced, separated, spaced']; rfl⟩
        · simp at h

/-! ## Passing over a value -/

/-- A document between brackets. -/
theorem Bracket.Encloses.fronts_list (h : Bracket.list.Encloses true s rest) :
    Fronts ('[' :: s) rest := by
  obtain ⟨gap, items, rfl⟩ := h
  exact ⟨.none, .list gap items, by rw [Document.write_list]; simp [Gap.none]⟩

theorem Bracket.Encloses.fronts_object (h : Bracket.object.Encloses true s rest) :
    Fronts ('{' :: s) rest := by
  obtain ⟨gap, members, rfl⟩ := h
  exact ⟨.none, .object gap members, by rw [Document.write_object]; simp [Gap.none]⟩

theorem Bracket.enters_of_skipLabel {b : Bracket} {u : List Char} (h : skipLabel b s = .ok t)
    (fronts : Fronts t u) : b.Enters s u := by
  cases b with
  | list =>
    obtain rfl := Except.ok.inj h
    exact fronts
  | object =>
    simp only [skipLabel] at h
    split at h
    · simp at h
    · next here =>
      obtain ⟨s', skipped, coloned⟩ := bind_eq_ok_iff.mp h
      obtain ⟨before, rfl⟩ := exists_gap here
      obtain ⟨name, rfl⟩ := exists_spelling_of_skipText skipped
      obtain ⟨after, rfl⟩ := exists_colon coloned
      exact ⟨⟨before, name, after⟩, t, fronts, rfl⟩
    · simp at h

theorem exists_number_of_skipNumber (h : skipNumber s = .ok rest) :
    ∃ n : Number, s = (Document.number n).write ++ rest := by
  rw [skipNumber] at h
  split at h
  · next scanned =>
    obtain rfl := Except.ok.inj h
    obtain ⟨n, rfl⟩ := Numeral.exists_number scanned
    exact ⟨n, by rw [Document.write_number]⟩
  · simp at h

/-- **In a number of steps nothing is passed over but a document**, or a stretch of entries up to
the closing bracket. -/
structure SkipsDocuments (bound : Nat) : Prop where
  value : ∀ {s rest}, skipValueWithin bound s = .ok rest → Fronts s rest
  bracket : ∀ {b s rest}, skipBracketWithin b bound s = .ok rest → b.Encloses true s rest
  entries : ∀ {b s rest}, skipEntriesWithin b bound s = .ok rest →
    ∀ (g : Gap) (first : Bool), b.Encloses first (g.chars ++ (comma first ++ s)) rest

namespace SkipsDocuments

variable {bound : Nat} {b : Bracket}

theorem value_succ (inside : SkipsDocuments bound)
    (h : skipValueWithin (bound + 1) s = .ok rest) : Fronts s rest := by
  rw [skipValueWithin] at h
  split at h
  · simp at h
  · next here => exact .of_skipSpace here (inside.bracket h).fronts_list
  · next here => exact .of_skipSpace here (inside.bracket h).fronts_object
  · next here =>
    obtain ⟨t, rfl⟩ := exists_spelling_of_skipText h
    exact .of_skipSpace here ((Document.text t).fronts rest)
  · next here => exact .of_skipSpace here (eq_of_literal h ▸ Document.null.fronts rest)
  · next here => exact .of_skipSpace here (eq_of_literal h ▸ (Document.flag true).fronts rest)
  · next here => exact .of_skipSpace here (eq_of_literal h ▸ (Document.flag false).fronts rest)
  · next here =>
    split at h
    · obtain ⟨n, spelled⟩ := exists_number_of_skipNumber h
      exact .of_skipSpace here (spelled ▸ (Document.number n).fronts rest)
    · simp at h

theorem bracket_succ (inside : SkipsDocuments bound)
    (h : skipBracketWithin b (bound + 1) s = .ok rest) : b.Encloses true s rest := by
  rw [skipBracketWithin] at h
  split at h
  · simp at h
  · next here =>
    obtain ⟨g, rfl⟩ := exists_gap here
    split at h
    · next close =>
      obtain rfl := Except.ok.inj h
      exact close ▸ b.encloses_close true g _
    · exact inside.entries h g true

theorem entries_succ (inside : SkipsDocuments bound)
    (h : skipEntriesWithin b (bound + 1) s = .ok rest) (g : Gap) (first : Bool) :
    b.Encloses first (g.chars ++ (comma first ++ s)) rest := by
  rw [skipEntriesWithin] at h
  obtain ⟨t, labelled, h⟩ := bind_eq_ok_iff.mp h
  obtain ⟨u, skipped, h⟩ := bind_eq_ok_iff.mp h
  refine (Bracket.enters_of_skipLabel labelled (inside.value skipped)).cons ?_ g first
  split at h
  · simp at h
  · next here =>
    obtain ⟨g', rfl⟩ := exists_gap here
    split at h
    · next close =>
      obtain rfl := Except.ok.inj h
      exact close ▸ b.encloses_close false g' _
    · split at h
      · next separated => exact separated ▸ inside.entries h g' false
      · simp at h

end SkipsDocuments

/-- **Nothing is passed over but a document**, in however many steps. -/
theorem skipsDocuments (bound : Nat) : SkipsDocuments bound := by
  induction bound with
  | zero => constructor <;> simp [skipValueWithin, skipBracketWithin, skipEntriesWithin]
  | succ bound inside => exact ⟨inside.value_succ, inside.bracket_succ, inside.entries_succ⟩

theorem fronts_of_skipValue (h : skipValue s = .ok rest) : Fronts s rest :=
  (skipsDocuments _).value h

/-! ## Strict readers -/

/-- **A reader that takes nothing for a value but a document.** -/
def Reader.IsStrict (r : Reader α) : Prop :=
  ∀ {s a rest}, r s = .ok (a, rest) → Fronts s rest

namespace Reader

theorem refined_isStrict (due : Due) (test : String → Except String α) :
    (refined due test).IsStrict := by
  intro s a rest h
  rw [refined] at h
  split at h
  · next here =>
    obtain ⟨⟨content, s'⟩, read, tested⟩ := bind_eq_ok_iff.mp h
    obtain ⟨t, rfl⟩ := exists_spelling read
    dsimp only at tested
    split at tested
    · obtain ⟨-, rfl⟩ := Prod.mk.inj (Except.ok.inj tested)
      exact .of_skipSpace here ((Document.text t).fronts _)
    · simp at tested
  · simp at h

theorem text_isStrict : text.IsStrict := refined_isStrict .text .ok

-- Of the induction on the bound nothing but the text matters: what has been read may be anything.
theorem elementsWithin_sound {item : Reader α} (strict : item.IsStrict) {bound : Nat} :
    ∀ {first : Bool} {s rest : List Char} {as : List α},
      elementsWithin item bound first s = .ok (as, rest) →
        Bracket.list.Encloses first s rest := by
  induction bound with
  | zero => simp [elementsWithin]
  | succ bound ih =>
    intro first s rest as h
    rw [elementsWithin] at h
    obtain ⟨move, turned, taken⟩ := bind_eq_ok_iff.mp h
    rcases turn_cases turned with ⟨g, rest', rfl, rfl⟩ | ⟨g, g', t, rfl, rfl⟩
    · obtain ⟨-, rfl⟩ := Prod.mk.inj (Except.ok.inj taken)
      exact Bracket.encloses_close .list first g _
    · obtain ⟨⟨a, t'⟩, read, taken⟩ := bind_eq_ok_iff.mp taken
      obtain ⟨⟨as', rest'⟩, behind, same⟩ := bind_eq_ok_iff.mp taken
      obtain ⟨-, rfl⟩ := Prod.mk.inj (Except.ok.inj same)
      have enters : Bracket.list.Enters t t' := strict read
      exact (enters.gap g').cons (ih behind) g first

theorem list_isStrict {item : Reader α} (strict : item.IsStrict) : (list item).IsStrict := by
  intro s as rest h
  rw [list] at h
  split at h
  · next here => exact .of_skipSpace here (elementsWithin_sound strict h).fronts_list
  · simp at h

end Reader

/-! ## Records -/

/-- A field whose value is read by a strict reader. -/
def Field.IsStrict (f : Field σ) : Prop := ∀ draft, (f.read draft).IsStrict

theorem Field.of_isStrict {value : Reader β} (strict : value.IsStrict) (name : String)
    (get : σ → Option β) (put : β → σ → σ) : (Field.of name get put value).IsStrict := by
  intro draft s draft' rest h
  obtain ⟨⟨b, rest'⟩, read, same⟩ := bind_eq_ok_iff.mp h
  obtain ⟨-, rfl⟩ := Prod.mk.inj (Except.ok.inj same)
  exact strict read

namespace RecordForm

theorem enters_of_memberName {name : List Char} {s t u rest : List Char}
    (named : memberName s = .ok (name, t)) (coloned : colon t = .ok u) (fronts : Fronts u rest) :
    Bracket.object.Enters s rest := by
  unfold memberName at named
  split at named
  · obtain ⟨label, rfl⟩ := exists_spelling named
    obtain ⟨after, rfl⟩ := exists_colon coloned
    exact ⟨⟨.none, label, after⟩, u, fronts, rfl⟩
  · simp at named

theorem membersWithin_sound {fields : List (Field σ)} (strict : ∀ field ∈ fields, field.IsStrict)
    {bound : Nat} : ∀ {first : Bool} {draft draft' : σ} {s rest : List Char},
      membersWithin fields bound first draft s = .ok (draft', rest) →
        Bracket.object.Encloses first s rest := by
  induction bound with
  | zero => simp [membersWithin]
  | succ bound ih =>
    intro first draft draft' s rest h
    rw [membersWithin] at h
    obtain ⟨move, turned, taken⟩ := bind_eq_ok_iff.mp h
    rcases turn_cases turned with ⟨g, rest', rfl, rfl⟩ | ⟨g, g', t, rfl, rfl⟩
    · obtain ⟨-, rfl⟩ := Prod.mk.inj (Except.ok.inj taken)
      exact Bracket.encloses_close .object first g _
    · obtain ⟨⟨name, t'⟩, named, taken⟩ := bind_eq_ok_iff.mp taken
      dsimp only at taken
      split at taken
      · next field found =>
        split at taken
        · simp at taken
        · obtain ⟨u, coloned, valued⟩ := bind_eq_ok_iff.mp taken
          obtain ⟨⟨draft'', u'⟩, read, behind⟩ := bind_eq_ok_iff.mp valued
          have fronts := strict field (List.mem_of_find?_eq_some found) draft read
          exact ((enters_of_memberName named coloned fronts).gap g').cons (ih behind) g first
      · obtain ⟨u, coloned, valued⟩ := bind_eq_ok_iff.mp taken
        obtain ⟨u', skipped, behind⟩ := bind_eq_ok_iff.mp valued
        have fronts := fronts_of_skipValue skipped
        exact ((enters_of_memberName named coloned fronts).gap g').cons (ih behind) g first

theorem exists_endOfList (h : endOfList s = .ok rest) : ∃ g : Gap, s = g.chars ++ ']' :: rest := by
  rw [endOfList] at h
  split at h
  · simp at h
  · next here =>
    obtain rfl := Except.ok.inj h
    exact exists_gap here
  · split at h <;> simp at h
  · simp at h

theorem elements_sound {fields : List (Field σ)} (strict : ∀ field ∈ fields, field.IsStrict) :
    ∀ {first : Bool} {draft draft' : σ} {s rest : List Char},
      elements fields first draft s = .ok (draft', rest) →
        Bracket.list.Encloses first s rest := by
  induction fields with
  | nil =>
    intro first draft draft' s rest h
    obtain ⟨rest', ended, same⟩ := bind_eq_ok_iff.mp h
    obtain ⟨-, rfl⟩ := Prod.mk.inj (Except.ok.inj same)
    obtain ⟨g, rfl⟩ := exists_endOfList ended
    exact Bracket.encloses_close .list first g _
  | cons field fields ih =>
    intro first draft draft' s rest h
    rw [elements] at h
    obtain ⟨move, turned, taken⟩ := bind_eq_ok_iff.mp h
    rcases turn_cases turned with ⟨g, rest', rfl, rfl⟩ | ⟨g, g', t, rfl, rfl⟩
    · obtain ⟨-, rfl⟩ := Prod.mk.inj (Except.ok.inj taken)
      exact Bracket.encloses_close .list first g _
    · obtain ⟨⟨draft'', t'⟩, read, behind⟩ := bind_eq_ok_iff.mp taken
      have enters : Bracket.list.Enters t t' := strict field List.mem_cons_self draft read
      have others : ∀ field ∈ fields, field.IsStrict := fun f hf =>
        strict f (List.mem_cons_of_mem _ hf)
      exact (enters.gap g').cons (ih others behind) g first

theorem reader_isStrict {form : RecordForm σ α} (strict : ∀ field ∈ form.fields, field.IsStrict) :
    form.reader.IsStrict := by
  intro s a rest h
  rw [reader] at h
  split at h
  · next here =>
    obtain ⟨⟨draft, rest'⟩, read, finished⟩ := bind_eq_ok_iff.mp h
    dsimp only at finished
    split at finished
    · obtain ⟨-, rfl⟩ := Prod.mk.inj (Except.ok.inj finished)
      exact .of_skipSpace here (membersWithin_sound strict read).fronts_object
    · simp at finished
  · next here =>
    obtain ⟨⟨draft, rest'⟩, read, finished⟩ := bind_eq_ok_iff.mp h
    dsimp only at finished
    split at finished
    · obtain ⟨-, rfl⟩ := Prod.mk.inj (Except.ok.inj finished)
      exact .of_skipSpace here (elements_sound strict read).fronts_list
    · simp at finished
  · simp at h

end RecordForm

/-! ## Whole texts -/

/-- **What a whole text is read as**: the value of its document.  A text without one is refused. -/
theorem read_eq_ok_iff {r : Reader α} (isLocal : r.IsLocal) (strict : r.IsStrict) {text : String}
    {a : α} :
    read r text = .ok a ↔ ∃ s : Slot Document, text = s.text ∧ r.decode s.value = .ok a := by
  constructor
  · intro h
    obtain ⟨⟨a', rest⟩, front, left⟩ := bind_eq_ok_iff.mp h
    dsimp only at left
    split at left
    · next spaced =>
      obtain ⟨before, d, fronts⟩ := strict front
      obtain ⟨after, rfl⟩ := exists_gap spaced
      have slot : text = (⟨before, d, after⟩ : Slot Document).text := by
        rw [Slot.text, ← String.toList_inj, String.toList_ofList, fronts, List.append_nil]
      exact ⟨⟨before, d, after⟩, slot, by rw [← read_text isLocal, ← slot, h]⟩
    · simp at left
  · rintro ⟨s, rfl, h⟩
    rw [read_text isLocal, h]

end RelyingParty.Json
