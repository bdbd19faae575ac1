import RelyingParty.Json.Reader
import RelyingParty.Proofs.Except
import RelyingParty.Proofs.Json.Numbers

/-!
# Proofs/Json/Scanning — the scanners on the pieces of a document

Each scanner takes what `Document.write` puts in front of it and leaves the rest alone: white space,
texts, separators, and the first look at a value of which only the kind matters.
-/

namespace RelyingParty.Json

/-! ## White space and what begins after it -/

theorem skipSpace_gap (g : Gap) (s : List Char) : skipSpace (g.chars ++ s) = skipSpace s :=
  List.dropWhile_append_of_pos g.isSpace_of_mem

theorem skipSpace_cons {c : Char} (h : isSpace c = false) (s : List Char) :
    skipSpace (c :: s) = c :: s :=
  List.dropWhile_cons_of_neg (by simp [h])

/-- A character that begins a value or a name: neither white space nor a separator. -/
structure Begins (c : Char) : Prop where
  not_isSpace : isSpace c = false
  ne_close : ∀ b : Bracket, c ≠ b.close
  ne_comma : c ≠ ','

theorem Begins.of_ne {c : Char} (h : isSpace c = false) (list : c ≠ ']') (object : c ≠ '}')
    (comma : c ≠ ',') : Begins c where
  not_isSpace := h
  ne_close b := by cases b <;> assumption
  ne_comma := comma

theorem Begins.quote : Begins '"' := .of_ne rfl (by simp) (by simp) (by simp)

theorem Begins.number {c : Char} (h : c = '-' ∨ c.isDigit = true) : Begins c := by
  have other (d : Char) (hd : d ≠ '-' ∧ d.isDigit = false) : c ≠ d := Number.front_ne h hd
  exact .of_ne (by simp [isSpace, other]) (other _ (by simp)) (other _ (by simp))
    (other _ (by simp))

/-- **The first character of a document begins a value.** -/
theorem Document.write_eq_cons (d : Document) : ∃ c s, d.write = c :: s ∧ Begins c := by
  cases d with
  | null => exact ⟨_, _, rfl, .of_ne rfl (by simp) (by simp) (by simp)⟩
  | flag value =>
    cases value with
    | true => exact ⟨_, _, rfl, .of_ne rfl (by simp) (by simp) (by simp)⟩
    | false => exact ⟨_, _, rfl, .of_ne rfl (by simp) (by simp) (by simp)⟩
  | text s => exact ⟨_, _, rfl, Begins.quote⟩
  | list gap items => exact ⟨_, _, rfl, .of_ne rfl (by simp) (by simp) (by simp)⟩
  | object gap members => exact ⟨_, _, rfl, .of_ne rfl (by simp) (by simp) (by simp)⟩
  | number n =>
    obtain ⟨c, s, hc, begins⟩ := n.write_eq_cons
    exact ⟨c, s, hc, Begins.number begins⟩

/-- A document stands where white space has been skipped. -/
theorem skipSpace_write (d : Document) (rest : List Char) :
    skipSpace (d.write ++ rest) = d.write ++ rest := by
  obtain ⟨c, s, h, hc⟩ := d.write_eq_cons
  rw [h]
  exact skipSpace_cons hc.not_isSpace _

theorem skipSpace_gap_write (g : Gap) (d : Document) (rest : List Char) :
    skipSpace (g.chars ++ (d.write ++ rest)) = d.write ++ rest := by
  rw [skipSpace_gap, skipSpace_write]

/-! ## Texts -/

theorem hexQuad_write (q : HexDigits) (rest : List Char) :
    hexQuad (q.write ++ rest) = .ok (q.code, rest) := by
  simp [hexQuad, HexDigits.write, HexDigits.code, q.hexValue_digits]

theorem ne_u_of_letterEscape {c meaning : Char} (h : letterEscape c = some meaning) : c ≠ 'u' := by
  rintro rfl
  simp [letterEscape] at h

theorem escape_letter {c meaning : Char} (h : letterEscape c = some meaning) (rest : List Char) :
    escape (c :: rest) = .ok (meaning, rest) := by
  have hu := ne_u_of_letterEscape h
  simp [escape, h]

theorem textContent_of_escape_error {s : List Char} {e : Fault} (h : escape s = .error e) :
    textContent ('\\' :: s) = .error e := by
  rw [textContent, if_neg (by simp), if_pos rfl]
  split
  · next h' =>
    rw [h'] at h
    exact congrArg Except.error (Except.error.inj h)
  · next h' => simp [h] at h'

/-- An escape of a unit that is no half of a surrogate pair. -/
theorem escape_unit {q : HexDigits} (ht : ¬q.IsTrail) (hl : ¬q.IsLead) (rest : List Char) :
    escape ('u' :: (q.write ++ rest)) = .ok (Char.ofNat q.code, rest) := by
  simp only [escape, hexQuad_write, bind, Except.bind]
  exact (if_neg ht).trans (if_neg hl)

theorem escape_trail {q : HexDigits} (ht : q.IsTrail) (rest : List Char) :
    escape ('u' :: (q.write ++ rest)) = .error .loneSurrogate := by
  simp only [escape, hexQuad_write, bind, Except.bind]
  exact if_pos ht

theorem escape_lead {q : HexDigits} (ht : ¬q.IsTrail) (hl : q.IsLead) (rest : List Char) :
    escape ('u' :: (q.write ++ rest)) = trailSurrogate q.code rest := by
  simp only [escape, hexQuad_write, bind, Except.bind]
  exact (if_neg ht).trans (if_pos hl)

theorem trailSurrogate_unit (lead : Nat) (q : HexDigits) (rest : List Char) :
    trailSurrogate lead ('\\' :: 'u' :: (q.write ++ rest)) =
      if q.IsTrail then .ok (joinSurrogates lead q.code, rest) else .error .loneSurrogate := by
  simp only [trailSurrogate, hexQuad_write, bind, Except.bind]
  rfl

theorem trailSurrogate_plain (lead : Nat) {c : Char} (h : c ≠ '\\') (rest : List Char) :
    trailSurrogate lead (c :: rest) = .error .pairUnfinished := by
  simp [trailSurrogate, h]

theorem trailSurrogate_letter (lead : Nat) {c meaning : Char} (h : letterEscape c = some meaning)
    (rest : List Char) : trailSurrogate lead ('\\' :: c :: rest) = .error .pairUnfinished := by
  have hu := ne_u_of_letterEscape h
  unfold trailSurrogate
  split <;> simp_all

/-- The first half of a surrogate pair needs another escape behind it. -/
theorem trailSurrogate_write (lead : Nat) {s : Spelling} (h : ∀ q t, s ≠ .unit q :: t)
    (rest : List Char) : trailSurrogate lead (s.write ++ rest) = .error .pairUnfinished := by
  cases s with
  | nil => exact trailSurrogate_plain lead (by simp) _
  | cons piece s =>
    cases piece with
    | plain c _ ne_backslash _ => exact trailSurrogate_plain lead ne_backslash _
    | letter c meaning known => exact trailSurrogate_letter lead known _
    | unit q => exact absurd rfl (h q s)

@[simp] theorem Spelling.write_cons (p : Piece) (s : Spelling) (rest : List Char) :
    Spelling.write (p :: s) ++ rest = p.write ++ (s.write ++ rest) := by
  simp [Spelling.write]

/-- **Scanning a text gives what it says**, or the fault of the half pair in it. -/
theorem textContent_write (s : Spelling) (rest : List Char) :
    textContent (s.write ++ rest) = s.content.map fun cs => (cs, rest) := by
  fun_induction Spelling.content s with
  | case1 => exact textContent_quote rest
  | case2 c ne_quote ne_backslash visible s ih =>
    rw [Spelling.write_cons]
    change textContent (c :: (Spelling.write s ++ rest)) = _
    rw [textContent_cons ne_quote ne_backslash visible, ih, except_map_map, except_map_map]
    rfl
  | case3 c meaning known s ih =>
    rw [Spelling.write_cons]
    change textContent ('\\' :: c :: (Spelling.write s ++ rest)) = _
    rw [textContent_of_escape (escape_letter known _), ih, except_map_map, except_map_map]
    rfl
  | case4 q s ht =>
    rw [Spelling.write_cons]
    exact textContent_of_escape_error (escape_trail ht _)
  | case5 lead ht hl trail s ht' ih =>
    have pair : escape ('u' :: (lead.write ++ (Spelling.write (.unit trail :: s) ++ rest))) =
        .ok (joinSurrogates lead.code trail.code, Spelling.write s ++ rest) := by
      rw [escape_lead ht hl, Spelling.write_cons]
      exact (trailSurrogate_unit _ trail _).trans (if_pos ht')
    rw [Spelling.write_cons]
    change textContent ('\\' :: 'u' :: (lead.write ++ _)) = _
    rw [textContent_of_escape pair, ih, except_map_map, except_map_map]
    rfl
  | case6 lead ht hl trail s ht' =>
    rw [Spelling.write_cons]
    refine textContent_of_escape_error ((escape_lead ht hl _).trans ?_)
    rw [Spelling.write_cons]
    exact (trailSurrogate_unit _ trail _).trans (if_neg ht')
  | case7 lead s ht hl other =>
    rw [Spelling.write_cons]
    refine textContent_of_escape_error ((escape_lead ht hl _).trans ?_)
    exact trailSurrogate_write _ other _
  | case8 unit s ht hl ih =>
    rw [Spelling.write_cons]
    change textContent ('\\' :: 'u' :: (unit.write ++ (Spelling.write s ++ rest))) = _
    rw [textContent_of_escape (escape_unit ht hl _), ih, except_map_map, except_map_map]
    rfl

/-! ## Separators -/

theorem Bracket.isSpace_close (b : Bracket) : isSpace b.close = false := by
  cases b <;> rfl

theorem Bracket.comma_ne_close (b : Bracket) : ',' ≠ b.close := by
  cases b <;> simp [Bracket.close]

/-- The closing bracket is a turn of its own, whether an entry came before or not. -/
theorem turn_close (b : Bracket) (first : Bool) (g : Gap) (rest : List Char) :
    turn b first (g.chars ++ b.close :: rest) = .ok (.closed rest) := by
  rw [turn, skipSpace_gap, skipSpace_cons b.isSpace_close]
  exact if_pos rfl

/-- **The turn to another entry**, behind the comma that separates it from the one before. -/
theorem turn_another (b : Bracket) (first : Bool) (g before : Gap) {c : Char} (h : Begins c)
    (s : List Char) :
    turn b first (g.chars ++ (comma first ++ (before.chars ++ c :: s)))
      = .ok (.another (c :: s)) := by
  have entry : skipSpace (before.chars ++ c :: s) = c :: s := by
    rw [skipSpace_gap, skipSpace_cons h.not_isSpace]
  cases first with
  | true =>
    change turn b true (g.chars ++ (before.chars ++ c :: s)) = _
    rw [turn, skipSpace_gap, entry]
    exact (if_neg (h.ne_close b)).trans (if_pos rfl)
  | false =>
    change turn b false (g.chars ++ ',' :: (before.chars ++ c :: s)) = _
    rw [turn, skipSpace_gap, skipSpace_cons rfl]
    simp only [if_neg b.comma_ne_close, entry, if_neg (h.ne_close b), Bool.false_eq_true,
      if_false, if_true]

theorem turn_another_write (b : Bracket) (first : Bool) (g before : Gap) (d : Document)
    (s : List Char) :
    turn b first (g.chars ++ (comma first ++ (before.chars ++ (d.write ++ s))))
      = .ok (.another (d.write ++ s)) := by
  obtain ⟨c, t, h, hc⟩ := d.write_eq_cons
  rw [h]
  exact turn_another b first g before hc (t ++ s)

theorem colon_gap (g : Gap) (s : List Char) : colon (g.chars ++ ':' :: s) = .ok s := by
  rw [colon, skipSpace_gap, skipSpace_cons rfl]
  rfl

/-! ## What stands at the front -/

theorem literal_append (word rest : List Char) : literal word (word ++ rest) = .ok rest := by
  induction word with
  | nil => rfl
  | cons c word ih =>
    rw [List.cons_append, literal, if_pos rfl]
    exact ih

/-- **What kind of value a document is.** -/
def Document.found : Document → Except Fault Found
  | null => .ok .null
  | flag value => .ok (.flag value)
  | number n => n.numeral.found
  | text s => s.content.map fun cs => .text (String.ofList cs)
  | list .. => .ok .sequence
  | object .. => .ok .map

/-- **The fault of a document of another kind than the one that is due.** -/
def Document.mismatch (due : Due) (d : Document) : Fault :=
  match d.found with
  | .ok f => .wrongKind f due
  | .error e => e

theorem Found.scan_write (d : Document) {rest : List Char} (h : Ends rest) :
    Found.scan (d.write ++ rest) = d.found := by
  cases d with
  | null => rfl
  | flag value => cases value <;> rfl
  | list gap items => rfl
  | object gap members => rfl
  | text s =>
    rw [Document.write_text, List.cons_append, Found.scan, textContent_write]
    cases hs : s.content <;> simp [Document.found, hs, Except.map, bind, Except.bind]
  | number n =>
    have scanned := Numeral.scan_write n h
    obtain ⟨c, s, hc, begins⟩ := n.write_eq_cons
    change Found.scan (n.write ++ rest) = n.numeral.found
    rw [hc, List.cons_append] at scanned ⊢
    have other (d : Char) (hd : d ≠ '-' ∧ d.isDigit = false) : c ≠ d := Number.front_ne begins hd
    simp [Found.scan, other, begins, scanned]

/-- **A document of another kind than the one that is due.** -/
theorem mismatch_write (due : Due) (d : Document) {rest : List Char} (h : Ends rest) :
    mismatch due (d.write ++ rest) = d.mismatch due := by
  rw [mismatch, Found.scan_write d h]
  rfl

end RelyingParty.Json
