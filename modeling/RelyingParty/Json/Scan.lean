import RelyingParty.Json.Fault
import RelyingParty.Text.Hex

/-!
# Json/Scan — the smallest pieces of a JSON text

A scanner takes what is left of the text and gives back what it found and what is left after it, or
the fault it met. Here are the pieces without structure: white space, the three literals, the
content of a text, and the separators between the entries of a list or an object.
-/

namespace RelyingParty.Json

/-! ## White space and literals -/

/-- The four characters that may stand between any two pieces. -/
def isSpace (c : Char) : Bool := c = ' ' || c = '\n' || c = '\t' || c = '\r'

/-- The text from its first character that is no white space. -/
def skipSpace (s : List Char) : List Char := s.dropWhile isSpace

/-- The text after the given word. -/
def literal : (word : List Char) → List Char → Except Fault (List Char)
  | [], s => .ok s
  | _ :: _, [] => .error .valueUnfinished
  | w :: word, c :: s => if c = w then literal word s else .error .misspeltLiteral

/-- The text after a colon. -/
def colon (s : List Char) : Except Fault (List Char) :=
  match skipSpace s with
  | [] => .error .objectUnfinished
  | ':' :: s => .ok s
  | _ :: _ => .error .colonExpected

/-! ## Texts -/

/-- Four hexadecimal digits, as a number. With fewer than four bytes left the text has ended too
soon, whatever they are. -/
def hexQuad : List Char → Except Fault (Nat × List Char)
  | a :: b :: c :: d :: s =>
    match Text.hexValue a, Text.hexValue b, Text.hexValue c, Text.hexValue d with
    | some a, some b, some c, some d => .ok (Text.ofHexDigits [a, b, c, d], s)
    | _, _, _, _ => .error .badEscape
  | s => .error (if (String.ofList s).utf8ByteSize < 4 then .textUnfinished else .badEscape)

/-- The character that a one-letter escape stands for. -/
def letterEscape : Char → Option Char
  | '"' => some '"'
  | '\\' => some '\\'
  | '/' => some '/'
  | 'b' => some '\x08'
  | 'f' => some '\x0c'
  | 'n' => some '\n'
  | 'r' => some '\r'
  | 't' => some '\t'
  | _ => none

/-- The character of a surrogate pair. -/
def joinSurrogates (lead trail : Nat) : Char :=
  Char.ofNat (0x10000 + (lead - 0xD800) * 0x400 + (trail - 0xDC00))

/-- The second half of the surrogate pair that begins with `lead`. -/
def trailSurrogate (lead : Nat) : List Char → Except Fault (Char × List Char)
  | [] | ['\\'] => .error .textUnfinished
  | '\\' :: 'u' :: s => do
    let (trail, s) ← hexQuad s
    if 0xDC00 ≤ trail ∧ trail ≤ 0xDFFF then .ok (joinSurrogates lead trail, s)
    else .error .loneSurrogate
  | _ => .error .pairUnfinished

/-- The character that an escape stands for; the text begins after the backslash. -/
def escape : List Char → Except Fault (Char × List Char)
  | [] => .error .textUnfinished
  | 'u' :: s => do
    let (unit, s) ← hexQuad s
    if 0xDC00 ≤ unit ∧ unit ≤ 0xDFFF then .error .loneSurrogate
    else if 0xD800 ≤ unit ∧ unit ≤ 0xDBFF then trailSurrogate unit s
    else .ok (Char.ofNat unit, s)
  | c :: s =>
    match letterEscape c with
    | some c => .ok (c, s)
    | none => .error .badEscape

theorem length_of_hexQuad {s r : List Char} {n : Nat} (h : hexQuad s = .ok (n, r)) :
    r.length < s.length := by
  unfold hexQuad at h
  split at h
  · split at h
    · simp only [Except.ok.injEq, Prod.mk.injEq] at h
      simp [← h.2]
      omega
    · simp at h
  · simp at h

theorem length_of_trailSurrogate {s r : List Char} {lead : Nat} {c : Char}
    (h : trailSurrogate lead s = .ok (c, r)) : r.length < s.length := by
  unfold trailSurrogate at h
  split at h
  · simp at h
  · simp at h
  · next s =>
    cases hq : hexQuad s with
    | error e => simp [hq, bind, Except.bind] at h
    | ok p =>
      have := length_of_hexQuad (r := p.2) (n := p.1) hq
      simp only [hq, bind, Except.bind] at h
      split at h <;> simp at h
      simp [← h.2]
      omega
  · simp at h

/-- **An escape is at least one character long.** -/
theorem length_of_escape {s r : List Char} {c : Char} (h : escape s = .ok (c, r)) :
    r.length < s.length := by
  unfold escape at h
  split at h
  · simp at h
  · next s =>
    cases hq : hexQuad s with
    | error e => simp [hq, bind, Except.bind] at h
    | ok p =>
      have := length_of_hexQuad (r := p.2) (n := p.1) hq
      simp only [hq, bind, Except.bind] at h
      split at h
      · simp at h
      · split at h
        · have := length_of_trailSurrogate h
          simp
          omega
        · simp at h
          simp [← h.2]
          omega
  · split at h <;> simp at h
    simp [← h.2]

/-- **The content of a text**, from behind the opening quote to behind the closing one. -/
def textContent : List Char → Except Fault (List Char × List Char)
  | [] => .error .textUnfinished
  | c :: s =>
    if c = '"' then .ok ([], s)
    else if c = '\\' then
      match h : escape s with
      | .error e => .error e
      | .ok (c, r) =>
        have : r.length < s.length := length_of_escape h
        (textContent r).map fun (cs, r) => (c :: cs, r)
    else if c.toNat < 0x20 then .error .controlCharacter
    else (textContent s).map fun (cs, r) => (c :: cs, r)
termination_by s => s.length
decreasing_by all_goals simp; try omega

theorem textContent_quote (s : List Char) : textContent ('"' :: s) = .ok ([], s) := by
  simp [textContent]

theorem textContent_of_escape {s r : List Char} {c : Char} (h : escape s = .ok (c, r)) :
    textContent ('\\' :: s) = (textContent r).map fun (cs, r) => (c :: cs, r) := by
  rw [textContent, if_neg (by decide), if_pos rfl]
  split <;> simp_all

theorem textContent_cons {c : Char} (quote : c ≠ '"') (backslash : c ≠ '\\')
    (control : ¬c.toNat < 0x20) (s : List Char) :
    textContent (c :: s) = (textContent s).map fun (cs, r) => (c :: cs, r) := by
  rw [textContent, if_neg quote, if_neg backslash, if_neg control]

/-! ## Separators -/

/-- The two kinds of bracket. -/
inductive Bracket where
  | list
  | object

/-- The closing bracket. -/
def Bracket.close : Bracket → Char
  | list => ']'
  | object => '}'

/-- The text ends between two entries. -/
def Bracket.unfinished : Bracket → Fault
  | list => .listUnfinished
  | object => .objectUnfinished

/-- Something that is no separator stands after an entry. -/
def Bracket.separatorExpected : Bracket → Fault
  | list => .listSeparatorExpected
  | object => .objectSeparatorExpected

/-- What comes next between brackets: the closing one, or another entry. -/
inductive Turn where
  /-- The bracket is closed; the text after it follows. -/
  | closed (rest : List Char)
  /-- Another entry begins here. -/
  | another (rest : List Char)

/-- **What comes next between brackets.** `first` says that no entry came before, so that none has
to be separated from the next. -/
def turn (b : Bracket) (first : Bool) (s : List Char) : Except Fault Turn :=
  match skipSpace s with
  | [] => .error b.unfinished
  | c :: r =>
    if c = b.close then .ok (.closed r)
    else if first then .ok (.another (c :: r))
    else if c = ',' then
      match skipSpace r with
      | [] => .error .valueUnfinished
      | c :: r => if c = b.close then .error .trailingComma else .ok (.another (c :: r))
    else .error b.separatorExpected

end RelyingParty.Json
