import RelyingParty.Json.Numeral
import RelyingParty.Json.Scan

/-!
# Proofs/Json/Document — the grammar of JSON

A `Document` is a JSON value as it stands in a text: every escape, every digit and all white space
are part of it, so each valid text is what `Document.write` makes of some document.  The grammar is
the wide one, in which an escape may be half of a surrogate pair; such a text has no `content`.
-/

namespace RelyingParty.Json

/-! ## White space -/

/-- White space between two pieces. -/
structure Gap where
  chars : List Char
  isSpace_of_mem : ∀ c ∈ chars, isSpace c = true

/-- No white space at all. -/
def Gap.none : Gap := ⟨[], by simp⟩

/-! ## Texts -/

/-- Four hexadecimal digits. -/
structure HexDigits where
  digits : Fin 4 → Char
  value : Fin 4 → Nat
  hexValue_digits : ∀ i, Text.hexValue (digits i) = some (value i)

namespace HexDigits

/-- The digits as characters. -/
def write (q : HexDigits) : List Char := [q.digits 0, q.digits 1, q.digits 2, q.digits 3]

/-- The number that they spell. -/
def code (q : HexDigits) : Nat :=
  Text.ofHexDigits [q.value 0, q.value 1, q.value 2, q.value 3]

/-- The first half of a surrogate pair. -/
def IsLead (q : HexDigits) : Prop := 0xD800 ≤ q.code ∧ q.code ≤ 0xDBFF

/-- The second half of a surrogate pair. -/
def IsTrail (q : HexDigits) : Prop := 0xDC00 ≤ q.code ∧ q.code ≤ 0xDFFF

instance (q : HexDigits) : Decidable q.IsLead := inferInstanceAs (Decidable (_ ∧ _))

instance (q : HexDigits) : Decidable q.IsTrail := inferInstanceAs (Decidable (_ ∧ _))

end HexDigits

/-- **A piece of a text between its quotes.** -/
inductive Piece where
  /-- A character that stands for itself. -/
  | plain (c : Char) (ne_quote : c ≠ '"') (ne_backslash : c ≠ '\\') (visible : ¬c.toNat < 0x20)
  /-- An escape of one letter and the character that it stands for. -/
  | letter (c meaning : Char) (known : letterEscape c = some meaning)
  /-- An escape of a UTF-16 unit. -/
  | unit (digits : HexDigits)

/-- The characters of a piece. -/
def Piece.write : Piece → List Char
  | plain c .. => [c]
  | letter c .. => ['\\', c]
  | unit digits => '\\' :: 'u' :: digits.write

/-- **A text, piece by piece.** -/
abbrev Spelling := List Piece

namespace Spelling

/-- The characters between the quotes, and the closing quote. -/
def write (s : Spelling) : List Char := s.flatMap Piece.write ++ ['"']

/-- **What a text says.**  Half of a surrogate pair says nothing. -/
def content : Spelling → Except Fault (List Char)
  | [] => .ok []
  | .plain c .. :: pieces => (content pieces).map (c :: ·)
  | .letter _ meaning _ :: pieces => (content pieces).map (meaning :: ·)
  | .unit lead :: pieces =>
    if lead.IsTrail then .error .loneSurrogate
    else if lead.IsLead then
      match pieces with
      | .unit trail :: pieces =>
        if trail.IsTrail then
          (content pieces).map (joinSurrogates lead.code trail.code :: ·)
        else .error .loneSurrogate
      | _ => .error .pairUnfinished
    else (content pieces).map (Char.ofNat lead.code :: ·)

end Spelling

/-! ## Numbers -/

/-- One digit or more. -/
structure Digits where
  chars : List Char
  ne_nil : chars ≠ []
  isDigit_of_mem : ∀ c ∈ chars, c.isDigit = true

/-- An exponent: its letter, its sign if there is one (`true` for minus), its digits. -/
structure Exponent where
  capital : Bool
  sign : Option Bool
  digits : Digits

/-- **A number.** -/
structure Number where
  negative : Bool
  whole : Digits
  noLeadingZero : ∀ c s, whole.chars ≠ '0' :: c :: s
  fraction : Option Digits
  exponent : Option Exponent

namespace Number

/-- The characters of a fraction and its point. -/
def writeFraction : Option Digits → List Char
  | none => []
  | some ds => '.' :: ds.chars

/-- The characters of the sign in an exponent. -/
def writeSign : Option Bool → List Char
  | none => []
  | some true => ['-']
  | some false => ['+']

/-- The characters of an exponent and its letter. -/
def writeExponent : Option Exponent → List Char
  | none => []
  | some e => (if e.capital then 'E' else 'e') :: (writeSign e.sign ++ e.digits.chars)

/-- The characters of a number. -/
def write (n : Number) : List Char :=
  (if n.negative then ['-'] else []) ++
    (n.whole.chars ++ (writeFraction n.fraction ++ writeExponent n.exponent))

/-- The number without its spelling. -/
def numeral (n : Number) : Numeral where
  negative := n.negative
  whole := n.whole.chars
  fraction := n.fraction.map (·.chars)
  exponent := n.exponent.map fun e => (e.sign.getD false, e.digits.chars)

end Number

/-! ## Values -/

/-- A value with the white space around it. -/
structure Slot (α : Type) where
  before : Gap
  value : α
  after : Gap

/-- **A JSON value as it stands in a text.** -/
inductive Document where
  | null
  | flag (value : Bool)
  | number (n : Number)
  | text (s : Spelling)
  | list (gap : Gap) (items : List (Slot Document))
  /-- Every member has a name, in a slot of its own. -/
  | object (gap : Gap) (members : List (Slot Spelling × Slot Document))

/-- **Induction on documents.**  A list or an object inherits from the values in it. -/
@[induction_eliminator]
theorem Document.induct {motive : Document → Prop} (null : motive .null)
    (flag : ∀ value, motive (.flag value)) (number : ∀ n, motive (.number n))
    (text : ∀ s, motive (.text s))
    (list : ∀ gap items, (∀ slot ∈ items, motive slot.value) → motive (.list gap items))
    (object : ∀ gap members, (∀ member ∈ members, motive member.2.value) →
      motive (.object gap members)) : ∀ d, motive d
  | .null => null
  | .flag value => flag value
  | .number n => number n
  | .text s => text s
  | .list gap items => list gap items fun slot _ =>
      Document.induct null flag number text list object slot.value
  | .object gap members => object gap members fun member _ =>
      Document.induct null flag number text list object member.2.value
termination_by d => sizeOf d
decreasing_by
  · have item := List.sizeOf_lt_of_mem ‹slot ∈ items›
    obtain ⟨before, value, after⟩ := slot
    simp only [Slot.mk.sizeOf_spec, Document.list.sizeOf_spec] at item ⊢
    omega
  · have item := List.sizeOf_lt_of_mem ‹member ∈ members›
    obtain ⟨name, before, value, after⟩ := member
    simp only [Prod.mk.sizeOf_spec, Slot.mk.sizeOf_spec, Document.object.sizeOf_spec] at item ⊢
    omega

/-- What separates an entry from the one before it, if there is one. -/
def comma (first : Bool) : List Char := if first then [] else [',']

@[simp] theorem comma_true_append (s : List Char) : comma true ++ s = s := rfl

mutual

/-- **The characters of a value.** -/
def Document.write : Document → List Char
  | .null => ['n', 'u', 'l', 'l']
  | .flag true => ['t', 'r', 'u', 'e']
  | .flag false => ['f', 'a', 'l', 's', 'e']
  | .number n => n.write
  | .text s => '"' :: s.write
  | .list gap items => '[' :: (gap.chars ++ writeItems true items)
  | .object gap members => '{' :: (gap.chars ++ writeMembers true members)

/-- The items of a list and its closing bracket. -/
def writeItems (first : Bool) : List (Slot Document) → List Char
  | [] => [']']
  | ⟨before, d, after⟩ :: items =>
    comma first ++ (before.chars ++ (d.write ++ (after.chars ++ writeItems false items)))

/-- The members of an object and its closing bracket. -/
def writeMembers (first : Bool) : List (Slot Spelling × Slot Document) → List Char
  | [] => ['}']
  | (name, ⟨before, d, after⟩) :: members =>
    comma first ++ (name.before.chars ++ ('"' :: (name.value.write ++ (name.after.chars ++
      (':' :: (before.chars ++ (d.write ++ (after.chars ++ writeMembers false members))))))))

end

@[simp] theorem Document.write_number (n : Number) : (number n).write = n.write := by
  rw [Document.write]

@[simp] theorem Document.write_text (s : Spelling) : (text s).write = '"' :: s.write := by
  rw [Document.write]

@[simp] theorem Document.write_list (gap : Gap) (items : List (Slot Document)) :
    (list gap items).write = '[' :: (gap.chars ++ writeItems true items) := by
  rw [Document.write]

@[simp] theorem Document.write_object (gap : Gap) (members : List (Slot Spelling × Slot Document)) :
    (object gap members).write = '{' :: (gap.chars ++ writeMembers true members) := by
  rw [Document.write]

theorem writeItems_cons (first : Bool) (slot : Slot Document) (items : List (Slot Document))
    (rest : List Char) :
    writeItems first (slot :: items) ++ rest = comma first ++ (slot.before.chars ++
      (slot.value.write ++ (slot.after.chars ++ (writeItems false items ++ rest)))) := by
  simp only [writeItems, List.append_assoc]

theorem writeMembers_cons (first : Bool) (name : Slot Spelling) (slot : Slot Document)
    (members : List (Slot Spelling × Slot Document)) (rest : List Char) :
    writeMembers first ((name, slot) :: members) ++ rest = comma first ++ (name.before.chars ++
      ('"' :: (name.value.write ++ (name.after.chars ++ ':' :: (slot.before.chars ++
        (slot.value.write ++ (slot.after.chars ++ (writeMembers false members ++ rest)))))))) := by
  simp only [writeMembers, List.append_assoc, List.cons_append]

/-- Items are longer than their values. -/
theorem length_writeItems_cons (first : Bool) (slot : Slot Document)
    (items : List (Slot Document)) :
    slot.value.write.length + (writeItems false items).length
      ≤ (writeItems first (slot :: items)).length := by
  simp only [writeItems, List.length_append]
  omega

/-- Members are longer than their values. -/
theorem length_writeMembers_cons (first : Bool) (member : Slot Spelling × Slot Document)
    (members : List (Slot Spelling × Slot Document)) :
    member.2.value.write.length + (writeMembers false members).length
      ≤ (writeMembers first (member :: members)).length := by
  obtain ⟨name, before, d, after⟩ := member
  simp only [writeMembers, List.length_append, List.length_cons]
  omega

/-- **A whole text**: one value and the white space around it. -/
def Slot.text (s : Slot Document) : String :=
  String.ofList (s.before.chars ++ (s.value.write ++ s.after.chars))

end RelyingParty.Json
