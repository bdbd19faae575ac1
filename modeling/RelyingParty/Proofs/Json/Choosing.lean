import RelyingParty.Proofs.Json.Decoding

/-!
# Proofs/Json/Choosing — readers that go by the first character

A flag, a null, an option and a choice are told from other documents by the first character, before
anything else of them is read.  Each of these readers is local all the same: what follows that
character belongs to the document, or the document is of another kind and refused as such.
-/

namespace RelyingParty.Json

/-- **The three words are told by their first characters.** -/
theorem Document.of_word {d : Document} {rest s : List Char} {c : Char}
    (h : d.write ++ rest = c :: s) :
    (c = 'n' → d = .null) ∧ (c = 't' → d = .flag true) ∧ (c = 'f' → d = .flag false) := by
  cases d with
  | null =>
    obtain ⟨rfl, -⟩ := List.cons.inj h
    simp
  | flag value =>
    cases value <;> obtain ⟨rfl, -⟩ := List.cons.inj h <;> simp
  | number n =>
    obtain ⟨front, t, ht, begins⟩ := n.write_eq_cons
    rw [write_number, ht] at h
    obtain ⟨rfl, -⟩ := List.cons.inj h
    have other (d : Char) (hd : d ≠ '-' ∧ d.isDigit = false) : front ≠ d :=
      Number.front_ne begins hd
    simp [other]
  | text t =>
    rw [write_text] at h
    obtain ⟨rfl, -⟩ := List.cons.inj h
    simp
  | list gap items =>
    rw [write_list] at h
    obtain ⟨rfl, -⟩ := List.cons.inj h
    simp
  | object gap members =>
    rw [write_object] at h
    obtain ⟨rfl, -⟩ := List.cons.inj h
    simp

namespace Reader

/-! ## Flags and null -/

/-- The truth value of a document. -/
def flagOf : Document → Except Fault Bool
  | .flag b => .ok b
  | d => .error (d.mismatch .flag)

theorem flag_reads : flag.Reads flagOf := by
  intro g d rest ends
  rw [flag, skipSpace_gap_write]
  split
  · next front =>
    obtain rfl := (Document.of_word front).2.1 rfl
    obtain ⟨-, rfl⟩ := List.cons.inj front
    rfl
  · next front =>
    obtain rfl := (Document.of_word front).2.2 rfl
    obtain ⟨-, rfl⟩ := List.cons.inj front
    rfl
  · next yes no =>
    rw [mismatch_write .flag d ends]
    cases d with
    | flag b =>
      cases b with
      | true => exact absurd rfl (yes _)
      | false => exact absurd rfl (no _)
    | _ => rfl

/-- Nothing but null. -/
def unitOf : Document → Except Fault Unit
  | .null => .ok ()
  | d => .error (d.mismatch .unit)

theorem unit_reads : unit.Reads unitOf := by
  intro g d rest ends
  rw [unit, skipSpace_gap_write]
  split
  · next front =>
    obtain rfl := (Document.of_word front).1 rfl
    obtain ⟨-, rfl⟩ := List.cons.inj front
    rfl
  · next other =>
    rw [mismatch_write .unit d ends]
    cases d with
    | null => exact absurd rfl (other _)
    | _ => rfl

/-! ## Options -/

/-- The value of a document other than null. -/
def optionOf (item : Reader α) : Document → Except Fault (Option α)
  | .null => .ok none
  | d => (item.decode d).map some

theorem optional_reads {item : Reader α} (h : item.IsLocal) :
    (optional item).Reads (optionOf item) := by
  intro g d rest ends
  rw [optional, skipSpace_gap_write]
  split
  · next front =>
    obtain rfl := (Document.of_word front).1 rfl
    obtain ⟨-, rfl⟩ := List.cons.inj front
    rfl
  · next other =>
    have value : optionOf item d = (item.decode d).map some := by
      cases d with
      | null => exact absurd rfl (other _)
      | _ => rfl
    rw [value, h.front d ends]
    cases item.decode d <;> rfl

/-! ## Choices -/

/-- The choice that a document names. -/
def choiceOf (choices : List (String × α)) : Document → Except Fault α
  | .text s => do choose choices (String.ofList (← s.content))
  | .object _ ((name, slot) :: members) => do
    let a ← choose choices (String.ofList (← name.value.content))
    unitOf slot.value
    if members.isEmpty then .ok a else .error .valueExpected
  | _ => .error .valueExpected

/-- The only member of an object that names a choice. -/
theorem choice_member (choices : List (String × α)) (gap : Gap) (name : Slot Spelling)
    (slot : Slot Document) (members : List (Slot Spelling × Slot Document)) (g : Gap)
    (rest : List Char) :
    choice choices (g.chars ++ ((Document.object gap ((name, slot) :: members)).write ++ rest))
      = (choiceOf choices (.object gap ((name, slot) :: members))).map fun a => (a, rest) := by
  have quote : skipSpace (gap.chars ++ (writeMembers true ((name, slot) :: members) ++ rest))
      = '"' :: (name.value.write ++ (name.after.chars ++ ':' :: (slot.before.chars ++
        (slot.value.write ++ (slot.after.chars ++ (writeMembers false members ++ rest)))))) := by
    rw [writeMembers_cons, comma_true_append, skipSpace_gap, skipSpace_gap]
    exact skipSpace_cons Begins.quote.not_isSpace _
  have ends := Ends.gap (Ends.writeMembers_false members rest) slot.after
  have null := unit_reads slot.before slot.value ends
  rw [choice, skipSpace_gap_write, Document.write_object, List.cons_append, List.append_assoc]
  simp only [quote, textContent_write, choiceOf, bind, Except.bind]
  cases name.value.content with
  | error e => rfl
  | ok content =>
    simp only [Except.map]
    cases choose choices (String.ofList content) with
    | error e => rfl
    | ok a =>
      simp only [colon_gap, null]
      cases unitOf slot.value with
      | error e => rfl
      | ok _ =>
        simp only [Except.map, skipSpace_gap]
        cases members <;> rfl

theorem choice_reads (choices : List (String × α)) : (choice choices).Reads (choiceOf choices) := by
  intro g d rest ends
  cases d with
  | text s =>
    rw [choice, skipSpace_gap_write, Document.write_text, List.cons_append]
    simp only [textContent_write, choiceOf, bind, Except.bind]
    cases s.content with
    | error e => rfl
    | ok content =>
      cases choose choices (String.ofList content) <;> rfl
  | object gap members =>
    cases members with
    | nil =>
      have closed : skipSpace (gap.chars ++ (writeMembers true [] ++ rest)) = '}' :: rest :=
        (skipSpace_gap gap _).trans (skipSpace_cons rfl rest)
      rw [choice, skipSpace_gap_write, Document.write_object, List.cons_append, List.append_assoc]
      simp only [closed]
      rfl
    | cons member members => exact choice_member choices gap member.1 member.2 members g rest
  | null => rw [choice, skipSpace_gap_write]; rfl
  | flag b => cases b <;> (rw [choice, skipSpace_gap_write]; rfl)
  | list gap items => rw [choice, skipSpace_gap_write]; rfl
  | number n =>
    obtain ⟨c, s, hc, begins⟩ := n.write_eq_cons
    have other (d : Char) (hd : d ≠ '-' ∧ d.isDigit = false) : c ≠ d := Number.front_ne begins hd
    rw [choice, skipSpace_gap_write, Document.write_number, hc]
    simp [other, choiceOf, Except.map]

end Reader

end RelyingParty.Json
