import RelyingParty.Proofs.Json.Scanning

/-!
# Proofs/Json/Skipping — passing over any document

Whatever a document is, `skipValue` comes out right behind it.  The induction is on the document,
with the steps that remain as a bound: three for each of its characters are enough.
-/

namespace RelyingParty.Json

/-! ## Texts -/

theorem skipText_quote (s : List Char) : skipText ('"' :: s) = .ok s := by
  rw [skipText.eq_def]
  simp

theorem skipText_plain {c : Char} (quote : c ≠ '"') (backslash : c ≠ '\\')
    (control : ¬c.toNat < 0x20) (s : List Char) : skipText (c :: s) = skipText s := by
  rw [skipText.eq_def]
  exact (if_neg quote).trans ((if_neg backslash).trans (if_neg control))

theorem skipText_letter {c meaning : Char} (known : letterEscape c = some meaning)
    (s : List Char) : skipText ('\\' :: c :: s) = skipText s := by
  have hu := ne_u_of_letterEscape known
  rw [skipText.eq_def]
  simp [known]

theorem skipText_unit (q : HexDigits) (s : List Char) :
    skipText ('\\' :: 'u' :: (q.write ++ s)) = skipText s := by
  rw [skipText.eq_def]
  simp only [Char.reduceEq, if_true, if_false]
  split
  · next h => simp [hexQuad_write] at h
  · next h =>
    rw [hexQuad_write] at h
    obtain ⟨-, rfl⟩ := Prod.mk.inj (Except.ok.inj h)
    rfl

/-- **Passing over a text** takes no notice of half pairs. -/
theorem skipText_write (s : Spelling) (rest : List Char) :
    skipText (s.write ++ rest) = .ok rest := by
  induction s with
  | nil => exact skipText_quote rest
  | cons piece s ih =>
    rw [Spelling.write_cons]
    cases piece with
    | plain c ne_quote ne_backslash visible =>
      exact (skipText_plain ne_quote ne_backslash visible _).trans ih
    | letter c meaning known => exact (skipText_letter known _).trans ih
    | unit q => exact (skipText_unit q _).trans ih

/-- A name and the colon behind it. -/
theorem skipLabel_write (name : Slot Spelling) (rest : List Char) :
    skipLabel .object (name.before.chars ++
      ('"' :: (name.value.write ++ (name.after.chars ++ ':' :: rest)))) = .ok rest := by
  simp only [skipLabel]
  rw [skipSpace_gap, skipSpace_cons rfl]
  simp only [skipText_write, bind, Except.bind, colon_gap]

theorem skipNumber_write (n : Number) {rest : List Char} (h : Ends rest) :
    skipNumber (n.write ++ rest) = .ok rest := by
  rw [skipNumber, Numeral.scan_write n h]

/-! ## Lengths -/

theorem Document.length_write_pos (d : Document) : 0 < d.write.length := by
  obtain ⟨c, s, h, -⟩ := d.write_eq_cons
  simp [h]

/-- No list has more items than characters. -/
theorem length_le_writeItems (first : Bool) (items : List (Slot Document)) :
    items.length ≤ (writeItems first items).length := by
  induction items generalizing first with
  | nil => exact Nat.zero_le _
  | cons slot items ih =>
    have longer := length_writeItems_cons first slot items
    have pos := slot.value.length_write_pos
    have rest := ih false
    rw [List.length_cons]
    omega

/-- No object has more members than characters. -/
theorem length_le_writeMembers (first : Bool) (members : List (Slot Spelling × Slot Document)) :
    members.length ≤ (writeMembers first members).length := by
  induction members generalizing first with
  | nil => exact Nat.zero_le _
  | cons member members ih =>
    have longer := length_writeMembers_cons first member members
    have pos := member.2.value.length_write_pos
    have rest := ih false
    rw [List.length_cons]
    omega

theorem length_writeItems_pos (items : List (Slot Document)) :
    0 < (writeItems false items).length := by
  cases items <;> simp [writeItems, comma]

theorem length_writeMembers_pos (members : List (Slot Spelling × Slot Document)) :
    0 < (writeMembers false members).length := by
  cases members <;> simp [writeMembers, comma]

/-! ## Values -/

/-- With enough steps, `d` is passed over wherever it stands. -/
def Document.Skips (d : Document) : Prop :=
  ∀ (bound : Nat) (g : Gap) {rest : List Char}, Ends rest → 3 * d.write.length ≤ bound →
    skipValueWithin bound (g.chars ++ (d.write ++ rest)) = .ok rest

variable {b : Bracket} {bound : Nat} {s t rest : List Char} {g : Gap}

/-- The last entry before the closing bracket. -/
theorem skipEntriesWithin_last (labelled : skipLabel b s = .ok t)
    (skipped : skipValueWithin bound t = .ok (g.chars ++ b.close :: rest)) :
    skipEntriesWithin b (bound + 1) s = .ok rest := by
  simp only [skipEntriesWithin, labelled, skipped, bind, Except.bind]
  rw [skipSpace_gap, skipSpace_cons b.isSpace_close]
  exact if_pos rfl

/-- An entry before a comma. -/
theorem skipEntriesWithin_more (labelled : skipLabel b s = .ok t)
    (skipped : skipValueWithin bound t = .ok (g.chars ++ ',' :: rest)) :
    skipEntriesWithin b (bound + 1) s = skipEntriesWithin b bound rest := by
  simp only [skipEntriesWithin, labelled, skipped, bind, Except.bind]
  rw [skipSpace_gap, skipSpace_cons rfl]
  exact (if_neg b.comma_ne_close).trans (if_pos rfl)

theorem exists_step (d : Document) (n : Nat) (enough : 3 * (d.write.length + n) ≤ bound) :
    ∃ b, bound = b + 1 :=
  ⟨bound - 1, by have := d.length_write_pos; omega⟩

/-- One more item and those behind it. -/
theorem skipEntriesWithin_items (items : List (Slot Document))
    (inside : ∀ slot ∈ items, slot.value.Skips) (slot : Slot Document)
    (skips : slot.value.Skips) (rest : List Char) {bound : Nat}
    (enough : 3 * (slot.value.write.length + (writeItems false items).length) ≤ bound) :
    skipEntriesWithin .list bound (writeItems true (slot :: items) ++ rest) = .ok rest := by
  obtain ⟨bound, rfl⟩ := exists_step slot.value _ enough
  have pos := length_writeItems_pos items
  have pos' := slot.value.length_write_pos
  have one := skips bound slot.before
    (Ends.gap (Ends.writeItems_false items rest) slot.after) (by omega)
  rw [writeItems_cons, comma_true_append]
  cases items with
  | nil => exact skipEntriesWithin_last rfl one
  | cons next items =>
    refine (skipEntriesWithin_more rfl one).trans ?_
    have shorter := length_writeItems_cons false next items
    exact skipEntriesWithin_items items (fun s h => inside s (List.mem_cons_of_mem _ h)) next
      (inside next List.mem_cons_self) rest (by omega)

/-- One more member and those behind it. -/
theorem skipEntriesWithin_members (members : List (Slot Spelling × Slot Document))
    (inside : ∀ member ∈ members, member.2.value.Skips) (name : Slot Spelling)
    (slot : Slot Document) (skips : slot.value.Skips) (rest : List Char) {bound : Nat}
    (enough : 3 * (slot.value.write.length + (writeMembers false members).length) ≤ bound) :
    skipEntriesWithin .object bound
      (writeMembers true ((name, slot) :: members) ++ rest) = .ok rest := by
  obtain ⟨bound, rfl⟩ := exists_step slot.value _ enough
  have pos := length_writeMembers_pos members
  have pos' := slot.value.length_write_pos
  have one := skips bound slot.before
    (Ends.gap (Ends.writeMembers_false members rest) slot.after) (by omega)
  have labelled := skipLabel_write name (slot.before.chars ++ (slot.value.write ++
    (slot.after.chars ++ (writeMembers false members ++ rest))))
  rw [writeMembers_cons, comma_true_append]
  cases members with
  | nil => exact skipEntriesWithin_last labelled one
  | cons next members =>
    refine (skipEntriesWithin_more labelled one).trans ?_
    have shorter := length_writeMembers_cons false next members
    exact skipEntriesWithin_members members (fun s h => inside s (List.mem_cons_of_mem _ h))
      next.1 next.2 (inside next List.mem_cons_self) rest (by omega)

/-- Nothing between the brackets. -/
theorem skipBracketWithin_close (g : Gap) (rest : List Char) :
    skipBracketWithin b (bound + 1) (g.chars ++ b.close :: rest) = .ok rest := by
  rw [skipBracketWithin, skipSpace_gap, skipSpace_cons b.isSpace_close]
  exact if_pos rfl

/-- The first entry behind an opening bracket. -/
theorem skipBracketWithin_entry {c : Char} (begins : Begins c) (first : skipSpace s = c :: t) :
    skipBracketWithin b (bound + 1) s = skipEntriesWithin b bound (c :: t) := by
  rw [skipBracketWithin, first]
  exact if_neg (begins.ne_close b)

theorem skipBracketWithin_items (gap : Gap) (items : List (Slot Document))
    (inside : ∀ slot ∈ items, slot.value.Skips) (rest : List Char)
    (enough : 3 * (writeItems true items).length ≤ bound) :
    skipBracketWithin .list (bound + 1) (gap.chars ++ (writeItems true items ++ rest))
      = .ok rest := by
  cases items with
  | nil => exact skipBracketWithin_close gap rest
  | cons slot items =>
    obtain ⟨c, t, h, begins⟩ := slot.value.write_eq_cons
    have shorter := length_writeItems_cons true slot items
    have steps : 3 * (slot.value.write.length + (writeItems false items).length) ≤ bound := by omega
    have entries := skipEntriesWithin_items items
      (fun s h => inside s (List.mem_cons_of_mem _ h)) { slot with before := .none }
      (inside slot List.mem_cons_self) rest steps
    rw [writeItems_cons, comma_true_append] at entries ⊢
    rw [h] at entries ⊢
    refine (skipBracketWithin_entry begins ?_).trans entries
    rw [skipSpace_gap, skipSpace_gap]
    exact skipSpace_cons begins.not_isSpace _

theorem skipBracketWithin_members (gap : Gap) (members : List (Slot Spelling × Slot Document))
    (inside : ∀ member ∈ members, member.2.value.Skips) (rest : List Char)
    (enough : 3 * (writeMembers true members).length ≤ bound) :
    skipBracketWithin .object (bound + 1) (gap.chars ++ (writeMembers true members ++ rest))
      = .ok rest := by
  cases members with
  | nil => exact skipBracketWithin_close gap rest
  | cons member members =>
    obtain ⟨name, slot⟩ := member
    have shorter := length_writeMembers_cons true (name, slot) members
    have steps : 3 * (slot.value.write.length + (writeMembers false members).length) ≤ bound := by
      dsimp only at shorter
      omega
    have entries := skipEntriesWithin_members members
      (fun s h => inside s (List.mem_cons_of_mem _ h)) { name with before := .none } slot
      (inside (name, slot) List.mem_cons_self) rest steps
    rw [writeMembers_cons, comma_true_append] at entries ⊢
    refine (skipBracketWithin_entry Begins.quote ?_).trans entries
    rw [skipSpace_gap, skipSpace_gap]
    exact skipSpace_cons Begins.quote.not_isSpace _

/-- It is enough to pass over a value from its first character on. -/
theorem Document.skips_of {d : Document}
    (h : ∀ (bound : Nat) {rest : List Char}, Ends rest → 3 * d.write.length ≤ bound + 1 →
      skipValueWithin (bound + 1) (d.write ++ rest) = .ok rest) : d.Skips := by
  intro bound g rest ends enough
  obtain ⟨bound, rfl⟩ := exists_step d 0 enough
  have front := h bound ends enough
  rw [skipValueWithin, skipSpace_write] at front
  rw [skipValueWithin, skipSpace_gap_write]
  exact front

/-- **With three steps for each of its characters, any document is passed over.** -/
theorem Document.skips (d : Document) : d.Skips := by
  induction d with
  | null => exact skips_of fun _ rest _ _ => literal_append ['u', 'l', 'l'] rest
  | flag value =>
    cases value with
    | true => exact skips_of fun _ rest _ _ => literal_append ['r', 'u', 'e'] rest
    | false => exact skips_of fun _ rest _ _ => literal_append ['a', 'l', 's', 'e'] rest
  | number n =>
    refine skips_of fun bound rest ends _ => ?_
    have skipped := skipNumber_write n ends
    obtain ⟨c, s, hc, begins⟩ := n.write_eq_cons
    rw [skipValueWithin, skipSpace_write]
    rw [hc, List.cons_append] at skipped
    rw [Document.write_number, hc, List.cons_append]
    have other (d : Char) (hd : d ≠ '-' ∧ d.isDigit = false) : c ≠ d := Number.front_ne begins hd
    simp [other, begins, skipped]
  | text s => exact skips_of fun _ rest _ _ => skipText_write s rest
  | list gap items inside =>
    refine skips_of fun bound rest _ enough => ?_
    simp only [write_list, List.length_cons, List.length_append] at enough
    obtain ⟨bound, rfl⟩ : ∃ b, bound = b + 1 := ⟨bound - 1, by omega⟩
    rw [skipValueWithin, skipSpace_write, write_list, List.cons_append, List.append_assoc]
    exact skipBracketWithin_items gap items inside rest (by omega)
  | object gap members inside =>
    refine skips_of fun bound rest _ enough => ?_
    simp only [write_object, List.length_cons, List.length_append] at enough
    obtain ⟨bound, rfl⟩ : ∃ b, bound = b + 1 := ⟨bound - 1, by omega⟩
    rw [skipValueWithin, skipSpace_write, write_object, List.cons_append, List.append_assoc]
    exact skipBracketWithin_members gap members inside rest (by omega)

/-- **Whatever a document is, passing over it comes out right behind it.** -/
theorem skipValue_write (g : Gap) (d : Document) {rest : List Char} (ends : Ends rest) :
    skipValue (g.chars ++ (d.write ++ rest)) = .ok rest := by
  refine d.skips _ g ends ?_
  simp only [List.length_append]
  omega

end RelyingParty.Json
