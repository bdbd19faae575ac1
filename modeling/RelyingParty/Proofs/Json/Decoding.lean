import RelyingParty.Json.Record
import RelyingParty.Proofs.Json.Skipping

/-!
# Proofs/Json/Decoding — what a reader makes of a document

A reader works on characters, but what it makes of a document depends on the document alone, not on
the white space before it nor on the text behind it.  Such a reader is *local*, and for it `decode`
is a function of documents.  Texts, lists and records are local as soon as their parts are, and
`decode` of each follows its document.
-/

namespace RelyingParty.Json

/-! ## Local readers -/

namespace Reader

/-- **What a reader makes of a document** that stands alone. -/
def decode (r : Reader α) (d : Document) : Except Fault α := (r d.write).map Prod.fst

/-- The reader makes `f d` of every document `d`, wherever it stands. -/
def Reads (r : Reader α) (f : Document → Except Fault α) : Prop :=
  ∀ (g : Gap) (d : Document) {rest : List Char}, Ends rest →
    r (g.chars ++ (d.write ++ rest)) = (f d).map fun a => (a, rest)

/-- **A reader that goes by the document alone.** -/
def IsLocal (r : Reader α) : Prop := r.Reads r.decode

theorem Reads.decode_eq {r : Reader α} {f : Document → Except Fault α} (h : r.Reads f)
    (d : Document) : r.decode d = f d := by
  have alone := h .none d Ends.nil
  rw [Gap.none, List.nil_append, List.append_nil] at alone
  rw [decode, alone, except_map_map]
  cases f d <;> rfl

theorem Reads.isLocal {r : Reader α} {f : Document → Except Fault α} (h : r.Reads f) :
    r.IsLocal := by
  rwa [IsLocal, funext h.decode_eq]

/-- A local reader where white space has been skipped. -/
theorem IsLocal.front {r : Reader α} (h : r.IsLocal) (d : Document) {rest : List Char}
    (ends : Ends rest) : r (d.write ++ rest) = (r.decode d).map fun a => (a, rest) :=
  h .none d ends

end Reader

/-- **Reading a whole text** makes of it what the reader makes of its document. -/
theorem read_text {item : Reader α} (h : item.IsLocal) (s : Slot Document) :
    read item s.text = item.decode s.value := by
  have whole := h s.before s.value (Ends.gap Ends.nil s.after)
  have behind : skipSpace (s.after.chars ++ []) = [] := skipSpace_gap s.after []
  rw [List.append_nil] at whole behind
  rw [read, Slot.text, String.toList_ofList, whole]
  cases item.decode s.value with
  | error e => rfl
  | ok a => exact if_pos behind

/-! ## What the first character tells -/

/-- **Texts, lists and objects are told by their first characters.** -/
theorem Document.of_front {d : Document} {rest s : List Char} {c : Char}
    (h : d.write ++ rest = c :: s) :
    (c = '"' → ∃ t, d = .text t) ∧ (c = '[' → ∃ gap items, d = .list gap items) ∧
      (c = '{' → ∃ gap members, d = .object gap members) := by
  cases d with
  | null =>
    obtain ⟨rfl, -⟩ := List.cons.inj h
    simp
  | flag value =>
    cases value <;> obtain ⟨rfl, -⟩ := List.cons.inj h <;> simp
  | number n =>
    obtain ⟨front, t, ht, begins⟩ := n.write_eq_cons
    rw [write_number, ht] at h
    obtain ⟨rfl, -⟩ := List.cons.inj h
    have other (d : Char) (hd : d ≠ '-' ∧ d.isDigit = false) : front ≠ d :=
      Number.front_ne begins hd
    simp [other]
  | text t =>
    rw [write_text] at h
    obtain ⟨rfl, -⟩ := List.cons.inj h
    simp
  | list gap items =>
    rw [write_list] at h
    obtain ⟨rfl, -⟩ := List.cons.inj h
    simp
  | object gap members =>
    rw [write_object] at h
    obtain ⟨rfl, -⟩ := List.cons.inj h
    simp

namespace Document

variable {d : Document} {rest s : List Char}

theorem of_quote (h : d.write ++ rest = '"' :: s) : ∃ t, d = .text t ∧ s = t.write ++ rest := by
  obtain ⟨t, rfl⟩ := (of_front h).1 rfl
  rw [write_text, List.cons_append] at h
  exact ⟨t, rfl, (List.cons.inj h).2.symm⟩

theorem of_bracket (h : d.write ++ rest = '[' :: s) :
    ∃ gap items, d = .list gap items ∧ s = gap.chars ++ (writeItems true items ++ rest) := by
  obtain ⟨gap, items, rfl⟩ := (of_front h).2.1 rfl
  rw [write_list, List.cons_append, List.append_assoc] at h
  exact ⟨gap, items, rfl, (List.cons.inj h).2.symm⟩

theorem of_brace (h : d.write ++ rest = '{' :: s) :
    ∃ gap members, d = .object gap members ∧
      s = gap.chars ++ (writeMembers true members ++ rest) := by
  obtain ⟨gap, members, rfl⟩ := (of_front h).2.2 rfl
  rw [write_object, List.cons_append, List.append_assoc] at h
  exact ⟨gap, members, rfl, (List.cons.inj h).2.symm⟩

end Document

namespace Reader

/-! ## Texts -/

/-- The text of a document, as far as it passes a test. -/
def textOf (due : Due) (test : String → Except String α) : Document → Except Fault α
  | .text s => do
    let content ← s.content
    match test (String.ofList content) with
    | .ok a => .ok a
    | .error reason => .error (.refused reason)
  | d => .error (d.mismatch due)

theorem refined_reads (due : Due) (test : String → Except String α) :
    (refined due test).Reads (textOf due test) := by
  intro g d rest ends
  rw [refined, skipSpace_gap_write]
  split
  · next h =>
    obtain ⟨t, rfl, rfl⟩ := Document.of_quote h
    rw [textContent_write]
    simp only [textOf]
    cases t.content with
    | error e => rfl
    | ok content =>
      simp only [Except.map, bind, Except.bind]
      cases test (String.ofList content) <;> rfl
  · next other =>
    rw [mismatch_write due d ends]
    cases d with
    | text t => exact absurd rfl (other _)
    | _ => rfl

/-- The words of a document that is a text. -/
def wordsOf : Document → Except Fault String
  | .text s => s.content.map String.ofList
  | d => .error (d.mismatch .text)

theorem text_reads : text.Reads wordsOf := by
  have same : textOf .text .ok = wordsOf := by
    funext d
    cases d with
    | text s => cases h : s.content <;> simp [textOf, wordsOf, h, bind, Except.bind, Except.map]
    | _ => rfl
  exact same ▸ refined_reads .text .ok

/-! ## Lists -/

theorem elementsWithin_write {item : Reader α} (h : item.IsLocal) (items : List (Slot Document))
    (first : Bool) (g : Gap) (rest : List Char) {bound : Nat} (enough : items.length < bound) :
    elementsWithin item bound first (g.chars ++ (writeItems first items ++ rest))
      = (items.mapM fun slot => item.decode slot.value).map fun as => (as, rest) := by
  induction items generalizing first g bound with
  | nil =>
    obtain ⟨bound, rfl⟩ : ∃ b, bound = b + 1 := ⟨bound - 1, by omega⟩
    have closed : turn .list first (g.chars ++ ']' :: rest) = .ok (.closed rest) :=
      turn_close .list first g rest
    change elementsWithin item (bound + 1) first (g.chars ++ ']' :: rest) = .ok ([], rest)
    rw [elementsWithin, closed]
    rfl
  | cons slot items ih =>
    obtain ⟨bound, rfl⟩ : ∃ b, bound = b + 1 := ⟨bound - 1, by omega⟩
    have another := turn_another_write .list first g slot.before slot.value
      (slot.after.chars ++ (writeItems false items ++ rest))
    have one := h.front slot.value (Ends.gap (Ends.writeItems_false items rest) slot.after)
    have behind := ih false slot.after (Nat.lt_of_succ_lt_succ enough)
    rw [writeItems_cons, elementsWithin, another, List.mapM_cons]
    simp only [bind, Except.bind, one]
    cases item.decode slot.value with
    | error e => rfl
    | ok a =>
      simp only [Except.map, behind]
      cases items.mapM fun slot => item.decode slot.value <;> rfl

/-- The values of a document that is a list. -/
def itemsOf (item : Reader α) : Document → Except Fault (List α)
  | .list _ items => items.mapM fun slot => item.decode slot.value
  | d => .error (d.mismatch .sequence)

/-- **Reading a list reads its items in order.** -/
theorem list_reads {item : Reader α} (h : item.IsLocal) : (list item).Reads (itemsOf item) := by
  intro g d rest ends
  rw [list, skipSpace_gap_write]
  split
  · next front =>
    obtain ⟨gap, items, rfl, rfl⟩ := Document.of_bracket front
    refine elementsWithin_write h items true gap rest ?_
    have enough := length_le_writeItems true items
    simp only [List.length_append]
    omega
  · next other =>
    rw [mismatch_write .sequence d ends]
    cases d with
    | list gap items => exact absurd rfl (other _)
    | _ => rfl

end Reader

/-! ## Records -/

/-- A field whose value is read by a local reader. -/
def Field.IsLocal (f : Field σ) : Prop := ∀ draft, (f.read draft).IsLocal

theorem Field.of_reads {value : Reader β} (h : value.IsLocal) (name : String)
    (get : σ → Option β) (put : β → σ → σ) (draft : σ) :
    ((Field.of name get put value).read draft).Reads
      fun d => (value.decode d).map fun b => put b draft := by
  intro g d rest ends
  simp only [Field.of, h g d ends, bind, Except.bind]
  cases value.decode d <;> rfl

namespace RecordForm

/-- Fills a draft by the members of an object. -/
def fillByName (fields : List (Field σ)) :
    σ → List (Slot Spelling × Slot Document) → Except Fault σ
  | draft, [] => .ok draft
  | draft, (name, slot) :: members => do
    let name ← name.value.content
    match fields.find? (·.name == String.ofList name) with
    | some field =>
      if field.isGiven draft then .error (.repeatedField field.name)
      else do
        let draft ← (field.read draft).decode slot.value
        fillByName fields draft members
    | none => fillByName fields draft members

/-- Fills a draft by the items of a list. -/
def fillByPlace : List (Field σ) → σ → List (Slot Document) → Except Fault σ
  | _, draft, [] => .ok draft
  | [], _, _ :: _ => .error .trailingCharacters
  | field :: fields, draft, slot :: items => do
    let draft ← (field.read draft).decode slot.value
    fillByPlace fields draft items

theorem membersWithin_write {fields : List (Field σ)} (h : ∀ field ∈ fields, field.IsLocal)
    (members : List (Slot Spelling × Slot Document)) (first : Bool) (draft : σ) (g : Gap)
    (rest : List Char) {bound : Nat} (enough : members.length < bound) :
    membersWithin fields bound first draft (g.chars ++ (writeMembers first members ++ rest))
      = (fillByName fields draft members).map fun draft => (draft, rest) := by
  obtain ⟨bound, rfl⟩ : ∃ b, bound = b + 1 := ⟨bound - 1, by omega⟩
  induction members generalizing first draft g bound with
  | nil =>
    have closed : turn .object first (g.chars ++ '}' :: rest) = .ok (.closed rest) :=
      turn_close .object first g rest
    change membersWithin fields (bound + 1) first draft (g.chars ++ '}' :: rest)
      = .ok (draft, rest)
    rw [membersWithin, closed]
    rfl
  | cons member members ih =>
    obtain ⟨name, slot⟩ := member
    obtain ⟨bound, rfl⟩ : ∃ b, bound = b + 1 := ⟨bound - 1, by simp at enough; omega⟩
    have behind (draft : σ) := ih false draft slot.after bound (Nat.lt_of_succ_lt_succ enough)
    have ends := Ends.gap (Ends.writeMembers_false members rest) slot.after
    rw [writeMembers_cons, membersWithin, turn_another .object first g name.before Begins.quote,
      fillByName]
    simp only [bind, Except.bind, memberName, textContent_write]
    cases name.value.content with
    | error e => rfl
    | ok content =>
      simp only [Except.map]
      cases found : fields.find? fun field => field.name == String.ofList content with
      | none =>
        have skipped := skipValue_write slot.before slot.value ends
        simp only [colon_gap, skipped, behind]
        rfl
      | some field =>
        have one := h field (List.mem_of_find?_eq_some found) draft slot.before slot.value ends
        by_cases given : field.isGiven draft = true
        · simp only [given, if_true]
        · simp only [given, Bool.false_eq_true, if_false, colon_gap, one]
          cases (field.read draft).decode slot.value with
          | error e => rfl
          | ok draft => exact behind draft

/-- The end of a list behind the last field of a record. -/
theorem endOfList_close (g : Gap) (rest : List Char) :
    endOfList (g.chars ++ ']' :: rest) = .ok rest := by
  rw [endOfList, skipSpace_gap, skipSpace_cons rfl]
  rfl

/-- Another item behind the last field of a record. -/
theorem endOfList_another (first : Bool) (g before : Gap) (d : Document) (rest : List Char) :
    endOfList (g.chars ++ (comma first ++ (before.chars ++ (d.write ++ rest))))
      = .error .trailingCharacters := by
  obtain ⟨c, s, hc, begins⟩ := d.write_eq_cons
  have item : skipSpace (before.chars ++ (c :: s ++ rest)) = c :: (s ++ rest) := by
    rw [skipSpace_gap]
    exact skipSpace_cons begins.not_isSpace _
  have ne_close : c ≠ ']' := begins.ne_close .list
  have ne_comma := begins.ne_comma
  rw [hc]
  cases first with
  | true =>
    rw [comma_true_append, endOfList, skipSpace_gap, item]
    simp [ne_close, ne_comma]
  | false =>
    change endOfList (g.chars ++ ',' :: (before.chars ++ (c :: s ++ rest))) = _
    rw [endOfList, skipSpace_gap, skipSpace_cons rfl]
    simp only [item]
    simp [ne_close]

theorem elements_write (items : List (Slot Document)) :
    ∀ {fields : List (Field σ)}, (∀ field ∈ fields, field.IsLocal) → ∀ (first : Bool) (draft : σ)
      (g : Gap) (rest : List Char),
      elements fields first draft (g.chars ++ (writeItems first items ++ rest))
        = (fillByPlace fields draft items).map fun draft => (draft, rest) := by
  induction items with
  | nil =>
    intro fields h first draft g rest
    change elements fields first draft (g.chars ++ ']' :: rest) = _
    cases fields with
    | nil =>
      rw [elements, endOfList_close]
      rfl
    | cons field fields =>
      have closed : turn .list first (g.chars ++ ']' :: rest) = .ok (.closed rest) :=
        turn_close .list first g rest
      rw [elements, closed]
      rfl
  | cons slot items ih =>
    intro fields h first draft g rest
    rw [writeItems_cons]
    cases fields with
    | nil =>
      rw [elements, endOfList_another]
      rfl
    | cons field fields =>
      have another := turn_another_write .list first g slot.before slot.value
        (slot.after.chars ++ (writeItems false items ++ rest))
      have one := (h field List.mem_cons_self draft).front slot.value
        (Ends.gap (Ends.writeItems_false items rest) slot.after)
      have others : ∀ field ∈ fields, field.IsLocal := fun f hf => h f (List.mem_cons_of_mem _ hf)
      rw [elements, another, fillByPlace]
      simp only [bind, Except.bind, one]
      cases (field.read draft).decode slot.value with
      | error e => rfl
      | ok draft => exact ih others false draft slot.after rest

/-- The record of a draft, if there is one, or the fault of the field that is missing first. -/
def concluded (form : RecordForm σ α) (missing : Nat → Fault) (draft : Except Fault σ) :
    Except Fault α :=
  draft >>= fun draft => (form.finish draft).mapError missing

/-- The record that a document stands for. -/
def recordOf (form : RecordForm σ α) : Document → Except Fault α
  | .object _ members =>
    form.concluded (fun place => .missingField (form.fieldName place))
      (fillByName form.fields form.empty members)
  | .list _ items =>
    form.concluded (fun place => .tooFewElements place form.name form.fields.length)
      (fillByPlace form.fields form.empty items)
  | d => .error (d.mismatch (.record form.name))

/-- **Reading a record reads its fields**, by their names or by their places. -/
theorem reader_reads {form : RecordForm σ α} (h : ∀ field ∈ form.fields, field.IsLocal) :
    form.reader.Reads form.recordOf := by
  intro g d rest ends
  rw [reader, skipSpace_gap_write]
  split
  · next front =>
    obtain ⟨gap, members, rfl, rfl⟩ := Document.of_brace front
    have enough := length_le_writeMembers true members
    rw [membersWithin_write h members true form.empty gap rest
      (by simp only [List.length_append]; omega)]
    simp only [recordOf, concluded]
    cases fillByName form.fields form.empty members with
    | error e => rfl
    | ok draft =>
      simp only [Except.map, bind, Except.bind]
      cases form.finish draft <;> rfl
  · next front =>
    obtain ⟨gap, items, rfl, rfl⟩ := Document.of_bracket front
    rw [elements_write items h true form.empty gap rest]
    simp only [recordOf, concluded]
    cases fillByPlace form.fields form.empty items with
    | error e => rfl
    | ok draft =>
      simp only [Except.map, bind, Except.bind]
      cases form.finish draft <;> rfl
  · next noObject noList =>
    rw [mismatch_write _ d ends]
    cases d with
    | list gap items => exact absurd rfl (noList _)
    | object gap members => exact absurd rfl (noObject _)
    | _ => rfl

end RecordForm

end RelyingParty.Json
