import RelyingParty.Proofs.Json.Decoding

/-!
# Proofs/Json/Muting — what a reader's refusal tells of the texts in a document

`Document.mute` empties the texts in a document and leaves the rest alone, the names of members
included.  A reader *mutes* when it makes of the muted document the muted result; then documents
that differ in their texts only are accepted or refused together, and refusals differ at most in a
text that they quote.
-/

namespace RelyingParty.Json

/-! ## Muted documents -/

/-- The text with its content emptied.  Half of a surrogate pair has no content, and a text with one
in it stays as it is. -/
def Spelling.mute (s : Spelling) : Spelling :=
  match s.content with
  | .ok _ => []
  | .error _ => s

mutual

/-- **The document with its texts emptied.** -/
def Document.mute : Document → Document
  | .text s => .text s.mute
  | .list gap items => .list gap (muteItems items)
  | .object gap members => .object gap (muteMembers members)
  | .null => .null
  | .flag value => .flag value
  | .number n => .number n

/-- Items with their texts emptied. -/
def muteItems : List (Slot Document) → List (Slot Document)
  | [] => []
  | ⟨before, d, after⟩ :: items => ⟨before, d.mute, after⟩ :: muteItems items

/-- Members with their texts emptied, but for their names. -/
def muteMembers : List (Slot Spelling × Slot Document) → List (Slot Spelling × Slot Document)
  | [] => []
  | (name, ⟨before, d, after⟩) :: members =>
    (name, ⟨before, d.mute, after⟩) :: muteMembers members

end

/-- What a document says, if it is a text. -/
def Document.said? : Document → Option String
  | .text s => s.content.toOption.map String.ofList
  | _ => none

/-! ## Muted faults -/

/-- The text that a fault quotes. -/
def Fault.quoted? : Fault → Option String
  | wrongKind (.text content) _ => some content
  | _ => none

/-- The fault with the text that it quotes emptied. -/
def Fault.mute : Fault → Fault
  | wrongKind (.text _) due => wrongKind (.text "") due
  | e => e

theorem Fault.quotes_or (e : Fault) :
    (∃ content due, e = wrongKind (.text content) due) ∨ e.quoted? = none ∧ e.mute = e := by
  cases e with
  | wrongKind found due =>
    cases found with
    | text content => exact .inl ⟨content, due, rfl⟩
    | _ => exact .inr ⟨rfl, rfl⟩
  | _ => exact .inr ⟨rfl, rfl⟩

theorem Fault.mute_of_quoted_none {e : Fault} (h : e.quoted? = none) : e.mute = e := by
  rcases e.quotes_or with ⟨content, due, rfl⟩ | ⟨-, same⟩
  · exact absurd h (by simp [quoted?])
  · exact same

theorem Fault.eq_of_mute_eq {e e' : Fault} (h : e.mute = e') (none : e'.quoted? = none) :
    e = e' := by
  rcases e.quotes_or with ⟨content, due, rfl⟩ | ⟨-, same⟩
  · rw [← h] at none
    exact absurd none (by simp [mute, quoted?])
  · exact same.symm.trans h

/-- **Two faults that are equal when muted differ in what they quote or not at all.** -/
theorem Fault.alike_cases {e e' : Fault} (h : e.mute = e'.mute) :
    e = e' ∨ ∃ content content' due,
      e = wrongKind (.text content) due ∧ e' = wrongKind (.text content') due := by
  rcases e'.quotes_or with ⟨content', due', rfl⟩ | ⟨quoted', mute'⟩
  · rcases e.quotes_or with ⟨content, due, rfl⟩ | ⟨quoted, mute⟩
    · obtain ⟨-, rfl⟩ := Fault.wrongKind.inj h
      exact .inr ⟨content, content', due, rfl, rfl⟩
    · exact .inl (eq_of_mute_eq (h.symm.trans mute) quoted).symm
  · exact .inl (eq_of_mute_eq (h.trans mute') quoted')

theorem Fault.eq_iff_quoted_eq {e e' : Fault} (h : e.mute = e'.mute) :
    e = e' ↔ e.quoted? = e'.quoted? := by
  refine ⟨congrArg quoted?, fun same => ?_⟩
  obtain rfl | ⟨content, content', due, rfl, rfl⟩ := alike_cases h
  · rfl
  · rw [Option.some.inj same]

/-- The refusal of a half pair quotes nothing. -/
theorem Spelling.quoted_of_content {s : Spelling} {e : Fault} (h : s.content = .error e) :
    e.quoted? = none := by
  fun_induction Spelling.content s with
  | case1 => exact absurd h (by simp)
  | case2 _ _ _ _ _ ih => exact ih (except_map_eq_error.1 h)
  | case3 _ _ _ _ ih => exact ih (except_map_eq_error.1 h)
  | case5 _ _ _ _ _ _ ih => exact ih (except_map_eq_error.1 h)
  | case8 _ _ _ _ ih => exact ih (except_map_eq_error.1 h)
  | _ =>
    obtain rfl := Except.error.inj h
    rfl

theorem Numeral.magnitude_cases (x : Numeral) (n : Nat) (spill : List Char) :
    (∃ d, x.magnitude n spill = .ok (.real x.negative d)) ∨
      x.magnitude n spill = .error .numberTooLarge := by
  simp only [magnitude]
  split
  · exact .inl ⟨_, rfl⟩
  · exact .inr rfl

/-- **A numeral stands for a number or for none at all.** -/
theorem Numeral.found_cases (x : Numeral) :
    (∃ value, x.found = .ok (.integer value)) ∨
      (∃ negative d, x.found = .ok (.real negative d)) ∨ x.found = .error .numberTooLarge := by
  have magnitude (n : Nat) (spill : List Char) :
      (∃ negative d, x.magnitude n spill = .ok (.real negative d)) ∨
        x.magnitude n spill = .error .numberTooLarge :=
    (x.magnitude_cases n spill).imp_left fun ⟨d, h⟩ => ⟨_, d, h⟩
  unfold found
  split
  · split
    · exact .inl ⟨_, rfl⟩
    · split
      · exact .inl ⟨_, rfl⟩
      · exact .inr (magnitude _ _)
  · exact .inr (magnitude _ _)

/-- **A document of the wrong kind is quoted if it is a text.** -/
theorem Document.quoted_mismatch (due : Due) (d : Document) :
    (d.mismatch due).quoted? = d.said? := by
  cases d with
  | text s =>
    simp only [mismatch, found, said?]
    cases h : s.content with
    | ok content => rfl
    | error e => exact Spelling.quoted_of_content h
  | number n =>
    simp only [mismatch, found, said?]
    obtain ⟨value, h⟩ | ⟨negative, magnitude, h⟩ | h := n.numeral.found_cases <;> rw [h] <;> rfl
  | _ => rfl

theorem Spelling.mute_of_ok {s : Spelling} {content : List Char} (h : s.content = .ok content) :
    s.mute = [] := by
  rw [mute, h]

theorem Spelling.mute_of_error {s : Spelling} {e : Fault} (h : s.content = .error e) :
    s.mute = s := by
  rw [mute, h]

theorem Document.mismatch_mute (due : Due) (d : Document) :
    d.mute.mismatch due = (d.mismatch due).mute := by
  have quoted := d.quoted_mismatch due
  cases d with
  | text s =>
    rw [mute]
    cases h : s.content with
    | ok content =>
      rw [Spelling.mute_of_ok h]
      simp only [mismatch, found, h]
      rfl
    | error e =>
      rw [Spelling.mute_of_error h]
      simp only [said?, h] at quoted
      exact (Fault.mute_of_quoted_none quoted).symm
  | _ => exact (Fault.mute_of_quoted_none quoted).symm

/-! ## Readers -/

/-- A result with its texts emptied. -/
def muted (m : α → α) : Except Fault α → Except Fault α
  | .ok a => .ok (m a)
  | .error e => .error e.mute

/-- **The reader makes of a muted document the muted result.** -/
def Reader.Mutes (r : Reader α) (m : α → α) : Prop :=
  ∀ d : Document, r.decode d.mute = muted m (r.decode d)

/-- **The reader's refusal quotes a document only if that is a text itself.** -/
def Reader.QuotesItself (r : Reader α) : Prop :=
  ∀ {d : Document} {e : Fault}, r.decode d = .error e → e.quoted? = d.said?

/-- The reader's refusal quotes nothing. -/
def Reader.IsDiscreet (r : Reader α) : Prop :=
  ∀ {d : Document} {e : Fault}, r.decode d = .error e → e.quoted? = none

namespace Reader

theorem text_mutes : text.Mutes fun _ => "" := by
  intro d
  rw [text_reads.decode_eq, text_reads.decode_eq]
  cases d with
  | text s =>
    rw [Document.mute]
    cases h : s.content with
    | ok content =>
      rw [Spelling.mute_of_ok h]
      simp only [wordsOf, h]
      rfl
    | error e =>
      rw [Spelling.mute_of_error h]
      simp only [wordsOf, h]
      exact congrArg Except.error (Fault.mute_of_quoted_none (Spelling.quoted_of_content h)).symm
  | _ => exact congrArg Except.error (Document.mismatch_mute .text _)

theorem text_isDiscreet : text.IsDiscreet := by
  intro d e h
  rw [text_reads.decode_eq] at h
  cases d with
  | text s => exact Spelling.quoted_of_content (except_map_eq_error.1 h)
  | _ =>
    obtain rfl := Except.error.inj h
    exact Document.quoted_mismatch .text _

/-! ## Lists -/

theorem mapM_muteItems {item : Reader α} {m : α → α} (h : item.Mutes m)
    (items : List (Slot Document)) :
    ((muteItems items).mapM fun slot => item.decode slot.value)
      = muted (List.map m) (items.mapM fun slot => item.decode slot.value) := by
  induction items with
  | nil => rfl
  | cons slot items ih =>
    obtain ⟨before, d, after⟩ := slot
    rw [muteItems, List.mapM_cons, List.mapM_cons, h d, ih]
    cases item.decode d with
    | error e => rfl
    | ok a => cases items.mapM fun slot => item.decode slot.value <;> rfl

theorem list_mutes {item : Reader α} (isLocal : item.IsLocal) {m : α → α} (h : item.Mutes m) :
    (list item).Mutes (List.map m) := by
  intro d
  rw [(list_reads isLocal).decode_eq, (list_reads isLocal).decode_eq]
  cases d with
  | list gap items =>
    rw [Document.mute]
    exact mapM_muteItems h items
  | _ => exact congrArg Except.error (Document.mismatch_mute .sequence _)

/-- **The text that a list of items is refused for**: the document itself, or the first item that
is refused, if that is a text. -/
def misplaced? (item : Reader α) : Document → Option String
  | .list _ items =>
    (items.find? fun slot => !(item.decode slot.value).isOk).bind fun slot => slot.value.said?
  | d => d.said?

/-- A list is refused for its first item that is. -/
theorem find?_of_mapM_error {item : Reader α} {items : List (Slot Document)} {e : Fault}
    (h : (items.mapM fun slot => item.decode slot.value) = .error e) :
    ∃ slot, (items.find? fun slot => !(item.decode slot.value).isOk) = some slot ∧
      item.decode slot.value = .error e := by
  induction items with
  | nil => exact absurd h (by simp [pure, Except.pure])
  | cons slot items ih =>
    rw [List.mapM_cons] at h
    cases one : item.decode slot.value with
    | error e' =>
      rw [one] at h
      obtain rfl := Except.error.inj h
      exact ⟨slot, by simp [one, Except.isOk, Except.toBool], one⟩
    | ok a =>
      rw [one] at h
      cases others : items.mapM fun slot => item.decode slot.value with
      | error e' =>
        rw [others] at h
        obtain rfl := Except.error.inj h
        obtain ⟨next, found, refused⟩ := ih others
        exact ⟨next, by simpa [one, Except.isOk, Except.toBool] using found, refused⟩
      | ok as =>
        rw [others] at h
        exact absurd h (by simp [bind, Except.bind, pure, Except.pure])

/-- **A refused list quotes the text that it is refused for.** -/
theorem quoted_of_list_error {item : Reader α} (isLocal : item.IsLocal) (h : item.QuotesItself)
    {d : Document} {e : Fault} (refused : (list item).decode d = .error e) :
    e.quoted? = misplaced? item d := by
  rw [(list_reads isLocal).decode_eq] at refused
  cases d with
  | list gap items =>
    obtain ⟨slot, found, one⟩ := find?_of_mapM_error refused
    rw [misplaced?, found]
    exact h one
  | _ =>
    obtain rfl := Except.error.inj refused
    exact Document.quoted_mismatch .sequence _

end Reader

/-! ## Records -/

/-- A field that is read into a muted draft as into the draft itself. -/
structure Field.Mutes (f : Field σ) (m : σ → σ) : Prop where
  isGiven_mute : ∀ draft, f.isGiven (m draft) = f.isGiven draft
  read_mute : ∀ (draft : σ) (d : Document),
    (f.read (m draft)).decode d.mute = muted m ((f.read draft).decode d)

theorem Field.of_mutes {value : Reader β} (isLocal : value.IsLocal) {b : β → β}
    (h : value.Mutes b) {name : String} {get : σ → Option β} {put : β → σ → σ} {m : σ → σ}
    (get_mute : ∀ draft, (get (m draft)).isSome = (get draft).isSome)
    (put_mute : ∀ v draft, put (b v) (m draft) = m (put v draft)) :
    (Field.of name get put value).Mutes m where
  isGiven_mute := get_mute
  read_mute draft d := by
    rw [(Field.of_reads isLocal name get put _).decode_eq,
      (Field.of_reads isLocal name get put _).decode_eq, h d]
    cases value.decode d with
    | error e => rfl
    | ok v => exact congrArg Except.ok (put_mute v draft)

namespace RecordForm

theorem fillByName_mute {fields : List (Field σ)} {m : σ → σ} (h : ∀ f ∈ fields, f.Mutes m)
    (members : List (Slot Spelling × Slot Document)) (draft : σ) :
    fillByName fields (m draft) (muteMembers members)
      = muted m (fillByName fields draft members) := by
  induction members generalizing draft with
  | nil => rfl
  | cons member members ih =>
    obtain ⟨name, before, d, after⟩ := member
    rw [muteMembers, fillByName, fillByName]
    cases hn : name.value.content with
    | error e =>
      exact congrArg Except.error (Fault.mute_of_quoted_none (Spelling.quoted_of_content hn)).symm
    | ok content =>
      simp only [bind, Except.bind]
      cases found : fields.find? fun field => field.name == String.ofList content with
      | none => exact ih draft
      | some field =>
        have mutes := h field (List.mem_of_find?_eq_some found)
        simp only [mutes.isGiven_mute, mutes.read_mute draft d]
        by_cases given : field.isGiven draft = true
        · simp only [given, if_true]
          rfl
        · simp only [given, Bool.false_eq_true, if_false]
          cases (field.read draft).decode d with
          | error e => rfl
          | ok draft => exact ih draft

theorem fillByPlace_mute (items : List (Slot Document)) {m : σ → σ} :
    ∀ {fields : List (Field σ)}, (∀ f ∈ fields, f.Mutes m) → ∀ draft : σ,
      fillByPlace fields (m draft) (muteItems items)
        = muted m (fillByPlace fields draft items) := by
  induction items with
  | nil =>
    intro fields _ draft
    cases fields <;> rfl
  | cons slot items ih =>
    intro fields h draft
    obtain ⟨before, d, after⟩ := slot
    cases fields with
    | nil => rfl
    | cons field fields =>
      have one := (h field List.mem_cons_self).read_mute draft d
      rw [muteItems, fillByPlace, fillByPlace, one]
      cases (field.read draft).decode d with
      | error e => rfl
      | ok draft => exact ih (fun f hf => h f (List.mem_cons_of_mem _ hf)) draft

theorem concluded_mute {form : RecordForm σ α} {m : σ → σ} {b : α → α} {missing : Nat → Fault}
    (finish : ∀ draft, form.finish (m draft) = (form.finish draft).map b)
    (quotesNothing : ∀ place, (missing place).quoted? = none) (draft : Except Fault σ) :
    form.concluded missing (muted m draft) = muted b (form.concluded missing draft) := by
  cases draft with
  | error e => rfl
  | ok draft =>
    change (form.finish (m draft)).mapError missing = muted b ((form.finish draft).mapError missing)
    rw [finish]
    cases form.finish draft with
    | error place =>
      exact congrArg Except.error (Fault.mute_of_quoted_none (quotesNothing place)).symm
    | ok a => rfl

/-- **A record is muted by muting its draft.** -/
theorem reader_mutes {form : RecordForm σ α} {m : σ → σ} {b : α → α}
    (isLocal : ∀ f ∈ form.fields, f.IsLocal) (h : ∀ f ∈ form.fields, f.Mutes m)
    (empty : m form.empty = form.empty)
    (finish : ∀ draft, form.finish (m draft) = (form.finish draft).map b) :
    form.reader.Mutes b := by
  intro d
  rw [(reader_reads isLocal).decode_eq, (reader_reads isLocal).decode_eq]
  cases d with
  | object gap members =>
    have filled := fillByName_mute h members form.empty
    rw [empty] at filled
    rw [Document.mute, recordOf, filled]
    exact concluded_mute finish (fun _ => rfl) _
  | list gap items =>
    have filled := fillByPlace_mute items h form.empty
    rw [empty] at filled
    rw [Document.mute, recordOf, filled]
    exact concluded_mute finish (fun _ => rfl) _
  | _ => exact congrArg Except.error (Document.mismatch_mute (.record form.name) _)

theorem quoted_of_fillByName {fields : List (Field σ)}
    (h : ∀ f ∈ fields, ∀ draft, (f.read draft).IsDiscreet)
    (members : List (Slot Spelling × Slot Document)) {draft : σ} {e : Fault}
    (refused : fillByName fields draft members = .error e) : e.quoted? = none := by
  induction members generalizing draft with
  | nil => exact absurd refused (by simp [fillByName])
  | cons member members ih =>
    obtain ⟨name, slot⟩ := member
    rw [fillByName] at refused
    cases hn : name.value.content with
    | error e' =>
      rw [hn] at refused
      obtain rfl := Except.error.inj refused
      exact Spelling.quoted_of_content hn
    | ok content =>
      simp only [hn, bind, Except.bind] at refused
      cases found : fields.find? fun field => field.name == String.ofList content with
      | none =>
        rw [found] at refused
        exact ih refused
      | some field =>
        rw [found] at refused
        by_cases given : field.isGiven draft = true
        · simp only [given, if_true] at refused
          obtain rfl := Except.error.inj refused
          rfl
        · simp only [given, Bool.false_eq_true, if_false] at refused
          cases one : (field.read draft).decode slot.value with
          | error e' =>
            rw [one] at refused
            obtain rfl := Except.error.inj refused
            exact h field (List.mem_of_find?_eq_some found) draft one
          | ok draft' =>
            rw [one] at refused
            exact ih refused

theorem quoted_of_fillByPlace (items : List (Slot Document)) {e : Fault} :
    ∀ {fields : List (Field σ)}, (∀ f ∈ fields, ∀ draft, (f.read draft).IsDiscreet) →
      ∀ {draft : σ}, fillByPlace fields draft items = .error e → e.quoted? = none := by
  induction items with
  | nil =>
    intro fields _ draft refused
    cases fields <;> exact absurd refused (by simp [fillByPlace])
  | cons slot items ih =>
    intro fields h draft refused
    cases fields with
    | nil =>
      obtain rfl := Except.error.inj refused
      rfl
    | cons field fields =>
      rw [fillByPlace] at refused
      cases one : (field.read draft).decode slot.value with
      | error e' =>
        rw [one] at refused
        obtain rfl := Except.error.inj refused
        exact h field List.mem_cons_self draft one
      | ok draft' =>
        rw [one] at refused
        exact ih (fun f hf => h f (List.mem_cons_of_mem _ hf)) refused

theorem quoted_of_concluded {form : RecordForm σ α} {missing : Nat → Fault}
    (quotesNothing : ∀ place, (missing place).quoted? = none) {draft : Except Fault σ} {e : Fault}
    (filling : ∀ e, draft = .error e → e.quoted? = none)
    (refused : form.concluded missing draft = .error e) : e.quoted? = none := by
  cases draft with
  | error e' =>
    obtain rfl := Except.error.inj refused
    exact filling _ rfl
  | ok draft =>
    change (form.finish draft).mapError missing = .error e at refused
    cases finished : form.finish draft with
    | error place =>
      rw [finished] at refused
      obtain rfl := Except.error.inj refused
      exact quotesNothing place
    | ok a =>
      rw [finished] at refused
      exact absurd (show Except.ok a = Except.error e from refused) (by simp)

/-- **The refusal of a record quotes nothing but the record itself**, if its fields are discreet. -/
theorem reader_quotesItself {form : RecordForm σ α} (isLocal : ∀ f ∈ form.fields, f.IsLocal)
    (h : ∀ f ∈ form.fields, ∀ draft, (f.read draft).IsDiscreet) : form.reader.QuotesItself := by
  intro d e refused
  rw [(reader_reads isLocal).decode_eq] at refused
  cases d with
  | object gap members =>
    exact quoted_of_concluded (fun _ => rfl) (fun _ => quoted_of_fillByName h members) refused
  | list gap items =>
    exact quoted_of_concluded (fun _ => rfl) (fun _ => quoted_of_fillByPlace items h) refused
  | _ =>
    obtain rfl := Except.error.inj refused
    exact Document.quoted_mismatch (.record form.name) _

end RecordForm

end RelyingParty.Json
