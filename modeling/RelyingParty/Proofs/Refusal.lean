import RelyingParty.Proofs.Json.Muting
import RelyingParty.Proofs.Quoted
import RelyingParty.ProviderConfig.Variables
import RelyingParty.ServiceError

/-!
# Proofs/Refusal — what a refused key list gives away

The keys come as one JSON text.  Two such texts that differ in nothing but what their texts say are
accepted or refused together, and the client is told the same.  The refusal and the audit trail are
the same exactly if the two have the same *misplaced* text: a text in the place of the list, or in
the place of the first item that is no key pair, is quoted word for word.  A text in its proper
place, as key, passphrase or certificate, never is.
-/

namespace RelyingParty

open Json (Slot Document Fault Reader)

/-! ## Key pairs -/

namespace KeyPair

/-- The key pair with its texts emptied. -/
def mute (_ : KeyPair) : KeyPair := ⟨"", "", ""⟩

/-- The draft with its texts emptied. -/
def Draft.mute (d : Draft) : Draft where
  key := d.key.map fun _ => ""
  passphrase := d.passphrase.map fun _ => ""
  certificate := d.certificate.map fun _ => ""

/-- What holds of every field that holds a text holds of the fields of a key pair. -/
theorem forall_fields {motive : Json.Field Draft → Prop}
    (h : ∀ (name : String) (get : Draft → Option String) (put : String → Draft → Draft),
      (∀ d, (get d.mute).isSome = (get d).isSome) →
      (∀ v d, put "" d.mute = (put v d).mute) → motive (.of name get put .text)) :
    ∀ f ∈ form.fields, motive f := by
  intro f hf
  simp only [form, List.mem_cons, List.not_mem_nil, or_false] at hf
  rcases hf with rfl | rfl | rfl
  · exact h _ _ _ (fun d => by simp [Draft.mute]) fun _ _ => rfl
  · exact h _ _ _ (fun d => by simp [Draft.mute]) fun _ _ => rfl
  · exact h _ _ _ (fun d => by simp [Draft.mute]) fun _ _ => rfl

theorem fields_isLocal : ∀ f ∈ form.fields, f.IsLocal :=
  forall_fields fun name get put _ _ draft =>
    (Json.Field.of_reads Reader.text_reads.isLocal name get put draft).isLocal

theorem reader_isLocal : reader.IsLocal :=
  (Json.RecordForm.reader_reads fields_isLocal).isLocal

theorem listReader_isLocal : listReader.IsLocal :=
  (Reader.list_reads reader_isLocal).isLocal

theorem reader_mutes : reader.Mutes mute := by
  refine Json.RecordForm.reader_mutes (m := Draft.mute) fields_isLocal ?_ rfl ?_
  · exact forall_fields fun _ _ _ get_mute put_mute =>
      Json.Field.of_mutes Reader.text_reads.isLocal Reader.text_mutes get_mute put_mute
  · rintro ⟨key, passphrase, certificate⟩
    cases key <;> cases passphrase <;> cases certificate <;> rfl

theorem reader_quotesItself : reader.QuotesItself := by
  refine Json.RecordForm.reader_quotesItself fields_isLocal ?_
  refine forall_fields fun name get put _ _ draft d e refused => ?_
  rw [(Json.Field.of_reads Reader.text_reads.isLocal name get put draft).decode_eq] at refused
  exact Reader.text_isDiscreet (except_map_eq_error.1 refused)

theorem listReader_mutes : listReader.Mutes (List.map mute) :=
  Reader.list_mutes reader_isLocal reader_mutes

/-- **The text that a key list is refused for**: the document itself, or its first item that is no
key pair, if that is a text. -/
def misplaced? (d : Document) : Option String := Reader.misplaced? reader d

/-- Documents that differ in their texts only are read alike. -/
theorem muted_decode_congr {d d' : Document} (alike : d.mute = d'.mute) :
    Json.muted (List.map mute) (listReader.decode d)
      = Json.muted (List.map mute) (listReader.decode d') := by
  rw [← listReader_mutes d, alike, listReader_mutes d']

/-- **Documents that differ in their texts only are accepted together.** -/
theorem accepted_alike {d d' : Document} (alike : d.mute = d'.mute) {keys : List KeyPair}
    (accepted : listReader.decode d = .ok keys) : ∃ keys', listReader.decode d' = .ok keys' := by
  have same := muted_decode_congr alike
  rw [accepted] at same
  cases h : listReader.decode d' with
  | ok keys' => exact ⟨keys', rfl⟩
  | error e' => exact absurd same (by simp [h, Json.muted])

/-- **Documents that differ in their texts only are refused together**, with the same fault exactly
if they have the same misplaced text. -/
theorem refused_alike {d d' : Document} (alike : d.mute = d'.mute) {e : Fault}
    (refused : listReader.decode d = .error e) :
    ∃ e', listReader.decode d' = .error e' ∧ e.mute = e'.mute ∧
      e.quoted? = misplaced? d ∧ e'.quoted? = misplaced? d' := by
  have same := muted_decode_congr alike
  rw [refused] at same
  cases refused' : listReader.decode d' with
  | ok keys => exact absurd same (by simp [refused', Json.muted])
  | error e' =>
    rw [refused'] at same
    have quoted {d : Document} {e : Fault} (h : listReader.decode d = .error e) :
        e.quoted? = misplaced? d :=
      Reader.quoted_of_list_error reader_isLocal reader_quotesItself h
    exact ⟨e', rfl, Except.error.inj same, quoted refused, quoted refused'⟩

end KeyPair

/-! ## Words -/

theorem Json.Fault.message_wrongKind_text (content : String) (due : Json.Due) :
    (Fault.wrongKind (.text content) due).message
      = "invalid type: " ++ ("string " ++ Text.quoted content) ++ ", expected " ++ due.describe :=
  rfl

/-- **Faults that are equal when muted say the same only if they are the same.** -/
theorem Json.Fault.eq_of_message_eq {e e' : Fault} (alike : e.mute = e'.mute)
    (same : e.message = e'.message) : e = e' := by
  obtain rfl | ⟨content, content', due, rfl, rfl⟩ := Fault.alike_cases alike
  · rfl
  · rw [message_wrongKind_text, message_wrongKind_text, String.append_left_inj,
      String.append_left_inj, String.append_right_inj, String.append_right_inj] at same
    rw [Text.quoted_inj same]

/-! ## Variables -/

/-- **The error refuses the key list.** -/
def ConfigError.RefusesKeys (e : ConfigError) : Prop :=
  ∃ fault, e = .invalidValue Variables.keys (.notKeyList fault)

theorem ConfigError.message_notKeyList (name : String) (fault : Fault) :
    (ConfigError.invalidValue name (.notKeyList fault)).message
      = "Invalid value for " ++ name ++ ": " ++ ("Invalid JSON: " ++ fault.message) :=
  rfl

/-- The error says the same exactly if the fault does. -/
theorem ConfigError.message_notKeyList_inj {name : String} {fault fault' : Fault} :
    (ConfigError.invalidValue name (.notKeyList fault)).message
      = (ConfigError.invalidValue name (.notKeyList fault')).message ↔
    fault.message = fault'.message := by
  rw [message_notKeyList, message_notKeyList, String.append_right_inj, String.append_right_inj]

theorem readFlag_error {name value : String} {e : ConfigError}
    (h : readFlag name value = .error e) : ¬e.RefusesKeys := by
  rintro ⟨fault, rfl⟩
  simp only [readFlag] at h
  split at h <;> simp at h

theorem ProviderConfig.validate_error {c : ProviderConfig} {e : ConfigError}
    (h : c.validate = .error e) : ¬e.RefusesKeys := by
  rintro ⟨fault, rfl⟩
  simp only [validate, checkRegistrationId] at h
  repeat' split at h
  all_goals simp at h

namespace Variables

variable {lookup lookup' : Variables} {α : Type}

theorem given_congr {name : String} (h : lookup name = lookup' name) :
    lookup.given name = lookup'.given name := by
  rw [given, given, h]

theorem readOr_congr {name : String} (h : lookup name = lookup' name)
    (read : String → String → Except ConfigError α) (standard : α) :
    lookup.readOr name read standard = lookup'.readOr name read standard := by
  rw [readOr, readOr, given_congr h]

theorem readOr_flag_error {name : String} {standard : Bool} {e : ConfigError}
    (h : lookup.readOr name readFlag standard = .error e) : ¬e.RefusesKeys := by
  rw [readOr] at h
  split at h
  · exact readFlag_error h
  · exact absurd h (by simp)

end Variables

namespace ProviderConfig

/-- What is left to do once the keys have been read. -/
def loadWith (c : ProviderConfig) (keys : List KeyPair) : Except ConfigError ProviderConfig := do
  let c := { c with defaultKeys := keys }
  c.validate
  .ok c

/-- Whether that fails does not depend on the keys. -/
theorem loadWith_error {c : ProviderConfig} {keys : List KeyPair} {e : ConfigError}
    (h : c.loadWith keys = .error e) :
    ¬e.RefusesKeys ∧ ∀ keys', c.loadWith keys' = .error e := by
  have same (keys : List KeyPair) : { c with defaultKeys := keys }.validate = c.validate := rfl
  simp only [loadWith, same] at h ⊢
  cases checked : c.validate with
  | error e' =>
    rw [checked] at h
    obtain rfl := Except.error.inj h
    exact ⟨validate_error checked, fun _ => rfl⟩
  | ok _ =>
    rw [checked] at h
    exact absurd h (by simp [bind, Except.bind])

/-- **Where the keys come in.**  Variables that differ in the keys only fail before the keys are
read and for the same reason, or go on from there in the same way. -/
theorem load_cases {lookup lookup' : Variables}
    (elsewhere : ∀ name, name ≠ Variables.keys → lookup name = lookup' name) :
    (∃ e, ¬e.RefusesKeys ∧ load lookup = .error e ∧ load lookup' = .error e) ∨
      ∃ c : ProviderConfig,
        load lookup = lookup.readOr Variables.keys readKeys [] >>= c.loadWith ∧
        load lookup' = lookup'.readOr Variables.keys readKeys [] >>= c.loadWith := by
  have given (name : String) (h : name ≠ Variables.keys) : lookup'.given name = lookup.given name :=
    (Variables.given_congr (elsewhere name h)).symm
  have readOr {α : Type} (name : String) (h : name ≠ Variables.keys)
      (read : String → String → Except ConfigError α) (standard : α) :
      lookup'.readOr name read standard = lookup.readOr name read standard :=
    (Variables.readOr_congr (elsewhere name h) read standard).symm
  simp only [load, ofVariables, given Variables.entityId (by decide),
    readOr Variables.signsRequests (by decide), readOr Variables.wantsSignedAssertions (by decide),
    given Variables.registrationId (by decide), given Variables.nameIdFormat (by decide),
    ← elsewhere Variables.entityAlias (by decide)]
  cases lookup.given Variables.entityId with
  | none => exact .inl ⟨_, by rintro ⟨fault, ⟨⟩⟩, rfl, rfl⟩
  | some entityId =>
    cases signs : lookup.readOr Variables.signsRequests readFlag true with
    | error e => exact .inl ⟨e, Variables.readOr_flag_error signs, rfl, rfl⟩
    | ok signsRequests =>
      cases wants : lookup.readOr Variables.wantsSignedAssertions readFlag true with
      | error e => exact .inl ⟨e, Variables.readOr_flag_error wants, rfl, rfl⟩
      | ok wantsSignedAssertions =>
        refine .inr ⟨
          { registrationId := (lookup.given Variables.registrationId).getD standardRegistrationId
            entityId
            entityAlias := lookup Variables.entityAlias
            nameIdFormat := lookup.given Variables.nameIdFormat
            signing := ⟨signsRequests, wantsSignedAssertions⟩ }, ?_, ?_⟩
        · cases lookup.readOr Variables.keys readKeys [] <;> rfl
        · cases lookup'.readOr Variables.keys readKeys [] <;> rfl

end ProviderConfig

/-! ## The key list -/

theorem Variables.given_text {lookup : Variables} {s : Slot Document}
    (h : lookup keys = some s.text) : lookup.given keys = some s.text := by
  have written : s.text ≠ "" := by
    intro empty
    have chars := congrArg String.toList empty
    obtain ⟨c, t, hc, -⟩ := s.value.write_eq_cons
    rw [Slot.text, String.toList_ofList, hc] at chars
    exact absurd chars (by simp)
  rw [given, h]
  exact Option.filter_some_pos (by simpa using written)

theorem Variables.readOr_keys {lookup : Variables} {s : Slot Document}
    (h : lookup keys = some s.text) :
    lookup.readOr keys readKeys [] = (KeyPair.listReader.decode s.value).mapError fun fault =>
      .invalidValue keys (.notKeyList fault) := by
  rw [readOr, given_text h]
  simp only [readKeys, Json.read_text KeyPair.listReader_isLocal]
  cases KeyPair.listReader.decode s.value <;> rfl

namespace ProviderConfig

theorem load_refused_alike {lookup lookup' : Variables} {s s' : Slot Document}
    (elsewhere : ∀ name, name ≠ Variables.keys → lookup name = lookup' name)
    (given : lookup Variables.keys = some s.text) (given' : lookup' Variables.keys = some s'.text)
    (alike : s.value.mute = s'.value.mute) {e : ConfigError} (refused : load lookup = .error e) :
    ∃ e', load lookup' = .error e' ∧
      (e = e' ∧ ¬e.RefusesKeys ∨
        ∃ fault fault', e = .invalidValue Variables.keys (.notKeyList fault) ∧
          e' = .invalidValue Variables.keys (.notKeyList fault') ∧
          fault.mute = fault'.mute ∧ fault.quoted? = KeyPair.misplaced? s.value ∧
          fault'.quoted? = KeyPair.misplaced? s'.value) := by
  obtain ⟨e', same, before, before'⟩ | ⟨c, after, after'⟩ := load_cases elsewhere
  · obtain rfl : e = e' := Except.error.inj (refused.symm.trans before)
    exact ⟨e, before', .inl ⟨rfl, same⟩⟩
  · rw [Variables.readOr_keys given] at after
    rw [Variables.readOr_keys given'] at after'
    rw [after] at refused
    cases read : KeyPair.listReader.decode s.value with
    | error fault =>
      rw [read] at refused
      obtain rfl := Except.error.inj refused
      obtain ⟨fault', read', rest⟩ := KeyPair.refused_alike alike read
      rw [read'] at after'
      exact ⟨_, after', .inr ⟨fault, fault', rfl, rfl, rest⟩⟩
    | ok keys =>
      rw [read] at refused
      obtain ⟨late, always⟩ := loadWith_error refused
      obtain ⟨keys', read'⟩ := KeyPair.accepted_alike alike read
      rw [read'] at after'
      exact ⟨e, after'.trans (always keys'), .inl ⟨rfl, late⟩⟩

/-- **What a refused key list gives away.**  Variables that differ in nothing but what the texts of
the key list say fail together, and the client is told the same.  Error, words and audit trail are
the same exactly if the key list is not what is refused or the misplaced texts are the same. -/
theorem refusal_tells_misplaced_text {lookup lookup' : Variables} {s s' : Slot Document}
    (elsewhere : ∀ name, name ≠ Variables.keys → lookup name = lookup' name)
    (given : lookup Variables.keys = some s.text) (given' : lookup' Variables.keys = some s'.text)
    (alike : s.value.mute = s'.value.mute) {e : ConfigError} (refused : load lookup = .error e) :
    ∃ e', load lookup' = .error e' ∧
      (ServiceError.configuration e).respond.value
        = (ServiceError.configuration e').respond.value ∧
      (e = e' ↔ (e.RefusesKeys → KeyPair.misplaced? s.value = KeyPair.misplaced? s'.value)) ∧
      (e.message = e'.message ↔
        (e.RefusesKeys → KeyPair.misplaced? s.value = KeyPair.misplaced? s'.value)) ∧
      ((ServiceError.configuration e).respond.events.map Event.fields
          = (ServiceError.configuration e').respond.events.map Event.fields ↔
        (e.RefusesKeys → KeyPair.misplaced? s.value = KeyPair.misplaced? s'.value)) := by
  obtain ⟨e', refused', cases⟩ :=
    load_refused_alike elsewhere given given' alike refused
  have words : (ServiceError.configuration e).respond.events.map Event.fields
      = (ServiceError.configuration e').respond.events.map Event.fields ↔
        e.message = e'.message := by
    simp [ServiceError.respond, ServiceError.events, Event.fields]
  refine ⟨e', refused', rfl, ?_⟩
  rw [words]
  obtain ⟨rfl, other⟩ | ⟨fault, fault', rfl, rfl, mute, quoted, quoted'⟩ := cases
  · have silent : e.RefusesKeys → KeyPair.misplaced? s.value = KeyPair.misplaced? s'.value :=
      fun h => absurd h other
    exact ⟨iff_of_true rfl silent, iff_of_true rfl silent, iff_of_true rfl silent⟩
  · have faults : fault = fault' ↔ KeyPair.misplaced? s.value = KeyPair.misplaced? s'.value := by
      rw [Fault.eq_iff_quoted_eq mute, quoted, quoted']
    have about : (ConfigError.invalidValue Variables.keys (.notKeyList fault)).RefusesKeys :=
      ⟨fault, rfl⟩
    have errors : ConfigError.invalidValue Variables.keys (.notKeyList fault)
        = .invalidValue Variables.keys (.notKeyList fault') ↔ fault = fault' := by
      simp
    have messages : fault.message = fault'.message ↔ fault = fault' :=
      ⟨Fault.eq_of_message_eq mute, congrArg Fault.message⟩
    rw [ConfigError.message_notKeyList_inj, errors, messages, faults, imp_iff_right about]
    exact ⟨Iff.rfl, Iff.rfl, Iff.rfl⟩

/-! ## A key in the wrong place -/

/-- A list with a text where a key pair is due. -/
def strayText (s : Json.Spelling) : Slot Document :=
  ⟨.none, .list .none [⟨.none, .text s, .none⟩], .none⟩

/-- An entity id and the given key list. -/
def withKeyList (s : Slot Document) : Variables := fun name =>
  if name = Variables.entityId then some "entity"
  else if name = Variables.keys then some s.text
  else none

theorem load_withKeyList {s : Slot Document} {fault : Fault}
    (h : KeyPair.listReader.decode s.value = .error fault) :
    load (withKeyList s) = .error (.invalidValue Variables.keys (.notKeyList fault)) := by
  have read : (withKeyList s).readOr Variables.keys readKeys [] = _ :=
    Variables.readOr_keys (s := s) rfl
  rw [h] at read
  simp only [load, ofVariables, read]
  rfl

/-- A text is no key pair, and the refusal quotes it. -/
theorem decode_text {s : Json.Spelling} {content : List Char} (h : s.content = .ok content) :
    KeyPair.reader.decode (.text s)
      = .error (.wrongKind (.text (String.ofList content)) (.record "KeyWithCert")) := by
  rw [KeyPair.reader, (Json.RecordForm.reader_reads KeyPair.fields_isLocal).decode_eq]
  simp only [Json.RecordForm.recordOf, Document.mismatch, Document.found, h]
  rfl

theorem decode_strayText {s : Json.Spelling} {content : List Char} (h : s.content = .ok content) :
    KeyPair.listReader.decode (strayText s).value
      = .error (.wrongKind (.text (String.ofList content)) (.record "KeyWithCert")) := by
  rw [KeyPair.listReader, (Reader.list_reads KeyPair.reader_isLocal).decode_eq]
  simp only [strayText, Reader.itemsOf, List.mapM_cons, decode_text h]
  rfl

theorem misplaced?_strayText {s : Json.Spelling} {content : List Char}
    (h : s.content = .ok content) :
    KeyPair.misplaced? (strayText s).value = some (String.ofList content) := by
  simp only [KeyPair.misplaced?, strayText, Reader.misplaced?, List.find?_cons, decode_text h]
  simp only [Except.isOk, Except.toBool, Bool.not_false, Option.bind_some, Document.said?, h]
  rfl

/-- The keys `a` and `b`, each in the place of a key pair, can be told apart by the refusal. -/
theorem refusal_tells_stray_key :
    let a : Json.Spelling := [.plain 'a' (by decide) (by decide) (by decide)]
    let b : Json.Spelling := [.plain 'b' (by decide) (by decide) (by decide)]
    (strayText a).value.mute = (strayText b).value.mute ∧
      ∃ e e', load (withKeyList (strayText a)) = .error e ∧
        load (withKeyList (strayText b)) = .error e' ∧ e.message ≠ e'.message ∧
        (ServiceError.configuration e).respond.events.map Event.fields
          ≠ (ServiceError.configuration e').respond.events.map Event.fields := by
  intro a b
  have ha : a.content = .ok ['a'] := rfl
  have hb : b.content = .ok ['b'] := rfl
  have elsewhere : ∀ name, name ≠ Variables.keys →
      withKeyList (strayText a) name = withKeyList (strayText b) name := by
    intro name h
    simp [withKeyList, h]
  have refused := load_withKeyList (decode_strayText ha)
  obtain ⟨e', refused', -, -, words, fields⟩ := refusal_tells_misplaced_text elsewhere rfl rfl rfl
    refused
  have told : KeyPair.misplaced? (strayText a).value ≠ KeyPair.misplaced? (strayText b).value := by
    rw [misplaced?_strayText ha, misplaced?_strayText hb]
    decide
  exact ⟨rfl, _, e', refused, refused', fun h => told (words.1 h ⟨_, rfl⟩),
    fun h => told (fields.1 h ⟨_, rfl⟩)⟩

end ProviderConfig

end RelyingParty
