import Mathlib.Tactic.FinCases
import RelyingParty.Proofs.Identifier
import RelyingParty.Proofs.Json.Following
import RelyingParty.ProviderConfig.Basic
import RelyingParty.Tenant

/-!
# Proofs/Forms — configurations and tenants in writing

For each kind of record, `entries` lists the members of its objects with their defaults, and where
each of them goes in a draft.  The forms are lawful, so their readers follow the formats of these
members.
-/

namespace RelyingParty

open Json

theorem Json.RecordForm.required_eq_ok_iff {place : Nat} {o : Option β} {b : β} :
    required place o = .ok b ↔ o = some b := by
  cases o <;> simp [required]

/-! ## Key pairs -/

namespace KeyPair

/-- Only the passphrase may be left out. -/
def entries : List (Entry Draft KeyPair) := [
  ⟨.required "key" (·.key) .text, (·.key), fun v d => { d with key := some v }, .text⟩,
  ⟨.omissible "passphrase" (·.passphrase) .text "",
    (·.passphrase), fun v d => { d with passphrase := some v }, .text⟩,
  ⟨.required "certificate" (·.certificate) .text,
    (·.certificate), fun v d => { d with certificate := some v }, .text⟩]

/-- **How key pairs are written.** -/
def format : Format KeyPair := .record (entries.map Entry.toMember)

theorem form_lawful : form.Lawful entries where
  fields_eq := rfl
  names_nodup := by decide
  get_empty := by intro e he; fin_cases he <;> rfl
  get_put_self := by intro e he; fin_cases he <;> exact fun _ _ => rfl
  get_put_ne := by
    intro e he e' he' ne
    fin_cases he <;> fin_cases he' <;> first | exact fun _ _ => rfl | exact absurd rfl ne
  finish_iff := by
    rintro draft ⟨_, _, _⟩
    simp [form, entries, bind_eq_ok_iff, RecordForm.required_eq_ok_iff, Member.required,
      Member.omissible, Option.or_some, -Option.or_eq_some_iff, pure, Except.pure, and_comm]

theorem reader_follows : reader.Follows format := by
  refine form_lawful.follows fun e he => ?_
  fin_cases he <;> exact Reader.text_follows

theorem format_isTotal : format.IsTotal := by
  refine Format.record_isTotal (fun m hm => ?_) (by decide)
  fin_cases hm <;> exact Format.text_isTotal

/-- A key pair written without its empty passphrase, the certificate first. -/
def bareDocument (key certificate : String) : Document :=
  .object .none [Members.entry "certificate" (.said certificate), Members.entry "key" (.said key)]

theorem stands_bareDocument (key certificate : String) :
    format.Stands (bareDocument key certificate) ⟨key, "", certificate⟩ := by
  refine ⟨_, _, rfl, ?_, fun m hm => ?_⟩
  · exact Members.legible_entry_cons _ _ (Members.legible_entry_cons _ _ Members.legible_nil)
  · fin_cases hm
    · exact .once (Format.text_stands_said key)
    · exact .omitted rfl
    · exact .once (Format.text_stands_said certificate)

end KeyPair

/-! ## Tenants -/

namespace TenantSettings

/-- Everything may be left out. -/
def entries : List (Entry Draft TenantSettings) := [
  ⟨.omissible "entity_id_override" (·.entityIdOverride) (.optional .text) none,
    (·.entityIdOverride), fun v d => { d with entityIdOverride := some v }, .optional .text⟩,
  ⟨.omissible "request_signed" (·.signsRequests) .flag true,
    (·.signsRequests), fun v d => { d with signsRequests := some v }, .flag⟩,
  ⟨.omissible "want_assertion_signed" (·.wantsSignedAssertions) .flag true,
    (·.wantsSignedAssertions), fun v d => { d with wantsSignedAssertions := some v }, .flag⟩,
  ⟨.omissible "keys" (·.keys) (.list KeyPair.format) [],
    (·.keys), fun v d => { d with keys := some v }, KeyPair.listReader⟩]

/-- **How a tenant's settings are written.** -/
def format : Format TenantSettings := .record (entries.map Entry.toMember)

theorem form_lawful : form.Lawful entries where
  fields_eq := rfl
  names_nodup := by decide
  get_empty := by intro e he; fin_cases he <;> rfl
  get_put_self := by intro e he; fin_cases he <;> exact fun _ _ => rfl
  get_put_ne := by
    intro e he e' he' ne
    fin_cases he <;> fin_cases he' <;> first | exact fun _ _ => rfl | exact absurd rfl ne
  finish_iff := by
    rintro draft ⟨_, _, _, _⟩
    simp [form, entries, Member.omissible, Option.or_some, -Option.or_eq_some_iff]

theorem reader_follows : reader.Follows format := by
  refine form_lawful.follows fun e he => ?_
  fin_cases he
  · exact Reader.optional_follows Reader.text_follows
  · exact Reader.flag_follows
  · exact Reader.flag_follows
  · exact Reader.list_follows KeyPair.reader_follows

theorem format_isTotal : format.IsTotal := by
  refine Format.record_isTotal (fun m hm => ?_) (by decide)
  fin_cases hm
  · exact Format.optional_isTotal Format.text_isTotal Format.text_notNull
  · exact Format.flag_isTotal
  · exact Format.flag_isTotal
  · exact Format.list_isTotal KeyPair.format_isTotal

end TenantSettings

namespace TenantId

/-- **An identity is written in any of its spellings.** -/
def format : Format TenantId := .spelled fun text id => id.Spells text.toList

theorem reader_follows : reader.Follows format :=
  Reader.refined_follows .identifier fun spells => by rw [spells.parse]

theorem format_isTotal : format.IsTotal :=
  Format.spelled_isTotal fun id => ⟨id.toString, id.spells_toString⟩

end TenantId

namespace Tenant

/-- The identity and the subdomain must not be left out. -/
def entries : List (Entry Draft Tenant) := [
  ⟨.required "id" (·.id) TenantId.format,
    (·.id), fun v d => { d with id := some v }, TenantId.reader⟩,
  ⟨.required "subdomain" (·.subdomain) .text,
    (·.subdomain), fun v d => { d with subdomain := some v }, .text⟩,
  ⟨.omissible "is_default" (·.isDefault) .flag false,
    (·.isDefault), fun v d => { d with isDefault := some v }, .flag⟩,
  ⟨.omissible "saml_config" (·.settings) (.optional TenantSettings.format) none,
    (·.settings), fun v d => { d with settings := some v }, .optional TenantSettings.reader⟩]

/-- **How tenants are written.** -/
def format : Format Tenant := .record (entries.map Entry.toMember)

theorem form_lawful : form.Lawful entries where
  fields_eq := rfl
  names_nodup := by decide
  get_empty := by intro e he; fin_cases he <;> rfl
  get_put_self := by intro e he; fin_cases he <;> exact fun _ _ => rfl
  get_put_ne := by
    intro e he e' he' ne
    fin_cases he <;> fin_cases he' <;> first | exact fun _ _ => rfl | exact absurd rfl ne
  finish_iff := by
    rintro draft ⟨_, _, _, _⟩
    simp [form, entries, bind_eq_ok_iff, RecordForm.required_eq_ok_iff, Member.required,
      Member.omissible, Option.or_some, -Option.or_eq_some_iff, pure, Except.pure]

theorem reader_follows : reader.Follows format := by
  refine form_lawful.follows fun e he => ?_
  fin_cases he
  · exact TenantId.reader_follows
  · exact Reader.text_follows
  · exact Reader.flag_follows
  · exact Reader.optional_follows TenantSettings.reader_follows

theorem format_isTotal : format.IsTotal := by
  refine Format.record_isTotal (fun m hm => ?_) (by decide)
  fin_cases hm
  · exact TenantId.format_isTotal
  · exact Format.text_isTotal
  · exact Format.flag_isTotal
  · exact Format.optional_isTotal TenantSettings.format_isTotal (Format.record_notNull _)

end Tenant

/-! ## Identity providers -/

namespace Binding

/-- The name of a binding in settings. -/
def name : Binding → String
  | post => "http-post"
  | redirect => "http-redirect"

/-- **A binding is written as its name.** -/
def format : Format Binding := .spelled fun text b => text = b.name

theorem reader_follows : reader.Follows format :=
  Reader.choice_follows fun named => by
    subst named
    cases ‹Binding› <;> rfl

theorem format_isTotal : format.IsTotal := Format.spelled_isTotal fun b => ⟨b.name, rfl⟩

end Binding

namespace AssertingParty

/-- Whatever is left out is the placeholder's. -/
def entries : List (Entry Draft AssertingParty) := [
  ⟨.omissible "entity_id" (·.entityId) .text "exampleEntityId",
    (·.entityId), fun v d => { d with entityId := some v }, .text⟩,
  ⟨.omissible "single_sign_on_service_location" (·.signOnLocation) .text
      "https://idp.example.com/saml/SSO",
    (·.signOnLocation), fun v d => { d with signOnLocation := some v }, .text⟩,
  ⟨.omissible "single_sign_on_service_binding" (·.signOnBinding) Binding.format .redirect,
    (·.signOnBinding), fun v d => { d with signOnBinding := some v }, Binding.reader⟩,
  ⟨.omissible "want_authn_requests_signed" (·.wantsSignedRequests) .flag true,
    (·.wantsSignedRequests), fun v d => { d with wantsSignedRequests := some v }, .flag⟩,
  ⟨.omissible "signing_algorithms" (·.signingAlgorithms) (.list .text) [],
    (·.signingAlgorithms), fun v d => { d with signingAlgorithms := some v }, .list .text⟩]

/-- **How identity providers are written.** -/
def format : Format AssertingParty := .record (entries.map Entry.toMember)

theorem form_lawful : form.Lawful entries where
  fields_eq := rfl
  names_nodup := by decide
  get_empty := by intro e he; fin_cases he <;> rfl
  get_put_self := by intro e he; fin_cases he <;> exact fun _ _ => rfl
  get_put_ne := by
    intro e he e' he' ne
    fin_cases he <;> fin_cases he' <;> first | exact fun _ _ => rfl | exact absurd rfl ne
  finish_iff := by
    rintro draft ⟨_, _, _, _, _⟩
    simp [form, entries, Member.omissible, Option.or_some, -Option.or_eq_some_iff,
      placeholderEntityId, placeholderSignOnLocation]

theorem reader_follows : reader.Follows format := by
  refine form_lawful.follows fun e he => ?_
  fin_cases he
  · exact Reader.text_follows
  · exact Reader.text_follows
  · exact Binding.reader_follows
  · exact Reader.flag_follows
  · exact Reader.list_follows Reader.text_follows

theorem format_isTotal : format.IsTotal := by
  refine Format.record_isTotal (fun m hm => ?_) (by decide)
  fin_cases hm
  · exact Format.text_isTotal
  · exact Format.text_isTotal
  · exact Binding.format_isTotal
  · exact Format.flag_isTotal
  · exact Format.list_isTotal Format.text_isTotal

end AssertingParty

/-! ## Configurations -/

namespace ProviderConfig

/-- Only the entity id must not be left out. -/
def entries : List (Entry Draft ProviderConfig) := [
  ⟨.omissible "registration_id" (·.registrationId) .text "default",
    (·.registrationId), fun v d => { d with registrationId := some v }, .text⟩,
  ⟨.required "entity_id" (·.entityId) .text,
    (·.entityId), fun v d => { d with entityId := some v }, .text⟩,
  ⟨.omissible "entity_id_alias" (·.entityAlias) (.optional .text) none,
    (·.entityAlias), fun v d => { d with entityAlias := some v }, .optional .text⟩,
  ⟨.omissible "name_id_format" (·.nameIdFormat) (.optional .text) none,
    (·.nameIdFormat), fun v d => { d with nameIdFormat := some v }, .optional .text⟩,
  ⟨.omissible "sign_requests" (·.signing.signsRequests) .flag true,
    (·.signsRequests), fun v d => { d with signsRequests := some v }, .flag⟩,
  ⟨.omissible "want_assertions_signed" (·.signing.wantsSignedAssertions) .flag true,
    (·.wantsSignedAssertions), fun v d => { d with wantsSignedAssertions := some v }, .flag⟩,
  ⟨.omissible "default_keys" (·.defaultKeys) (.list KeyPair.format) [],
    (·.defaultKeys), fun v d => { d with defaultKeys := some v }, KeyPair.listReader⟩,
  ⟨.omissible "asserting_party" (·.assertingParty) AssertingParty.format {},
    (·.assertingParty), fun v d => { d with assertingParty := some v }, AssertingParty.reader⟩]

/-- **How configurations are written.** -/
def format : Format ProviderConfig := .record (entries.map Entry.toMember)

theorem form_lawful : form.Lawful entries where
  fields_eq := rfl
  names_nodup := by decide
  get_empty := by intro e he; fin_cases he <;> rfl
  get_put_self := by intro e he; fin_cases he <;> exact fun _ _ => rfl
  get_put_ne := by
    intro e he e' he' ne
    fin_cases he <;> fin_cases he' <;> first | exact fun _ _ => rfl | exact absurd rfl ne
  finish_iff := by
    rintro draft ⟨_, _, _, _, ⟨_, _⟩, _, _⟩
    simpa [form, entries, bind_eq_ok_iff, RecordForm.required_eq_ok_iff, Member.required,
      Member.omissible, Option.or_some, -Option.or_eq_some_iff, pure, Except.pure,
      standardRegistrationId, and_assoc] using and_left_comm

theorem reader_follows : reader.Follows format := by
  refine form_lawful.follows fun e he => ?_
  fin_cases he
  · exact Reader.text_follows
  · exact Reader.text_follows
  · exact Reader.optional_follows Reader.text_follows
  · exact Reader.optional_follows Reader.text_follows
  · exact Reader.flag_follows
  · exact Reader.flag_follows
  · exact Reader.list_follows KeyPair.reader_follows
  · exact AssertingParty.reader_follows

theorem format_isTotal : format.IsTotal := by
  refine Format.record_isTotal (fun m hm => ?_) (by decide)
  fin_cases hm
  · exact Format.text_isTotal
  · exact Format.text_isTotal
  · exact Format.optional_isTotal Format.text_isTotal Format.text_notNull
  · exact Format.optional_isTotal Format.text_isTotal Format.text_notNull
  · exact Format.flag_isTotal
  · exact Format.flag_isTotal
  · exact Format.list_isTotal KeyPair.format_isTotal
  · exact AssertingParty.format_isTotal

end ProviderConfig

/-! ## What is written is read -/

/-- **Configurations and tenants are recovered from their texts.**  All of them can be written; a
text that stands for one, whatever the order of its members, what it leaves to the defaults, adds
under other names or has in white space, is read as that one; and a text is refused if any object
in it lacks a required member or repeats a known one. -/
theorem read_recovers_configurations_and_tenants :
    (ProviderConfig.format.IsTotal ∧ Tenant.format.IsTotal) ∧
      (∀ (s : Slot Document) (c : ProviderConfig), ProviderConfig.format.Stands s.value c →
        read ProviderConfig.reader s.text = .ok c) ∧
      (∀ (s : Slot Document) (t : Tenant), Tenant.format.Stands s.value t →
        read Tenant.reader s.text = .ok t) ∧
      (∀ s : Slot Document, ProviderConfig.format.Flawed s.value →
        ∃ fault, read ProviderConfig.reader s.text = .error fault) ∧
      ∀ s : Slot Document, Tenant.format.Flawed s.value →
        ∃ fault, read Tenant.reader s.text = .error fault :=
  ⟨⟨ProviderConfig.format_isTotal, Tenant.format_isTotal⟩,
    fun _ _ => ProviderConfig.reader_follows.read_of_stands,
    fun _ _ => Tenant.reader_follows.read_of_stands,
    fun _ => ProviderConfig.reader_follows.read_of_flawed,
    fun _ => Tenant.reader_follows.read_of_flawed⟩

theorem read_recovers_sample :
    read ProviderConfig.reader
        ("\n\x7b\"default_keys\":[\x7b\"certificate\":\"C\",\"key\":\"K\"\x7d],"
          ++ "\"more\":null,\"entity_id\":\"sp\"\x7d")
      = .ok { entityId := "sp", defaultKeys := [⟨"K", "", "C"⟩] } ∧
    ∃ fault, read Tenant.reader "\x7b\"id\":\"?\",\"id\":\"?\"\x7d" = .error fault := by
  obtain ⟨-, config, -, -, tenant⟩ := read_recovers_configurations_and_tenants
  constructor
  · refine config ⟨⟨['\n'], by simp [isSpace]⟩, .object .none [
      Members.entry "default_keys" (.listed [KeyPair.bareDocument "K" "C"]),
      Members.entry "more" .null, Members.entry "entity_id" (.said "sp")], .none⟩ _ ?_
    refine ⟨_, _, rfl, ?_, fun m hm => ?_⟩
    · exact Members.legible_entry_cons _ _ (Members.legible_entry_cons _ _
        (Members.legible_entry_cons _ _ Members.legible_nil))
    · fin_cases hm
      · exact .omitted rfl
      · exact .once (Format.text_stands_said "sp")
      · exact .omitted rfl
      · exact .omitted rfl
      · exact .omitted rfl
      · exact .omitted rfl
      · exact .once ⟨_, _, rfl, .cons (KeyPair.stands_bareDocument "K" "C") .nil⟩
      · exact .omitted rfl
  · refine tenant ⟨.none, .object .none [
      Members.entry "id" (.said "?"), Members.entry "id" (.said "?")], .none⟩ ?_
    exact ⟨_, _, rfl, .inr ⟨_, List.mem_cons_self, .repeated _ _ _⟩⟩

end RelyingParty
