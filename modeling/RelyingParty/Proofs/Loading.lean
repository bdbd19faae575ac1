import RelyingParty.Proofs.Construction
import RelyingParty.Proofs.Forms
import RelyingParty.Proofs.Refusal

/-!
# Proofs/Loading — variables that spell a configuration

A configuration can be spelled by variables if it is valid, leaves the identity provider to the
placeholder and has no empty name format, which would count as none.  Loading gives back the
configuration that the variables spell (`load_of_spells`), and the registry made of it advertises
the keys in the order in which they are spelled.
-/

namespace RelyingParty

open Json (Slot Document Format)

/-- How a truth value is spelled. -/
def spellFlag (b : Bool) : String := if b then "true" else "false"

/-- **The variables spell the configuration.** -/
structure Variables.Spells (lookup : Variables) (c : ProviderConfig) : Prop where
  entityId : lookup Variables.entityId = some c.entityId
  registrationId : lookup Variables.registrationId = some c.registrationId
  entityAlias : lookup Variables.entityAlias = c.entityAlias
  nameIdFormat : lookup Variables.nameIdFormat = c.nameIdFormat
  signsRequests : lookup Variables.signsRequests = some (spellFlag c.signing.signsRequests)
  wantsSignedAssertions : lookup Variables.wantsSignedAssertions
    = some (spellFlag c.signing.wantsSignedAssertions)
  keys : ∃ s : Slot Document, lookup Variables.keys = some s.text ∧
    KeyPair.format.list.Stands s.value c.defaultKeys

namespace Variables

variable {lookup : Variables} {name : String}

/-! ## Single variables -/

theorem given_some {value : String} (h : lookup name = some value) (ne : value ≠ "") :
    lookup.given name = some value := by
  rw [given, h]
  exact Option.filter_some_pos (by simpa using ne)

theorem given_eq {value : Option String} (h : lookup name = value) (ne : value ≠ some "") :
    lookup.given name = value := by
  cases value with
  | none => rw [given, h]; rfl
  | some value => exact given_some h fun empty => ne (congrArg some empty)

theorem readFlag_spellFlag (name : String) (b : Bool) : readFlag name (spellFlag b) = .ok b := by
  cases b <;> rfl

theorem readOr_spellFlag {b : Bool} (h : lookup name = some (spellFlag b)) (standard : Bool) :
    lookup.readOr name readFlag standard = .ok b := by
  have said : spellFlag b ≠ "" := by cases b <;> decide
  rw [readOr, given_some h said]
  exact readFlag_spellFlag name b

theorem readOr_keys_of_stands {s : Slot Document} (h : lookup keys = some s.text)
    {ks : List KeyPair} (stands : KeyPair.format.list.Stands s.value ks) :
    lookup.readOr keys readKeys [] = .ok ks := by
  have follows := Json.Reader.list_follows KeyPair.reader_follows
  rw [readOr_keys h]
  exact congrArg (Except.mapError _) (follows.decode_of_stands stands)

end Variables

/-! ## Configurations -/

namespace ProviderConfig

variable {c : ProviderConfig} {lookup : Variables}

/-- **A configuration is valid** if its names say something and its id may be taken. -/
theorem validate_eq_ok_iff :
    c.validate = .ok () ↔
      Text.isBlank c.entityId = false ∧ c.entityAlias.any Text.isBlank = false ∧
        Text.isBlank c.registrationId = false ∧ c.registrationId ≠ exampleRegistrationId := by
  unfold validate checkRegistrationId
  split_ifs <;> simp [*]

/-- Some variables spell the configuration. -/
theorem exists_spells (c : ProviderConfig) : ∃ lookup : Variables, lookup.Spells c := by
  obtain ⟨d, stands⟩ := Format.list_isTotal KeyPair.format_isTotal c.defaultKeys
  let s : Slot Document := ⟨.none, d, .none⟩
  refine ⟨fun
    | "SAML_ENTITY_ID" => some c.entityId
    | "SAML_REGISTRATION_ID" => some c.registrationId
    | "SAML_ENTITY_ID_ALIAS" => c.entityAlias
    | "SAML_NAME_ID_FORMAT" => c.nameIdFormat
    | "SAML_SIGN_REQUEST" => some (spellFlag c.signing.signsRequests)
    | "SAML_WANT_ASSERTION_SIGNED" => some (spellFlag c.signing.wantsSignedAssertions)
    | "SAML_KEYS" => some s.text
    | _ => none, rfl, rfl, rfl, rfl, rfl, rfl, s, rfl, stands⟩

/-- **Loading gives back the configuration that the variables spell.** -/
theorem load_of_spells (valid : c.validate = .ok ()) (party : c.assertingParty = {})
    (format : c.nameIdFormat ≠ some "") (h : lookup.Spells c) : load lookup = .ok c := by
  obtain ⟨entityId, -, registrationId, -⟩ := validate_eq_ok_iff.mp valid
  obtain ⟨s, keys, stands⟩ := h.keys
  -- an empty value would count as unset; validity and `format` rule it out
  have read : ofVariables lookup = .ok c := by
    rw [ofVariables, Variables.given_some h.entityId (Text.ne_empty_of_not_isBlank entityId)]
    simp only [Variables.readOr_spellFlag h.signsRequests,
      Variables.readOr_spellFlag h.wantsSignedAssertions,
      Variables.readOr_keys_of_stands keys stands,
      Variables.given_some h.registrationId (Text.ne_empty_of_not_isBlank registrationId),
      h.entityAlias, Variables.given_eq h.nameIdFormat format]
    rw [← party]
    rfl
  rw [load, read]
  exact congrArg (· >>= fun _ => .ok c) valid

end ProviderConfig

/-! ## Registries -/

namespace Registry

variable {g : Registry} {c : ProviderConfig}

theorem exists_ofConfig (valid : c.validate = .ok ()) : ∃ g, ofConfig c = .ok g := by
  have accepted : verdict (ofConfig c) = .ok () := by
    rw [ofConfig_eq, verdict_map, verdict_build_parts, valid]
  obtain ⟨g, built, -⟩ := map_eq_ok_iff.mp accepted
  exact ⟨g, built⟩

/-- A tenant without keys of its own has the default keys advertised, in their order. -/
theorem Holds.signing_of_keys_nil {around : Surroundings} {t : Tenant} {id : String}
    {r : Registration} (h : g.Holds around t id r) (none : t.keys = []) :
    r.credentials.signing = (g.keySource.keys around).map (⟨·, .signing⟩) := by
  rcases h with ⟨-, rfl⟩ | ⟨-, rfl⟩
  · rw [Profile.registrationOf, none]
    rfl
  · rfl

/-- The registry of a configuration advertises the configuration's keys. -/
theorem exists_signing_of_ofConfig (h : ofConfig c = .ok g) (around : Surroundings) {t : Tenant}
    (none : t.keys = []) {id : String}
    (known : id = c.registrationId ∨ id = exampleRegistrationId) :
    ∃ r, (g.resolve around id t).value = .ok r ∧
      r.credentials.signing = c.defaultKeys.map (⟨·, .signing⟩) := by
  obtain ⟨p, built⟩ := exists_ofProfile_of_ofConfig h
  obtain ⟨-, ownId, -, source⟩ := ofProfile_eq_ok_iff.mp built
  rw [← ownId] at known
  obtain ⟨r, held⟩ := (g.exists_holds_iff around t).mpr known
  refine ⟨r, value_resolve_eq_ok_iff.mpr held, ?_⟩
  rw [held.signing_of_keys_nil none, source]
  rfl

end Registry

/-- **Loading inverts spelling.**  Variables that spell a valid configuration, with the placeholder
for its identity provider and no empty name format, are loaded as that configuration; and the
registry that is built from them advertises its keys, in their order and as often as they are
spelled, for every tenant that has none of its own. -/
theorem load_inverts_spelling {lookup : Variables} {c : ProviderConfig}
    (valid : c.validate = .ok ()) (party : c.assertingParty = {})
    (format : c.nameIdFormat ≠ some "") (h : lookup.Spells c) :
    ProviderConfig.load lookup = .ok c ∧
    ∃ g, (Recipe.environment lookup).build = .ok g ∧
      (∀ (around : Surroundings) (t : Tenant), t.keys = [] →
        ∀ id, id = c.registrationId ∨ id = exampleRegistrationId →
          ∃ r, (g.resolve around id t).value = .ok r ∧
            r.credentials.signing = c.defaultKeys.map (⟨·, .signing⟩)) ∧
      ∀ around : Surroundings, around.tenant.keys = [] →
        ∀ id, id = c.registrationId ∨ id = exampleRegistrationId →
          ∃ r, (g.find around id).value = .ok r ∧
            r.credentials.signing = c.defaultKeys.map (⟨·, .signing⟩) := by
  have loaded := ProviderConfig.load_of_spells valid party format h
  obtain ⟨g, built⟩ := Registry.exists_ofConfig valid
  refine ⟨loaded, g, ?_, fun around t none id known => ?_, fun around none id known => ?_⟩
  · rw [Recipe.build, loaded]
    exact built
  · exact Registry.exists_signing_of_ofConfig built around none known
  · exact Registry.exists_signing_of_ofConfig built around none known

/-- A configuration that has one key twice, and another between. -/
def rolledOver : ProviderConfig where
  registrationId := "acme"
  entityId := "sp"
  entityAlias := some " sp "
  signing := ⟨false, true⟩
  defaultKeys := [⟨"K", "", "C"⟩, ⟨"\"", "", "C"⟩, ⟨"K", "", "C"⟩]

/-- The variables that spell it. -/
def rolledOverVariables : Variables
  | "SAML_ENTITY_ID" => some "sp"
  | "SAML_REGISTRATION_ID" => some "acme"
  | "SAML_ENTITY_ID_ALIAS" => some " sp "
  | "SAML_SIGN_REQUEST" => some "false"
  | "SAML_WANT_ASSERTION_SIGNED" => some "true"
  | "SAML_KEYS" =>
    some ("[\x7b\"certificate\":\"C\",\"key\":\"K\"\x7d," ++
      "\x7b\"certificate\":\"C\",\"key\":\"\\\"\"\x7d," ++
      "\x7b\"certificate\":\"C\",\"key\":\"K\"\x7d]")
  | _ => none

theorem load_inverts_spelling_rolledOver :
    let zone : Tenant := { id := ⟨9⟩, subdomain := "zone" }
    ProviderConfig.load rolledOverVariables = .ok rolledOver ∧
    ∃ g, (Recipe.environment rolledOverVariables).build = .ok g ∧
      ∃ r, (g.find ⟨zone, []⟩ "acme").value = .ok r ∧
        r.credentials.signing.map (·.material.key) = ["K", "\"", "K"] := by
  intro zone
  have spells : rolledOverVariables.Spells rolledOver := by
    refine ⟨rfl, rfl, rfl, rfl, rfl, rfl,
      ⟨.none, .listed [KeyPair.bareDocument "K" "C", KeyPair.bareDocument "\"" "C",
        KeyPair.bareDocument "K" "C"], .none⟩, ?_, _, _, rfl, ?_⟩
    · decide +kernel
    · exact .cons (KeyPair.stands_bareDocument "K" "C")
        (.cons (KeyPair.stands_bareDocument "\"" "C")
          (.cons (KeyPair.stands_bareDocument "K" "C") .nil))
  obtain ⟨loaded, g, built, -, finds⟩ :=
    load_inverts_spelling (c := rolledOver) rfl rfl (by decide) spells
  obtain ⟨r, found, keys⟩ := finds ⟨zone, []⟩ rfl "acme" (.inl rfl)
  exact ⟨loaded, g, built, r, found, by rw [keys]; rfl⟩

end RelyingParty
