import RelyingParty.ConfigError
import RelyingParty.Registration
import RelyingParty.Text.Blank

/-!
# ProviderConfig/Basic — the settings of a service provider

A configuration is checked once, when the provider is set up: its names must not be blank, and its
registration must not take the id of the example. `validate` reports the first check that fails.
-/

namespace RelyingParty

/-- The id of a registration that is given none. -/
def standardRegistrationId : String := "default"

/-- The id of the example registration, which every provider has. -/
def exampleRegistrationId : String := "example"

/-- **The settings of a service provider.** -/
structure ProviderConfig where
  registrationId : String := standardRegistrationId
  entityId : String
  /-- The alias, if it differs from the entity id. -/
  entityAlias : Option String := none
  nameIdFormat : Option String := none
  signing : SigningPolicy := {}
  defaultKeys : List KeyPair := []
  assertingParty : AssertingParty := {}
  deriving DecidableEq

/-- The check of a registration's own id. -/
def checkRegistrationId (id : String) : Except ConfigError Unit :=
  if Text.isBlank id then .error .blankRegistrationId
  else if id = exampleRegistrationId then .error (.reservedRegistrationId id)
  else .ok ()

namespace ProviderConfig

/-- **Checks the names of a configuration**: entity id, alias, registration id, in this order. -/
def validate (c : ProviderConfig) : Except ConfigError Unit :=
  if Text.isBlank c.entityId then .error .blankEntityId
  else if c.entityAlias.any Text.isBlank then .error .blankAlias
  else checkRegistrationId c.registrationId

/-- The configuration with all secrets blotted out. -/
def redact (c : ProviderConfig) : ProviderConfig :=
  { c with defaultKeys := c.defaultKeys.map (·.redact) }

/-- What a configuration shows of itself. -/
def inspect (c : ProviderConfig) : Inspection :=
  .record "SpConfig"
    [("registration_id", .text c.registrationId),
      ("entity_id", .text c.entityId),
      ("entity_id_alias", .optional .text c.entityAlias),
      ("name_id_format", .optional .text c.nameIdFormat),
      ("sign_requests", .flag c.signing.signsRequests),
      ("want_assertions_signed", .flag c.signing.wantsSignedAssertions),
      ("default_keys", KeyPair.inspectAll c.defaultKeys),
      ("asserting_party", c.assertingParty.inspect)] true

@[simp] theorem inspect_redact (c : ProviderConfig) : c.redact.inspect = c.inspect := by
  simp [inspect, redact]

/-- A configuration of which some fields have been read. -/
structure Draft where
  registrationId : Option String := none
  entityId : Option String := none
  entityAlias : Option (Option String) := none
  nameIdFormat : Option (Option String) := none
  signsRequests : Option Bool := none
  wantsSignedAssertions : Option Bool := none
  defaultKeys : Option (List KeyPair) := none
  assertingParty : Option AssertingParty := none

/-- **The written form**: every field but the entity id may be left out. -/
def form : Json.RecordForm Draft ProviderConfig where
  name := "SpConfig"
  fields := [
    .of "registration_id" (·.registrationId) (fun v d => { d with registrationId := some v }) .text,
    .of "entity_id" (·.entityId) (fun v d => { d with entityId := some v }) .text,
    .of "entity_id_alias" (·.entityAlias) (fun v d => { d with entityAlias := some v })
      (.optional .text),
    .of "name_id_format" (·.nameIdFormat) (fun v d => { d with nameIdFormat := some v })
      (.optional .text),
    .of "sign_requests" (·.signsRequests) (fun v d => { d with signsRequests := some v }) .flag,
    .of "want_assertions_signed" (·.wantsSignedAssertions)
      (fun v d => { d with wantsSignedAssertions := some v }) .flag,
    .of "default_keys" (·.defaultKeys) (fun v d => { d with defaultKeys := some v })
      KeyPair.listReader,
    .of "asserting_party" (·.assertingParty) (fun v d => { d with assertingParty := some v })
      AssertingParty.reader]
  empty := {}
  finish d := do
    let entityId ← Json.RecordForm.required 1 d.entityId
    return {
      registrationId := d.registrationId.getD standardRegistrationId
      entityId
      entityAlias := d.entityAlias.getD none
      nameIdFormat := d.nameIdFormat.getD none
      signing := ⟨d.signsRequests.getD true, d.wantsSignedAssertions.getD true⟩
      defaultKeys := d.defaultKeys.getD []
      assertingParty := d.assertingParty.getD {} }

/-- Reads a configuration. -/
def reader : Json.Reader ProviderConfig := form.reader

end ProviderConfig

end RelyingParty
