import RelyingParty.Audit
import RelyingParty.ProviderConfig.Basic
import RelyingParty.Identity

/-!
# Profile — from the provider's settings to the registration of a tenant

A profile holds what all registrations of a provider have in common. For a tenant it gives the
identity under which the tenant is known, the endpoints, the credentials and what is signed. The
example registration belongs to no tenant: it shows the configured entity id, which is also its
alias, over the default keys.
-/

namespace RelyingParty

/-- **What all registrations of a provider have in common.** Neither name is blank. -/
structure Profile where
  identity : IdentityPolicy
  nameIdFormat : Option String
  signing : SigningPolicy
  assertingParty : AssertingParty
  entityId_not_blank : Text.isBlank identity.entityId = false
  alias_not_blank : Text.isBlank identity.defaultAlias = false

namespace Profile

/-- **The profile with the given parts**, if its names say something. -/
def ofParts (identity : IdentityPolicy) (nameIdFormat : Option String) (signing : SigningPolicy)
    (assertingParty : AssertingParty) : Except ConfigError Profile :=
  if blankEntityId : Text.isBlank identity.entityId = true then .error .blankEntityId
  else if blankAlias : Text.isBlank identity.defaultAlias = true then .error .blankAlias
  else .ok {
    identity, nameIdFormat, signing, assertingParty
    entityId_not_blank := by simpa using blankEntityId
    alias_not_blank := by simpa using blankAlias }

/-- The names in a configuration. -/
def identityOfConfig (c : ProviderConfig) : IdentityPolicy := ⟨c.entityId, c.entityAlias⟩

/-- **The profile of a valid configuration.** -/
def ofConfig (c : ProviderConfig) : Except ConfigError Profile := do
  c.validate
  ofParts (identityOfConfig c) c.nameIdFormat c.signing c.assertingParty

/-- What is signed for a tenant: its settings decide, if it has any. -/
def signingFor (p : Profile) (t : Tenant) : SigningPolicy :=
  match t.settings with
  | some s => ⟨s.signsRequests, s.wantsSignedAssertions⟩
  | none => p.signing

/-- The registration of the given identity. -/
def register (p : Profile) (registrationId : String) (identity : Identity)
    (credentials : CredentialSelection) (signing : SigningPolicy) : Registration where
  registrationId := registrationId
  entityId := identity.entityId
  entityAlias := identity.entityAlias
  nameIdFormat := p.nameIdFormat
  consumerLocation := Endpoint.consumerLocation identity.entityAlias
  consumerBinding := .post
  logoutLocation := Endpoint.logoutLocation identity.entityAlias
  credentials := credentials
  signing := signing
  assertingParty := p.assertingParty

/-- **The registration of a tenant** over the given default keys. -/
def registrationOf (p : Profile) (registrationId : String) (t : Tenant)
    (defaultKeys : List KeyPair) : Registration :=
  p.register registrationId (p.identity.identityOf t) (.select t.keys defaultKeys) (p.signingFor t)

/-- The registration of a tenant, and the record that it was put together. -/
def assemble (p : Profile) (registrationId : String) (t : Tenant) (defaultKeys : List KeyPair) :
    Audited Registration :=
  let r := p.registrationOf registrationId t defaultKeys
  ⟨r, [.registrationAssembled r.registrationId t.id r.entityId r.entityAlias
    r.credentials.signing.length]⟩

/-- **The example registration** over the given default keys. -/
def exampleRegistration (p : Profile) (defaultKeys : List KeyPair) : Registration :=
  p.register exampleRegistrationId ⟨p.identity.entityId, p.identity.entityId⟩
    (.select [] defaultKeys) p.signing

/-- What a profile shows of itself. -/
def inspect (p : Profile) : Inspection :=
  .record "RegistrationAssembler"
    [("identity", p.identity.inspect),
      ("name_id_format", .optional .text p.nameIdFormat),
      ("signing_defaults", p.signing.inspect),
      ("asserting_party", p.assertingParty.inspect)] true

end Profile

end RelyingParty
