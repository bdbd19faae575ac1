import RelyingParty.AssertingParty
import RelyingParty.Credential
import RelyingParty.Endpoint

/-!
# Registration — everything an identity provider has to know about one relying party
-/

namespace RelyingParty

/-- **What messages are signed**: our requests, and the assertions that we accept. -/
structure SigningPolicy where
  signsRequests : Bool := true
  wantsSignedAssertions : Bool := true
  deriving DecidableEq

/-- What a policy shows of itself. -/
def SigningPolicy.inspect (p : SigningPolicy) : Inspection :=
  .record "SigningDefaults"
    [("sign_requests", .flag p.signsRequests),
      ("want_assertions_signed", .flag p.wantsSignedAssertions)] true

/-- **A relying party as it is registered.** -/
structure Registration where
  registrationId : String
  entityId : String
  entityAlias : String
  nameIdFormat : Option String
  /-- The template of the location that assertions are sent to. -/
  consumerLocation : String
  consumerBinding : Binding
  /-- The template of the location that logout responses are sent to. -/
  logoutLocation : String
  credentials : CredentialSelection
  signing : SigningPolicy
  assertingParty : AssertingParty
  deriving DecidableEq

namespace Registration

/-- The registration with all secrets blotted out. -/
def redact (r : Registration) : Registration :=
  { r with credentials :=
      { decryption := r.credentials.decryption.map (·.redact)
        signing := r.credentials.signing.map (·.redact) } }

/-- What a registration shows of itself. -/
def inspect (r : Registration) : Inspection :=
  .record "Registration"
    [("registration_id", .text r.registrationId),
      ("entity_id", .text r.entityId),
      ("alias", .text r.entityAlias),
      ("name_id_format", .optional .text r.nameIdFormat),
      ("assertion_consumer_service_location", .text r.consumerLocation),
      ("assertion_consumer_service_binding", r.consumerBinding.inspect),
      ("single_logout_service_response_location", .text r.logoutLocation),
      ("signing_credentials", .list (r.credentials.signing.map (·.inspect))),
      ("decryption_credentials", .list (r.credentials.decryption.map (·.inspect))),
      ("authn_requests_signed", .flag r.signing.signsRequests),
      ("want_assertions_signed", .flag r.signing.wantsSignedAssertions),
      ("asserting_party", r.assertingParty.inspect)] true

@[simp] theorem inspect_redact (r : Registration) : r.redact.inspect = r.inspect := by
  simp [inspect, redact, Function.comp_def]

end Registration

end RelyingParty
