import RelyingParty.Audit
import RelyingParty.Http.Response
import RelyingParty.Json.Write

/-!
# ServiceError — why the service has no answer, and what it says of it outside

A client learns only what it knows already, the id it asked for. The details of any other error go
into the audit trail; the client is told its kind.
-/

namespace RelyingParty

/-- **Why the service has no answer.** -/
inductive ServiceError where
  | configuration (cause : ConfigError)
  | notFound (registrationId : String)
  | metadataFailed (detail : String)
  deriving DecidableEq

namespace ServiceError

/-- **The error in words**, for those who run the service. -/
def message : ServiceError → String
  | configuration cause => "Invalid SAML configuration: " ++ cause.message
  | notFound registrationId => "Relying party registration not found: " ++ registrationId
  | metadataFailed detail => "Metadata generation failed: " ++ detail

/-- The status of the response to it. -/
def status : ServiceError → Nat
  | configuration _ => 500
  | notFound _ => 404
  | metadataFailed _ => 500

/-- The name of its kind. -/
def code : ServiceError → String
  | configuration _ => "configuration_error"
  | notFound _ => "registration_not_found"
  | metadataFailed _ => "metadata_generation_failed"

/-- What the client is told. -/
def publicMessage : ServiceError → String
  | configuration _ => "An internal error occurred"
  | e@(notFound _) => e.message
  | metadataFailed _ => "Metadata generation failed"

/-- What is recorded when the client is told: whatever the client is not. -/
def events : ServiceError → List Event
  | configuration cause => [.configurationFault cause]
  | notFound _ => []
  | metadataFailed detail => [.metadataFailed detail]

/-- The body of the response to it. -/
def body (e : ServiceError) : String :=
  Json.writeObject [("error", e.code), ("message", e.publicMessage)]

/-- **The response to it.** -/
def respond (e : ServiceError) : Audited Http.Response :=
  ⟨{ status := e.status, contentType := some "application/json", body := e.body }, e.events⟩

end ServiceError

end RelyingParty
