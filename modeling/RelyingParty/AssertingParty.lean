import RelyingParty.Inspection
import RelyingParty.Json.Record

/-!
# AssertingParty — the identity provider on the other side

Metadata of the service provider can be published before any identity provider is known. Until then
a placeholder stands in its place, recognised by its entity id.
-/

namespace RelyingParty

/-- **How a message travels through the browser.** -/
inductive Binding where
  | post
  | redirect
  deriving DecidableEq

namespace Binding

/-- The name of the binding in SAML messages. -/
def urn : Binding → String
  | post => "urn:oasis:names:tc:SAML:2.0:bindings:HTTP-POST"
  | redirect => "urn:oasis:names:tc:SAML:2.0:bindings:HTTP-Redirect"

/-- The binding that is taken where none is named. -/
def standard : Binding := post

/-- What a binding shows of itself. -/
def inspect : Binding → Inspection
  | post => .word "HttpPost"
  | redirect => .word "HttpRedirect"

/-- The names of the bindings in settings. -/
def names : List (String × Binding) := [("http-post", post), ("http-redirect", redirect)]

/-- Reads a binding. -/
def reader : Json.Reader Binding := .choice names

end Binding

/-- The entity id of the placeholder. -/
def placeholderEntityId : String := "exampleEntityId"

/-- The sign-on location of the placeholder. -/
def placeholderSignOnLocation : String := "https://idp.example.com/saml/SSO"

/-- **An identity provider**; each field defaults to the placeholder's. -/
structure AssertingParty where
  entityId : String := placeholderEntityId
  signOnLocation : String := placeholderSignOnLocation
  signOnBinding : Binding := .redirect
  wantsSignedRequests : Bool := true
  signingAlgorithms : List String := []
  deriving DecidableEq

namespace AssertingParty

/-- Whether the party is the placeholder. -/
def isPlaceholder (p : AssertingParty) : Bool := p.entityId == placeholderEntityId

/-- What a party shows of itself. -/
def inspect (p : AssertingParty) : Inspection :=
  .record "AssertingPartyDescriptor"
    [("entity_id", .text p.entityId),
      ("single_sign_on_service_location", .text p.signOnLocation),
      ("single_sign_on_service_binding", p.signOnBinding.inspect),
      ("want_authn_requests_signed", .flag p.wantsSignedRequests),
      ("signing_algorithms", .list (p.signingAlgorithms.map .text))] true

/-- A party of which some fields have been read. -/
structure Draft where
  entityId : Option String := none
  signOnLocation : Option String := none
  signOnBinding : Option Binding := none
  wantsSignedRequests : Option Bool := none
  signingAlgorithms : Option (List String) := none

/-- **The written form**: every field may be left out. -/
def form : Json.RecordForm Draft AssertingParty where
  name := "AssertingPartyDescriptor"
  fields := [
    .of "entity_id" (·.entityId) (fun v d => { d with entityId := some v }) .text,
    .of "single_sign_on_service_location" (·.signOnLocation)
      (fun v d => { d with signOnLocation := some v }) .text,
    .of "single_sign_on_service_binding" (·.signOnBinding)
      (fun v d => { d with signOnBinding := some v }) Binding.reader,
    .of "want_authn_requests_signed" (·.wantsSignedRequests)
      (fun v d => { d with wantsSignedRequests := some v }) .flag,
    .of "signing_algorithms" (·.signingAlgorithms)
      (fun v d => { d with signingAlgorithms := some v }) (.list .text)]
  empty := {}
  finish d :=
    .ok {
      entityId := d.entityId.getD placeholderEntityId
      signOnLocation := d.signOnLocation.getD placeholderSignOnLocation
      signOnBinding := d.signOnBinding.getD .redirect
      wantsSignedRequests := d.wantsSignedRequests.getD true
      signingAlgorithms := d.signingAlgorithms.getD [] }

/-- Reads a party. -/
def reader : Json.Reader AssertingParty := form.reader

end AssertingParty

end RelyingParty
