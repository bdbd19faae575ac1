import RelyingParty.Http.Request
import RelyingParty.Metadata.Download
import RelyingParty.Metadata.Route
import RelyingParty.Registry.Basic

/-!
# Metadata/Service — handing out metadata over HTTP

A request is checked in a fixed order: the path, the method, the tenant that the request was made
for, the id in the path, the registration. The first check that fails decides the response. The
service never asks which tenant the system is working for; the tenant comes with the request.
-/

namespace RelyingParty

/-- **Renders the metadata** of a registration under a base URL, or says why it cannot. -/
abbrev Renderer := Registration → (baseUrl : String) → Except String String

/-- A renderer that writes the entity id and the location of assertions, and nothing else. -/
def Renderer.outline : Renderer := fun r baseUrl =>
  .ok ("<md:EntityDescriptor entityID=\"" ++ r.entityId
    ++ "\"><md:AssertionConsumerService Location=\""
    ++ Endpoint.expand r.consumerLocation baseUrl ++ "\"/></md:EntityDescriptor>")

/-- A renderer that always fails. -/
def Renderer.failing (detail : String) : Renderer := fun _ _ => .error detail

/-- The base URL of a tenant. -/
inductive BaseUrl where
  /-- One base URL for all tenants. -/
  | fixed (url : String)
  /-- A base URL for each, `%s` standing for the tenant's subdomain. -/
  | bySubdomain (pattern : String)

namespace BaseUrl

/-- Puts `subdomain` in the place of every `%s`. -/
def fill (subdomain : List Char) : List Char → List Char
  | '%' :: 's' :: rest => subdomain ++ fill subdomain rest
  | c :: rest => c :: fill subdomain rest
  | [] => []

/-- **The base URL of a tenant.** -/
def resolve (b : BaseUrl) (t : Tenant) : String :=
  match b with
  | fixed url => url
  | bySubdomain pattern => String.ofList (fill t.subdomain.toList pattern.toList)

end BaseUrl

/-- **The service that hands out metadata.** -/
structure MetadataService where
  registry : Registry
  renderer : Renderer
  baseUrl : Tenant → String

/-- The media type of plain-text responses. -/
def plainText : String := "text/plain; charset=utf-8"

namespace MetadataService

/-- The response when no path matches. -/
def unrouted : Http.Response := { status := 404 }

/-- The response when the path does not take the method. -/
def methodNotAllowed : Http.Response := { status := 405, allow := some "GET,HEAD" }

/-- The response when nobody said for which tenant the request was made. -/
def tenantMissing : Http.Response where
  status := 500
  contentType := some plainText
  body := "Missing request extension: Extension of type `samlzone_core::tenant::Tenant` "
    ++ "was not found. Perhaps you forgot to add it? See `axum::Extension`."

/-- The response when the id in the path is not UTF-8. -/
def parameterNotText : Http.Response where
  status := 400
  contentType := some plainText
  body := "Invalid URL: Invalid UTF-8 in `registration_id`"

/-- The response with a tenant's metadata. -/
def document (t : Tenant) (xml : String) : Http.Response where
  status := 200
  contentType := some "application/xml; charset=utf-8"
  contentDisposition := some (Download.contentDisposition (Download.filename t))
  body := xml

/-- The metadata of the registration with the given id for a tenant. -/
def render (service : MetadataService) (around : Surroundings) (id : String) (t : Tenant) :
    Audited (Except ServiceError String) := do
  match ← service.registry.resolve around id t with
  | .error e => return .error e
  | .ok r =>
    match service.renderer r (service.baseUrl t) with
    | .error detail => return .error (.metadataFailed detail)
    | .ok xml =>
      .record (.metadataServed t.id r.registrationId r.entityId)
      return .ok xml

/-- **The response to a request for the registration with the given id.** -/
def serve (service : MetadataService) (around : Surroundings) (id : String) (t : Tenant) :
    Audited Http.Response := do
  match ← service.render around id t with
  | .ok xml => return document t xml
  | .error e => e.respond

section Serve

variable {service : MetadataService} {around : Surroundings} {id : String} {t : Tenant}
variable {r : Registration} {lookup : List Event}

/-- A registration that is not found is not rendered. -/
theorem render_of_error {e : ServiceError}
    (h : service.registry.resolve around id t = ⟨.error e, lookup⟩) :
    service.render around id t = ⟨.error e, lookup⟩ := by
  simp only [render, h, bind, Audited.bind, pure, List.append_nil]

theorem render_of_rendered (h : service.registry.resolve around id t = ⟨.ok r, lookup⟩)
    {xml : String} (hx : service.renderer r (service.baseUrl t) = .ok xml) :
    service.render around id t
      = ⟨.ok xml, lookup ++ [.metadataServed t.id r.registrationId r.entityId]⟩ := by
  simp only [render, h, hx, bind, Audited.bind, Audited.record, pure, List.append_nil]

theorem render_of_failed (h : service.registry.resolve around id t = ⟨.ok r, lookup⟩)
    {detail : String} (hx : service.renderer r (service.baseUrl t) = .error detail) :
    service.render around id t = ⟨.error (.metadataFailed detail), lookup⟩ := by
  simp only [render, h, hx, bind, Audited.bind, pure, List.append_nil]

/-- **A registration that is not found**: the response is the error's. -/
theorem serve_of_error {e : ServiceError}
    (h : service.registry.resolve around id t = ⟨.error e, lookup⟩) :
    service.serve around id t = ⟨e.respond.value, lookup ++ e.events⟩ := by
  simp only [serve, render_of_error h]
  rfl

/-- **A registration that is rendered**: the response is the document, and its delivery is
recorded last. -/
theorem serve_of_rendered (h : service.registry.resolve around id t = ⟨.ok r, lookup⟩)
    {xml : String} (hx : service.renderer r (service.baseUrl t) = .ok xml) :
    service.serve around id t
      = ⟨document t xml, lookup ++ [.metadataServed t.id r.registrationId r.entityId]⟩ := by
  simp only [serve, render_of_rendered h hx, bind, Audited.bind, pure, List.append_nil]

/-- **A registration that cannot be rendered**: the detail is recorded and not told. -/
theorem serve_of_failed (h : service.registry.resolve around id t = ⟨.ok r, lookup⟩)
    {detail : String} (hx : service.renderer r (service.baseUrl t) = .error detail) :
    service.serve around id t
      = ⟨(ServiceError.metadataFailed detail).respond.value,
        lookup ++ [.metadataFailed detail]⟩ := by
  simp only [serve, render_of_failed h hx]
  rfl

end Serve

/-- The response to a routed request with a method that the path takes. -/
def answer (service : MetadataService) (around : Surroundings) (route : Route)
    (tenant? : Option Tenant) : Audited Http.Response :=
  match tenant?, route with
  | none, _ => return tenantMissing
  | some t, .own => service.serve around service.registry.ownId t
  | some t, .named parameter =>
    match Text.Percent.decode parameter with
    | some id => service.serve around id t
    | none => return parameterNotText

/-- **The response to a request** that was made for the given tenant. -/
def respond (service : MetadataService) (around : Surroundings) (request : Http.Request)
    (tenant? : Option Tenant) : Audited Http.Response :=
  match Route.ofPath request.path with
  | none => return unrouted
  | some route =>
    if request.method = "GET" then service.answer around route tenant?
    else if request.method = "HEAD" then
      (service.answer around route tenant?).map (·.withoutBody)
    else return methodNotAllowed

end MetadataService

end RelyingParty
