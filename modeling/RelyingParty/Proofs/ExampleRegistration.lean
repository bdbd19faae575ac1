import RelyingParty.Proofs.Confinement
import RelyingParty.Proofs.Naming

/-!
# Proofs/ExampleRegistration — the example belongs to no tenant

The example registration is put together apart from all others, but it is no special case: it is
what the default tenant would get if it had no settings and the provider had no alias
(`Profile.exampleRegistration_eq`).  A lookup of it reads the default keys and no tenant at all, so
over HTTP a tenant shows only where the document is offered for download and in the audit trail
(`MetadataService.respond_example`).
-/

namespace RelyingParty

/-! ## The plain default -/

namespace Profile

variable (p : Profile)

/-- **The profile without its alias**, whose place the entity id takes. -/
def withoutAlias : Profile where
  identity := ⟨p.identity.entityId, none⟩
  nameIdFormat := p.nameIdFormat
  signing := p.signing
  assertingParty := p.assertingParty
  entityId_not_blank := p.entityId_not_blank
  alias_not_blank := p.entityId_not_blank

theorem ofParts_withoutAlias :
    ofParts ⟨p.identity.entityId, none⟩ p.nameIdFormat p.signing p.assertingParty
      = .ok p.withoutAlias :=
  ofParts_eq_ok_iff.mpr ⟨⟨p.entityId_not_blank, p.entityId_not_blank⟩, rfl, rfl, rfl, rfl⟩

/-- **The example is the default tenant's registration** of the profile without its alias, if that
tenant has no settings. -/
theorem exampleRegistration_eq {t : Tenant} (home : t.isDefault = true) (plain : t.settings = none)
    (defaultKeys : List KeyPair) :
    p.exampleRegistration defaultKeys
      = p.withoutAlias.registrationOf exampleRegistrationId t defaultKeys := by
  have names : p.withoutAlias.identity.identityOf t = ⟨p.identity.entityId, p.identity.entityId⟩ :=
    p.withoutAlias.identityOf_default t home
  have keys : t.keys = [] := by rw [Tenant.keys, plain]; rfl
  have signing : p.withoutAlias.signingFor t = p.signing := by rw [signingFor, plain]; rfl
  rw [registrationOf, names, keys, signing]
  rfl

end Profile

/-! ## Lookups -/

/-- **A lookup of the example reads no tenant**, neither the system's nor the one it is given. -/
theorem Registry.exists_example (g : Registry) (keys : List KeyPair) :
    ∃ defaultKeys, ∀ ambient t,
      g.find ⟨ambient, keys⟩ exampleRegistrationId
        = ⟨.ok (g.profile.exampleRegistration defaultKeys), []⟩ ∧
      g.resolve ⟨ambient, keys⟩ exampleRegistrationId t
        = ⟨.ok (g.profile.exampleRegistration defaultKeys), []⟩ := by
  obtain ⟨defaultKeys, h⟩ :
      ∃ defaultKeys, ∀ ambient, g.keySource.keys ⟨ambient, keys⟩ = defaultKeys := by
    cases g.keySource <;> exact ⟨_, fun _ => rfl⟩
  refine ⟨defaultKeys, fun ambient t => ?_⟩
  rw [find_eq_resolve, resolve_example, resolve_example, h]
  exact ⟨rfl, rfl⟩

/-! ## Requests -/

/-- The path asks for the registration with the id. -/
def Registry.AsksFor (g : Registry) (path id : String) : Prop :=
  ∃ route, Route.ofPath path = some route ∧ g.Names route id

/-- The response, offered under the name of another tenant's metadata if it is offered at all. -/
def Http.Response.offeredTo (t : Tenant) (r : Http.Response) : Http.Response :=
  { r with
    contentDisposition := r.contentDisposition.map fun _ =>
      Download.contentDisposition (Download.filename t) }

@[simp] theorem Http.Response.body_offeredTo (t : Tenant) (r : Http.Response) :
    (r.offeredTo t).body = r.body := rfl

namespace MetadataService

variable {service : MetadataService} {t t' : Tenant}

theorem serve_example (h : service.baseUrl t' = service.baseUrl t) (ambient ambient' : Tenant)
    (keys : List KeyPair) :
    service.serve ⟨ambient', keys⟩ exampleRegistrationId t'
      = ((service.serve ⟨ambient, keys⟩ exampleRegistrationId t).map (·.offeredTo t')).ofTenant
        t'.id := by
  obtain ⟨defaultKeys, found⟩ := service.registry.exists_example keys
  obtain ⟨-, here⟩ := found ambient t
  obtain ⟨-, there⟩ := found ambient' t'
  rcases rendered : service.renderer (service.registry.profile.exampleRegistration defaultKeys)
    (service.baseUrl t) with detail | xml
  · rw [serve_of_failed here rendered, serve_of_failed there (h ▸ rendered)]
    rfl
  · rw [serve_of_rendered here rendered, serve_of_rendered there (h ▸ rendered)]
    rfl

/-- **Two requests for the example** are answered alike, whichever tenants they are made for. -/
theorem respond_example {request request' : Http.Request}
    (asks : service.registry.AsksFor request.path exampleRegistrationId)
    (asks' : service.registry.AsksFor request'.path exampleRegistrationId)
    (method : request'.method = request.method) (h : service.baseUrl t' = service.baseUrl t)
    (ambient ambient' : Tenant) (keys : List KeyPair) :
    service.respond ⟨ambient', keys⟩ request' (some t')
      = ((service.respond ⟨ambient, keys⟩ request (some t)).map (·.offeredTo t')).ofTenant
        t'.id := by
  obtain ⟨route, routed, names⟩ := asks
  obtain ⟨route', routed', names'⟩ := asks'
  simp only [respond, routed, routed', method, answer_of_names names, answer_of_names names',
    serve_example h ambient ambient' keys]
  split_ifs <;> rfl

end MetadataService

/-! ## The example registration -/

/-- **The example registration is the plain default, for every tenant.**  Whatever the default keys
are, looking it up finds the same registration for all tenants and records nothing.  Two requests
for it by the same method, made for tenants with the same base URL, get the same response up to the
name of the download, and the same events up to the field that shows the tenant's id.  It is, field
by field, the registration that a default tenant without settings has under its id with a profile
that differs in having no alias; and every profile can be deprived of its alias. -/
theorem example_plain_default :
    (∀ (g : Registry) keys, ∃ defaultKeys, ∀ ambient t,
      g.find ⟨ambient, keys⟩ exampleRegistrationId
        = ⟨.ok (g.profile.exampleRegistration defaultKeys), []⟩ ∧
      g.resolve ⟨ambient, keys⟩ exampleRegistrationId t
        = ⟨.ok (g.profile.exampleRegistration defaultKeys), []⟩) ∧
    (∀ (service : MetadataService) (request request' : Http.Request) (t t' : Tenant),
      service.registry.AsksFor request.path exampleRegistrationId →
      service.registry.AsksFor request'.path exampleRegistrationId →
      request'.method = request.method → service.baseUrl t' = service.baseUrl t →
      ∀ ambient ambient' keys,
        service.respond ⟨ambient', keys⟩ request' (some t')
          = ((service.respond ⟨ambient, keys⟩ request (some t)).map (·.offeredTo t')).ofTenant
            t'.id) ∧
    (∀ (e : Event) i, (e.ofTenant i).level = e.level ∧ (e.ofTenant i).message = e.message ∧
      (e.ofTenant i).fields = e.fields.map fun field =>
        if field.1 = "tenant_id" then (field.1, .text i.toString) else field) ∧
    ∀ p : Profile,
      Profile.ofParts ⟨p.identity.entityId, none⟩ p.nameIdFormat p.signing p.assertingParty
        = .ok p.withoutAlias ∧
      ∀ (t : Tenant), t.isDefault = true → t.settings = none → ∀ defaultKeys,
        p.exampleRegistration defaultKeys
          = (p.withoutAlias.assemble exampleRegistrationId t defaultKeys).value := by
  refine ⟨fun g keys => g.exists_example keys,
    fun service request request' t t' asks asks' method h => ?_, fun e i => e.shows_ofTenant i,
    fun p => ⟨p.ofParts_withoutAlias, fun t home plain defaultKeys => ?_⟩⟩
  · exact MetadataService.respond_example asks asks' method h
  · exact p.exampleRegistration_eq home plain defaultKeys

open MetadataService Profile in
/-- The name of the download does differ, and the alias does matter. -/
theorem example_plain_default_dotted :
    let home : Tenant := .default ⟨7⟩
    let zone : Tenant :=
      { id := ⟨9⟩, subdomain := "zone", settings := some { signsRequests := false } }
    let request : Http.Request := ⟨"GET", "/saml/metadata/example"⟩
    let request' : Http.Request := ⟨"GET", "/saml/metadata/ex%61mple/"⟩
    let response := slashed.respond ⟨home, []⟩ request (some home)
    let response' := slashed.respond ⟨zone, []⟩ request' (some zone)
    (response' = (response.map (·.offeredTo zone)).ofTenant zone.id ∧
      response'.value.body = response.value.body ∧
      response'.value.contentDisposition ≠ response.value.contentDisposition) ∧
    dotted.exampleRegistration [] = (dotted.withoutAlias.assemble "example" home []).value ∧
      dotted.exampleRegistration [] ≠ (dotted.assemble "example" home []).value := by
  intro home zone request request' response response'
  obtain ⟨-, alike, -, plain⟩ := example_plain_default
  have asks : slashed.registry.AsksFor request.path exampleRegistrationId :=
    ⟨.named "example", by decide +kernel, Text.Percent.decode_eq_some_iff.mp (by decide +kernel)⟩
  have asks' : slashed.registry.AsksFor request'.path exampleRegistrationId :=
    ⟨.named "ex%61mple", by decide +kernel, Text.Percent.decode_eq_some_iff.mp (by decide +kernel)⟩
  have same : response' = (response.map (·.offeredTo zone)).ofTenant zone.id :=
    alike slashed request request' home zone asks asks' rfl rfl home zone []
  refine ⟨⟨same, ?_, by decide +kernel⟩, (plain dotted).2 home rfl rfl [], by decide +kernel⟩
  rw [same, Audited.value_ofTenant, Audited.value_map, Http.Response.body_offeredTo]

end RelyingParty
