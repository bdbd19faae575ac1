import RelyingParty.Proofs.Credentials
import RelyingParty.Proofs.Isolation
import RelyingParty.Proofs.RequestTenant

/-!
# Proofs/Confinement — each setting of a tenant reaches one place only

A registration is put together from three readings of a tenant: its identity, its keys and what is
signed for it.  Two tenants that agree on what one of these reads agree on the fields that are made
of it, whatever else differs.  None of them reads the tenant's id, which goes into the audit trail
and nowhere else: a lookup or a request for a tenant with another id is answered in the same way and
recorded under the other id (`MetadataService.respond_withId`).
-/

namespace RelyingParty

/-! ## What is read of a tenant -/

namespace Tenant

/-- What the tenant's own settings say about signing, if it has any. -/
def ownSigning (t : Tenant) : Option SigningPolicy :=
  t.settings.map fun s => ⟨s.signsRequests, s.wantsSignedAssertions⟩

/-- The tenant under another id. -/
def withId (t : Tenant) (i : TenantId) : Tenant := { t with id := i }

end Tenant

theorem IdentityPolicy.entityAlias_congr (p : IdentityPolicy) {t t' : Tenant}
    (zone : t.SameZone t') : (p.identityOf t).entityAlias = (p.identityOf t').entityAlias := by
  rw [entityAlias_identityOf, entityAlias_identityOf, nameFor_eq_iff.mpr zone]

theorem IdentityPolicy.entityId_congr (p : IdentityPolicy) {t t' : Tenant} (zone : t.SameZone t')
    (named : (t.isDefault = true ∧ t'.isDefault = true) ∨
      t.effectiveOverride = t'.effectiveOverride) :
    (p.identityOf t).entityId = (p.identityOf t').entityId := by
  rcases zone with ⟨home, home'⟩ | ⟨away, away', subdomain⟩
  · rw [identityOf, identityOf, if_pos home, if_pos home']
  · have override : t.effectiveOverride = t'.effectiveOverride :=
      named.resolve_left fun home => by simp [away] at home
    simp only [identityOf, away, away', subdomain, override]

theorem Profile.signingFor_eq (p : Profile) (t : Tenant) :
    p.signingFor t = t.ownSigning.getD p.signing := by
  rw [signingFor, Tenant.ownSigning]
  cases t.settings <;> rfl

/-! ## Tenant ids in the audit trail -/

/-- The event, recorded for the tenant with the given id. -/
def Event.ofTenant (i : TenantId) : Event → Event
  | registrationAssembled registrationId _ entityId entityAlias signingKeys =>
    registrationAssembled registrationId i entityId entityAlias signingKeys
  | metadataServed _ registrationId entityId => metadataServed i registrationId entityId
  | e => e

/-- **Of an event another tenant id changes the field that shows it**, and nothing else. -/
theorem Event.shows_ofTenant (i : TenantId) (e : Event) :
    (e.ofTenant i).level = e.level ∧ (e.ofTenant i).message = e.message ∧
      (e.ofTenant i).fields = e.fields.map fun field =>
        if field.1 = "tenant_id" then (field.1, .text i.toString) else field := by
  cases e <;> refine ⟨rfl, rfl, ?_⟩ <;> simp [ofTenant, fields]

/-- The computation, its events recorded for the tenant with the given id. -/
def Audited.ofTenant (i : TenantId) (a : Audited α) : Audited α :=
  ⟨a.value, a.events.map (Event.ofTenant i)⟩

@[simp] theorem Audited.value_ofTenant (i : TenantId) (a : Audited α) :
    (a.ofTenant i).value = a.value := rfl

theorem ServiceError.events_ofTenant (i : TenantId) (e : ServiceError) :
    e.events.map (Event.ofTenant i) = e.events := by
  cases e <;> rfl

/-! ## Lookups and requests -/

theorem Profile.assemble_withId (p : Profile) (id : String) (t : Tenant) (keys : List KeyPair)
    (i : TenantId) : p.assemble id (t.withId i) keys = (p.assemble id t keys).ofTenant i := rfl

namespace Registry

variable (g : Registry) (id : String) (t : Tenant) (i : TenantId)

theorem resolve_withId (around : Surroundings) :
    g.resolve around id (t.withId i) = (g.resolve around id t).ofTenant i := by
  by_cases other : id = exampleRegistrationId
  · rw [other, resolve_example, resolve_example]
    rfl
  by_cases own : id = g.ownId
  · rw [own, resolve_ownId, resolve_ownId, Profile.assemble_withId]
    rfl
  · rw [g.resolve_unknown _ _ own other, g.resolve_unknown _ _ own other]
    rfl

theorem find_withId (keys : List KeyPair) :
    g.find ⟨t.withId i, keys⟩ id = (g.find ⟨t, keys⟩ id).ofTenant i := by
  have agree : g.Agree g ⟨t.withId i, keys⟩ ⟨t, keys⟩ :=
    ⟨rfl, rfl, g.keySource.keys_ambient (t.withId i) t keys⟩
  rw [find_eq_resolve, find_eq_resolve, agree.resolve, ← g.resolve_withId id t i]

end Registry

namespace MetadataService

variable {service : MetadataService} {t : Tenant} {i : TenantId}

theorem serve_withId (h : service.baseUrl (t.withId i) = service.baseUrl t)
    (around : Surroundings) (id : String) :
    service.serve around id (t.withId i) = (service.serve around id t).ofTenant i := by
  have other := service.registry.resolve_withId id t i around
  obtain ⟨found, lookup, here⟩ : ∃ found lookup,
      service.registry.resolve around id t = ⟨found, lookup⟩ := ⟨_, _, rfl⟩
  rw [here] at other
  rcases found with e | r
  · rw [serve_of_error here, serve_of_error other, Audited.ofTenant, List.map_append,
      e.events_ofTenant]
  · rcases rendered : service.renderer r (service.baseUrl t) with detail | xml
    · rw [serve_of_failed here rendered, serve_of_failed other (h ▸ rendered), Audited.ofTenant,
        List.map_append]
      rfl
    · rw [serve_of_rendered here rendered, serve_of_rendered other (h ▸ rendered),
        Audited.ofTenant, List.map_append]
      rfl

theorem answer_withId (h : service.baseUrl (t.withId i) = service.baseUrl t)
    (around : Surroundings) (route : Route) :
    service.answer around route (some (t.withId i))
      = (service.answer around route (some t)).ofTenant i := by
  cases route with
  | own => exact serve_withId h around service.registry.ownId
  | named parameter =>
    simp only [answer]
    cases Text.Percent.decode parameter with
    | none => rfl
    | some id => exact serve_withId h around id

/-- **A request for a tenant with another id** is answered as before and recorded under that id, if
the base URL is the same. -/
theorem respond_withId (h : service.baseUrl (t.withId i) = service.baseUrl t)
    (around : Surroundings) (request : Http.Request) :
    service.respond around request (some (t.withId i))
      = (service.respond around request (some t)).ofTenant i := by
  rw [respond, respond]
  cases Route.ofPath request.path with
  | none => rfl
  | some route =>
    simp only [answer_withId h]
    split_ifs <;> rfl

end MetadataService

/-! ## The default tenant -/

/-- The tenant under another subdomain and with another override, if it has settings. -/
def Tenant.renamed (t : Tenant) (subdomain : String) (override : Option String) : Tenant :=
  { t with
    subdomain
    settings := t.settings.map fun s => { s with entityIdOverride := override } }

namespace Tenant

theorem keys_renamed (t : Tenant) (subdomain : String) (override : Option String) :
    (t.renamed subdomain override).keys = t.keys := by
  rw [keys, renamed, keys]
  cases t.settings <;> rfl

theorem ownSigning_renamed (t : Tenant) (subdomain : String) (override : Option String) :
    (t.renamed subdomain override).ownSigning = t.ownSigning := by
  rw [ownSigning, renamed, ownSigning]
  cases t.settings <;> rfl

end Tenant

namespace Profile

variable (p : Profile) (id : String) (t : Tenant) (defaultKeys : List KeyPair)

theorem identityOf_default (home : t.isDefault = true) :
    p.identity.identityOf t = ⟨p.identity.entityId, p.identity.defaultAlias⟩ := if_pos home

/-- **The default tenant has the configured names**, whatever its subdomain and its override are. -/
theorem assemble_renamed (home : t.isDefault = true) (subdomain : String)
    (override : Option String) :
    p.assemble id (t.renamed subdomain override) defaultKeys = p.assemble id t defaultKeys := by
  have named : p.identity.identityOf (t.renamed subdomain override) = p.identity.identityOf t := by
    rw [p.identityOf_default t home]
    exact p.identityOf_default (t.renamed subdomain override) home
  have same : p.registrationOf id (t.renamed subdomain override) defaultKeys
      = p.registrationOf id t defaultKeys := by
    rw [registrationOf, registrationOf, named, Tenant.keys_renamed, signingFor_eq, signingFor_eq,
      Tenant.ownSigning_renamed]
  rw [assemble, assemble, same]
  rfl

/-! ## Registrations -/

/-- **Each setting of a tenant is confined.**  Of what is put together for two tenants, under one id
and over the same default keys, alias and locations are equal if the tenants are of one zone, and so
is the entity id if moreover both are the default tenant or both have the same override; the
credentials are equal if the tenants' keys are, what is signed if their settings say the same about
it, and the rest always is.  A tenant's id goes into the field of the audit trail that shows it and
nowhere else, in a lookup and in a response too.  For the default tenant neither the subdomain nor
the override matters, while its keys and what it says about signing count. -/
theorem tenant_settings_confined (p : Profile) (id : String) (t t' : Tenant)
    (defaultKeys : List KeyPair) :
    let r := (p.assemble id t defaultKeys).value
    let r' := (p.assemble id t' defaultKeys).value
    (t.SameZone t' → r.entityAlias = r'.entityAlias ∧ r.consumerLocation = r'.consumerLocation ∧
      r.logoutLocation = r'.logoutLocation) ∧
    (t.SameZone t' → (t.isDefault = true ∧ t'.isDefault = true) ∨
        t.effectiveOverride = t'.effectiveOverride →
      r.entityId = r'.entityId) ∧
    (t.keys = t'.keys → r.credentials = r'.credentials) ∧
    (t.ownSigning = t'.ownSigning → r.signing = r'.signing) ∧
    (r.nameIdFormat = r'.nameIdFormat ∧ r.assertingParty = r'.assertingParty ∧
      r.consumerBinding = r'.consumerBinding ∧ r.registrationId = r'.registrationId) ∧
    (∀ i, p.assemble id (t.withId i) defaultKeys = (p.assemble id t defaultKeys).ofTenant i ∧
      (∀ (g : Registry) around, g.resolve around id (t.withId i)
        = (g.resolve around id t).ofTenant i) ∧
      (∀ (g : Registry) keys, g.find ⟨t.withId i, keys⟩ id = (g.find ⟨t, keys⟩ id).ofTenant i) ∧
      (∀ (service : MetadataService) around request,
        service.baseUrl (t.withId i) = service.baseUrl t →
        service.respond around request (some (t.withId i))
          = (service.respond around request (some t)).ofTenant i) ∧
      ∀ e : Event, (e.ofTenant i).level = e.level ∧ (e.ofTenant i).message = e.message ∧
        (e.ofTenant i).fields = e.fields.map fun field =>
          if field.1 = "tenant_id" then (field.1, .text i.toString) else field) ∧
    (t.isDefault = true →
      (∀ subdomain override,
        p.assemble id (t.renamed subdomain override) defaultKeys = p.assemble id t defaultKeys) ∧
      ∀ settings, t.settings = some settings →
        (settings.keys ≠ [] → r.credentials.Covers settings.keys) ∧
        r.signing = ⟨settings.signsRequests, settings.wantsSignedAssertions⟩) := by
  intro r r'
  have aliases (zone : t.SameZone t') : r.entityAlias = r'.entityAlias :=
    p.identity.entityAlias_congr zone
  refine ⟨fun zone => ⟨aliases zone, congrArg Endpoint.consumerLocation (aliases zone),
      congrArg Endpoint.logoutLocation (aliases zone)⟩,
    p.identity.entityId_congr, fun keys => ?_, fun signing => ?_, ⟨rfl, rfl, rfl, rfl⟩,
    fun i => ⟨rfl, fun g => g.resolve_withId id t i, fun g => g.find_withId id t i,
      fun service around request h => MetadataService.respond_withId h around request,
      Event.shows_ofTenant i⟩,
    fun home => ⟨p.assemble_renamed id t defaultKeys home,
      fun settings given => ⟨fun own => ?_, ?_⟩⟩⟩
  · exact congrArg (CredentialSelection.select · defaultKeys) keys
  · change p.signingFor t = p.signingFor t'
    rw [signingFor_eq, signingFor_eq, signing]
  · have keys : t.keys = settings.keys := by rw [Tenant.keys, given]; rfl
    change (CredentialSelection.select t.keys defaultKeys).Covers settings.keys
    rw [CredentialSelection.select, keys, CredentialSelection.effectiveKeys_eq, if_pos own]
    exact CredentialSelection.covers_ofKeys settings.keys
  · change p.signingFor t = _
    rw [signingFor, given]

/-- An override keeps to the entity id, and the default tenant keeps its keys. -/
theorem tenant_settings_confined_overridden :
    let k : KeyPair := ⟨"key", "", "CERT"⟩
    let plain : Tenant := { id := ⟨7⟩, subdomain := "a", settings := some { keys := [k] } }
    let overridden : Tenant :=
      { id := ⟨9⟩, subdomain := "a",
        settings := some { entityIdOverride := some "b", signsRequests := false, keys := [k] } }
    let home : Tenant := { overridden with isDefault := true }
    let r (t : Tenant) := (dotted.assemble "sp" t []).value
    (plain.SameZone overridden ∧ plain.keys = overridden.keys) ∧
      ((r plain).entityAlias = (r overridden).entityAlias ∧
        (r plain).credentials = (r overridden).credentials ∧
        (r plain).entityId ≠ (r overridden).entityId) ∧
      (r (home.renamed "" none) = r home ∧ (r home).entityId = "sp" ∧
        (r home).credentials.Covers [k] ∧ (r home).signing = ⟨false, true⟩) := by
  intro k plain overridden home r
  have zone : plain.SameZone overridden := .inr ⟨rfl, rfl, rfl⟩
  obtain ⟨names, -, credentials, -⟩ :=
    dotted.tenant_settings_confined "sp" plain overridden []
  obtain ⟨-, -, -, -, -, -, default⟩ := dotted.tenant_settings_confined "sp" home home []
  obtain ⟨renamed, kept⟩ := default rfl
  obtain ⟨covers, signing⟩ := kept _ rfl
  refine ⟨⟨zone, rfl⟩, ⟨(names zone).1, credentials rfl, by decide⟩, ?_, rfl, covers (by decide),
    signing⟩
  exact congrArg Audited.value (renamed "" none)

end Profile

end RelyingParty
