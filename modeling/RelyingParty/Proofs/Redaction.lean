import RelyingParty.Session

/-!
# Proofs/Redaction — lookups and responses commute with blotting secrets out

Each type that holds key pairs has a `redact`.  Looking a registration up after everything is
redacted gives the redacted registration and the same events (`resolve_redact`), since the keys are
counted and passed on but never read.  A response does not change at all (`respond_redact`): of a
registration, the service reads the names, and the renderer no more than it is allowed to.
-/

namespace RelyingParty

/-! ## Keys are passed on whole -/

theorem KeyPair.map_redact_map_redact (keys : List KeyPair) :
    (keys.map KeyPair.redact).map KeyPair.redact = keys.map KeyPair.redact := by
  rw [List.map_map]
  exact List.map_congr_left fun k _ => k.redact_redact

theorem CredentialSelection.effectiveKeys_map_redact (own defaults : List KeyPair) :
    effectiveKeys (own.map KeyPair.redact) (defaults.map KeyPair.redact)
      = (effectiveKeys own defaults).map KeyPair.redact := by
  cases own with
  | nil => rfl
  | cons k own => rfl

namespace Tenant

theorem keys_redact (t : Tenant) : t.redact.keys = t.keys.map KeyPair.redact := by
  cases h : t.settings with
  | none => simp [keys, redact, h]
  | some s => simp [keys, redact, h, TenantSettings.redact]

theorem effectiveOverride_redact (t : Tenant) :
    t.redact.effectiveOverride = t.effectiveOverride := by
  cases h : t.settings with
  | none => simp [effectiveOverride, redact, h]
  | some s => simp [effectiveOverride, redact, h, TenantSettings.redact,
      TenantSettings.effectiveOverride]

theorem redact_redact (t : Tenant) : t.redact.redact = t.redact := by
  cases h : t.settings with
  | none => simp [redact, h]
  | some s => simp only [redact, h, Option.map_some, TenantSettings.redact,
      KeyPair.map_redact_map_redact]

end Tenant

/-! ## Registrations -/

theorem Credential.redact_redact (c : Credential) : c.redact.redact = c.redact := rfl

theorem Registration.redact_redact (r : Registration) : r.redact.redact = r.redact := by
  simp [redact, Function.comp_def, Credential.redact_redact]

namespace Profile

variable (p : Profile) (id : String) (t : Tenant) (defaultKeys : List KeyPair)

theorem identityOf_redact : p.identity.identityOf t.redact = p.identity.identityOf t := by
  simp only [IdentityPolicy.identityOf, Tenant.effectiveOverride_redact]
  rfl

theorem signingFor_redact : p.signingFor t.redact = p.signingFor t := by
  cases h : t.settings with
  | none => simp [signingFor, Tenant.redact, h]
  | some s => simp [signingFor, Tenant.redact, h, TenantSettings.redact]

/-- The registration of a given identity redacts to the one over redacted keys. -/
theorem redact_register (identity : Identity) (own : List KeyPair) (signing : SigningPolicy) :
    (p.register id identity (.select own defaultKeys) signing).redact
      = p.register id identity
          (.select (own.map KeyPair.redact) (defaultKeys.map KeyPair.redact)) signing := by
  simp [register, Registration.redact, CredentialSelection.select, CredentialSelection.ofKeys,
    CredentialSelection.effectiveKeys_map_redact, Credential.redact, Function.comp_def]

theorem registrationOf_redact :
    p.registrationOf id t.redact (defaultKeys.map KeyPair.redact)
      = (p.registrationOf id t defaultKeys).redact := by
  rw [registrationOf, registrationOf, redact_register, identityOf_redact, signingFor_redact,
    Tenant.keys_redact]

/-- **A redacted tenant is put together as recorded before**: the record counts keys only. -/
theorem assemble_redact :
    p.assemble id t.redact (defaultKeys.map KeyPair.redact)
      = (p.assemble id t defaultKeys).map Registration.redact := by
  simp only [assemble, registrationOf_redact, Audited.map]
  simp [Registration.redact, Tenant.redact]

theorem exampleRegistration_redact :
    p.exampleRegistration (defaultKeys.map KeyPair.redact)
      = (p.exampleRegistration defaultKeys).redact :=
  (p.redact_register _ defaultKeys _ [] _).symm

end Profile

/-! ## Registries -/

/-- A key source with the secrets of its keys blotted out. -/
def KeySource.redact : KeySource → KeySource
  | fixed keys => fixed (keys.map KeyPair.redact)
  | shared => shared

/-- Surroundings with all secrets blotted out. -/
def Surroundings.redact (around : Surroundings) : Surroundings :=
  ⟨around.tenant.redact, around.sharedKeys.map KeyPair.redact⟩

theorem KeySource.redact_redact (source : KeySource) : source.redact.redact = source.redact := by
  cases source with
  | fixed keys => exact congrArg fixed (KeyPair.map_redact_map_redact keys)
  | shared => rfl

theorem Surroundings.redact_redact (around : Surroundings) :
    around.redact.redact = around.redact := by
  simp only [redact, Tenant.redact_redact, KeyPair.map_redact_map_redact]

theorem KeySource.keys_redact (source : KeySource) (around : Surroundings) :
    source.redact.keys around.redact = (source.keys around).map KeyPair.redact := by
  cases source <;> rfl

namespace Registry

/-- A registry with the secrets of its own keys blotted out. -/
def redact (g : Registry) : Registry := { g with keySource := g.keySource.redact }

theorem redact_redact (g : Registry) : g.redact.redact = g.redact := by
  rw [redact, redact, KeySource.redact_redact]

/-- **A registry shows nothing of its keys.** -/
@[simp] theorem inspect_redact (g : Registry) : g.redact.inspect = g.inspect := rfl

/-- **Looking up after redaction gives the redacted registration, recorded as before.** -/
theorem resolve_redact (g : Registry) (around : Surroundings) (id : String) (t : Tenant) :
    g.redact.resolve around.redact id t.redact
      = (g.resolve around id t).map (Except.map Registration.redact) := by
  have keys : g.redact.keySource.keys around.redact
      = (g.keySource.keys around).map KeyPair.redact := g.keySource.keys_redact around
  by_cases other : id = exampleRegistrationId
  · subst other
    rw [resolve_example, resolve_example, keys, redact, Profile.exampleRegistration_redact]
    rfl
  · by_cases own : id = g.ownId
    · subst own
      refine (resolve_ownId g.redact around.redact t.redact).trans ?_
      rw [resolve_ownId, keys, redact, Profile.assemble_redact]
      rfl
    · rw [resolve_unknown g around t own other]
      exact resolve_unknown g.redact around.redact t.redact own other

theorem find_redact (g : Registry) (around : Surroundings) (id : String) :
    g.redact.find around.redact id = (g.find around id).map (Except.map Registration.redact) :=
  g.resolve_redact around id around.tenant

theorem ofProfile_redact (ownId : String) (p : Profile) (source : KeySource) :
    ofProfile ownId p source.redact = (ofProfile ownId p source).map redact := by
  unfold ofProfile
  split
  · rfl
  · split <;> rfl

theorem ofConfig_redact (c : ProviderConfig) : ofConfig c.redact = (ofConfig c).map redact := by
  have sameProfile : Profile.ofConfig c.redact = Profile.ofConfig c := rfl
  cases h : Profile.ofConfig c with
  | error e => simp only [ofConfig, sameProfile, h]; rfl
  | ok p =>
    simp only [ofConfig, sameProfile, h]
    exact ofProfile_redact c.registrationId p (.fixed c.defaultKeys)

end Registry

/-- A recipe with the secrets of its default keys blotted out; variables and parts hold no key
pairs. -/
def Recipe.redact : Recipe → Recipe
  | config c => config c.redact
  | environment lookup => environment lookup
  | parts p => parts p

/-- **A redacted recipe builds the same registry but for secrets**, or fails for the same reason. -/
theorem Recipe.build_redact (recipe : Recipe) :
    recipe.redact.build.map Registry.redact = recipe.build.map Registry.redact := by
  cases recipe with
  | config c =>
    refine (congrArg (Except.map Registry.redact) (Registry.ofConfig_redact c)).trans ?_
    change _ = (Registry.ofConfig c).map Registry.redact
    cases Registry.ofConfig c with
    | error e => rfl
    | ok g => exact congrArg Except.ok g.redact_redact
  | environment lookup => rfl
  | parts p => rfl

/-! ## Responses -/

/-- **A renderer that reads of a registration its entity id and the location of assertions.** -/
def Renderer.ReadsOutline (render : Renderer) : Prop :=
  ∀ (r r' : Registration) (baseUrl : String), r.entityId = r'.entityId →
    r.consumerLocation = r'.consumerLocation → render r baseUrl = render r' baseUrl

theorem Renderer.readsOutline_outline : Renderer.outline.ReadsOutline := by
  intro r r' baseUrl entityId location
  rw [outline, outline, entityId, location]

theorem Renderer.readsOutline_failing (detail : String) : (failing detail).ReadsOutline :=
  fun _ _ _ _ _ => rfl

theorem BaseUrl.resolve_redact (b : BaseUrl) (t : Tenant) : b.resolve t.redact = b.resolve t := by
  cases b <;> rfl

namespace MetadataService

variable (service : MetadataService)

/-- The service with the secrets of its registry blotted out. -/
def redact (service : MetadataService) : MetadataService :=
  { service with registry := service.registry.redact }

/-- **A response shows nothing of the keys**, if neither the renderer nor the base URL does. -/
theorem serve_redact (hr : service.renderer.ReadsOutline)
    (hb : ∀ t : Tenant, service.baseUrl t.redact = service.baseUrl t) (around : Surroundings)
    (id : String) (t : Tenant) :
    service.redact.serve around.redact id t.redact = service.serve around id t := by
  have outlined : ∀ r : Registration, service.renderer r.redact (service.baseUrl t.redact)
      = service.renderer r (service.baseUrl t) := fun r => by rw [hb]; exact hr _ _ _ rfl rfl
  have redacted : service.redact.registry.resolve around.redact id t.redact
      = (service.registry.resolve around id t).map (Except.map Registration.redact) :=
    service.registry.resolve_redact around id t
  obtain ⟨found, lookup, h⟩ : ∃ found lookup,
      service.registry.resolve around id t = ⟨found, lookup⟩ := ⟨_, _, rfl⟩
  rw [h] at redacted
  cases found with
  | error e => rw [serve_of_error h, serve_of_error redacted]
  | ok r =>
    cases hx : service.renderer r (service.baseUrl t) with
    | error detail => rw [serve_of_failed h hx, serve_of_failed redacted ((outlined r).trans hx)]
    | ok xml =>
      rw [serve_of_rendered h hx, serve_of_rendered redacted ((outlined r).trans hx)]
      rfl

theorem answer_redact (hr : service.renderer.ReadsOutline)
    (hb : ∀ t : Tenant, service.baseUrl t.redact = service.baseUrl t) (around : Surroundings)
    (route : Route) (tenant? : Option Tenant) :
    service.redact.answer around.redact route (tenant?.map Tenant.redact)
      = service.answer around route tenant? := by
  cases tenant? with
  | none => rfl
  | some t =>
    cases route with
    | own => exact service.serve_redact hr hb around service.registry.ownId t
    | named parameter =>
      cases hd : Text.Percent.decode parameter with
      | none => simp only [answer, Option.map_some, hd]
      | some id =>
        simp only [answer, Option.map_some, hd]
        exact service.serve_redact hr hb around id t

theorem respond_redact (hr : service.renderer.ReadsOutline)
    (hb : ∀ t : Tenant, service.baseUrl t.redact = service.baseUrl t) (around : Surroundings)
    (request : Http.Request) (tenant? : Option Tenant) :
    service.redact.respond around.redact request (tenant?.map Tenant.redact)
      = service.respond around request tenant? := by
  simp only [respond, service.answer_redact hr hb]

end MetadataService

end RelyingParty
