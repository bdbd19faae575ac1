import RelyingParty.Proofs.Except
import RelyingParty.Proofs.Outcome

/-!
# Proofs/Lookup — which ids a registry answers, and on what its answers depend

A lookup hands out exactly what the registry `Holds` under the id (`value_resolve_eq_ok_iff`).
There are two such ids, and they stay apart: no constructor builds a registry whose own id is blank
or the example's (`ofProfile_eq_ok_iff`).  Of its surroundings a lookup reads the default keys and,
unless it is given one, the tenant; registries that `Agree` on their id, their profile and these
keys answer alike, over HTTP too.
-/

namespace RelyingParty

namespace Registry

variable {g g' : Registry} {around around' : Surroundings}

/-! ## Constructors -/

/-- **A registry is built just if its id may be taken**, and of nothing but what is given. -/
theorem ofProfile_eq_ok_iff {ownId : String} {p : Profile} {source : KeySource} :
    ofProfile ownId p source = .ok g ↔
      (Text.isBlank ownId = false ∧ ownId ≠ exampleRegistrationId) ∧
        g.ownId = ownId ∧ g.profile = p ∧ g.keySource = source := by
  obtain ⟨id, profile, keySource, _, _⟩ := g
  unfold ofProfile
  split_ifs with blank taken
  · simp [blank]
  · simp [taken]
  · refine ⟨fun h => ?_, ?_⟩
    · obtain ⟨⟩ := h
      exact ⟨⟨by simpa using blank, taken⟩, rfl, rfl, rfl⟩
    · rintro ⟨-, rfl, rfl, rfl⟩
      rfl

theorem exists_ofProfile_of_ofConfig {c : ProviderConfig} (h : ofConfig c = .ok g) :
    ∃ p, ofProfile c.registrationId p (.fixed c.defaultKeys) = .ok g := by
  obtain ⟨p, -, built⟩ := bind_eq_ok_iff.mp h
  exact ⟨p, built⟩

/-- **A registry that one of the constructors hands out.** -/
inductive Constructed (g : Registry) : Prop
  | overProfile {ownId : String} {p : Profile} {source : KeySource}
    (h : ofProfile ownId p source = .ok g)
  | fromConfig {c : ProviderConfig} (h : ofConfig c = .ok g)

theorem Constructed.ownId_free (h : g.Constructed) :
    Text.isBlank g.ownId = false ∧ g.ownId ≠ exampleRegistrationId := by
  obtain ⟨ownId, p, source, built⟩ :
      ∃ ownId p source, RelyingParty.Registry.ofProfile ownId p source = .ok g := by
    rcases h with h | h
    · exact ⟨_, _, _, h⟩
    · obtain ⟨p, h⟩ := exists_ofProfile_of_ofConfig h
      exact ⟨_, p, _, h⟩
  obtain ⟨free, same, -, -⟩ := ofProfile_eq_ok_iff.mp built
  rwa [same]

/-! ## Answers -/

theorem exists_holds_iff (g : Registry) (around : Surroundings) {id : String} (t : Tenant) :
    (∃ r, g.Holds around t id r) ↔ id = g.ownId ∨ id = exampleRegistrationId := by
  refine ⟨fun ⟨_, h⟩ => h.known, ?_⟩
  rintro (own | other)
  · exact ⟨_, Or.inl ⟨own, rfl⟩⟩
  · exact ⟨_, Or.inr ⟨other, rfl⟩⟩

/-- **A lookup hands out what the registry holds.** -/
theorem value_resolve_eq_ok_iff {id : String} {t : Tenant} {r : Registration} :
    (g.resolve around id t).value = .ok r ↔ g.Holds around t id r := by
  refine ⟨fun found => ?_, fun h => by rw [resolve_of_holds h]⟩
  by_cases known : id = g.ownId ∨ id = exampleRegistrationId
  · obtain ⟨r', held⟩ := (g.exists_holds_iff around t).mpr known
    rw [resolve_of_holds held] at found
    exact Except.ok.inj found ▸ held
  · obtain ⟨own, other⟩ := not_or.mp known
    rw [g.resolve_unknown around t own other] at found
    exact absurd found (by simp)

/-- **A registration bears the id under which it is held.** -/
theorem Holds.registrationId {id : String} {t : Tenant} {r : Registration}
    (h : g.Holds around t id r) : r.registrationId = id := by
  rcases h with ⟨-, rfl⟩ | ⟨rfl, rfl⟩ <;> rfl

/-- **The lookup for the system's tenant is the lookup for that tenant.** -/
theorem find_eq_resolve (g : Registry) (around : Surroundings) (id : String) :
    g.find around id = g.resolve around id around.tenant := rfl

theorem resolve_blank (g : Registry) (around : Surroundings) {id : String} (t : Tenant)
    (blank : Text.isBlank id = true) :
    g.resolve around id t = ⟨.error (.notFound id), [.unknownRegistration id]⟩ := by
  refine g.resolve_unknown around t ?_ ?_
  · rintro rfl
    exact absurd (g.ownId_not_blank.symm.trans blank) (by simp)
  · rintro rfl
    exact absurd blank (by decide +kernel)

/-! ## Agreement -/

/-- **Two registries agree in their surroundings** if they have one id and one profile and find the
same default keys. -/
structure Agree (g g' : Registry) (around around' : Surroundings) : Prop where
  ownId : g.ownId = g'.ownId
  profile : g.profile = g'.profile
  keys : g.keySource.keys around = g'.keySource.keys around'

/-- **Registries that agree answer alike.** -/
theorem Agree.resolve (h : g.Agree g' around around') (id : String) (t : Tenant) :
    g.resolve around id t = g'.resolve around' id t := by
  simp only [Registry.resolve, checkKnown, assembleFor, exampleRegistration, h.ownId, h.profile,
    h.keys]

theorem Agree.find (h : g.Agree g' around around') (tenant : around.tenant = around'.tenant)
    (id : String) : g.find around id = g'.find around' id := by
  rw [find_eq_resolve, find_eq_resolve, h.resolve, tenant]

end Registry

namespace MetadataService

/-- The path with two slashes asks for the empty id, under which nothing is held. -/
theorem respond_slashes (service : MetadataService) (around : Surroundings) (t : Tenant) :
    service.respond around ⟨"GET", "/saml/metadata//"⟩ (some t)
      = ⟨(ServiceError.notFound "").respond.value, [.unknownRegistration ""]⟩ := by
  have routed : Route.ofPath "/saml/metadata//" = some (.named "") :=
    Route.ofPath_eq_named_iff.mpr (Or.inr ⟨rfl, rfl⟩)
  have named : service.registry.Names (.named "") "" := Text.Percent.Unescapes.nil
  rw [service.respond_get around routed, service.answer_named around named,
    serve_of_error (service.registry.resolve_blank around t rfl)]
  rfl

/-- **Services over registries that agree respond alike.** -/
theorem respond_of_agree {g g' : Registry} {around around' : Surroundings}
    (h : g.Agree g' around around') (renderer : Renderer) (baseUrl : Tenant → String)
    (request : Http.Request) (tenant? : Option Tenant) :
    (⟨g, renderer, baseUrl⟩ : MetadataService).respond around request tenant?
      = (⟨g', renderer, baseUrl⟩ : MetadataService).respond around' request tenant? := by
  simp only [respond, answer, serve, render, h.resolve, h.ownId]

end MetadataService

namespace Registry

/-- **The contract of lookups.**  The own id of a registry that was built is neither blank nor the
example's.  Whatever the tenant and the keys are, a lookup succeeds just for these two ids, with a
registration that bears the id, and otherwise says that the id is not found: so it is with a blank
id, the one between two slashes included.  The two registrations differ.  The lookup for the tenant
that the system is working for is the lookup for that tenant. -/
theorem lookup_contract {g : Registry} (h : g.Constructed) :
    (Text.isBlank g.ownId = false ∧ g.ownId ≠ exampleRegistrationId) ∧
    (∀ around id t,
      ((∃ r, (g.resolve around id t).value = .ok r) ↔
        id = g.ownId ∨ id = exampleRegistrationId) ∧
      (∀ r, (g.resolve around id t).value = .ok r → r.registrationId = id) ∧
      (¬(id = g.ownId ∨ id = exampleRegistrationId) →
        (g.resolve around id t).value = .error (.notFound id)) ∧
      (Text.isBlank id = true → (g.resolve around id t).value = .error (.notFound id))) ∧
    (∀ renderer baseUrl around t,
      ((⟨g, renderer, baseUrl⟩ : MetadataService).respond around ⟨"GET", "/saml/metadata//"⟩
        (some t)).value = (ServiceError.notFound "").respond.value) ∧
    (∀ around around' t t', ∃ r r', (g.resolve around g.ownId t).value = .ok r ∧
      (g.resolve around' exampleRegistrationId t').value = .ok r' ∧ r ≠ r') ∧
    ∀ around id, g.find around id = g.resolve around id around.tenant := by
  refine ⟨h.ownId_free,
    fun around id t => ⟨?_, fun r found => ?_, fun unknown => ?_, fun blank => ?_⟩,
    fun renderer baseUrl around t => ?_, fun around around' t t' => ?_, g.find_eq_resolve⟩
  · simp only [value_resolve_eq_ok_iff, exists_holds_iff]
  · exact (value_resolve_eq_ok_iff.mp found).registrationId
  · obtain ⟨own, other⟩ := not_or.mp unknown
    rw [g.resolve_unknown around t own other]
  · rw [g.resolve_blank around t blank]
  · rw [MetadataService.respond_slashes]
  · obtain ⟨r, own⟩ := (g.exists_holds_iff around t).mpr (Or.inl rfl)
    obtain ⟨r', other⟩ := (g.exists_holds_iff around' t').mpr (Or.inr rfl)
    refine ⟨r, r', value_resolve_eq_ok_iff.mpr own, value_resolve_eq_ok_iff.mpr other, ?_⟩
    rintro rfl
    exact g.ownId_ne_example (own.registrationId.symm.trans other.registrationId)

theorem lookup_contract_padded :
    let zone : Tenant := { id := ⟨9⟩, subdomain := "" }
    ∃ g, ofConfig { registrationId := " example", entityId := "sp" } = .ok g ∧ ∀ around,
      (∃ r, (g.resolve around " example" zone).value = .ok r) ∧
      (g.resolve around "example " zone).value = .error (.notFound "example ") := by
  intro zone
  obtain ⟨g, built⟩ : ∃ g, ofConfig { registrationId := " example", entityId := "sp" } = .ok g :=
    ⟨_, rfl⟩
  obtain ⟨p, h⟩ := exists_ofProfile_of_ofConfig built
  have ownId : g.ownId = " example" := (ofProfile_eq_ok_iff.mp h).2.1
  obtain ⟨-, answers, -⟩ := lookup_contract (.fromConfig built)
  refine ⟨g, built, fun around => ⟨?_, ?_⟩⟩
  · exact (answers around " example" zone).1.mpr (Or.inl ownId.symm)
  · refine (answers around "example " zone).2.2.1 ?_
    rw [ownId]
    decide

end Registry

end RelyingParty
