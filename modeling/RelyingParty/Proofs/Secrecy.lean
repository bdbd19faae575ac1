import RelyingParty.Proofs.Redaction

/-!
# Proofs/Secrecy — two systems that differ in secrets only cannot be told apart

Two values are *alike* when they are equal after `redact`.  What a value shows of itself is the same
for all values alike; and a session answers alike, step by step, to steps alike (`run_alike`).  An
answer keeps its events, its error, its inspection and its response as they are under redaction, so
for these *alike* is *equal*.
-/

namespace RelyingParty

/-! ## Steps and answers, their secrets blotted out -/

/-- The tenant that a request is made for, its secrets blotted out. -/
def RequestTenant.redact : RequestTenant → RequestTenant
  | given t => given t.redact
  | ambient => ambient
  | missing => missing

/-- A step with the secrets of its arguments blotted out. -/
def Step.redact : Step → Step
  | resolve id t => resolve id t.redact
  | setTenant t => setTenant t.redact
  | setKeys keys => setKeys (keys.map KeyPair.redact)
  | rebuild recipe => rebuild recipe.redact
  | request r => request { r with tenant := r.tenant.redact }
  | step => step

/-- **A step whose renderer, if it has one, reads the outline only.** -/
def Step.ReadsOutline : Step → Prop
  | request r => r.renderer.ReadsOutline
  | _ => True

/-- **An answer with the secrets of the value that it hands over blotted out.**  Whether that value
equals the one before it is a comparison of secrets and is left out; events, errors, inspections
and responses stay as they are. -/
def Answer.redact : Answer → Answer
  | found r _ events => found r.redact none events
  | tenantSet t => tenantSet t.redact
  | answer => answer

theorem Step.readsOutline_redact (step : Step) : step.redact.ReadsOutline ↔ step.ReadsOutline := by
  cases step <;> rfl

namespace Session

/-- A session with all secrets blotted out. -/
def redact (s : Session) : Session :=
  ⟨s.registry.redact, s.around.redact, s.last.map Registration.redact⟩

/-! ## One step -/

/-- Two outcomes of a step that differ in secrets only. -/
def Alike (outcome outcome' : Session × Answer) : Prop :=
  outcome.1.redact = outcome'.1.redact ∧ outcome.2.redact = outcome'.2.redact

theorem map_redact_map_redact (last : Option Registration) :
    (last.map Registration.redact).map Registration.redact = last.map Registration.redact := by
  rw [Option.map_map]
  exact congrArg (fun f => last.map f) (funext Registration.redact_redact)

theorem redact_redact (s : Session) : s.redact.redact = s.redact := by
  simp only [redact, Registry.redact_redact, Surroundings.redact_redact, map_redact_map_redact]

theorem lookedUp_redact (s : Session) (result : Audited (Except ServiceError Registration)) :
    Alike (s.redact.lookedUp (result.map (Except.map Registration.redact)))
      (s.lookedUp result) := by
  obtain ⟨found, events⟩ := result
  cases found with
  | error e => exact ⟨s.redact_redact, rfl⟩
  | ok r =>
    refine ⟨?_, ?_⟩
    · simp [lookedUp, Audited.map, Except.map, redact, Registry.redact_redact,
        Surroundings.redact_redact, Registration.redact_redact]
    · simp [lookedUp, Audited.map, Except.map, Answer.redact, Registration.redact_redact]

theorem respond_redact (s : Session) (r : MetadataRequest) (hr : r.renderer.ReadsOutline) :
    s.redact.respond { r with tenant := r.tenant.redact } = s.respond r := by
  obtain ⟨method, target, tenant, renderer, baseUrl⟩ := r
  cases hp : Http.Request.parse? method target with
  | none => simp only [respond, hp]
  | some request =>
    let service : MetadataService := ⟨s.registry, renderer, baseUrl.resolve⟩
    have same (tenant? : Option Tenant) :
        Answer.response
            (service.redact.respond s.around.redact request (tenant?.map Tenant.redact)).value
            (service.redact.respond s.around.redact request (tenant?.map Tenant.redact)).events
          = Answer.response (service.respond s.around request tenant?).value
            (service.respond s.around request tenant?).events := by
      rw [service.respond_redact hr baseUrl.resolve_redact]
    simp only [respond, hp]
    cases tenant with
    | ambient => exact same s.around.tenant
    | given t => exact same t
    | missing => exact same none

/-- **A session and its redaction answer a step and its redaction alike.** -/
theorem step_redact (s : Session) (step : Step) (hr : step.ReadsOutline) :
    Alike (s.redact.step step.redact) (s.step step) := by
  cases step with
  | find id =>
    have h := s.lookedUp_redact (s.registry.find s.around id)
    rwa [← Registry.find_redact] at h
  | resolve id t =>
    have h := s.lookedUp_redact (s.registry.resolve s.around id t)
    rwa [← Registry.resolve_redact] at h
  | setTenant t =>
    refine ⟨?_, congrArg Answer.tenantSet t.redact_redact⟩
    simp only [Session.step, Step.redact, redact, Registry.redact_redact, map_redact_map_redact,
      Surroundings.redact, Tenant.redact_redact, KeyPair.map_redact_map_redact]
  | setKeys keys =>
    refine ⟨?_, congrArg Answer.keysSet (List.length_map _)⟩
    simp only [Session.step, Step.redact, redact, Registry.redact_redact, map_redact_map_redact,
      Surroundings.redact, Tenant.redact_redact, KeyPair.map_redact_map_redact]
  | rebuild recipe =>
    have built := recipe.build_redact
    cases h : recipe.build with
    | error e =>
      cases h' : recipe.redact.build with
      | error e' =>
        obtain rfl : e' = e := by simpa [h, h', Except.map] using built
        simp only [Alike, Session.step, Step.redact, h, h', s.redact_redact, and_self]
      | ok g' => simp [h, h', Except.map] at built
    | ok g =>
      cases h' : recipe.redact.build with
      | error e' => simp [h, h', Except.map] at built
      | ok g' =>
        have same : g'.redact = g.redact := by simpa [h, h', Except.map] using built
        have sameId : g'.redact.ownId = g.redact.ownId := congrArg Registry.ownId same
        refine ⟨?_, ?_⟩
        · simp only [Session.step, Step.redact, h, h', redact, same, map_redact_map_redact,
            Surroundings.redact_redact]
        · simp only [Session.step, Step.redact, h, h']
          exact congrArg Answer.id sameId
  | ownId => exact ⟨s.redact_redact, rfl⟩
  | inspect => exact ⟨s.redact_redact, rfl⟩
  | filename => exact ⟨s.redact_redact, rfl⟩
  | expand baseUrl =>
    obtain ⟨registry, around, last⟩ := s
    cases last with
    | none => exact ⟨redact_redact _, rfl⟩
    | some r => exact ⟨redact_redact _, rfl⟩
  | request r =>
    exact ⟨s.redact_redact, congrArg Answer.redact (s.respond_redact r hr)⟩

/-! ## A whole run -/

/-- Outcomes of alike steps from alike sessions are alike. -/
theorem step_alike {s s' : Session} {step step' : Step} (hs : s.redact = s'.redact)
    (hstep : step.redact = step'.redact) (hr : step.ReadsOutline) :
    Alike (s.step step) (s'.step step') := by
  have hr' : step'.ReadsOutline := by
    rwa [← step'.readsOutline_redact, ← hstep, step.readsOutline_redact]
  have h := s.step_redact step hr
  have h' := s'.step_redact step' hr'
  rw [← hs, ← hstep] at h'
  exact ⟨h.1.symm.trans h'.1, h.2.symm.trans h'.2⟩

/-- **A run of alike steps is answered alike.** -/
theorem run_alike : ∀ (steps steps' : List Step) (s s' : Session), s.redact = s'.redact →
    steps.map Step.redact = steps'.map Step.redact → (∀ step ∈ steps, step.ReadsOutline) →
    (s.run steps).1.redact = (s'.run steps').1.redact ∧
      (s.run steps).2.map Answer.redact = (s'.run steps').2.map Answer.redact := by
  intro steps
  induction steps with
  | nil =>
    intro steps' s s' hs hsteps _
    obtain rfl : steps' = [] := by simpa using hsteps.symm
    exact ⟨hs, rfl⟩
  | cons step steps ih =>
    intro steps' s s' hs hsteps hr
    obtain ⟨step', steps', rfl⟩ : ∃ step' rest, steps' = step' :: rest := by
      cases steps' with
      | nil => simp at hsteps
      | cons step' rest => exact ⟨step', rest, rfl⟩
    rw [List.map_cons, List.map_cons, List.cons.injEq] at hsteps
    have one := step_alike hs hsteps.1 (hr step List.mem_cons_self)
    have rest := ih steps' (s.step step).1 (s'.step step').1 one.1 hsteps.2
      fun st h => hr st (List.mem_cons_of_mem _ h)
    refine ⟨rest.1, ?_⟩
    change (s.step step).2.redact :: _ = (s'.step step').2.redact :: _
    rw [one.2]
    exact congrArg _ rest.2

end Session

/-! ## Secrets make no difference -/

/-- Two values that show the same of themselves in every style. -/
def ShowSame (inspect : α → Inspection) (a a' : α) : Prop :=
  ∀ style, (inspect a).render style = (inspect a').render style

/-- Values alike show the same, if redaction does not change what is shown. -/
theorem showSame_of_redact {inspect : α → Inspection} {redact : α → α}
    (blind : ∀ a, inspect (redact a) = inspect a) {a a' : α} (h : redact a = redact a') :
    ShowSame inspect a a' := fun style => by rw [← blind a, h, blind a']

theorem KeyPair.inspectStore_map_redact (keys : List KeyPair) :
    inspectStore (keys.map redact) = inspectStore keys := by
  rw [inspectStore, inspectAll_map_redact, inspectStore]

/-- A session whose registry and whose tenant have one key pair each, with the given secret. -/
def sessionOver (secret : String) : Session where
  registry :=
    { ownId := "sp"
      profile :=
        { identity := ⟨"entity", some "alias"⟩
          nameIdFormat := none
          signing := {}
          assertingParty := {}
          entityId_not_blank := by decide +kernel
          alias_not_blank := by decide +kernel }
      keySource := .fixed [⟨secret, secret, "CERT-1"⟩]
      ownId_not_blank := by decide +kernel
      ownId_ne_example := by decide }
  around :=
    { tenant :=
        { id := ⟨7⟩, subdomain := "zone", settings := some { keys := [⟨secret, "", "CERT-2"⟩] } }
      sharedKeys := [] }

/-- Two lookups, an inspection and a request, one of them for a tenant with the given secret. -/
def lookupsOver (secret : String) : List Step :=
  let other : Tenant :=
    { id := ⟨9⟩, subdomain := "other", settings := some { keys := [⟨secret, secret, "CERT-3"⟩] } }
  [.find "sp", .resolve "sp" other, .inspect,
    .request { target := "/saml/metadata", baseUrl := .fixed "https://login" }]

/-- The service over the registry of that session, with a base URL for each tenant. -/
def serviceOver (secret : String) : MetadataService where
  registry := (sessionOver secret).registry
  renderer := .outline
  baseUrl := fun t => "https://login/" ++ t.id.toString

/-- **Secrets make no difference outside.**  Values alike show the same of themselves on one line
and in a block; recipes alike build registries alike or fail for the same reason; sessions alike
answer alike to any run of steps alike; and so does the service with a base URL of any kind that
does not depend on secrets. -/
theorem secrets_indistinguishable :
    (∀ k k' : KeyPair, k.redact = k'.redact → ShowSame KeyPair.inspect k k') ∧
    (∀ s s' : TenantSettings, s.redact = s'.redact → ShowSame TenantSettings.inspect s s') ∧
    (∀ t t' : Tenant, t.redact = t'.redact → ShowSame Tenant.inspect t t') ∧
    (∀ c c' : ProviderConfig, c.redact = c'.redact → ShowSame ProviderConfig.inspect c c') ∧
    (∀ keys keys' : List KeyPair, keys.map KeyPair.redact = keys'.map KeyPair.redact →
      ShowSame KeyPair.inspectStore keys keys') ∧
    (∀ r r' : Registration, r.redact = r'.redact → ShowSame Registration.inspect r r') ∧
    (∀ recipe recipe' : Recipe, recipe.redact = recipe'.redact →
      recipe.build.map Registry.redact = recipe'.build.map Registry.redact) ∧
    (∀ (s s' : Session) (steps steps' : List Step), s.redact = s'.redact →
      steps.map Step.redact = steps'.map Step.redact → (∀ step ∈ steps, step.ReadsOutline) →
      ShowSame Registry.inspect s.registry s'.registry ∧
        (s.run steps).2.map Answer.redact = (s'.run steps').2.map Answer.redact) ∧
    ∀ (service service' : MetadataService) (around around' : Surroundings)
      (request : Http.Request) (tenant? tenant?' : Option Tenant),
      service.redact = service'.redact → around.redact = around'.redact →
      tenant?.map Tenant.redact = tenant?'.map Tenant.redact → service.renderer.ReadsOutline →
      (∀ t : Tenant, service.baseUrl t.redact = service.baseUrl t) →
      service.respond around request tenant? = service'.respond around' request tenant?' := by
  refine ⟨fun _ _ => showSame_of_redact KeyPair.inspect_redact,
    fun _ _ => showSame_of_redact TenantSettings.inspect_redact,
    fun _ _ => showSame_of_redact Tenant.inspect_redact,
    fun _ _ => showSame_of_redact ProviderConfig.inspect_redact,
    fun _ _ => showSame_of_redact KeyPair.inspectStore_map_redact,
    fun _ _ => showSame_of_redact Registration.inspect_redact, ?_, ?_, ?_⟩
  · intro recipe recipe' h
    rw [← recipe.build_redact, h, recipe'.build_redact]
  · intro s s' steps steps' hs hsteps hr
    have registries : s.registry.redact = s'.registry.redact := congrArg Session.registry hs
    exact ⟨showSame_of_redact Registry.inspect_redact registries,
      (Session.run_alike steps steps' s s' hs hsteps hr).2⟩
  · intro service service' around around' request tenant? tenant?' hs ha ht hr hb
    have sameRenderer : service.redact.renderer = service'.redact.renderer :=
      congrArg MetadataService.renderer hs
    have sameBase : service.redact.baseUrl = service'.redact.baseUrl :=
      congrArg MetadataService.baseUrl hs
    have hr' : service'.renderer.ReadsOutline := sameRenderer ▸ hr
    have hb' : ∀ t : Tenant, service'.baseUrl t.redact = service'.baseUrl t := sameBase ▸ hb
    calc service.respond around request tenant?
        = service.redact.respond around.redact request (tenant?.map Tenant.redact) :=
          (service.respond_redact hr hb around request tenant?).symm
      _ = service'.redact.respond around'.redact request (tenant?'.map Tenant.redact) := by
          rw [hs, ha, ht]
      _ = service'.respond around' request tenant?' :=
          service'.respond_redact hr' hb' around' request tenant?'

theorem secrets_indistinguishable_rotated :
    sessionOver "old" ≠ sessionOver "new" ∧
    (sessionOver "old").redact = (sessionOver "new").redact ∧
    (lookupsOver "old").map Step.redact = (lookupsOver "new").map Step.redact ∧
    (∀ step ∈ lookupsOver "old", step.ReadsOutline) ∧
    ((sessionOver "old").run (lookupsOver "old")).2.map Answer.redact
      = ((sessionOver "new").run (lookupsOver "new")).2.map Answer.redact ∧
    (serviceOver "old").redact = (serviceOver "new").redact ∧
    (serviceOver "old").renderer.ReadsOutline ∧
    (∀ t : Tenant, (serviceOver "old").baseUrl t.redact = (serviceOver "old").baseUrl t) ∧
    (serviceOver "old").respond (sessionOver "old").around ⟨"GET", "/saml/metadata"⟩
        (sessionOver "old").around.tenant
      = (serviceOver "new").respond (sessionOver "new").around ⟨"GET", "/saml/metadata"⟩
        (sessionOver "new").around.tenant := by
  have outlined : ∀ step ∈ lookupsOver "old", step.ReadsOutline := by
    simp [lookupsOver, Step.ReadsOutline, Renderer.readsOutline_outline]
  obtain ⟨-, -, -, -, -, -, -, runs, requests⟩ := secrets_indistinguishable
  have renderer : (serviceOver "old").renderer.ReadsOutline := Renderer.readsOutline_outline
  exact ⟨fun h => by simp [sessionOver] at h, rfl, rfl, outlined,
    (runs _ _ _ _ rfl rfl outlined).2, rfl, renderer, fun _ => rfl,
    requests _ _ _ _ _ _ _ rfl rfl rfl renderer fun _ => rfl⟩

end RelyingParty
