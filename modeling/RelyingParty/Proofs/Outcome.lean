import RelyingParty.Proofs.Disposition
import RelyingParty.Proofs.Json.Members
import RelyingParty.Proofs.Routing

/-!
# Proofs/Outcome — what becomes of a request, and what is recorded of it

A request meets exactly one of seven outcomes (`existsUnique_meets`), and its outcome settles both
the response and every event (`respond_of_meets`).  `Meets` lists the checks in the order in which
they are made: each case says that those before it passed.

What a client makes of the response, and a reader of the log of the events, is said by the outcome
alone: `Outcome.Tells` takes the written objects and the header of a download for what they mean
(`Outcome.tells_response`), and `Outcome.lines` is the log line by line
(`Outcome.map_line_events`).
-/

namespace RelyingParty

/-- **A line of the log**, as its readers see it. -/
structure LogLine where
  level : Level
  message : String
  fields : List (String × FieldValue)

/-- The line that an event is in the log. -/
def Event.line (e : Event) : LogLine := ⟨e.level, e.message, e.fields⟩

/-- **What becomes of a request.** -/
inductive Outcome where
  /-- No path matches. -/
  | unrouted
  /-- The path takes other methods only. -/
  | methodRefused
  /-- Nobody said for which tenant the request was made. -/
  | tenantMissing
  /-- The parameter unescapes to no text. -/
  | parameterNotText
  /-- There is no registration with the id. -/
  | unknown (id : String)
  /-- The registration was found and could not be rendered. -/
  | failed (t : Tenant) (id : String) (r : Registration) (detail : String)
  /-- The registration was found and rendered. -/
  | served (t : Tenant) (id : String) (r : Registration) (xml : String)

namespace Outcome

/-! ## What a client sees -/

/-- The response to a GET request with this outcome. -/
def response : Outcome → Http.Response
  | unrouted => MetadataService.unrouted
  | methodRefused => MetadataService.methodNotAllowed
  | tenantMissing => MetadataService.tenantMissing
  | parameterNotText => MetadataService.parameterNotText
  | unknown id => (ServiceError.notFound id).respond.value
  | failed _ _ _ detail => (ServiceError.metadataFailed detail).respond.value
  | served t _ _ xml => MetadataService.document t xml

/-- **A response tells a client of an outcome.**  The status and the headers are fixed, and so are
the bodies that are not objects; of an object the members are, and of the header of a download the
name that it offers, however they are written. -/
inductive Tells : Outcome → Http.Response → Prop
  | unrouted : Tells .unrouted { status := 404 }
  | methodRefused : Tells .methodRefused { status := 405, allow := some "GET,HEAD" }
  | tenantMissing : Tells .tenantMissing
    { status := 500
      contentType := some "text/plain; charset=utf-8"
      body := "Missing request extension: Extension of type `samlzone_core::tenant::Tenant` "
        ++ "was not found. Perhaps you forgot to add it? See `axum::Extension`." }
  | parameterNotText : Tells .parameterNotText
    { status := 400
      contentType := some "text/plain; charset=utf-8"
      body := "Invalid URL: Invalid UTF-8 in `registration_id`" }
  | unknown {id body : String}
    (object : Json.IsObject body [("error", "registration_not_found"),
      ("message", "Relying party registration not found: " ++ id)]) :
    Tells (.unknown id) { status := 404, contentType := some "application/json", body }
  | failed {t : Tenant} {id : String} {r : Registration} {detail body : String}
    (object : Json.IsObject body [("error", "metadata_generation_failed"),
      ("message", "Metadata generation failed")]) :
    Tells (.failed t id r detail) { status := 500, contentType := some "application/json", body }
  | served {t : Tenant} {id : String} {r : Registration} {xml header : String}
    (offers : Download.Offers header
      (if t.isDefault then "saml-sp.xml" else "saml-" ++ t.subdomain ++ "-sp.xml")) :
    Tells (.served t id r xml)
      { status := 200
        contentType := some "application/xml; charset=utf-8"
        contentDisposition := some header
        body := xml }

theorem tells_response (o : Outcome) : o.Tells o.response := by
  cases o with
  | unrouted => exact .unrouted
  | methodRefused => exact .methodRefused
  | tenantMissing => exact .tenantMissing
  | parameterNotText => exact .parameterNotText
  | unknown id => exact .unknown (Json.writeObject_isObject _)
  | failed t id r detail => exact .failed (Json.writeObject_isObject _)
  | served t id r xml => exact .served (Download.offers_contentDisposition _)

/-- **Status 200 goes with one outcome only.** -/
theorem status_response_eq_iff {o : Outcome} :
    o.response.status = 200 ↔ ∃ t id r xml, o = .served t id r xml := by
  have told := o.tells_response
  generalize o.response = r at told
  cases told <;> simp

/-! ## What is recorded -/

/-- The record that a registration was found: the own one is put together, the example is not. -/
def foundEvents (g : Registry) (t : Tenant) (id : String) (r : Registration) : List Event :=
  if id = g.ownId then
    [.registrationAssembled r.registrationId t.id r.entityId r.entityAlias
      r.credentials.signing.length]
  else []

/-- **All that is recorded** of a request with this outcome. -/
def events (g : Registry) : Outcome → List Event
  | unknown id => [.unknownRegistration id]
  | failed t id r detail => foundEvents g t id r ++ [.metadataFailed detail]
  | served t id r _ => foundEvents g t id r ++ [.metadataServed t.id r.registrationId r.entityId]
  | _ => []

/-- The lines that say that a registration was put together. -/
def foundLines (g : Registry) (t : Tenant) (id : String) (r : Registration) : List LogLine :=
  if id = g.ownId then
    [{ level := .debug
       message := "Assembled SAML relying party registration"
       fields := [("registration_id", .text r.registrationId), ("tenant_id", .text t.id.toString),
        ("entity_id", .text r.entityId), ("alias", .text r.entityAlias),
        ("signing_keys", .number r.credentials.signing.length)] }]
  else []

/-- **The log of a request with this outcome**, line by line. -/
def lines (g : Registry) : Outcome → List LogLine
  | unknown id =>
    [{ level := .warn
       message := "Unknown SAML relying party registration requested"
       fields := [("registration_id", .text id)] }]
  | failed t id r detail =>
    foundLines g t id r ++
      [{ level := .error
         message := "SAML metadata generation failed"
         fields := [("detail", .text detail)] }]
  | served t id r _ =>
    foundLines g t id r ++
      [{ level := .info
         message := "SAML SP metadata requested"
         fields := [("tenant_id", .text t.id.toString),
          ("registration_id", .text r.registrationId), ("entity_id", .text r.entityId)] }]
  | _ => []

theorem map_line_foundEvents (g : Registry) (t : Tenant) (id : String) (r : Registration) :
    (foundEvents g t id r).map Event.line = foundLines g t id r := by
  unfold foundEvents foundLines
  split <;> rfl

theorem map_line_events (g : Registry) (o : Outcome) :
    (o.events g).map Event.line = o.lines g := by
  cases o with
  | failed t id r detail =>
    rw [events, lines, List.map_append, map_line_foundEvents]
    rfl
  | served t id r xml =>
    rw [events, lines, List.map_append, map_line_foundEvents]
    rfl
  | _ => rfl

end Outcome

/-! ## Ids and registrations -/

namespace Registry

variable (g : Registry)

/-- The route names the id: its own registration's, or the text that the parameter unescapes to. -/
def Names : Route → String → Prop
  | .own, id => id = g.ownId
  | .named s, id => Text.Percent.Unescapes (Text.utf8 s.toList) (Text.utf8 id.toList)

/-- The registration with the id for a tenant: the own one put together for it, or the example. -/
def Holds (around : Surroundings) (t : Tenant) (id : String) (r : Registration) : Prop :=
  (id = g.ownId ∧ r = g.profile.registrationOf id t (g.keySource.keys around)) ∨
    (id = exampleRegistrationId ∧ r = g.profile.exampleRegistration (g.keySource.keys around))

variable {g}

theorem Names.unique {route : Route} {id id' : String} (h : g.Names route id)
    (h' : g.Names route id') : id = id' := by
  cases route with
  | own => exact Eq.trans h (Eq.symm h')
  | named s =>
    have := (Text.Percent.decode_eq_some_iff.mpr h).symm.trans
      (Text.Percent.decode_eq_some_iff.mpr h')
    exact Option.some.inj this

theorem Holds.unique {around : Surroundings} {t : Tenant} {id : String} {r r' : Registration}
    (h : g.Holds around t id r) (h' : g.Holds around t id r') : r = r' := by
  rcases h with ⟨own, rfl⟩ | ⟨other, rfl⟩
  · rcases h' with ⟨-, rfl⟩ | ⟨other, -⟩
    · rfl
    · exact absurd (own.symm.trans other) g.ownId_ne_example
  · rcases h' with ⟨own, -⟩ | ⟨-, rfl⟩
    · exact absurd (own.symm.trans other) g.ownId_ne_example
    · rfl

theorem Holds.known {around : Surroundings} {t : Tenant} {id : String} {r : Registration}
    (h : g.Holds around t id r) : id = g.ownId ∨ id = exampleRegistrationId :=
  h.imp And.left And.left

/-- **A registration that the registry holds is found**, and recorded accordingly. -/
theorem resolve_of_holds {around : Surroundings} {t : Tenant} {id : String} {r : Registration}
    (h : g.Holds around t id r) :
    g.resolve around id t = ⟨.ok r, Outcome.foundEvents g t id r⟩ := by
  rcases h with ⟨rfl, rfl⟩ | ⟨rfl, rfl⟩
  · rw [resolve_ownId, Outcome.foundEvents, if_pos rfl]
    rfl
  · rw [resolve_example, Outcome.foundEvents, if_neg g.ownId_ne_example.symm]

end Registry

/-! ## The checks, in their order -/

namespace MetadataService

variable (service : MetadataService) (around : Surroundings)

/-- **What becomes of a request for a route that was made for a tenant.** -/
inductive MeetsFor (route : Route) (t : Tenant) : Outcome → Prop
  | parameterNotText (hn : ∀ id, ¬service.registry.Names route id) :
    MeetsFor route t .parameterNotText
  | unknown {id : String} (hn : service.registry.Names route id)
    (own : id ≠ service.registry.ownId) (other : id ≠ exampleRegistrationId) :
    MeetsFor route t (.unknown id)
  | failed {id : String} {r : Registration} {detail : String}
    (hn : service.registry.Names route id) (hr : service.registry.Holds around t id r)
    (hx : service.renderer r (service.baseUrl t) = .error detail) :
    MeetsFor route t (.failed t id r detail)
  | served {id : String} {r : Registration} {xml : String}
    (hn : service.registry.Names route id) (hr : service.registry.Holds around t id r)
    (hx : service.renderer r (service.baseUrl t) = .ok xml) :
    MeetsFor route t (.served t id r xml)

/-- **What becomes of a request.** -/
inductive Meets (request : Http.Request) (tenant? : Option Tenant) : Outcome → Prop
  | unrouted (hp : Route.ofPath request.path = none) : Meets request tenant? .unrouted
  | methodRefused {route : Route} (hp : Route.ofPath request.path = some route)
    (hm : ¬(request.method = "GET" ∨ request.method = "HEAD")) :
    Meets request tenant? .methodRefused
  | tenantMissing {route : Route} (hp : Route.ofPath request.path = some route)
    (hm : request.method = "GET" ∨ request.method = "HEAD") (ht : tenant? = none) :
    Meets request tenant? .tenantMissing
  | accepted {route : Route} {t : Tenant} {o : Outcome}
    (hp : Route.ofPath request.path = some route)
    (hm : request.method = "GET" ∨ request.method = "HEAD") (ht : tenant? = some t)
    (ho : service.MeetsFor around route t o) : Meets request tenant? o

variable {service around}

/-- A route is answered with the registration that it names. -/
theorem answer_of_names {route : Route} {id : String} (h : service.registry.Names route id)
    (t : Tenant) : service.answer around route (some t) = service.serve around id t := by
  cases route with
  | own => exact congrArg (service.serve around · t) h.symm
  | named s => exact service.answer_named around h t

/-- **The outcome settles the response and the events.** -/
theorem answer_of_meetsFor {route : Route} {t : Tenant} {o : Outcome}
    (h : service.MeetsFor around route t o) :
    service.answer around route (some t) = ⟨o.response, o.events service.registry⟩ := by
  cases h with
  | parameterNotText hn =>
    cases route with
    | own => exact absurd rfl (hn service.registry.ownId)
    | named s => exact service.answer_notText around hn t
  | unknown hn own other =>
    rw [answer_of_names hn, serve_of_error (service.registry.resolve_unknown around t own other)]
    rfl
  | failed hn hr hx =>
    rw [answer_of_names hn, serve_of_failed (Registry.resolve_of_holds hr) hx]
    rfl
  | served hn hr hx =>
    rw [answer_of_names hn, serve_of_rendered (Registry.resolve_of_holds hr) hx]
    rfl

theorem respond_of_meets {request : Http.Request} {tenant? : Option Tenant} {o : Outcome}
    (h : service.Meets around request tenant? o) :
    service.respond around request tenant?
      = ⟨if request.method = "HEAD" then o.response.withoutBody else o.response,
        o.events service.registry⟩ := by
  have taken {route : Route} (hp : Route.ofPath request.path = some route)
      (hm : request.method = "GET" ∨ request.method = "HEAD")
      (ha : service.answer around route tenant? = ⟨o.response, o.events service.registry⟩) :
      service.respond around request tenant?
        = ⟨if request.method = "HEAD" then o.response.withoutBody else o.response,
          o.events service.registry⟩ := by
    rcases hm with hm | hm
    · simp only [respond, hp, hm, ha, if_pos]
      rfl
    · simp only [respond, hp, hm, ha, if_pos]
      rfl
  cases h with
  | unrouted hp =>
    simp only [respond, hp]
    split <;> rfl
  | methodRefused hp hm =>
    obtain ⟨get, head⟩ := not_or.mp hm
    simp only [respond, hp, if_neg get, if_neg head]
    rfl
  | tenantMissing hp hm ht => exact taken hp hm (by rw [ht]; rfl)
  | accepted hp hm ht ho => exact taken hp hm (by rw [ht]; exact answer_of_meetsFor ho)

/-! ## Exactly one outcome -/

variable (service around) in
theorem exists_meetsFor (route : Route) (t : Tenant) : ∃ o, service.MeetsFor around route t o := by
  by_cases named : ∃ id, service.registry.Names route id
  · obtain ⟨id, hn⟩ := named
    by_cases held : ∃ r, service.registry.Holds around t id r
    · obtain ⟨r, hr⟩ := held
      cases hx : service.renderer r (service.baseUrl t) with
      | error detail => exact ⟨_, .failed hn hr hx⟩
      | ok xml => exact ⟨_, .served hn hr hx⟩
    · have own : id ≠ service.registry.ownId := fun h => held ⟨_, Or.inl ⟨h, rfl⟩⟩
      have other : id ≠ exampleRegistrationId := fun h => held ⟨_, Or.inr ⟨h, rfl⟩⟩
      exact ⟨_, .unknown hn own other⟩
  · exact ⟨_, .parameterNotText (not_exists.mp named)⟩

/-- **Two outcomes of one request are the same**: the id, the registration and what the renderer
makes of it are determined. -/
theorem MeetsFor.unique {route : Route} {t : Tenant} {o o' : Outcome}
    (h : service.MeetsFor around route t o) (h' : service.MeetsFor around route t o') : o = o' := by
  cases h with
  | parameterNotText hn =>
    cases h' with
    | parameterNotText _ => rfl
    | unknown hn' _ _ => exact absurd hn' (hn _)
    | failed hn' _ _ => exact absurd hn' (hn _)
    | served hn' _ _ => exact absurd hn' (hn _)
  | unknown hn own other =>
    cases h' with
    | parameterNotText hn' => exact absurd hn (hn' _)
    | unknown hn' _ _ => rw [hn.unique hn']
    | failed hn' hr' _ => exact absurd (hn.unique hn' ▸ hr'.known) (not_or.mpr ⟨own, other⟩)
    | served hn' hr' _ => exact absurd (hn.unique hn' ▸ hr'.known) (not_or.mpr ⟨own, other⟩)
  | failed hn hr hx =>
    cases h' with
    | parameterNotText hn' => exact absurd hn (hn' _)
    | unknown hn' own other => exact absurd (hn'.unique hn ▸ hr.known) (not_or.mpr ⟨own, other⟩)
    | failed hn' hr' hx' =>
      obtain rfl := hn.unique hn'
      obtain rfl := hr.unique hr'
      rw [Except.error.inj (hx.symm.trans hx')]
    | served hn' hr' hx' =>
      obtain rfl := hn.unique hn'
      obtain rfl := hr.unique hr'
      exact absurd (hx.symm.trans hx') (by simp)
  | served hn hr hx =>
    cases h' with
    | parameterNotText hn' => exact absurd hn (hn' _)
    | unknown hn' own other => exact absurd (hn'.unique hn ▸ hr.known) (not_or.mpr ⟨own, other⟩)
    | failed hn' hr' hx' =>
      obtain rfl := hn.unique hn'
      obtain rfl := hr.unique hr'
      exact absurd (hx.symm.trans hx') (by simp)
    | served hn' hr' hx' =>
      obtain rfl := hn.unique hn'
      obtain rfl := hr.unique hr'
      rw [Except.ok.inj (hx.symm.trans hx')]

variable (service around) in
theorem existsUnique_meets (request : Http.Request) (tenant? : Option Tenant) :
    ∃! o, service.Meets around request tenant? o := by
  cases hp : Route.ofPath request.path with
  | none =>
    refine ⟨_, .unrouted hp, fun o' h' => ?_⟩
    cases h' with
    | unrouted _ => rfl
    | methodRefused hp' _ => exact absurd (hp.symm.trans hp') (by simp)
    | tenantMissing hp' _ _ => exact absurd (hp.symm.trans hp') (by simp)
    | accepted hp' _ _ _ => exact absurd (hp.symm.trans hp') (by simp)
  | some route =>
    by_cases hm : request.method = "GET" ∨ request.method = "HEAD"
    · cases tenant? with
      | none =>
        refine ⟨_, .tenantMissing hp hm rfl, fun o' h' => ?_⟩
        cases h' with
        | unrouted hp' => exact absurd (hp.symm.trans hp') (by simp)
        | methodRefused _ hm' => exact absurd hm hm'
        | tenantMissing _ _ _ => rfl
        | accepted _ _ ht' _ => exact absurd ht' (by simp)
      | some t =>
        obtain ⟨o, ho⟩ := service.exists_meetsFor around route t
        refine ⟨o, .accepted hp hm rfl ho, fun o' h' => ?_⟩
        cases h' with
        | unrouted hp' => exact absurd (hp.symm.trans hp') (by simp)
        | methodRefused _ hm' => exact absurd hm hm'
        | tenantMissing _ _ ht' => exact absurd ht' (by simp)
        | accepted hp' _ ht' ho' =>
          obtain rfl := Option.some.inj (hp.symm.trans hp')
          obtain rfl := Option.some.inj ht'
          exact ho'.unique ho
    · refine ⟨_, .methodRefused hp hm, fun o' h' => ?_⟩
      cases h' with
      | unrouted hp' => exact absurd (hp.symm.trans hp') (by simp)
      | methodRefused _ _ => rfl
      | tenantMissing _ hm' _ => exact absurd hm' hm
      | accepted _ hm' _ _ => exact absurd hm' hm

/-- **A registration that nobody holds is not found by any renderer under any base URL.** -/
theorem Meets.unknown_congr {request : Http.Request} {tenant? : Option Tenant} {id : String}
    (h : service.Meets around request tenant? (.unknown id)) (renderer : Renderer)
    (baseUrl : Tenant → String) :
    ({ service with renderer, baseUrl } : MetadataService).Meets around request tenant?
      (.unknown id) := by
  cases h with
  | accepted hp hm ht ho =>
    cases ho with
    | unknown hn own other => exact .accepted hp hm ht (.unknown hn own other)

/-- **The law of outcomes.**  Every request meets exactly one of them, the first check that fails
deciding.  The outcome settles the response, less its body for HEAD, and all that is recorded: one
warning for an id that nobody holds, whatever renderer and base URL are; one error when the renderer
fails, and one notice at the end when it does not, either after the record that the registration was
put together, if it is the own one.  The response tells a client of the outcome, and the events are
the outcome's lines in the log. -/
theorem outcome_law (service : MetadataService) (around : Surroundings) (request : Http.Request)
    (tenant? : Option Tenant) :
    (∃! o, service.Meets around request tenant? o) ∧
    ∀ o, service.Meets around request tenant? o →
      service.respond around request tenant?
        = ⟨if request.method = "HEAD" then { o.response with body := "" } else o.response,
          o.events service.registry⟩ ∧
      o.Tells o.response ∧
      (o.events service.registry).map Event.line = o.lines service.registry ∧
      ∀ id, o = .unknown id → ∀ (renderer : Renderer) (baseUrl : Tenant → String),
        ({ service with renderer, baseUrl } : MetadataService).respond around request tenant?
          = service.respond around request tenant? := by
  refine ⟨service.existsUnique_meets around request tenant?, fun o h =>
    ⟨respond_of_meets h, o.tells_response, o.map_line_events service.registry, ?_⟩⟩
  rintro id rfl renderer baseUrl
  rw [respond_of_meets (h.unknown_congr renderer baseUrl), respond_of_meets h]

theorem outcome_law_slashed :
    let around : Surroundings := ⟨Tenant.default ⟨7⟩, []⟩
    let zone : Tenant := { id := ⟨9⟩, subdomain := "zone" }
    let r := slashed.registry.profile.exampleRegistration []
    let failing : MetadataService := { slashed with renderer := .failing "no key" }
    let unheld : Http.Request := ⟨"HEAD", "/saml/metadata/no%62ody/"⟩
    let example' : Http.Request := ⟨"GET", "/saml/metadata/example"⟩
    (slashed.Meets around unheld (some zone) (.unknown "nobody") ∧
      slashed.respond around unheld (some zone)
        = ⟨{ status := 404, contentType := some "application/json" },
          [.unknownRegistration "nobody"]⟩ ∧
      (slashed.respond around unheld (some zone)).events.map Event.line
        = [⟨.warn, "Unknown SAML relying party registration requested",
          [("registration_id", .text "nobody")]⟩]) ∧
    (failing.Meets around example' (some zone) (.failed zone "example" r "no key") ∧
      failing.respond around example' (some zone)
        = ⟨(Outcome.failed zone "example" r "no key").response, [.metadataFailed "no key"]⟩ ∧
      Json.IsObject (failing.respond around example' (some zone)).value.body
        [("error", "metadata_generation_failed"), ("message", "Metadata generation failed")] ∧
      (failing.respond around example' (some zone)).events.map Event.line
        = [⟨.error, "SAML metadata generation failed", [("detail", .text "no key")]⟩]) := by
  intro around zone r failing unheld example'
  have unescapes (s id : String) (h : Text.Percent.decode s = some id) :
      slashed.registry.Names (.named s) id := Text.Percent.decode_eq_some_iff.mp h
  have unknown : slashed.Meets around unheld (some zone) (.unknown "nobody") :=
    .accepted (by decide +kernel) (Or.inr rfl) rfl
      (.unknown (unescapes "no%62ody" "nobody" (by decide +kernel)) (by decide) (by decide))
  have failed : failing.Meets around example' (some zone) (.failed zone "example" r "no key") :=
    .accepted (by decide +kernel) (Or.inl rfl) rfl
      (.failed (unescapes "example" "example" (by decide +kernel)) (Or.inr ⟨rfl, rfl⟩) rfl)
  obtain ⟨responded, -, logged, -⟩ := (outcome_law _ _ _ _).2 _ unknown
  obtain ⟨responded', told, logged', -⟩ := (outcome_law _ _ _ _).2 _ failed
  refine ⟨⟨unknown, responded, ?_⟩, failed, responded', ?_, ?_⟩
  · rw [responded, logged]
    rfl
  · rw [responded']
    cases told with
    | failed object => exact object
  · rw [responded', logged']
    rfl

end MetadataService

end RelyingParty
