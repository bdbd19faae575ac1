import RelyingParty.Proofs.Json.Members
import RelyingParty.Proofs.Outcome

/-!
# Proofs/Disclosure — an error tells a client nothing that it did not say itself

The response to a request that ends in an error is a function of the request and the kind of the
error (`MetadataService.respond_of_fails`): the registry, its keys, the tenants, their base URLs and
the reasons of a renderer leave no trace in it.  The one text that is told back is the id in the
path, and what is written as an object has the members that were given and no others, whatever
quotes, backslashes and controls the id has (`Json.writeObject_isObject`).
-/

namespace RelyingParty

/-- **The kinds of errors** in which a request ends. -/
inductive Failure where
  | unrouted
  | methodRefused
  | tenantMissing
  | parameterNotText
  | unknown
  | failed
  deriving DecidableEq

/-- The id that the path of a request names, and nothing if it names none. -/
def Http.Request.namedId (request : Http.Request) : Option String :=
  match Route.ofPath request.path with
  | some (.named s) => Text.Percent.decode s
  | _ => none

/-- **The response to a GET request that ends in an error of the kind.**  All that comes in is the
id that the client asked for. -/
def Failure.response (request : Http.Request) : Failure → Http.Response
  | unrouted => MetadataService.unrouted
  | methodRefused => MetadataService.methodNotAllowed
  | tenantMissing => MetadataService.tenantMissing
  | parameterNotText => MetadataService.parameterNotText
  | unknown => (ServiceError.notFound (request.namedId.getD "")).respond.value
  | failed => (ServiceError.metadataFailed "").respond.value

namespace Outcome

/-- The kind of error that an outcome is, if it is one. -/
def failure? : Outcome → Option Failure
  | unrouted => some .unrouted
  | methodRefused => some .methodRefused
  | tenantMissing => some .tenantMissing
  | parameterNotText => some .parameterNotText
  | unknown _ => some .unknown
  | failed .. => some .failed
  | served .. => none

/-- **Errors are told from a success by the status.** -/
theorem status_ne_iff (o : Outcome) : o.response.status ≠ 200 ↔ ∃ kind, o.failure? = some kind := by
  rw [Ne, status_response_eq_iff]
  cases o <;> simp [failure?]

end Outcome

namespace MetadataService

variable {service : MetadataService} {around : Surroundings} {request : Http.Request}
  {tenant? : Option Tenant} {kind : Failure}

/-- An id is unknown only if the path names it: the registry's own id is known. -/
theorem Meets.namedId {id : String} (h : service.Meets around request tenant? (.unknown id)) :
    request.namedId = some id := by
  cases h with
  | @accepted route _ _ hp hm ht ho =>
    cases ho with
    | unknown hn own other =>
      cases route with
      | own => exact absurd hn own
      | named s =>
        rw [Http.Request.namedId, hp]
        exact Text.Percent.decode_eq_some_iff.mpr hn

/-! ## Errors of one kind -/

/-- **The request ends in an error of the given kind.** -/
def Fails (service : MetadataService) (around : Surroundings) (request : Http.Request)
    (tenant? : Option Tenant) (kind : Failure) : Prop :=
  ∃ o, service.Meets around request tenant? o ∧ o.failure? = some kind

theorem Meets.response_eq {o : Outcome} (h : service.Meets around request tenant? o)
    (error : o.failure? = some kind) : o.response = kind.response request := by
  cases o with
  | unknown id =>
    cases error
    rw [Failure.response, h.namedId]
    rfl
  | served t id r xml => cases error
  | _ =>
    cases error
    rfl

/-- **The response to an error**, less its body for HEAD, is settled by the request and the kind of
the error. -/
theorem respond_of_fails (h : service.Fails around request tenant? kind) :
    (service.respond around request tenant?).value =
      if request.method = "HEAD" then (kind.response request).withoutBody
      else kind.response request := by
  obtain ⟨o, meets, error⟩ := h
  rw [respond_of_meets meets, meets.response_eq error]

theorem exists_fails_iff : (∃ kind, service.Fails around request tenant? kind) ↔
    (service.respond around request tenant?).value.status ≠ 200 := by
  obtain ⟨o, meets, unique⟩ := service.existsUnique_meets around request tenant?
  have status : (service.respond around request tenant?).value.status = o.response.status := by
    rw [respond_of_meets meets]
    split <;> rfl
  rw [status, Outcome.status_ne_iff]
  refine ⟨fun ⟨kind, o', meets', error⟩ => ?_, fun ⟨kind, error⟩ => ⟨kind, o, meets, error⟩⟩
  exact ⟨kind, unique o' meets' ▸ error⟩

/-- **Errors disclose nothing.**  A request whose response does not have the status of a success
ends in an error of some kind.  Where it ends in errors of one kind with two services, whatever
their registries, keys, tenants, base URLs and renderers are, the responses are the same as a whole;
so are they for any two faults of a configuration.  Only of an unknown id something is told, the id
itself: it is the one that the path names, and the body is the object with the kind of the error and
this id in its message, in this order and with nothing else in it. -/
theorem errors_disclose_nothing :
    (∀ (service : MetadataService) around request tenant?,
      (∃ kind, service.Fails around request tenant? kind) ↔
        (service.respond around request tenant?).value.status ≠ 200) ∧
    (∀ request kind (service service' : MetadataService) around around' tenant? tenant?',
      service.Fails around request tenant? kind → service'.Fails around' request tenant?' kind →
        (service.respond around request tenant?).value
          = (service'.respond around' request tenant?').value) ∧
    (∀ cause cause', (ServiceError.configuration cause).respond.value
      = (ServiceError.configuration cause').respond.value) ∧
    (∀ (service : MetadataService) around request tenant?,
      service.Fails around request tenant? .unknown →
        ∃ id, request.namedId = some id ∧
          (service.respond around request tenant?).value =
            if request.method = "HEAD" then (ServiceError.notFound id).respond.value.withoutBody
            else (ServiceError.notFound id).respond.value) ∧
    ∀ id, Json.IsObject (ServiceError.notFound id).respond.value.body
      [("error", "registration_not_found"),
        ("message", "Relying party registration not found: " ++ id)] := by
  refine ⟨fun service around request tenant? => exists_fails_iff,
    fun request kind service service' around around' tenant? tenant?' h h' => ?_,
    fun cause cause' => rfl, fun service around request tenant? h => ?_,
    fun id => Json.writeObject_isObject _⟩
  · rw [respond_of_fails h, respond_of_fails h']
  · obtain ⟨o, meets, error⟩ := h
    cases o with
    | unknown id => exact ⟨id, meets.namedId, congrArg Audited.value (respond_of_meets meets)⟩
    | _ => simp [Outcome.failure?] at error

/-- A service with another registry, other default keys and another base URL, whose renderer fails
for the given reason. -/
def faulty (detail : String) : MetadataService where
  registry :=
    { slashed.registry with
      ownId := "relying-party"
      keySource := .fixed [⟨"key", "passphrase", "CERT"⟩]
      ownId_not_blank := by decide +kernel
      ownId_ne_example := by decide }
  renderer := .failing detail
  baseUrl := fun t => "http://intern/" ++ t.subdomain

theorem errors_disclose_nothing_escaped :
    let home : Tenant := .default ⟨7⟩
    let zone : Tenant := { id := ⟨9⟩, subdomain := "zone" }
    let around : Surroundings := ⟨home, []⟩
    let around' : Surroundings := ⟨zone, [⟨"old", "", "CERT 0"⟩]⟩
    let escaped : Http.Request := ⟨"GET", "/saml/metadata/%22%5C%0A%C3%A9"⟩
    let example' : Http.Request := ⟨"HEAD", "/saml/metadata/example"⟩
    (slashed.Fails around escaped (some zone) .unknown ∧
      (faulty "no key").Fails around' escaped (some home) .unknown ∧
      (slashed.respond around escaped (some zone)).value
        = ((faulty "no key").respond around' escaped (some home)).value ∧
      Json.IsObject (slashed.respond around escaped (some zone)).value.body
        [("error", "registration_not_found"),
          ("message", "Relying party registration not found: \"\\\né")]) ∧
    ((faulty "no key").Fails around example' (some zone) .failed ∧
      (faulty "no disk").Fails around' example' (some home) .failed ∧
      ((faulty "no key").respond around example' (some zone)).value
        = ((faulty "no disk").respond around' example' (some home)).value) := by
  intro home zone around around' escaped example'
  obtain ⟨-, alike, -, unknown, body⟩ := errors_disclose_nothing
  have unescaped : Text.Percent.decode "%22%5C%0A%C3%A9" = some "\"\\\né" := by decide +kernel
  have routed : Route.ofPath escaped.path = some (.named "%22%5C%0A%C3%A9") := by decide +kernel
  have named : Registry.Names slashed.registry (.named "%22%5C%0A%C3%A9") "\"\\\né" :=
    Text.Percent.decode_eq_some_iff.mp unescaped
  have first : slashed.Fails around escaped (some zone) .unknown :=
    ⟨_, .accepted routed (Or.inl rfl) rfl (.unknown named (by decide) (by decide)), rfl⟩
  have second : (faulty "no key").Fails around' escaped (some home) .unknown :=
    ⟨_, .accepted routed (Or.inl rfl) rfl (.unknown named (by decide) (by decide)), rfl⟩
  have failed (detail : String) (around : Surroundings) (t : Tenant) :
      (faulty detail).Fails around example' (some t) .failed := by
    have decoded : Text.Percent.decode "example" = some "example" := by decide +kernel
    have routed : Route.ofPath example'.path = some (.named "example") := by decide +kernel
    exact ⟨_, .accepted routed (Or.inr rfl) rfl
      (.failed (Text.Percent.decode_eq_some_iff.mp decoded) (Or.inr ⟨rfl, rfl⟩) rfl), rfl⟩
  refine ⟨⟨first, second, alike _ _ _ _ _ _ _ _ first second, ?_⟩,
    ⟨failed _ _ _, failed _ _ _, alike _ _ _ _ _ _ _ _ (failed _ _ _) (failed _ _ _)⟩⟩
  obtain ⟨id, same, response⟩ := unknown _ _ _ _ first
  rw [Http.Request.namedId, routed] at same
  obtain rfl := Option.some.inj (unescaped.symm.trans same)
  rw [response]
  exact body _

end MetadataService

end RelyingParty
