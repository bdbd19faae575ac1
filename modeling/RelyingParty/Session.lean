import RelyingParty.Metadata.Service
import RelyingParty.Registry.Recipe

/-!
# Session — a registry over a changing system

A session holds the registry that was built last, the tenant that the system is working for, the
shared key store, and the registration that was found last. Each step changes at most one of them
and gives an answer. A step that fails to rebuild the registry keeps the old one.
-/

namespace RelyingParty

/-- For which tenant a request is made. -/
inductive RequestTenant where
  /-- For the one that the system is working for. -/
  | ambient
  | given (t : Tenant)
  /-- Nobody said. -/
  | missing

/-- A request to the metadata service, with the renderer and the base URL that it meets. -/
structure MetadataRequest where
  method : String := "GET"
  target : String
  tenant : RequestTenant := .ambient
  renderer : Renderer := .outline
  baseUrl : BaseUrl

/-- **One step of a session.** -/
inductive Step where
  | find (id : String)
  | resolve (id : String) (t : Tenant)
  | setTenant (t : Tenant)
  | setKeys (keys : List KeyPair)
  | rebuild (recipe : Recipe)
  | ownId
  | inspect
  | filename
  /-- The locations of the registration that was found last. -/
  | expand (baseUrl : String)
  | request (r : MetadataRequest)

/-- **The answer to a step.** -/
inductive Answer where
  /-- A registration, and whether it equals the one found before it, if there is one. -/
  | found (r : Registration) (sameAsLast : Option Bool) (events : List Event)
  | notFound (e : ServiceError) (events : List Event)
  | tenantSet (t : Tenant)
  | keysSet (count : Nat)
  | id (registrationId : String)
  | notBuilt (e : ConfigError)
  | inspected (text : String)
  | filename (name disposition : String)
  | locations (consumer logout : String)
  | noRegistration
  | response (r : Http.Response) (events : List Event)
  /-- The request was not well formed. -/
  | badRequest

/-- **A registry over a changing system.** -/
structure Session where
  registry : Registry
  around : Surroundings
  last : Option Registration := none

namespace Session

/-- Begins a session for a tenant, with the given keys in the shared store. -/
def start (recipe : Recipe) (t : Tenant) (keys : List KeyPair) : Except ConfigError Session := do
  return { registry := ← recipe.build, around := ⟨t, keys⟩ }

/-- The session after a lookup, and its answer. -/
def lookedUp (s : Session) (result : Audited (Except ServiceError Registration)) :
    Session × Answer :=
  match result.value with
  | .ok r => ({ s with last := some r }, .found r (s.last.map (· == r)) result.events)
  | .error e => (s, .notFound e result.events)

/-- The answer to a request. -/
def respond (s : Session) (r : MetadataRequest) : Answer :=
  match Http.Request.parse? r.method r.target with
  | none => .badRequest
  | some request =>
    let tenant? := match r.tenant with
      | .ambient => some s.around.tenant
      | .given t => some t
      | .missing => none
    let service : MetadataService := ⟨s.registry, r.renderer, r.baseUrl.resolve⟩
    let response := service.respond s.around request tenant?
    .response response.value response.events

/-- **One step.** -/
def step (s : Session) : Step → Session × Answer
  | .find id => s.lookedUp (s.registry.find s.around id)
  | .resolve id t => s.lookedUp (s.registry.resolve s.around id t)
  | .setTenant t => ({ s with around.tenant := t }, .tenantSet t)
  | .setKeys keys => ({ s with around.sharedKeys := keys }, .keysSet keys.length)
  | .rebuild recipe =>
    match recipe.build with
    | .ok registry => ({ s with registry }, .id registry.ownId)
    | .error e => (s, .notBuilt e)
  | .ownId => (s, .id s.registry.ownId)
  | .inspect => (s, .inspected (s.registry.inspect.render .inline))
  | .filename =>
    let name := Download.filename s.around.tenant
    (s, .filename name (Download.contentDisposition name))
  | .expand baseUrl =>
    match s.last with
    | some r =>
      (s, .locations (Endpoint.expand r.consumerLocation baseUrl)
        (Endpoint.expand r.logoutLocation baseUrl))
    | none => (s, .noRegistration)
  | .request r => (s, s.respond r)

/-- **All steps in order**, with their answers. -/
def run (s : Session) : List Step → Session × List Answer
  | [] => (s, [])
  | step :: steps =>
    let (s, answer) := s.step step
    let (s, answers) := s.run steps
    (s, answer :: answers)

end Session

end RelyingParty
