import RelyingParty.Profile
import RelyingParty.ServiceError

/-!
# Registry/Basic — finding a registration by its id

A registry knows two registrations: its own, which it puts together anew for the tenant at every
lookup, and the example. Any other id is not found, and the attempt is recorded. Nothing is cached:
what a lookup answers depends on the registry, the surroundings at that moment and the id.
-/

namespace RelyingParty

/-- What a registry finds around itself when it is asked. -/
structure Surroundings where
  /-- The tenant that the system is working for. -/
  tenant : Tenant
  /-- The keys in the shared key store. -/
  sharedKeys : List KeyPair

/-- Where the default keys come from. -/
inductive KeySource where
  /-- They were fixed when the registry was built. -/
  | fixed (keys : List KeyPair)
  /-- They are taken from the shared key store at every lookup. -/
  | shared

/-- The default keys at the moment of a lookup. -/
def KeySource.keys (source : KeySource) (around : Surroundings) : List KeyPair :=
  match source with
  | fixed keys => keys
  | shared => around.sharedKeys

/-- **A registry of registrations.** Its own id is neither blank nor the example's. -/
structure Registry where
  ownId : String
  profile : Profile
  keySource : KeySource
  ownId_not_blank : Text.isBlank ownId = false
  ownId_ne_example : ownId ≠ exampleRegistrationId

namespace Registry

/-- **The registry with the given id and profile**, if the id may be taken. -/
def ofProfile (ownId : String) (profile : Profile) (keySource : KeySource) :
    Except ConfigError Registry :=
  if blank : Text.isBlank ownId = true then .error .blankRegistrationId
  else if taken : ownId = exampleRegistrationId then .error (.reservedRegistrationId ownId)
  else .ok {
    ownId, profile, keySource
    ownId_not_blank := by simpa using blank
    ownId_ne_example := taken }

/-- **The registry of a configuration**, over the keys that the configuration holds. -/
def ofConfig (c : ProviderConfig) : Except ConfigError Registry := do
  let profile ← Profile.ofConfig c
  ofProfile c.registrationId profile (.fixed c.defaultKeys)

/-- Passes the registry's own id. Another id is not found, and the attempt is recorded. -/
def checkKnown (g : Registry) (id : String) : Audited (Except ServiceError Unit) :=
  if id = g.ownId then return .ok ()
  else do
    .record (.unknownRegistration id)
    return .error (.notFound id)

/-- The tenant's registration over the default keys of the moment. -/
def assembleFor (g : Registry) (around : Surroundings) (id : String) (t : Tenant) :
    Audited Registration :=
  g.profile.assemble id t (g.keySource.keys around)

/-- The example registration over the default keys of the moment. -/
def exampleRegistration (g : Registry) (around : Surroundings) : Registration :=
  g.profile.exampleRegistration (g.keySource.keys around)

/-- **Looks a registration up for the given tenant.** -/
def resolve (g : Registry) (around : Surroundings) (id : String) (t : Tenant) :
    Audited (Except ServiceError Registration) :=
  if id = exampleRegistrationId then return .ok (g.exampleRegistration around)
  else do
    match ← g.checkKnown id with
    | .error e => return .error e
    | .ok () => return .ok (← g.assembleFor around id t)

/-- **Looks a registration up for the tenant that the system is working for.** It asks for that
tenant only when the id is known. -/
def find (g : Registry) (around : Surroundings) (id : String) :
    Audited (Except ServiceError Registration) :=
  if id = exampleRegistrationId then return .ok (g.exampleRegistration around)
  else do
    match ← g.checkKnown id with
    | .error e => return .error e
    | .ok () =>
      let t := around.tenant
      return .ok (← g.assembleFor around id t)

section Lookup

variable (g : Registry) (around : Surroundings) (t : Tenant)

theorem checkKnown_ownId : g.checkKnown g.ownId = ⟨.ok (), []⟩ := if_pos rfl

theorem checkKnown_unknown {id : String} (own : id ≠ g.ownId) :
    g.checkKnown id = ⟨.error (.notFound id), [.unknownRegistration id]⟩ := if_neg own

theorem resolve_example : g.resolve around exampleRegistrationId t
    = ⟨.ok (g.profile.exampleRegistration (g.keySource.keys around)), []⟩ := if_pos rfl

theorem resolve_ownId : g.resolve around g.ownId t
    = (g.profile.assemble g.ownId t (g.keySource.keys around)).map .ok := by
  rw [resolve, if_neg g.ownId_ne_example, checkKnown_ownId]
  rfl

theorem resolve_unknown {id : String} (own : id ≠ g.ownId) (other : id ≠ exampleRegistrationId) :
    g.resolve around id t = ⟨.error (.notFound id), [.unknownRegistration id]⟩ := by
  rw [resolve, if_neg other, g.checkKnown_unknown own]
  rfl

end Lookup

/-- What a registry shows of itself: nothing of its key store. -/
def inspect (g : Registry) : Inspection :=
  .record "RegistrationRepository"
    [("registration_id", .text g.ownId), ("assembler", g.profile.inspect)] false

end Registry

end RelyingParty
