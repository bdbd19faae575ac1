import RelyingParty.ConfigError
import RelyingParty.TenantId.Basic

/-!
# Audit — what the service records of its work

Every noteworthy moment is an `Event`. A computation that may record some is `Audited`: its value
and the events in the order in which they happened.
-/

namespace RelyingParty

/-- How grave an event is. -/
inductive Level where
  | debug
  | info
  | warn
  | error
  deriving DecidableEq

/-- **A noteworthy moment.** -/
inductive Event where
  /-- A tenant's registration was put together. -/
  | registrationAssembled (registrationId : String) (tenant : TenantId)
      (entityId entityAlias : String) (signingKeys : Nat)
  /-- Somebody asked for a registration that does not exist. -/
  | unknownRegistration (registrationId : String)
  /-- Metadata was handed out. -/
  | metadataServed (tenant : TenantId) (registrationId entityId : String)
  /-- The renderer failed. -/
  | metadataFailed (detail : String)
  | configurationFault (cause : ConfigError)
  deriving DecidableEq

/-- What a field of an event holds. -/
inductive FieldValue where
  | text (content : String)
  | number (value : Nat)

namespace Event

/-- How grave the event is. -/
def level : Event → Level
  | registrationAssembled .. => .debug
  | unknownRegistration _ => .warn
  | metadataServed .. => .info
  | metadataFailed _ => .error
  | configurationFault _ => .error

/-- What the event says. -/
def message : Event → String
  | registrationAssembled .. => "Assembled SAML relying party registration"
  | unknownRegistration _ => "Unknown SAML relying party registration requested"
  | metadataServed .. => "SAML SP metadata requested"
  | metadataFailed _ => "SAML metadata generation failed"
  | configurationFault _ => "SAML configuration error"

/-- What the event says it about. -/
def fields : Event → List (String × FieldValue)
  | registrationAssembled registrationId tenant entityId entityAlias signingKeys =>
    [("registration_id", .text registrationId), ("tenant_id", .text tenant.toString),
      ("entity_id", .text entityId), ("alias", .text entityAlias),
      ("signing_keys", .number signingKeys)]
  | unknownRegistration registrationId => [("registration_id", .text registrationId)]
  | metadataServed tenant registrationId entityId =>
    [("tenant_id", .text tenant.toString), ("registration_id", .text registrationId),
      ("entity_id", .text entityId)]
  | metadataFailed detail => [("detail", .text detail)]
  | configurationFault cause => [("error", .text cause.message)]

end Event

/-- **A value and the events on the way to it.** -/
structure Audited (α : Type) where
  value : α
  events : List Event

namespace Audited

/-- The value, changed. -/
def map (f : α → β) (a : Audited α) : Audited β := ⟨f a.value, a.events⟩

/-- First one computation, then another that depends on it. -/
def bind (a : Audited α) (f : α → Audited β) : Audited β :=
  ⟨(f a.value).value, a.events ++ (f a.value).events⟩

instance : Monad Audited where
  pure a := ⟨a, []⟩
  bind := bind

/-- Records one event. -/
def record (e : Event) : Audited Unit := ⟨(), [e]⟩

@[simp] theorem value_pure (a : α) : (pure a : Audited α).value = a := rfl

@[simp] theorem events_pure (a : α) : (pure a : Audited α).events = [] := rfl

@[simp] theorem value_bind (a : Audited α) (f : α → Audited β) :
    (a >>= f).value = (f a.value).value := rfl

@[simp] theorem events_bind (a : Audited α) (f : α → Audited β) :
    (a >>= f).events = a.events ++ (f a.value).events := rfl

@[simp] theorem value_map (f : α → β) (a : Audited α) : (a.map f).value = f a.value := rfl

@[simp] theorem events_map (f : α → β) (a : Audited α) : (a.map f).events = a.events := rfl

@[simp] theorem events_record (e : Event) : (record e).events = [e] := rfl

end Audited

end RelyingParty
