import RelyingParty.Tenant

/-!
# Identity — under which entity id and alias a tenant is known

The default tenant is known by the configured entity id and alias. Any other tenant's identity is
derived from its subdomain, except that an override, if the tenant has one, takes the place of the
entity id; it never reaches the alias, so the endpoints stay where they are.
-/

namespace RelyingParty

/-- **The names under which a registration is known.** -/
structure Identity where
  entityId : String
  entityAlias : String
  deriving DecidableEq

/-- **The configured names**, from which every tenant's are derived. -/
structure IdentityPolicy where
  entityId : String
  /-- The alias, if it differs from the entity id. -/
  configuredAlias : Option String
  deriving DecidableEq

namespace IdentityPolicy

/-- The alias of the default tenant. -/
def defaultAlias (p : IdentityPolicy) : String := p.configuredAlias.getD p.entityId

/-- A configured name under a tenant's subdomain. -/
def qualify (subdomain name : String) : String := subdomain ++ "." ++ name

/-- **The identity of a tenant.** -/
def identityOf (p : IdentityPolicy) (t : Tenant) : Identity :=
  if t.isDefault then ⟨p.entityId, p.defaultAlias⟩
  else
    ⟨t.effectiveOverride.getD (qualify t.subdomain p.entityId),
      qualify t.subdomain p.defaultAlias⟩

/-- What a policy shows of itself. -/
def inspect (p : IdentityPolicy) : Inspection :=
  .record "IdentityResolver"
    [("default_entity_id", .text p.entityId),
      ("default_alias", .optional .text p.configuredAlias)] true

end IdentityPolicy

end RelyingParty
