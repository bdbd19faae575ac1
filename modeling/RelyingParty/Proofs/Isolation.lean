import RelyingParty.Profile
import RelyingParty.Proofs.Expansion

/-!
# Proofs/Isolation — tenants that are told apart have endpoints of their own

The names of a tenant are the configured ones, for the default tenant as they are and for any other
behind its subdomain (`nameFor`).  No subdomain, the empty one included, makes two such names meet
(`nameFor_eq_iff`), so aliases and locations are shared by tenants of one zone only; and no base URL
brings together what the templates keep apart.
-/

namespace RelyingParty

/-! ## Zones and names -/

/-- **Two tenants are of one zone** if both are the default tenant or neither is and they have the
same subdomain. -/
def Tenant.SameZone (t t' : Tenant) : Prop :=
  (t.isDefault = true ∧ t'.isDefault = true) ∨
    (t.isDefault = false ∧ t'.isDefault = false ∧ t.subdomain = t'.subdomain)

namespace IdentityPolicy

/-- A configured name as a tenant bears it. -/
def nameFor (t : Tenant) (name : String) : String :=
  if t.isDefault then name else qualify t.subdomain name

theorem qualify_inj {subdomain subdomain' name : String} :
    qualify subdomain name = qualify subdomain' name ↔ subdomain = subdomain' := by
  rw [qualify, qualify, String.append_left_inj, String.append_left_inj]

/-- A qualified name is longer than the name. -/
theorem qualify_ne (subdomain name : String) : qualify subdomain name ≠ name := by
  intro h
  have := congrArg String.length h
  rw [qualify, String.length_append, String.length_append] at this
  have dot : ".".length = 1 := rfl
  omega

/-- **A name is borne in common by the tenants of one zone only.** -/
theorem nameFor_eq_iff {t t' : Tenant} {name : String} :
    nameFor t name = nameFor t' name ↔ t.SameZone t' := by
  rcases hd : t.isDefault <;> rcases hd' : t'.isDefault
  · simp [nameFor, Tenant.SameZone, hd, hd', qualify_inj]
  · simp [nameFor, Tenant.SameZone, hd, hd', qualify_ne]
  · simp [nameFor, Tenant.SameZone, hd, hd', (qualify_ne _ _).symm]
  · simp [nameFor, Tenant.SameZone, hd, hd']

variable (p : IdentityPolicy) {t : Tenant}

theorem entityAlias_identityOf (t : Tenant) :
    (p.identityOf t).entityAlias = nameFor t p.defaultAlias := by
  rw [identityOf, nameFor]
  split <;> rfl

/-- An override that says something takes the place of the name, but not for the default tenant. -/
theorem entityId_identityOf (h : t.isDefault = true ∨ t.effectiveOverride = none) :
    (p.identityOf t).entityId = nameFor t p.entityId := by
  rw [identityOf, nameFor]
  split
  · rfl
  · next notDefault => rw [h.resolve_left notDefault, Option.getD_none]

end IdentityPolicy

/-! ## Endpoints -/

namespace Profile

variable (p : Profile)

/-- **Endpoints are isolated.**  Two tenants are registered under the same alias, with the same
location for assertions, with the same location for logout responses, just if they are of one zone,
whatever their keys, overrides and registration ids are; and so with their entity ids, unless an
override comes in.  Where assertions of one are sent, no logout response of the other is.  Under one
base URL all this remains, provided that the aliases are plain where a location is compared with its
like. -/
theorem endpoints_isolated (t t' : Tenant) (id id' : String) (keys keys' : List KeyPair) :
    let r := (p.assemble id t keys).value
    let r' := (p.assemble id' t' keys').value
    (r.entityAlias = r'.entityAlias ↔ t.SameZone t') ∧
    (r.consumerLocation = r'.consumerLocation ↔ t.SameZone t') ∧
    (r.logoutLocation = r'.logoutLocation ↔ t.SameZone t') ∧
    r.consumerLocation ≠ r'.logoutLocation ∧
    (t.isDefault = true ∨ t.effectiveOverride = none →
      t'.isDefault = true ∨ t'.effectiveOverride = none →
      (r.entityId = r'.entityId ↔ t.SameZone t')) ∧
    ∀ baseUrl,
      (Endpoint.Plain r.entityAlias → Endpoint.Plain r'.entityAlias →
        (Endpoint.expand r.consumerLocation baseUrl = Endpoint.expand r'.consumerLocation baseUrl
          ↔ t.SameZone t') ∧
        (Endpoint.expand r.logoutLocation baseUrl = Endpoint.expand r'.logoutLocation baseUrl
          ↔ t.SameZone t')) ∧
      Endpoint.expand r.consumerLocation baseUrl ≠ Endpoint.expand r'.logoutLocation baseUrl := by
  intro r r'
  have aliases : r.entityAlias = r'.entityAlias ↔ t.SameZone t' := by
    change (p.identity.identityOf t).entityAlias = (p.identity.identityOf t').entityAlias ↔ _
    rw [IdentityPolicy.entityAlias_identityOf, IdentityPolicy.entityAlias_identityOf,
      IdentityPolicy.nameFor_eq_iff]
  refine ⟨aliases, Endpoint.consumerLocation_inj.trans aliases,
    Endpoint.logoutLocation_inj.trans aliases, Endpoint.consumer_ne_logout _ _ _, fun h h' => ?_,
    fun baseUrl => ⟨fun plain plain' => ⟨?_, ?_⟩, Endpoint.expand_consumer_ne_logout _ _ _⟩⟩
  · change (p.identity.identityOf t).entityId = (p.identity.identityOf t').entityId ↔ _
    rw [IdentityPolicy.entityId_identityOf _ h, IdentityPolicy.entityId_identityOf _ h',
      IdentityPolicy.nameFor_eq_iff]
  · have paths : '{' ∉ "/saml/SSO/alias/".toList := by decide
    exact (Endpoint.expand_location_inj paths plain plain' baseUrl).trans aliases
  · have paths : '{' ∉ "/saml/SingleLogout/alias/".toList := by decide
    exact (Endpoint.expand_location_inj paths plain plain' baseUrl).trans aliases

/-- A profile whose alias looks like a qualified name. -/
def dotted : Profile where
  identity := ⟨"sp", some "b.sp"⟩
  nameIdFormat := none
  signing := {}
  assertingParty := {}
  entityId_not_blank := by decide +kernel
  alias_not_blank := by decide +kernel

theorem endpoints_isolated_dotted :
    let t : Tenant :=
      { id := ⟨7⟩, subdomain := "a", settings := some { entityIdOverride := some "" } }
    let t' : Tenant := { id := ⟨9⟩, subdomain := "a.b" }
    let r := (dotted.assemble "sp" t []).value
    let r' := (dotted.assemble "sp" t' []).value
    (t.effectiveOverride = none ∧ t'.effectiveOverride = none ∧ r.entityId ≠ r'.entityId) ∧
    (r.entityAlias = "a.b.sp" ∧ r'.entityAlias = "a.b.b.sp") ∧
    (Endpoint.Plain r.entityAlias ∧ Endpoint.Plain r'.entityAlias ∧
      Endpoint.expand r.consumerLocation "{baseUrl}/"
        ≠ Endpoint.expand r'.consumerLocation "{baseUrl}/") := by
  intro t t' r r'
  have apart : ¬t.SameZone t' := by simp [Tenant.SameZone, t, t']
  have plain : Endpoint.Plain r.entityAlias := by decide +kernel
  have plain' : Endpoint.Plain r'.entityAlias := by decide +kernel
  obtain ⟨-, -, -, -, entityIds, expanded⟩ := dotted.endpoints_isolated t t' "sp" "sp" [] []
  refine ⟨⟨rfl, rfl, ?_⟩, ⟨by decide +kernel, by decide +kernel⟩, plain, plain', ?_⟩
  · exact fun h => apart ((entityIds (Or.inr rfl) (Or.inr rfl)).mp h)
  · exact fun h => apart (((expanded _).1 plain plain').1.mp h)

end Profile

end RelyingParty
