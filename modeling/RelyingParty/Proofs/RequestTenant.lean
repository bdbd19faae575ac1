import RelyingParty.Proofs.Lookup

/-!
# Proofs/RequestTenant — metadata are served for the tenant of the request

Two tenants meet in a request: the one that the system is working for, and the one that the request
was made for.  The service never asks for the first (`respond_ambient`), and whatever is particular
to a tenant in a document that it hands out comes from the second (`Meets.of_served`).
-/

namespace RelyingParty

/-- The default keys do not depend on the tenant that the system is working for. -/
theorem KeySource.keys_ambient (source : KeySource) (ambient ambient' : Tenant)
    (keys : List KeyPair) : source.keys ⟨ambient, keys⟩ = source.keys ⟨ambient', keys⟩ := by
  cases source <;> rfl

namespace MetadataService

variable {service : MetadataService} {around : Surroundings} {request : Http.Request}
  {tenant? : Option Tenant}

/-- **The tenant that the system is working for is never asked for.** -/
theorem respond_ambient (service : MetadataService) (ambient ambient' : Tenant)
    (keys : List KeyPair) (request : Http.Request) (tenant? : Option Tenant) :
    service.respond ⟨ambient, keys⟩ request tenant?
      = service.respond ⟨ambient', keys⟩ request tenant? := by
  have agree : service.registry.Agree service.registry ⟨ambient, keys⟩ ⟨ambient', keys⟩ :=
    ⟨rfl, rfl, service.registry.keySource.keys_ambient ambient ambient' keys⟩
  exact respond_of_agree agree service.renderer service.baseUrl request tenant?

/-- A document that is handed out was asked for on behalf of a tenant, and is that tenant's. -/
theorem Meets.of_served {t : Tenant} {id : String} {r : Registration} {xml : String}
    (h : service.Meets around request tenant? (.served t id r xml)) :
    tenant? = some t ∧ (∃ route, Route.ofPath request.path = some route ∧
      service.registry.Names route id) ∧ service.registry.Holds around t id r ∧
      service.renderer r (service.baseUrl t) = .ok xml := by
  cases h with
  | accepted hp _ ht ho =>
    cases ho with
    | served hn hr hx => exact ⟨ht, ⟨_, hp, hn⟩, hr, hx⟩

/-- **Metadata are served for the tenant of the request.**  The tenant that the system is working
for makes no difference to the response nor to the events.  A document is handed out only if the
request was made for some tenant `t`; the registration in it is the one that is looked up for `t`
under the id that the path names, it is rendered under the base URL of `t`, offered under the
filename of `t`, and recorded for `t`. -/
theorem serves_request_tenant (service : MetadataService) (request : Http.Request)
    (tenant? : Option Tenant) :
    (∀ (ambient ambient' : Tenant) (keys : List KeyPair),
      service.respond ⟨ambient, keys⟩ request tenant?
        = service.respond ⟨ambient', keys⟩ request tenant?) ∧
    ∀ around, (service.respond around request tenant?).value.status = 200 →
      ∃ t id r xml, tenant? = some t ∧
        (∃ route, Route.ofPath request.path = some route ∧ service.registry.Names route id) ∧
        (∀ ambient, (service.registry.resolve ⟨ambient, around.sharedKeys⟩ id t).value = .ok r) ∧
        service.renderer r (service.baseUrl t) = .ok xml ∧
        service.respond around request tenant?
          = ⟨if request.method = "HEAD" then (document t xml).withoutBody else document t xml,
            Outcome.foundEvents service.registry t id r
              ++ [.metadataServed t.id r.registrationId r.entityId]⟩ := by
  refine ⟨fun ambient ambient' keys => service.respond_ambient ambient ambient' keys _ _,
    fun around ok => ?_⟩
  obtain ⟨o, met, -⟩ := service.existsUnique_meets around request tenant?
  have responded := respond_of_meets met
  have status : o.response.status = 200 := by
    rw [responded] at ok
    split at ok <;> exact ok
  obtain ⟨t, id, r, xml, rfl⟩ := Outcome.status_response_eq_iff.mp status
  obtain ⟨ht, named, held, rendered⟩ := met.of_served
  refine ⟨t, id, r, xml, ht, named, fun ambient => ?_, rendered, responded⟩
  have agree : service.registry.Agree service.registry ⟨ambient, around.sharedKeys⟩ around :=
    ⟨rfl, rfl, service.registry.keySource.keys_ambient ambient around.tenant around.sharedKeys⟩
  rw [agree.resolve]
  exact Registry.value_resolve_eq_ok_iff.mpr held

theorem serves_request_tenant_slashed :
    let zone : Tenant := { id := ⟨9⟩, subdomain := "zone" }
    let other : Tenant := { id := ⟨8⟩, subdomain := "other" }
    ∃ r xml, (slashed.registry.resolve ⟨other, []⟩ slashed.registry.ownId zone).value = .ok r ∧
      slashed.renderer r (slashed.baseUrl zone) = .ok xml ∧
      (slashed.respond ⟨other, []⟩ ⟨"GET", "/saml/metadata"⟩ (some zone)).value
        = document zone xml := by
  intro zone other
  obtain ⟨ambient, serves⟩ :=
    serves_request_tenant slashed ⟨"GET", "/saml/metadata"⟩ (some zone)
  obtain ⟨t, id, r, xml, ht, ⟨route, hp, hn⟩, found, rendered, responded⟩ :=
    serves ⟨Tenant.default ⟨7⟩, []⟩ (by decide +kernel)
  obtain rfl := Option.some.inj ht
  have own : Route.ofPath "/saml/metadata" = some .own := by decide +kernel
  obtain rfl := Option.some.inj (own.symm.trans hp)
  obtain rfl : id = slashed.registry.ownId := hn
  refine ⟨r, xml, found other, rendered, ?_⟩
  rw [ambient other (Tenant.default ⟨7⟩), responded]
  rfl

end MetadataService

end RelyingParty
