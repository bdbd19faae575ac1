import RelyingParty.Proofs.Lookup

/-!
# Proofs/Credentials — with which keys a registration comes

The credentials of a registration are made of one list of keys: the tenant's own ones, if it has any
and the registration is the registry's own, and the default keys otherwise (`Registry.keysFor`).
They cover this list (`CredentialSelection.Covers`), and no other selection does (`covers_iff`);
what becomes of them when a tenant rolls its keys over is read off from there.
-/

namespace RelyingParty

/-! ## Selections -/

namespace CredentialSelection

/-- **A selection covers a list of keys**: it signs with every one of them, in their order and as
often as they are listed, and decrypts with the first one alone. -/
structure Covers (s : CredentialSelection) (keys : List KeyPair) : Prop where
  materials : s.signing.map (·.material) = keys
  signs : ∀ c ∈ s.signing, c.usage = .signing
  length_decryption : s.decryption.length ≤ 1
  decryption_eq_nil_iff : s.decryption = [] ↔ s.signing = []
  signing_eq_nil_iff : s.signing = [] ↔ keys = []
  /-- What decrypts is the first key, and the same material as what signs first. -/
  primary : ∀ c ∈ s.decryption, c.usage = .decryption ∧ keys.head? = some c.material ∧
    s.signing.head?.map (·.material) = some c.material

theorem covers_ofKeys (keys : List KeyPair) : (ofKeys keys).Covers keys where
  materials := map_material_signing keys
  signs := by simp [ofKeys]
  length_decryption := (List.length_map _).trans_le (List.length_take_le 1 keys)
  decryption_eq_nil_iff := by simp [ofKeys]
  signing_eq_nil_iff := by simp [ofKeys]
  primary c hc := by cases keys <;> simp_all [ofKeys]

/-- **Only one selection covers a list of keys.** -/
theorem covers_iff {s : CredentialSelection} {keys : List KeyPair} :
    s.Covers keys ↔ s = ofKeys keys := by
  refine ⟨fun h => ?_, ?_⟩
  · obtain ⟨decryption, signing⟩ := s
    -- materials and usages are all that credentials have, so both lists are determined
    have signs : signing = keys.map (⟨·, .signing⟩) :=
      calc signing
          = signing.map id := (List.map_id signing).symm
        _ = signing.map fun c => ⟨c.material, .signing⟩ :=
          List.map_congr_left fun c hc => by simp [← h.signs c hc]
        _ = keys.map (⟨·, .signing⟩) := by
          rw [← h.materials, List.map_map]
          rfl
    have decrypts : decryption = (keys.take 1).map (⟨·, .decryption⟩) := by
      rcases decryption with _ | ⟨c, rest⟩
      · rw [h.signing_eq_nil_iff.mp (h.decryption_eq_nil_iff.mp rfl)]
        rfl
      · obtain rfl : rest = [] := by simpa using h.length_decryption
        obtain ⟨usage, head, -⟩ := h.primary c (by simp)
        obtain ⟨older, rfl⟩ := List.head?_eq_some_iff.mp head
        simp [← usage]
    rw [signs, decrypts]
    rfl
  · rintro rfl
    exact covers_ofKeys keys

/-- The keys that count are the tenant's or the defaults, never some of both. -/
theorem effectiveKeys_eq (own defaults : List KeyPair) :
    effectiveKeys own defaults = if own ≠ [] then own else defaults := by
  cases own <;> rfl

end CredentialSelection

/-! ## Registrations -/

/-- The tenant with a new key in front of its own ones. -/
def Tenant.rollOver (t : Tenant) (k : KeyPair) : Tenant :=
  { t with settings := t.settings.map fun s => { s with keys := k :: s.keys } }

/-- **Of a registration a new key changes the credentials only**, whatever becomes of the defaults:
it decrypts alone, and what signed before follows it. -/
theorem Profile.registrationOf_rollOver (p : Profile) (id : String) {t : Tenant} (k : KeyPair)
    (defaults defaults' : List KeyPair) (own : t.keys ≠ []) :
    let r := p.registrationOf id t defaults
    p.registrationOf id (t.rollOver k) defaults' =
      { r with credentials :=
        { decryption := [⟨k, .decryption⟩]
          signing := ⟨k, .signing⟩ :: r.credentials.signing } } := by
  obtain ⟨_, _, _, _ | ⟨_, _, _, _ | ⟨first, others⟩⟩⟩ := t
  · exact absurd rfl own
  · exact absurd rfl own
  · rfl

namespace Registry

variable {g : Registry} {around : Surroundings} {t : Tenant} {id : String} {r : Registration}

/-- **The keys that a registration is made with.** -/
def keysFor (g : Registry) (around : Surroundings) (t : Tenant) (id : String) : List KeyPair :=
  if t.keys ≠ [] ∧ id = g.ownId then t.keys else g.keySource.keys around

/-- **A registration that the registry hands out for a tenant**, in either way of asking. -/
inductive Obtains (g : Registry) (around : Surroundings) : Tenant → String → Registration → Prop
  | resolved {t : Tenant} {id : String} {r : Registration}
    (h : (g.resolve around id t).value = .ok r) : g.Obtains around t id r
  | found {id : String} {r : Registration} (h : (g.find around id).value = .ok r) :
    g.Obtains around around.tenant id r

theorem obtains_iff : g.Obtains around t id r ↔ g.Holds around t id r := by
  refine ⟨?_, fun h => .resolved (value_resolve_eq_ok_iff.mpr h)⟩
  rintro (h | h)
  · exact value_resolve_eq_ok_iff.mp h
  · exact value_resolve_eq_ok_iff.mp h

/-- Under the registry's own id a registration is put together for the tenant. -/
theorem obtains_ownId_iff : g.Obtains around t g.ownId r ↔
    r = g.profile.registrationOf g.ownId t (g.keySource.keys around) := by
  rw [obtains_iff, Holds]
  simp [g.ownId_ne_example]

theorem Obtains.covers (h : g.Obtains around t id r) :
    r.credentials.Covers (g.keysFor around t id) := by
  rw [CredentialSelection.covers_iff]
  rcases obtains_iff.mp h with ⟨rfl, rfl⟩ | ⟨rfl, rfl⟩
  · change CredentialSelection.ofKeys (CredentialSelection.effectiveKeys _ _) = _
    rw [CredentialSelection.effectiveKeys_eq, keysFor]
    simp only [and_true]
  · rw [keysFor, if_neg fun own => g.ownId_ne_example own.2.symm]
    rfl

/-- **The law of credentials.**  A registration is handed out under the registry's own id and under
the example's.  Whichever it is, and in either way of asking, its credentials cover one list of
keys: the tenant's own ones, if there are any and the id is the registry's own, and the defaults
otherwise.  So there is no mixture of the two, and settings without keys leave the defaults in
force as a whole.  A key put in front of a tenant's own ones is the only one from then on that
decrypts; what signed before goes on signing behind it, and nothing else of the registration
changes, whatever becomes of the defaults. -/
theorem credentials_cover (g : Registry) :
    (∀ around t id, (∃ r, g.Obtains around t id r) ↔
      id = g.ownId ∨ id = exampleRegistrationId) ∧
    (∀ around t id r, g.Obtains around t id r →
      r.credentials.Covers (g.keysFor around t id)) ∧
    (∀ around (t : Tenant) id r, g.Obtains around t id r →
      r.credentials.Covers t.keys ∨ r.credentials.Covers (g.keySource.keys around)) ∧
    (∀ around (t : Tenant) settings id r, settings.keys = [] →
      g.Obtains around (t.withSettings settings) id r →
        r.credentials.Covers (g.keySource.keys around)) ∧
    ∀ around around' (t : Tenant) k r, t.keys ≠ [] → g.Obtains around t g.ownId r →
      ∀ r', g.Obtains around' (t.rollOver k) g.ownId r' ↔
        r' = { r with credentials :=
          { decryption := [⟨k, .decryption⟩]
            signing := ⟨k, .signing⟩ :: r.credentials.signing } } := by
  refine ⟨fun around t id => ?_, fun around t id r h => h.covers, fun around t id r h => ?_,
    fun around t settings id r none h => ?_, fun around around' t k r own h r' => ?_⟩
  · simp only [obtains_iff, exists_holds_iff]
  · have covers := h.covers
    rw [keysFor] at covers
    split_ifs at covers
    · exact Or.inl covers
    · exact Or.inr covers
  · have covers := h.covers
    rwa [keysFor, if_neg fun own => own.1 none] at covers
  · rw [obtains_ownId_iff] at h
    rw [obtains_ownId_iff, h, g.profile.registrationOf_rollOver g.ownId k _ _ own]

theorem credentials_cover_doubled :
    let g := MetadataService.slashed.registry
    let old : KeyPair := ⟨"old", "", "CERT 1"⟩
    let new : KeyPair := ⟨"new", "secret", "CERT 2"⟩
    let zone : Tenant :=
      { id := ⟨9⟩, subdomain := "zone", settings := some { keys := [old, old] } }
    let around : Surroundings := ⟨zone, [new, old]⟩
    let around' : Surroundings := ⟨zone.rollOver new, []⟩
    ∃ r bare fresh,
      (g.Obtains around zone g.ownId r ∧ r.credentials.Covers [old, old]) ∧
      (g.Obtains around (zone.withSettings {}) g.ownId bare ∧
        bare.credentials.Covers [new, old]) ∧
      (g.Obtains around' (zone.rollOver new) g.ownId fresh ∧
        fresh.credentials = ⟨[⟨new, .decryption⟩],
          [⟨new, .signing⟩, ⟨old, .signing⟩, ⟨old, .signing⟩]⟩) := by
  intro g old new zone around around'
  obtain ⟨-, covers, -, emptied, rolled⟩ := credentials_cover g
  have handed (t : Tenant) : g.Obtains around t g.ownId _ := obtains_ownId_iff.mpr rfl
  have found : g.Obtains around' (zone.rollOver new) g.ownId _ := .found rfl
  have ne : zone.keys ≠ [] := by decide
  refine ⟨_, _, _, ⟨handed zone, covers _ _ _ _ (handed zone)⟩,
    ⟨handed _, emptied _ zone {} _ _ rfl (handed _)⟩, ⟨found, ?_⟩⟩
  rw [(rolled around around' zone new _ ne (handed zone) _).mp found]
  rfl

end Registry

end RelyingParty
