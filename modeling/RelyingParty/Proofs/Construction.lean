import RelyingParty.Proofs.Lookup
import RelyingParty.Registry.Recipe

/-!
# Proofs/Construction — a configuration and its parts make the same registry

The names of a profile are checked when it is put together, the id of a registry when it is; a
configuration is checked as a whole.  That check is the other two in a row (`validate_eq`), although
it looks at the alias that is set and they at the one that counts.  So the registry of a
configuration is the registry of its parts, but over the keys that the configuration holds
(`Registry.ofConfig_eq`), down to the fault that is reported where there is none.
-/

namespace RelyingParty

/-! ## Verdicts -/

/-- **The verdict on a construction**: that it succeeds, or the fault for which it does not. -/
def verdict (built : Except ConfigError α) : Except ConfigError Unit := built.map fun _ => ()

theorem verdict_map (f : α → β) (built : Except ConfigError α) :
    verdict (built.map f) = verdict built := by
  rcases built with e | a <;> rfl

theorem verdict_check (check : Except ConfigError Unit) : verdict check = check := by
  rcases check with e | _ <;> rfl

/-- A construction in two stages meets the faults of the first before those of the second. -/
theorem verdict_bind {built : Except ConfigError α} {next : α → Except ConfigError β}
    {check : Except ConfigError Unit} (h : ∀ a, verdict (next a) = check) :
    verdict (built >>= next) = verdict built >>= fun _ => check := by
  rcases built with e | a
  · rfl
  · exact h a

/-- A check that a construction makes itself may be made before it too. -/
theorem verdict_bind_self (built : Except ConfigError α) :
    (verdict built >>= fun _ => built) = built := by
  rcases built with e | a <;> rfl

/-! ## Checks -/

/-- The check of the names of a profile. -/
def IdentityPolicy.check (p : IdentityPolicy) : Except ConfigError Unit :=
  if Text.isBlank p.entityId then .error .blankEntityId
  else if Text.isBlank p.defaultAlias then .error .blankAlias
  else .ok ()

/-- An entity id that says something does so in place of an alias that is not set. -/
theorem IdentityPolicy.isBlank_defaultAlias (p : IdentityPolicy)
    (h : Text.isBlank p.entityId = false) :
    Text.isBlank p.defaultAlias = p.configuredAlias.any Text.isBlank := by
  obtain ⟨entityId, _ | entityAlias⟩ := p
  · exact h
  · rfl

theorem Profile.verdict_ofParts (identity : IdentityPolicy) (nameIdFormat : Option String)
    (signing : SigningPolicy) (assertingParty : AssertingParty) :
    verdict (ofParts identity nameIdFormat signing assertingParty) = identity.check := by
  unfold ofParts IdentityPolicy.check
  split_ifs <;> rfl

theorem Registry.verdict_ofProfile (ownId : String) (p : Profile) (source : KeySource) :
    verdict (ofProfile ownId p source) = checkRegistrationId ownId := by
  unfold ofProfile checkRegistrationId
  split_ifs <;> rfl

/-- **A configuration is checked like its parts.** -/
theorem ProviderConfig.validate_eq (c : ProviderConfig) :
    c.validate = (Profile.identityOfConfig c).check >>= fun _ =>
      checkRegistrationId c.registrationId := by
  let p := Profile.identityOfConfig c
  change (if Text.isBlank p.entityId = true then .error .blankEntityId
    else if p.configuredAlias.any Text.isBlank = true then .error .blankAlias
    else checkRegistrationId c.registrationId) = p.check >>= _
  unfold IdentityPolicy.check
  by_cases blank : Text.isBlank p.entityId = true
  · rw [if_pos blank, if_pos blank]
    rfl
  · rw [if_neg blank, if_neg blank, p.isBlank_defaultAlias (eq_false_of_ne_true blank)]
    split_ifs <;> rfl

/-! ## Registries -/

/-- The parts of a configuration; its keys go into the store. -/
def ProviderConfig.parts (c : ProviderConfig) : RegistryParts where
  registrationId := c.registrationId
  identity := Profile.identityOfConfig c
  nameIdFormat := c.nameIdFormat
  signing := c.signing
  assertingParty := c.assertingParty

/-- The registry over other default keys. -/
def Registry.withSource (source : KeySource) (g : Registry) : Registry :=
  { g with keySource := source }

theorem Registry.ofProfile_eq_map (ownId : String) (p : Profile) (source source' : KeySource) :
    ofProfile ownId p source = (ofProfile ownId p source').map (withSource source) := by
  unfold ofProfile
  split_ifs <;> rfl

theorem RegistryParts.keySource_of_build {p : RegistryParts} {g : Registry} (h : p.build = .ok g) :
    g.keySource = .shared := by
  obtain ⟨profile, -, built⟩ := bind_eq_ok_iff.mp h
  exact (Registry.ofProfile_eq_ok_iff.mp built).2.2.2

theorem verdict_build_parts (c : ProviderConfig) : verdict c.parts.build = c.validate := by
  have ids := fun p => Registry.verdict_ofProfile c.parts.registrationId p .shared
  rw [RegistryParts.build, verdict_bind ids, c.validate_eq]
  exact congrArg (· >>= _) (Profile.verdict_ofParts _ _ _ _)

theorem verdict_profile_ofConfig (c : ProviderConfig) :
    verdict (Profile.ofConfig c) = c.validate := by
  rw [Profile.ofConfig, verdict_bind fun _ => Profile.verdict_ofParts _ _ _ _, verdict_check,
    c.validate_eq]
  rcases (Profile.identityOfConfig c).check with e | _
  · rfl
  · rcases checkRegistrationId c.registrationId with e | _ <;> rfl

/-- **The registry of a configuration is the registry of its parts**, over the configuration's own
keys; and if there is none, then for the same fault. -/
theorem Registry.ofConfig_eq (c : ProviderConfig) :
    ofConfig c = c.parts.build.map (withSource (.fixed c.defaultKeys)) := by
  have unchecked :
      (c.parts.profile >>= fun p => ofProfile c.registrationId p (.fixed c.defaultKeys))
        = c.parts.build.map (withSource (.fixed c.defaultKeys)) := by
    rw [RegistryParts.build]
    rcases c.parts.profile with e | p
    · rfl
    · exact ofProfile_eq_map c.registrationId p _ .shared
  calc ofConfig c
      = (c.validate >>= fun _ => c.parts.profile) >>= fun p =>
          ofProfile c.registrationId p (.fixed c.defaultKeys) := rfl
    _ = c.validate >>= fun _ => c.parts.build.map (withSource (.fixed c.defaultKeys)) := by
        rw [bind_assoc, unchecked]
    _ = c.parts.build.map (withSource (.fixed c.defaultKeys)) := by
        rw [← verdict_build_parts c, ← verdict_map (withSource (.fixed c.defaultKeys)),
          verdict_bind_self]

/-- Over a store that answers the configuration's keys the two registries agree. -/
theorem Registry.agree_of_ofConfig {c : ProviderConfig} {g g' : Registry} (h : ofConfig c = .ok g)
    (h' : c.parts.build = .ok g') (around : Surroundings) {around' : Surroundings}
    (keys : around'.sharedKeys = c.defaultKeys) : g.Agree g' around around' := by
  rw [ofConfig_eq, h'] at h
  obtain rfl := Except.ok.inj h
  refine ⟨rfl, rfl, ?_⟩
  rw [RegistryParts.keySource_of_build h']
  exact keys.symm

/-- **All constructions agree.**  A configuration makes a profile, makes a registry, and has parts
that make one, just if it is valid; and if it is not, each of them reports the fault that validation
does.  The registry of the configuration and that of its parts, over a store that answers the
configuration's keys, answer alike to every lookup and every request. -/
theorem constructions_agree (c : ProviderConfig) :
    verdict (Profile.ofConfig c) = c.validate ∧
    verdict (Registry.ofConfig c) = c.validate ∧
    verdict c.parts.build = c.validate ∧
    ∀ g g', Registry.ofConfig c = .ok g → c.parts.build = .ok g' →
      ∀ around around' : Surroundings, around.tenant = around'.tenant →
        around'.sharedKeys = c.defaultKeys →
        (∀ id, g.find around id = g'.find around' id) ∧
        (∀ id t, g.resolve around id t = g'.resolve around' id t) ∧
        ∀ renderer baseUrl request tenant?,
          (⟨g, renderer, baseUrl⟩ : MetadataService).respond around request tenant?
            = (⟨g', renderer, baseUrl⟩ : MetadataService).respond around' request tenant? := by
  refine ⟨verdict_profile_ofConfig c, ?_, verdict_build_parts c,
    fun g g' h h' around around' tenant keys => ?_⟩
  · rw [Registry.ofConfig_eq, verdict_map, verdict_build_parts]
  · have agree := Registry.agree_of_ofConfig h h' around keys
    exact ⟨agree.find tenant, agree.resolve, MetadataService.respond_of_agree agree⟩

/-- A configuration that holds a key of its own. -/
def keyed : ProviderConfig := { entityId := "sp", defaultKeys := [⟨"key", "", "CERT"⟩] }

theorem constructions_agree_keyed :
    let zone : Tenant := { id := ⟨9⟩, subdomain := "zone" }
    ∃ g g', Registry.ofConfig keyed = .ok g ∧ keyed.parts.build = .ok g' ∧ ∀ keys id,
      g.find ⟨zone, keys⟩ id = g'.find ⟨zone, keyed.defaultKeys⟩ id := by
  intro zone
  obtain ⟨g, h⟩ : ∃ g, Registry.ofConfig keyed = .ok g := ⟨_, rfl⟩
  obtain ⟨g', h'⟩ : ∃ g', keyed.parts.build = .ok g' := ⟨_, rfl⟩
  refine ⟨g, g', h, h', fun keys => ?_⟩
  exact ((constructions_agree keyed).2.2.2 g g' h h' ⟨zone, keys⟩ ⟨zone, keyed.defaultKeys⟩
    rfl rfl).1

/-- Of several faults every construction reports the same one. -/
example :
    let c : ProviderConfig :=
      { registrationId := "example", entityId := "sp", entityAlias := some "\u2003" }
    verdict (Registry.ofConfig c) = .error .blankAlias ∧
      verdict c.parts.build = .error .blankAlias := ⟨rfl, rfl⟩

end RelyingParty
