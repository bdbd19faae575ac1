import Mathlib.Data.List.TakeWhile
import RelyingParty.Proofs.Except
import RelyingParty.Proofs.Isolation

/-!
# Proofs/Naming — every registration has names

A profile is put together just if trimming leaves something of both its names
(`Profile.exists_ofParts_iff`).  A tenant's names end in these, so trimming leaves something of them
too, whatever the subdomain is.  The one name that comes from elsewhere is an override: of this it
is checked only that it is not empty, and so here, and nowhere else, a blank entity id comes in
(`IdentityPolicy.isBlank_entityId_iff`).
-/

namespace RelyingParty

/-! ## Blank texts -/

namespace Text

theorem dropBlank_eq_nil_iff {cs : List Char} :
    dropBlank cs = [] ↔ ∀ c ∈ cs, isBlankChar c = true :=
  List.dropWhile_eq_nil_iff

/-- What is left begins with something that is not white space, if it is anything at all. -/
theorem dropBlank_eq_nil_of_forall {cs : List Char}
    (h : ∀ c ∈ dropBlank cs, isBlankChar c = true) : dropBlank cs = [] := by
  by_contra left
  have first : isBlankChar ((dropBlank cs).head left) = false :=
    List.head_dropWhile_not isBlankChar left
  exact absurd (h _ (List.head_mem left)) (by simp [first])

/-- **Trimming leaves nothing of the blank texts only.** -/
theorem trim_eq_empty_iff {s : String} : trim s = "" ↔ isBlank s = true :=
  calc
    trim s = "" ↔ ∀ c ∈ dropBlank s.toList, isBlankChar c = true := by
      rw [trim, String.ofList_eq_empty_iff, List.reverse_eq_nil_iff, dropBlank_eq_nil_iff]
      simp only [List.mem_reverse]
    _ ↔ dropBlank s.toList = [] := ⟨dropBlank_eq_nil_of_forall, fun h => by simp [h]⟩
    _ ↔ isBlank s = true := by rw [dropBlank_eq_nil_iff, isBlank, List.all_eq_true]

theorem trim_ne_empty_iff {s : String} : trim s ≠ "" ↔ isBlank s = false := by
  rw [ne_eq, trim_eq_empty_iff, Bool.not_eq_true]

end Text

/-! ## Profiles -/

namespace Profile

/-- **A profile is put together just if both its names say something**, and of nothing but what is
given. -/
theorem ofParts_eq_ok_iff {identity : IdentityPolicy} {nameIdFormat : Option String}
    {signing : SigningPolicy} {assertingParty : AssertingParty} {p : Profile} :
    ofParts identity nameIdFormat signing assertingParty = .ok p ↔
      (Text.isBlank identity.entityId = false ∧ Text.isBlank identity.defaultAlias = false) ∧
        p.identity = identity ∧ p.nameIdFormat = nameIdFormat ∧ p.signing = signing ∧
        p.assertingParty = assertingParty := by
  obtain ⟨identity', nameIdFormat', signing', assertingParty', _, _⟩ := p
  unfold ofParts
  split_ifs with blankEntityId blankAlias
  · simp [blankEntityId]
  · simp [blankAlias]
  · refine ⟨fun h => ?_, ?_⟩
    · obtain ⟨⟩ := h
      exact ⟨⟨by simpa using blankEntityId, by simpa using blankAlias⟩, rfl, rfl, rfl, rfl⟩
    · rintro ⟨-, rfl, rfl, rfl, rfl⟩
      rfl

theorem exists_ofParts_iff {identity : IdentityPolicy} {nameIdFormat : Option String}
    {signing : SigningPolicy} {assertingParty : AssertingParty} :
    (∃ p, ofParts identity nameIdFormat signing assertingParty = .ok p) ↔
      Text.trim identity.entityId ≠ "" ∧ Text.trim identity.defaultAlias ≠ "" := by
  rw [Text.trim_ne_empty_iff, Text.trim_ne_empty_iff]
  refine ⟨fun ⟨p, built⟩ => (ofParts_eq_ok_iff.mp built).1, fun names => ?_⟩
  exact ⟨⟨identity, nameIdFormat, signing, assertingParty, names.1, names.2⟩,
    ofParts_eq_ok_iff.mpr ⟨names, rfl, rfl, rfl, rfl⟩⟩

/-- **A profile that one of the constructors hands out.** -/
inductive Constructed (p : Profile) : Prop
  | fromParts {identity : IdentityPolicy} {nameIdFormat : Option String} {signing : SigningPolicy}
    {assertingParty : AssertingParty}
    (h : ofParts identity nameIdFormat signing assertingParty = .ok p)
  | fromConfig {c : ProviderConfig} (h : ofConfig c = .ok p)

theorem Constructed.names_not_blank {p : Profile} (h : p.Constructed) :
    Text.isBlank p.identity.entityId = false ∧ Text.isBlank p.identity.defaultAlias = false := by
  obtain ⟨identity, nameIdFormat, signing, assertingParty, built⟩ :
      ∃ identity nameIdFormat signing assertingParty,
        ofParts identity nameIdFormat signing assertingParty = .ok p := by
    rcases h with h | h
    · exact ⟨_, _, _, _, h⟩
    · obtain ⟨-, -, h⟩ := bind_eq_ok_iff.mp h
      exact ⟨_, _, _, _, h⟩
  obtain ⟨names, same, -⟩ := ofParts_eq_ok_iff.mp built
  rwa [same]

end Profile

/-! ## Tenants -/

/-- **An override counts** if it is set and not empty, blank as it may be. -/
theorem Tenant.effectiveOverride_eq_some_iff {t : Tenant} {name : String} :
    t.effectiveOverride = some name ↔
      t.settings.bind (·.entityIdOverride) = some name ∧ name ≠ "" := by
  cases h : t.settings <;>
    simp [effectiveOverride, TenantSettings.effectiveOverride, h, Option.filter_eq_some_iff]

namespace IdentityPolicy

variable {p : IdentityPolicy} {t : Tenant}

/-- A tenant's name says something if the configured one does. -/
theorem isBlank_nameFor (t : Tenant) {name : String} (h : Text.isBlank name = false) :
    Text.isBlank (nameFor t name) = false := by
  unfold nameFor qualify
  split
  · exact h
  · rw [Text.isBlank_append, h, Bool.and_false]

/-- An override that counts takes the place of the name as it is. -/
theorem entityId_of_override {name : String} (h : t.isDefault = false)
    (set : t.effectiveOverride = some name) : (p.identityOf t).entityId = name := by
  simp [identityOf, h, set]

/-- Where an entity id comes from: the configured one, or an override that counts. -/
theorem entityId_cases (p : IdentityPolicy) (t : Tenant) :
    ((t.isDefault = true ∨ t.effectiveOverride = none) ∧
      (p.identityOf t).entityId = nameFor t p.entityId) ∨
    ∃ name, t.isDefault = false ∧ t.effectiveOverride = some name ∧
      (p.identityOf t).entityId = name := by
  by_cases h : t.isDefault = true ∨ t.effectiveOverride = none
  · exact Or.inl ⟨h, p.entityId_identityOf h⟩
  · obtain ⟨notDefault, overridden⟩ := not_or.mp h
    obtain ⟨name, set⟩ := Option.ne_none_iff_exists'.mp overridden
    have notDefault := eq_false_of_ne_true notDefault
    exact Or.inr ⟨name, notDefault, set, entityId_of_override notDefault set⟩

theorem entityId_ne_empty (h : Text.isBlank p.entityId = false) (t : Tenant) :
    (p.identityOf t).entityId ≠ "" := by
  rcases p.entityId_cases t with ⟨-, eq⟩ | ⟨name, -, set, eq⟩
  · rw [eq]
    exact Text.ne_empty_of_not_isBlank (isBlank_nameFor t h)
  · rw [eq]
    exact (Tenant.effectiveOverride_eq_some_iff.mp set).2

/-- **An entity id is blank just if a blank override counts.** -/
theorem isBlank_entityId_iff (h : Text.isBlank p.entityId = false) (t : Tenant) :
    Text.isBlank (p.identityOf t).entityId = true ↔
      t.isDefault = false ∧ ∃ name, t.effectiveOverride = some name ∧
        Text.isBlank name = true := by
  rcases p.entityId_cases t with ⟨derived, eq⟩ | ⟨name, notDefault, set, eq⟩
  · rw [eq, isBlank_nameFor t h]
    refine iff_of_false (by simp) ?_
    rintro ⟨notDefault, name, set, -⟩
    rcases derived with isDefault | none
    · exact absurd (isDefault.symm.trans notDefault) (by simp)
    · exact absurd (set.symm.trans none) (by simp)
  · rw [eq]
    refine ⟨fun blank => ⟨notDefault, name, set, blank⟩, ?_⟩
    rintro ⟨-, name', set', blank⟩
    exact Option.some.inj (set'.symm.trans set) ▸ blank

end IdentityPolicy

/-! ## Registrations -/

namespace Profile

/-- **Every registration has names.**  A profile is put together just if trimming leaves something
of its entity id and of the alias that counts.  Then the registration of any tenant, whatever its
subdomain, its settings, the id and the keys are, has an entity id and an alias that are not empty,
and trimming leaves something of the alias; its two locations end in this same alias.  Trimming
leaves nothing of the entity id just if the tenant is not the default one and its override is not
empty and blank.  Of either name of the example registration it leaves something. -/
theorem registrations_named :
    (∀ identity nameIdFormat signing assertingParty,
      (∃ p, ofParts identity nameIdFormat signing assertingParty = .ok p) ↔
        Text.trim identity.entityId ≠ "" ∧ Text.trim identity.defaultAlias ≠ "") ∧
    ∀ p : Profile, p.Constructed →
      (∀ id (t : Tenant) keys,
        let r := (p.assemble id t keys).value
        (r.entityId ≠ "" ∧ r.entityAlias ≠ "") ∧
        Text.trim r.entityAlias ≠ "" ∧
        r.consumerLocation = "\x7bbaseUrl\x7d/saml/SSO/alias/" ++ r.entityAlias ∧
        r.logoutLocation = "\x7bbaseUrl\x7d/saml/SingleLogout/alias/" ++ r.entityAlias ∧
        (Text.trim r.entityId = "" ↔
          t.isDefault = false ∧ ∃ name, t.settings.bind (·.entityIdOverride) = some name ∧
            name ≠ "" ∧ Text.trim name = "")) ∧
      ∀ keys,
        Text.trim (p.exampleRegistration keys).entityId ≠ "" ∧
        Text.trim (p.exampleRegistration keys).entityAlias ≠ "" := by
  refine ⟨fun _ _ _ _ => exists_ofParts_iff, fun p h => ?_⟩
  obtain ⟨entityId, defaultAlias⟩ := h.names_not_blank
  refine ⟨fun id t keys => ?_, fun keys => ?_⟩
  · intro r
    have entityAlias : Text.isBlank r.entityAlias = false := by
      change Text.isBlank (p.identity.identityOf t).entityAlias = false
      rw [IdentityPolicy.entityAlias_identityOf]
      exact IdentityPolicy.isBlank_nameFor t defaultAlias
    refine ⟨⟨IdentityPolicy.entityId_ne_empty entityId t,
      Text.ne_empty_of_not_isBlank entityAlias⟩, Text.trim_ne_empty_iff.mpr entityAlias, rfl, rfl,
      ?_⟩
    simp only [Text.trim_eq_empty_iff]
    refine (IdentityPolicy.isBlank_entityId_iff entityId t).trans ?_
    simp only [Tenant.effectiveOverride_eq_some_iff, and_assoc]
  · exact ⟨Text.trim_ne_empty_iff.mpr entityId, Text.trim_ne_empty_iff.mpr entityId⟩

theorem registrations_named_blank :
    let zone : Tenant :=
      { id := ⟨9⟩, subdomain := "", settings := some { entityIdOverride := some "\u00a0" } }
    let home : Tenant := { zone with isDefault := true }
    ∃ p, ofParts ⟨"sp", none⟩ none {} {} = .ok p ∧ ∀ id keys,
      Text.trim (p.assemble id zone keys).value.entityId = "" ∧
      Text.trim (p.assemble id zone keys).value.entityAlias ≠ "" ∧
      Text.trim (p.assemble id home keys).value.entityId ≠ "" := by
  intro zone home
  obtain ⟨accepted, everyNamed⟩ := registrations_named
  obtain ⟨p, built⟩ := (accepted ⟨"sp", none⟩ none {} {}).mpr ⟨by decide +kernel, by decide +kernel⟩
  obtain ⟨named, -⟩ := everyNamed p (.fromParts built)
  refine ⟨p, built, fun id keys => ?_⟩
  obtain ⟨-, entityAlias, -, -, blank⟩ := named id zone keys
  obtain ⟨-, -, -, -, blankHome⟩ := named id home keys
  refine ⟨blank.mpr ⟨rfl, "\u00a0", rfl, by decide, by decide +kernel⟩, entityAlias, fun none => ?_⟩
  obtain ⟨notDefault, -⟩ := blankHome.mp none
  exact absurd notDefault (by decide)

end Profile

end RelyingParty
