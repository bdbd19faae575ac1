import RelyingParty.ProviderConfig.Variables
import RelyingParty.Registry.Basic

/-!
# Registry/Recipe — the three ways to a registry

A registry is built from a configuration, from the variables that spell one, or from its parts. The
first two fix the default keys; parts leave them in the shared key store.
-/

namespace RelyingParty

/-- **The parts of a registry over the shared key store.** -/
structure RegistryParts where
  registrationId : String
  identity : IdentityPolicy
  nameIdFormat : Option String := none
  signing : SigningPolicy := {}
  assertingParty : AssertingParty := {}

namespace RegistryParts

/-- The profile that the parts make. -/
def profile (p : RegistryParts) : Except ConfigError Profile :=
  Profile.ofParts p.identity p.nameIdFormat p.signing p.assertingParty

/-- The registry that the parts make. -/
def build (p : RegistryParts) : Except ConfigError Registry := do
  Registry.ofProfile p.registrationId (← p.profile) .shared

end RegistryParts

/-- **What a registry is built from.** -/
inductive Recipe where
  | config (c : ProviderConfig)
  | environment (lookup : Variables)
  | parts (p : RegistryParts)

/-- **Builds a registry.** -/
def Recipe.build : Recipe → Except ConfigError Registry
  | config c => Registry.ofConfig c
  | environment lookup => do Registry.ofConfig (← ProviderConfig.load lookup)
  | parts p => p.build

end RelyingParty
