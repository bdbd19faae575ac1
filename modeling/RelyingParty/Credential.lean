import RelyingParty.KeyPair

/-!
# Credential — which keys a registration signs and decrypts with

A tenant's own keys replace the defaults as a whole; the two lists never mix. The first of the
effective keys, the primary one, decrypts, and all of them are advertised for signing, so that what
an older key has signed can still be verified while keys are rolled over.
-/

namespace RelyingParty

/-- What a key pair is used for. -/
inductive Usage where
  | signing
  | decryption
  deriving DecidableEq

/-- The use that metadata advertises. -/
def Usage.advertised : Usage → String
  | signing => "signing"
  | decryption => "encryption"

/-- What a usage shows of itself. -/
def Usage.inspect : Usage → Inspection
  | signing => .word "Signing"
  | decryption => .word "Decryption"

/-- **A key pair together with its use.** -/
structure Credential where
  material : KeyPair
  usage : Usage
  deriving DecidableEq

namespace Credential

/-- The credential with the secrets of its material blotted out. -/
def redact (c : Credential) : Credential := { c with material := c.material.redact }

/-- What a credential shows of itself. -/
def inspect (c : Credential) : Inspection :=
  .record "X509Credential" [("material", c.material.inspect), ("usage", c.usage.inspect)] true

@[simp] theorem inspect_redact (c : Credential) : c.redact.inspect = c.inspect := rfl

end Credential

/-- **The credentials chosen for a registration.** -/
structure CredentialSelection where
  /-- The primary key, or nothing. -/
  decryption : List Credential := []
  /-- Every effective key, the primary one first. -/
  signing : List Credential := []
  deriving DecidableEq

namespace CredentialSelection

/-- Whether there is no credential at all. -/
def isEmpty (s : CredentialSelection) : Bool := s.signing.isEmpty

/-- The keys that count: a tenant's own ones if it has any, otherwise the defaults. -/
def effectiveKeys (own defaults : List KeyPair) : List KeyPair :=
  if own.isEmpty then defaults else own

/-- The credentials of the given keys. -/
def ofKeys (keys : List KeyPair) : CredentialSelection where
  decryption := (keys.take 1).map (⟨·, .decryption⟩)
  signing := keys.map (⟨·, .signing⟩)

/-- **The credentials of a tenant with the given keys over the given defaults.** -/
def select (own defaults : List KeyPair) : CredentialSelection :=
  ofKeys (effectiveKeys own defaults)

theorem map_material_signing (keys : List KeyPair) :
    (ofKeys keys).signing.map (·.material) = keys := by
  simp [ofKeys, Function.comp_def]

theorem length_signing (keys : List KeyPair) : (ofKeys keys).signing.length = keys.length := by
  simp [ofKeys]

end CredentialSelection

end RelyingParty
