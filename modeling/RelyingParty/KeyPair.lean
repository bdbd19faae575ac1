import RelyingParty.Inspection
import RelyingParty.Json.Record

/-!
# KeyPair — a private key with its passphrase and its certificate

The certificate is public; key and passphrase are secrets. `redact` blots the secrets out, and a
key pair is inspected only after that, so two key pairs that differ in their secrets alone show the
same of themselves (`inspect_redact`).
-/

namespace RelyingParty

/-- **A private key, its passphrase (empty if there is none) and its certificate.** -/
structure KeyPair where
  key : String
  passphrase : String
  certificate : String
  deriving DecidableEq

namespace KeyPair

/-! ## Secrets -/

/-- What stands in the place of a secret. -/
def blot : String := "[REDACTED]"

/-- The key pair with its secrets blotted out. -/
def redact (k : KeyPair) : KeyPair := { k with key := blot, passphrase := blot }

@[simp] theorem redact_redact (k : KeyPair) : k.redact.redact = k.redact := rfl

@[simp] theorem certificate_redact (k : KeyPair) : k.redact.certificate = k.certificate := rfl

/-- What a key pair shows of itself, its secrets blotted out. -/
def inspect (k : KeyPair) : Inspection :=
  let shown := k.redact
  .record "KeyWithCert"
    [("key", .text shown.key), ("passphrase", .text shown.passphrase),
      ("certificate", .text shown.certificate)] true

/-- **Inspection is blind to secrets.** -/
@[simp] theorem inspect_redact (k : KeyPair) : k.redact.inspect = k.inspect := rfl

/-- What a list of key pairs shows of itself. -/
def inspectAll (keys : List KeyPair) : Inspection := .list (keys.map inspect)

@[simp] theorem inspectAll_map_redact (keys : List KeyPair) :
    inspectAll (keys.map redact) = inspectAll keys := by
  simp [inspectAll, Function.comp_def]

/-- What a store that always answers the given keys shows of itself. -/
def inspectStore (keys : List KeyPair) : Inspection :=
  .record "StaticCredentialStore" [("keys", inspectAll keys)] true

/-! ## Written form -/

/-- A key pair of which some fields have been read. -/
structure Draft where
  key : Option String := none
  passphrase : Option String := none
  certificate : Option String := none

/-- **The written form**: a passphrase may be left out. -/
def form : Json.RecordForm Draft KeyPair where
  name := "KeyWithCert"
  fields := [
    .of "key" (·.key) (fun v d => { d with key := some v }) .text,
    .of "passphrase" (·.passphrase) (fun v d => { d with passphrase := some v }) .text,
    .of "certificate" (·.certificate) (fun v d => { d with certificate := some v }) .text]
  empty := {}
  finish d := do
    let key ← Json.RecordForm.required 0 d.key
    let certificate ← Json.RecordForm.required 2 d.certificate
    return { key, passphrase := d.passphrase.getD "", certificate }

/-- Reads a key pair. -/
def reader : Json.Reader KeyPair := form.reader

/-- Reads a list of key pairs. -/
def listReader : Json.Reader (List KeyPair) := .list reader

end KeyPair

end RelyingParty
