import RelyingParty.KeyPair
import RelyingParty.TenantId.Spelling

/-!
# Tenant — a tenant and its own settings

The system has one default tenant and any number of others, told apart by their subdomains. A tenant
may have settings of its own; without them the provider's defaults apply.
-/

namespace RelyingParty

/-- Reads a tenant's identity in any of its spellings. -/
def TenantId.reader : Json.Reader TenantId :=
  .refined .identifier fun text =>
    match TenantId.parse text with
    | .ok id => .ok id
    | .error flaw => .error ("UUID parsing failed: " ++ flaw.message)

/-- **A tenant's own settings.** -/
structure TenantSettings where
  /-- An entity id in place of the derived one; an empty one counts for none. -/
  entityIdOverride : Option String := none
  signsRequests : Bool := true
  wantsSignedAssertions : Bool := true
  keys : List KeyPair := []
  deriving DecidableEq

namespace TenantSettings

/-- The override, unless it is empty. -/
def effectiveOverride (s : TenantSettings) : Option String := s.entityIdOverride.filter (· ≠ "")

/-- The settings with all secrets blotted out. -/
def redact (s : TenantSettings) : TenantSettings := { s with keys := s.keys.map (·.redact) }

/-- What settings show of themselves. -/
def inspect (s : TenantSettings) : Inspection :=
  .record "SamlConfig"
    [("entity_id_override", .optional .text s.entityIdOverride),
      ("request_signed", .flag s.signsRequests),
      ("want_assertion_signed", .flag s.wantsSignedAssertions),
      ("keys", KeyPair.inspectAll s.keys)] true

@[simp] theorem inspect_redact (s : TenantSettings) : s.redact.inspect = s.inspect := by
  simp [inspect, redact]

/-- Settings of which some fields have been read. -/
structure Draft where
  entityIdOverride : Option (Option String) := none
  signsRequests : Option Bool := none
  wantsSignedAssertions : Option Bool := none
  keys : Option (List KeyPair) := none

/-- **The written form**: every field may be left out. -/
def form : Json.RecordForm Draft TenantSettings where
  name := "SamlConfig"
  fields := [
    .of "entity_id_override" (·.entityIdOverride)
      (fun v d => { d with entityIdOverride := some v }) (.optional .text),
    .of "request_signed" (·.signsRequests) (fun v d => { d with signsRequests := some v }) .flag,
    .of "want_assertion_signed" (·.wantsSignedAssertions)
      (fun v d => { d with wantsSignedAssertions := some v }) .flag,
    .of "keys" (·.keys) (fun v d => { d with keys := some v }) KeyPair.listReader]
  empty := {}
  finish d :=
    .ok {
      entityIdOverride := d.entityIdOverride.getD none
      signsRequests := d.signsRequests.getD true
      wantsSignedAssertions := d.wantsSignedAssertions.getD true
      keys := d.keys.getD [] }

/-- Reads settings. -/
def reader : Json.Reader TenantSettings := form.reader

end TenantSettings

/-- **A tenant.** -/
structure Tenant where
  id : TenantId
  subdomain : String
  isDefault : Bool := false
  settings : Option TenantSettings := none
  deriving DecidableEq

namespace Tenant

/-- The default tenant of a system, without settings. -/
def default (id : TenantId) : Tenant := { id, subdomain := "", isDefault := true }

/-- The tenant with the given settings for its own. -/
def withSettings (t : Tenant) (settings : TenantSettings) : Tenant :=
  { t with settings := some settings }

/-- The tenant's own keys. -/
def keys (t : Tenant) : List KeyPair := (t.settings.map (·.keys)).getD []

/-- The tenant's override of its entity id, if it has one that is not empty. -/
def effectiveOverride (t : Tenant) : Option String := t.settings.bind (·.effectiveOverride)

/-- The tenant with all secrets blotted out. -/
def redact (t : Tenant) : Tenant := { t with settings := t.settings.map (·.redact) }

/-- What a tenant shows of itself. -/
def inspect (t : Tenant) : Inspection :=
  .record "Tenant"
    [("id", t.id.inspect), ("subdomain", .text t.subdomain), ("is_default", .flag t.isDefault),
      ("saml_config", .optional TenantSettings.inspect t.settings)] true

@[simp] theorem inspect_redact (t : Tenant) : t.redact.inspect = t.inspect := by
  cases h : t.settings <;> simp [inspect, redact, h, Inspection.optional]

/-- A tenant of which some fields have been read. -/
structure Draft where
  id : Option TenantId := none
  subdomain : Option String := none
  isDefault : Option Bool := none
  settings : Option (Option TenantSettings) := none

/-- **The written form**: a tenant is not the default one and has no settings unless it says so. -/
def form : Json.RecordForm Draft Tenant where
  name := "Tenant"
  fields := [
    .of "id" (·.id) (fun v d => { d with id := some v }) TenantId.reader,
    .of "subdomain" (·.subdomain) (fun v d => { d with subdomain := some v }) .text,
    .of "is_default" (·.isDefault) (fun v d => { d with isDefault := some v }) .flag,
    .of "saml_config" (·.settings) (fun v d => { d with settings := some v })
      (.optional TenantSettings.reader)]
  empty := {}
  finish d := do
    let id ← Json.RecordForm.required 0 d.id
    let subdomain ← Json.RecordForm.required 1 d.subdomain
    return { id, subdomain, isDefault := d.isDefault.getD false, settings := d.settings.getD none }

/-- Reads a tenant. -/
def reader : Json.Reader Tenant := form.reader

end Tenant

end RelyingParty
