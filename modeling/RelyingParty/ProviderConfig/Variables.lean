import RelyingParty.ProviderConfig.Basic
import RelyingParty.Text.LowerCase
import RelyingParty.Text.Utf8

/-!
# ProviderConfig/Variables — settings from environment variables

Seven variables make up a configuration. An empty value counts as unset, except for the alias: an
alias that is set has to say something. The keys come as one JSON text. The variables are read in a
fixed order, and the configuration that results is validated, so the first fault that is met decides
the error.
-/

namespace RelyingParty

/-- **Named values**, as a process finds them in its environment. -/
abbrev Variables := String → Option String

/-- The variables of an environment of raw bytes; a value that is not UTF-8 counts as unset. -/
def Variables.ofBytes (raw : String → Option (List UInt8)) : Variables := fun name =>
  raw name >>= Text.ofUtf8?

/-- The value of a variable, unless it is empty. -/
def Variables.given (lookup : Variables) (name : String) : Option String :=
  (lookup name).filter (· ≠ "")

namespace Variables

/-- The entity id; it must be given. -/
def entityId : String := "SAML_ENTITY_ID"

/-- The alias; if it is set it must not be blank. -/
def entityAlias : String := "SAML_ENTITY_ID_ALIAS"

/-- The format of name identifiers. -/
def nameIdFormat : String := "SAML_NAME_ID_FORMAT"

/-- The id of the registration. -/
def registrationId : String := "SAML_REGISTRATION_ID"

/-- Whether requests are signed. -/
def signsRequests : String := "SAML_SIGN_REQUEST"

/-- Whether assertions have to be signed. -/
def wantsSignedAssertions : String := "SAML_WANT_ASSERTION_SIGNED"

/-- The default keys, as one JSON text. -/
def keys : String := "SAML_KEYS"

end Variables

/-- The truth value that a word stands for. -/
def flagOfWord : String → Option Bool
  | "true" | "1" | "yes" => some true
  | "false" | "0" | "no" => some false
  | _ => none

/-- **Reads a truth value**, whatever its case and the white space around it. -/
def readFlag (variableName value : String) : Except ConfigError Bool :=
  let word := Text.lower (Text.trim value)
  match flagOfWord word with
  | some b => .ok b
  | none => .error (.invalidValue variableName (.notFlag word))

/-- Reads a list of key pairs. -/
def readKeys (variableName value : String) : Except ConfigError (List KeyPair) :=
  match Json.read KeyPair.listReader value with
  | .ok keys => .ok keys
  | .error fault => .error (.invalidValue variableName (.notKeyList fault))

/-- The value of a variable as `read` understands it, or `standard` where it is not given. -/
def Variables.readOr (lookup : Variables) (name : String)
    (read : String → String → Except ConfigError α) (standard : α) : Except ConfigError α :=
  match lookup.given name with
  | some value => read name value
  | none => .ok standard

namespace ProviderConfig

/-- The settings that the variables spell, before they are validated. -/
def ofVariables (lookup : Variables) : Except ConfigError ProviderConfig := do
  match lookup.given Variables.entityId with
  | none => .error (.missingVariable Variables.entityId)
  | some entityId =>
    let signsRequests ← lookup.readOr Variables.signsRequests readFlag true
    let wantsSignedAssertions ← lookup.readOr Variables.wantsSignedAssertions readFlag true
    let defaultKeys ← lookup.readOr Variables.keys readKeys []
    .ok {
      registrationId := (lookup.given Variables.registrationId).getD standardRegistrationId
      entityId
      entityAlias := lookup Variables.entityAlias
      nameIdFormat := lookup.given Variables.nameIdFormat
      signing := ⟨signsRequests, wantsSignedAssertions⟩
      defaultKeys }

/-- **Loads a configuration from variables.** -/
def load (lookup : Variables) : Except ConfigError ProviderConfig := do
  let config ← ofVariables lookup
  config.validate
  .ok config

end ProviderConfig

end RelyingParty
