import RelyingParty.Json.Fault

/-!
# ConfigError — why a service provider cannot be set up
-/

namespace RelyingParty

/-- What is wrong with the value of a variable. -/
inductive ValueProblem where
  /-- The text, trimmed and in lower case, is no truth value. -/
  | notFlag (text : String)
  /-- The text is not the JSON form of a list of key pairs. -/
  | notKeyList (fault : Json.Fault)
  /-- A problem in the words of whoever found it. -/
  | described (words : String)
  deriving DecidableEq

/-- The problem in words. -/
def ValueProblem.message : ValueProblem → String
  | notFlag text => "expected a boolean, got '" ++ text ++ "'"
  | notKeyList fault => "Invalid JSON: " ++ fault.message
  | described words => words

/-- **Why a service provider cannot be set up.** -/
inductive ConfigError where
  | missingVariable (name : String)
  | invalidValue (variableName : String) (problem : ValueProblem)
  | blankEntityId
  | blankAlias
  | blankRegistrationId
  /-- The id is the one of the example registration. -/
  | reservedRegistrationId (id : String)
  deriving DecidableEq

/-- **The error in words.** -/
def ConfigError.message : ConfigError → String
  | missingVariable name => "Missing required environment variable: " ++ name
  | invalidValue variableName problem =>
    "Invalid value for " ++ variableName ++ ": " ++ problem.message
  | blankEntityId => "Default SAML entity ID must not be empty"
  | blankAlias => "SAML entity ID alias must not be empty when set"
  | blankRegistrationId => "Registration ID must not be empty"
  | reservedRegistrationId id =>
    "Registration ID '" ++ id ++ "' is reserved for the example registration"

end RelyingParty
