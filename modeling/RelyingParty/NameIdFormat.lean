/-!
# NameIdFormat — the name identifier formats that registrations may ask for
-/

namespace RelyingParty

/-- **A format of name identifiers.** -/
inductive NameIdFormat where
  | email
  | persistent
  | transient
  | unspecified
  | x509Subject
  deriving DecidableEq

namespace NameIdFormat

/-- The name of the format in SAML messages. -/
def urn : NameIdFormat → String
  | email => "urn:oasis:names:tc:SAML:1.1:nameid-format:emailAddress"
  | persistent => "urn:oasis:names:tc:SAML:2.0:nameid-format:persistent"
  | transient => "urn:oasis:names:tc:SAML:2.0:nameid-format:transient"
  | unspecified => "urn:oasis:names:tc:SAML:1.1:nameid-format:unspecified"
  | x509Subject => "urn:oasis:names:tc:SAML:1.1:nameid-format:X509SubjectName"

/-- Every format. -/
def all : List NameIdFormat := [email, persistent, transient, unspecified, x509Subject]

theorem mem_all (f : NameIdFormat) : f ∈ all := by cases f <;> decide

/-- Whether the text is the name of a format. -/
def isSupported (name : String) : Bool := all.any (·.urn == name)

theorem isSupported_iff {name : String} : isSupported name = true ↔ ∃ f, urn f = name := by
  simp [isSupported, mem_all]

end NameIdFormat

end RelyingParty
