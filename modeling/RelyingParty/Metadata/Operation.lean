import RelyingParty.Metadata.Route

/-!
# Metadata/Operation — the machine-readable description of the service
-/

namespace RelyingParty

/-- A parameter in a path. -/
structure PathParameter where
  name : String
  description : String

/-- **One operation of the service.** -/
structure Operation where
  path : String
  operationId : String
  summary : String
  tag : String
  parameters : List PathParameter := []
  /-- The responses by status. -/
  responses : List (Nat × String)

namespace Operation

/-- The response with metadata. -/
def served : Nat × String := (200, "SP metadata XML offered as a download")

/-- The response when the renderer fails. -/
def failed : Nat × String := (500, "Failed to generate metadata")

/-- Metadata of the service's own registration. -/
def ownMetadata : Operation where
  path := Route.root
  operationId := "get_metadata"
  summary := "Return SP metadata for the tenant-scoped registration"
  tag := "SAML"
  responses := [served, failed]

/-- Metadata of the registration with a given id. -/
def namedMetadata : Operation where
  path := Route.root ++ "/\x7bregistration_id\x7d"
  operationId := "get_metadata_by_id"
  summary := "Return SP metadata for a named registration"
  tag := "SAML"
  parameters := [⟨"registration_id", "Relying party registration id"⟩]
  responses := [served, (404, "Unknown registration id"), failed]

/-- Every operation. -/
def all : List Operation := [ownMetadata, namedMetadata]

end Operation

end RelyingParty
