/-!
# Metadata/Route — the paths under which metadata is found

Metadata of the service's own registration is found under `/saml/metadata`, that of a registration
with a given id under `/saml/metadata/` and the id. A single slash at the end changes nothing, so
two slashes name the empty id.
-/

namespace RelyingParty

/-- **What a path asks for.** -/
inductive Route where
  /-- The service's own registration. -/
  | own
  /-- The registration with an id, which is still percent-encoded. -/
  | named (parameter : String)
  deriving DecidableEq

namespace Route

/-- The path under which all metadata is found. -/
def root : String := "/saml/metadata"

/-- What the path after the root asks for. -/
def ofTail (tail : List Char) : Option Route :=
  match tail with
  | [] => some own
  | '/' :: rest =>
    if rest = [] then some own
    else if rest = ['/'] then some (named "")
    else
      let parameter := rest.takeWhile (· ≠ '/')
      let after := rest.dropWhile (· ≠ '/')
      if parameter ≠ [] ∧ (after = [] ∨ after = ['/']) then some (named (String.ofList parameter))
      else none
  | _ => none

/-- **What a path asks for**, if it is a path of this service. -/
def ofPath (path : String) : Option Route :=
  if root.toList.isPrefixOf path.toList then ofTail (path.toList.drop root.length) else none

end Route

end RelyingParty
