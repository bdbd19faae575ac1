/-!
# Http/Response — what a client gets back
-/

namespace RelyingParty.Http

/-- **A response**: its status, the headers that the service sets, and its body. -/
structure Response where
  status : Nat
  contentType : Option String := none
  contentDisposition : Option String := none
  allow : Option String := none
  body : String := ""
  deriving DecidableEq

/-- The response less its body, as a HEAD request gets it. -/
def Response.withoutBody (r : Response) : Response := { r with body := "" }

/-- The headers that are present. -/
def Response.headers (r : Response) : List (String × String) :=
  [("content-type", r.contentType), ("content-disposition", r.contentDisposition),
    ("allow", r.allow)].filterMap fun (name, value) => value.map (name, ·)

end RelyingParty.Http
