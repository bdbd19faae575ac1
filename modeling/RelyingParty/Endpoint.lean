/-!
# Endpoint — where a registration's messages are sent

The locations of a registration are templates: they begin with a placeholder for the base URL, which
is known only when a request comes in. `expand` puts a base URL, less its trailing slashes, in the
place of every placeholder.
-/

namespace RelyingParty.Endpoint

/-- What stands in a template for the base URL. -/
def placeholder : String := "\x7bbaseUrl\x7d"

/-- The template of the location that assertions are sent to. -/
def consumerLocation (entityAlias : String) : String :=
  placeholder ++ "/saml/SSO/alias/" ++ entityAlias

/-- The template of the location that logout responses are sent to. -/
def logoutLocation (entityAlias : String) : String :=
  placeholder ++ "/saml/SingleLogout/alias/" ++ entityAlias

/-- The base URL less all its trailing slashes. -/
def trimSlashes (baseUrl : List Char) : List Char :=
  (baseUrl.reverse.dropWhile (· == '/')).reverse

/-- Puts `base` in the place of every placeholder, from left to right. -/
def substitute (base : List Char) : List Char → List Char
  | '{' :: 'b' :: 'a' :: 's' :: 'e' :: 'U' :: 'r' :: 'l' :: '}' :: rest =>
    base ++ substitute base rest
  | c :: rest => c :: substitute base rest
  | [] => []

/-- **The location that a template stands for** under the given base URL. -/
def expand (template baseUrl : String) : String :=
  String.ofList (substitute (trimSlashes baseUrl.toList) template.toList)

end RelyingParty.Endpoint
