/-!
# Http/Request — which requests are well formed, and the path that they name

A request has a method and a target. The method is any token. The target is a path with perhaps a
query and a fragment, an absolute address, a bare authority, or `*`. Only its path matters here; the
rest has to be well formed and is dropped. An absolute address without a path names `/`, and a bare
authority names no path at all.
-/

namespace RelyingParty.Http

/-- **A well-formed request.** -/
structure Request where
  method : String
  path : String
  deriving DecidableEq

/-! ## Characters -/

/-- The characters of a token. -/
def isTokenChar (c : Char) : Bool := c.isAlphanum || "!#$%&'*+-.^_`|~".toList.contains c

/-- The characters of a scheme. -/
def isSchemeChar (c : Char) : Bool := c.isAlphanum || "+-.~".toList.contains c

/-- The characters of an authority; `%` has rules of its own. -/
def isAuthorityChar (c : Char) : Bool := c.isAlphanum || "!$&'()*+,-.:;=@[]_~".toList.contains c

/-- Whether a character may stand in a path or a query at all: no space and no ASCII control. Beyond
ASCII all are taken as they are. -/
def isTargetChar (c : Char) : Bool := 0x21 ≤ c.toNat && c.toNat ≠ 0x7F

/-- The characters of a path. -/
def isPathChar (c : Char) : Bool := isTargetChar c && !("#<>?`".toList.contains c)

/-- The characters of a query. -/
def isQueryChar (c : Char) : Bool := isTargetChar c && !("\"#<>".toList.contains c)

/-! ## Targets -/

/-- Whether a character ends an authority. -/
def endsAuthority (c : Char) : Bool := c = '/' || c = '?' || c = '#'

/-- What has been seen of an authority. -/
structure AuthorityScan where
  /-- Colons since the user information and the bracketed address. -/
  colons : Nat := 0
  opened : Bool := false
  closed : Bool := false
  /-- A `%` since the user information and the bracketed address. -/
  percent : Bool := false

/-- The scan after one more character, unless no authority goes on like this. -/
def AuthorityScan.step (scan : AuthorityScan) (c : Char) : Option AuthorityScan :=
  if c = ':' then if scan.colons < 8 then some { scan with colons := scan.colons + 1 } else none
  else if c = '[' then
    if scan.percent || scan.opened then none else some { scan with opened := true }
  else if c = ']' then
    if !scan.opened || scan.closed then none
    else some { scan with closed := true, colons := 0, percent := false }
  else if c = '@' then some { scan with colons := 0, percent := false }
  else if c = '%' then some { scan with percent := true }
  else if isAuthorityChar c then some scan
  else none

/-- Whether the text is an authority: at most one colon after the host, one address in brackets,
something after the user information, and `%` only where it may stand. -/
def isAuthority (cs : List Char) : Bool :=
  match cs.foldlM AuthorityScan.step {} with
  | some scan =>
    scan.opened == scan.closed && scan.colons ≤ 1 && !scan.percent && cs.getLast? != some '@'
  | none => false

/-- The path of a text that is a path, perhaps with a query and a fragment. -/
def pathBeforeQuery? (cs : List Char) : Option (List Char) :=
  let path := cs.takeWhile fun c => c ≠ '?' ∧ c ≠ '#'
  let queryIsFine := match cs.drop path.length with
    | '?' :: query => (query.takeWhile (· ≠ '#')).all isQueryChar
    | _ => true
  if path.all isPathChar && queryIsFine then some path else none

/-- What follows the scheme of an absolute address. -/
def afterScheme? (cs : List Char) : Option (List Char) :=
  let scheme := cs.takeWhile isSchemeChar
  match cs.drop scheme.length with
  | ':' :: '/' :: '/' :: rest => if scheme.length ≤ 64 then some rest else none
  | _ => none

/-- The path of an absolute address less its scheme. -/
def pathAfterAuthority? (cs : List Char) : Option (List Char) :=
  let authority := cs.takeWhile (!endsAuthority ·)
  if authority.isEmpty || !isAuthority authority then none
  else do
    let path ← pathBeforeQuery? (cs.drop authority.length)
    return if path.isEmpty then ['/'] else path

/-- The greatest number of bytes in a target. -/
def maxTargetSize : Nat := 65534

/-- **The path that a target names**, if the target is well formed. -/
def targetPath? (target : String) : Option String :=
  let cs := target.toList
  if cs.isEmpty || maxTargetSize < target.utf8ByteSize then none
  else if cs = ['*'] then some "*"
  else if cs.head? = some '/' then (pathBeforeQuery? cs).map String.ofList
  else match afterScheme? cs with
    | some rest => (pathAfterAuthority? rest).map String.ofList
    | none => if !cs.any endsAuthority && isAuthority cs then some "" else none

/-- **The request with the given method and target**, if both are well formed. -/
def Request.parse? (method target : String) : Option Request :=
  if method.isEmpty || !method.toList.all isTokenChar then none
  else (targetPath? target).map fun path => { method, path }

end RelyingParty.Http
