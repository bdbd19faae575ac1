import RelyingParty.Tenant
import RelyingParty.Text.Percent

/-!
# Metadata/Download — under which name metadata is saved

A response offers its document as a download under a name that tells the tenants apart. The header
gives the name twice: between quotes, less the characters that cannot stand there, and
percent-encoded without any loss.
-/

namespace RelyingParty.Download

/-- The name of a tenant's metadata. -/
def filename (t : Tenant) : String :=
  if t.isDefault then "saml-sp.xml" else "saml-" ++ t.subdomain ++ "-sp.xml"

/-- Control characters. -/
def isControl (c : Char) : Bool := c.toNat < 0x20 || (0x7F ≤ c.toNat && c.toNat < 0xA0)

/-- Whether a character may stand between quotes in a header. -/
def isQuotable (c : Char) : Bool := !isControl c && c != '"' && c != '\\'

/-- **The header that offers a document under the given name.** -/
def contentDisposition (name : String) : String :=
  "attachment; filename=\"" ++ String.ofList (name.toList.filter isQuotable)
    ++ "\"; filename*=UTF-8''" ++ Text.Percent.encode name

end RelyingParty.Download
