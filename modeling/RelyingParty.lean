import RelyingParty.Metadata.Operation
import RelyingParty.NameIdFormat
import RelyingParty.Proofs.Isolation
import RelyingParty.Proofs.History
import RelyingParty.Proofs.Outcome
import RelyingParty.Proofs.Secrecy
import RelyingParty.Proofs.Json.Document
import RelyingParty.Proofs.Json.Scanning
import RelyingParty.Proofs.Json.Skipping
import RelyingParty.Proofs.Json.Decoding
import RelyingParty.Proofs.Json.Muting
import RelyingParty.Proofs.Quoted
import RelyingParty.Proofs.Refusal
import RelyingParty.Proofs.Json.Choosing
import RelyingParty.Proofs.Json.Escaping
import RelyingParty.Proofs.Json.Format
import RelyingParty.Proofs.Json.Following
import RelyingParty.Proofs.Identifier
import RelyingParty.Proofs.Forms
import RelyingParty.Proofs.Loading
import RelyingParty.Proofs.Disposition
import RelyingParty.Proofs.RequestTenant
import RelyingParty.Proofs.Json.Members
import RelyingParty.Proofs.TextForms
import RelyingParty.Proofs.Naming
import RelyingParty.Proofs.Credentials
import RelyingParty.Proofs.Disclosure
import RelyingParty.Proofs.Placeholder
import RelyingParty.Proofs.Confinement
import RelyingParty.Proofs.Json.Recognition
import RelyingParty.Proofs.KeyList
import RelyingParty.Proofs.Acceptance
import RelyingParty.Proofs.ExampleRegistration
import RelyingParty.Proofs.TruthValue
