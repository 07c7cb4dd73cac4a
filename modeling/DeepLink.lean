import DeepLink.Proofs.Files.Confinement
import DeepLink.Proofs.Json.Range
import DeepLink.Proofs.Json.Record
import DeepLink.Proofs.Json.Value
import DeepLink.Proofs.Resolution.Announced
import DeepLink.Proofs.Resolution.Destination
import DeepLink.Proofs.Resolution.Navigations
import DeepLink.Proofs.Resolution.Order
import DeepLink.Proofs.Resolution.Outcome
import DeepLink.Proofs.Resolution.Past
import DeepLink.Proofs.Resolution.Race
import DeepLink.Proofs.Routing.Admission
import DeepLink.Proofs.Routing.FirstMatch
import DeepLink.Proofs.Routing.Languages
import DeepLink.Proofs.Routing.Seed
import DeepLink.Proofs.Routing.Widening
import DeepLink.Proofs.Rules.Decoding
import DeepLink.Proofs.Rules.Form
import DeepLink.Proofs.Rules.Paths
import DeepLink.Proofs.Rules.Presence
import DeepLink.Proofs.Rules.RoundTrip
import DeepLink.Proofs.Rules.Shares
import DeepLink.Proofs.Rules.Text
import DeepLink.Proofs.Rules.Violations
import DeepLink.Proofs.Rules.Wire
import DeepLink.Proofs.Time.Stamp
import DeepLink.Proofs.Visitor.Appending
import DeepLink.Proofs.Visitor.Descent
import DeepLink.Proofs.Visitor.Leading
import DeepLink.Proofs.Visitor.Replay
import DeepLink.Resolution.Basic
