import Waymark.Expansion
import Waymark.Label.Json
import Waymark.Path.Typed
import Waymark.Proofs.Identifier
import Waymark.Proofs.Binding
import Waymark.Proofs.Chain
import Waymark.Proofs.History
import Waymark.Sample.Desk
import Waymark.Sample.Gallery
import Waymark.Sample.Script
import Waymark.Workspace
import Waymark.Proofs.DepthFirst
import Waymark.Proofs.Filling
import Waymark.Proofs.Transparency
import Waymark.Proofs.Segments
import Waymark.Proofs.Following
import Waymark.Proofs.RoundTrip
import Waymark.Proofs.Correspondence
import Waymark.Proofs.TypedPath
import Waymark.Proofs.Strictness
import Waymark.Proofs.Traversal
import Waymark.Proofs.Refusal
import Waymark.Proofs.Rounding
import Waymark.Proofs.Shortest
import Waymark.Proofs.Numeral
import Waymark.Proofs.Written
import Waymark.Proofs.Transmission
import Waymark.Proofs.Delivery
import Waymark.Proofs.Takeover
import Waymark.Proofs.ParameterTags
import Waymark.Proofs.Verdict
import Waymark.Proofs.SharedTags
import Waymark.Proofs.Labelling
import Waymark.Proofs.GeneratedCode
import Waymark.Proofs.GeneratedSides
import Waymark.Proofs.Running
import Waymark.Proofs.Acceptance
import Waymark.Proofs.Clearing
import Waymark.Proofs.Spelling
import Waymark.Proofs.Listing
import Waymark.Proofs.TypedArguments
import Waymark.Proofs.Reachability
