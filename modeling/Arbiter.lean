import Arbiter.Main
import Arbiter.Naming
import Arbiter.Proofs.Abandoned
import Arbiter.Proofs.Engine.Accounting
import Arbiter.Proofs.Engine.Atomicity
import Arbiter.Proofs.Engine.Depth
import Arbiter.Proofs.Engine.FailSafe
import Arbiter.Proofs.Engine.Locality
import Arbiter.Proofs.Engine.Status
import Arbiter.Proofs.Engine.Validity
import Arbiter.Proofs.Inlining
import Arbiter.Proofs.Recency
import Arbiter.Proofs.Recursion
import Arbiter.Proofs.Reporting
import Arbiter.Proofs.Applicability
import Arbiter.Proofs.Mirror
import Arbiter.Proofs.Precedence
import Arbiter.Proofs.Skipping
import Arbiter.Proofs.Flattening
import Arbiter.Proofs.Interruption
import Arbiter.Proofs.Containment
import Arbiter.Proofs.Json.Fits
import Arbiter.Proofs.Json.Shape
import Arbiter.Proofs.Json.Record
import Arbiter.Proofs.Format.Condition
import Arbiter.Proofs.Format.Policy
import Arbiter.Proofs.Format.Exchange
import Arbiter.Proofs.Json.Stored
import Arbiter.Proofs.Format.Kept
import Arbiter.Proofs.Json.Casting
import Arbiter.Proofs.Json.Parsing
import Arbiter.Proofs.Json.Scanning
import Arbiter.Proofs.Json.Text
import Arbiter.Proofs.RoundTrip
import Arbiter.Proofs.Dual
import Arbiter.Proofs.Engine.Reordering
import Arbiter.Proofs.Magnitude
import Arbiter.Proofs.Spelling
