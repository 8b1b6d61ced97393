import Observatory.Document.Writer
import Observatory.Http.Answer
import Observatory.Main
import Observatory.Watch
import Observatory.Proofs.Cache.Window
import Observatory.Proofs.Monitor.Profile
import Observatory.Proofs.Monitor.Books
import Observatory.Proofs.Monitor.Accounting
import Observatory.Proofs.Monitor.Lifecycle
import Observatory.Proofs.Monitor.Overflow
import Observatory.Proofs.Monitor.Registration
import Observatory.Proofs.Monitor.Answers
import Observatory.Proofs.Monitor.Attempts
import Observatory.Proofs.Vigil
import Observatory.Proofs.Finished
import Observatory.Proofs.Schedule.Completion
import Observatory.Proofs.Schedule.Isolation
import Observatory.Proofs.Cache.Arrivals
import Observatory.Proofs.Cache.Order
import Observatory.Proofs.Acceptance
import Observatory.Proofs.Aggregation.Count
import Observatory.Proofs.Vigil.Single
import Observatory.Proofs.Vigil.Memory
import Observatory.Proofs.Vigil.Sightings
import Observatory.Proofs.Text.Decimal
import Observatory.Proofs.Trace.Grammar
import Observatory.Proofs.Calendar.Notation
import Observatory.Proofs.Trace.Rendering
import Observatory.Proofs.Aggregation.Merge
import Observatory.Proofs.Exclusion
import Observatory.Proofs.Cache.Placement
import Observatory.Proofs.Cluster.OwnerChain
import Observatory.Proofs.Identity
import Observatory.Proofs.Vulnerability
import Observatory.Proofs.Stream
import Observatory.Proofs.Text.Lossy
import Observatory.Proofs.Trace.Decoding
import Observatory.Proofs.Credential.Priority
import Observatory.Proofs.Document.Grammar
import Observatory.Proofs.Credential.Secret
import Observatory.Proofs.Profile
import Observatory.Proofs.Tracer
import Observatory.Proofs.Document.Extension
import Observatory.Proofs.Document.Writing
import Observatory.Proofs.Storage
import Observatory.Proofs.Monitor.Retention
import Observatory.Proofs.Schedule.Interleaving
