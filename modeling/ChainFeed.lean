import ChainFeed.Config
import ChainFeed.Gateway.Calls
import ChainFeed.Gateway.Fanout
import ChainFeed.Gateway.Scripted
import ChainFeed.Gateway.ScriptedServer
import ChainFeed.Ingest.Follower
import ChainFeed.Json.Printer
import ChainFeed.Proofs.Cadence.Decoding
import ChainFeed.Proofs.Gateway.Acts
import ChainFeed.Proofs.Gateway.Completeness
import ChainFeed.Proofs.Gateway.Flights
import ChainFeed.Proofs.Gateway.Legible
import ChainFeed.Proofs.Gateway.Retries
import ChainFeed.Proofs.Index.Renewal
import ChainFeed.Proofs.Index.Repetition
import ChainFeed.Proofs.Index.Roster
import ChainFeed.Proofs.Index.Slice
import ChainFeed.Proofs.Index.Stamps
import ChainFeed.Proofs.Ingest.Acceptance
import ChainFeed.Proofs.Ingest.Advancement
import ChainFeed.Proofs.Ingest.Convergence
import ChainFeed.Proofs.Ingest.Discovery
import ChainFeed.Proofs.Ingest.Failures
import ChainFeed.Proofs.Ingest.Hollow
import ChainFeed.Proofs.Ingest.Isolation
import ChainFeed.Proofs.Ingest.Lookups
import ChainFeed.Proofs.Ingest.Moments
import ChainFeed.Proofs.Ingest.Nameless
import ChainFeed.Proofs.Ingest.Placement
import ChainFeed.Proofs.Ingest.Queue
import ChainFeed.Proofs.Ingest.Quiet
import ChainFeed.Proofs.Ingest.References
import ChainFeed.Proofs.Ingest.Reordering
import ChainFeed.Proofs.Ingest.Repetition
import ChainFeed.Proofs.Ingest.Restart
import ChainFeed.Proofs.Ingest.Resync
import ChainFeed.Proofs.Ingest.Tracked
import ChainFeed.Proofs.Ingest.Transcript
import ChainFeed.Proofs.Ingest.Visibility
import ChainFeed.Proofs.Ingest.Withheld
import ChainFeed.Proofs.Payload.Canonical
import ChainFeed.Proofs.Payload.Paths
import ChainFeed.Proofs.Polling.Delivery
import ChainFeed.Proofs.Resource.Parts
import ChainFeed.Proofs.Resource.RoundTrip
import ChainFeed.Proofs.Schedule.Exclusion
import ChainFeed.Proofs.Schedule.Punctuality
import ChainFeed.Proofs.Schedule.Stopping
import ChainFeed.Proofs.Service.Accounts
import ChainFeed.Resource.Sample
import ChainFeed.Schedule.Plan
import ChainFeed.Service.Cors
