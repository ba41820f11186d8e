import ChainFeed.Index.Store
import ChainFeed.Ingest.Report
import ChainFeed.Ingest.State

/-!
# The progress of a tick

While a tick is under way, its **progress** holds the store and what the follower remembers as they
are at that moment, the report so far, and a **journal** of all writes so far. Nothing but the
writes in the journal changes the store, so a reader who looks in between sees the store after a
first part of the journal.
-/

namespace ChainFeed.Ingest

/-- How far a tick is. -/
structure Progress where
  /-- The store after the writes so far. -/
  store : Store
  /-- What the follower remembers. -/
  state : State
  /-- The report so far. -/
  report : Report
  /-- The writes so far, in the order of time. -/
  journal : Array Write

/-- When a tick happens. -/
structure Moment where
  /-- What the wall clock shows at each write of the tick, by the number of the write. -/
  wall : Nat → Nat
  /-- The reading of a clock that never steps back. -/
  time : Span

namespace Progress

/-- The progress of a tick that starts with a store and a memory. -/
def start (store : Store) (state : State) : Progress :=
  ⟨store, state, Report.initial, #[]⟩

/-- The progress after one more write. -/
def write (moment : Moment) (write : Write) (progress : Progress) : Progress :=
  { progress with
    store := progress.store.write (moment.wall progress.journal.size) write
    journal := progress.journal.push write }

/-- The progress after a change of what the follower remembers. -/
def remember (change : State → State) (progress : Progress) : Progress :=
  { progress with state := change progress.state }

/-- The progress after a failure. -/
def fail (stage : Stage) (target : String) (cause : Cause) (progress : Progress) : Progress :=
  { progress with report := progress.report.fail stage target cause }

/-- The progress after a record that cannot be merged. -/
def skip (_ : Flaw) (progress : Progress) : Progress :=
  { progress with report := progress.report.skip }

end Progress

end ChainFeed.Ingest
