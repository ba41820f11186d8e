import ChainFeed.Gateway.Error
import ChainFeed.Index.Slice

/-!
# Reports

A tick goes through four **stages** and reports what it did. A failure in one stage does not keep
the others from their work; it is reported with the stage and the target that it concerns.
-/

namespace ChainFeed.Ingest

/-- The stages of a tick. -/
inductive Stage where
  /-- Merging blocks. -/
  | blocks
  /-- Looking up accounts. -/
  | accounts
  /-- Asking for the status of transactions whose execution goes on. -/
  | statuses
  /-- Listing the storage of accounts. -/
  | storage
  deriving DecidableEq, Repr

/-- The name of a stage. -/
def Stage.name : Stage → String
  | blocks => "block ingestion"
  | accounts => "account indexing"
  | statuses => "transaction status refresh"
  | storage => "storage resync"

/-- Why something failed. -/
inductive Cause where
  /-- The gateway gave no answer. -/
  | gateway (e : GatewayError)
  /-- An index refused a write. -/
  | index (e : IndexError)
  deriving DecidableEq, Repr

/-- The text of a cause. -/
def Cause.message : Cause → String
  | gateway e => e.message
  | index e => e.message

/-- Something that failed during a tick. -/
structure Failure where
  /-- The stage that it failed in. -/
  stage : Stage
  /-- The height, address or id that it concerns. -/
  target : String
  /-- Why it failed. -/
  cause : Cause
  deriving DecidableEq, Repr

/-- Why a record of a block cannot be merged. -/
inductive Flaw where
  /-- The record has no id. -/
  | noId
  /-- The record belongs to a block that is not stored. -/
  | unknownBlock (id : String)
  /-- The record belongs to a transaction that is not stored. -/
  | unknownTransaction (id : String)
  deriving DecidableEq, Repr

/-- What a tick did. -/
structure Report where
  /-- How many blocks were merged. -/
  blocksIngested : Nat
  /-- The watermark after the tick. -/
  watermark : Option Nat
  /-- How many accounts were looked up with success. -/
  accountsIndexed : Nat
  /-- How many transactions advanced to another status. -/
  statusesRefreshed : Nat
  /-- What changed in the storage of accounts, if any storage was listed. -/
  storage : Option SliceChange
  /-- How many records could not be merged. -/
  skippedRecords : Nat
  /-- What failed, in the order of time. -/
  failures : List Failure
  deriving DecidableEq, Repr

namespace Report

/-- The report of a tick that has done nothing yet. -/
def initial : Report := ⟨0, none, 0, 0, none, 0, []⟩

/-- Whether nothing failed. -/
def isClean (report : Report) : Bool := report.failures.isEmpty

/-- The report with one more failure. -/
def fail (stage : Stage) (target : String) (cause : Cause) (report : Report) : Report :=
  { report with failures := report.failures ++ [⟨stage, target, cause⟩] }

/-- The report with one more record that could not be merged. -/
def skip (report : Report) : Report :=
  { report with skippedRecords := report.skippedRecords + 1 }

end Report

end ChainFeed.Ingest
