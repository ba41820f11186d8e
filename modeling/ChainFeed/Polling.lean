import ChainFeed.Index.Basic

/-!
# Polling

A client asks for what changed after a **bound** and is answered with the changed resources and the
latest stamp among them, which it sends as the bound of its next request. An answer without
resources has the latest stamp zero.
-/

namespace ChainFeed

open Resource

/-- A client's question: what changed after the bound? -/
structure PollingQuery where
  /-- The bound, zero to ask for everything. -/
  timestamp : Nat
  deriving DecidableEq, Repr

namespace PollingQuery

/-- Reads a question; one that names no bound asks for everything. -/
def read : Reader PollingQuery := fun d => do
  let slot ← d.slots ["timestamp"]
  some { timestamp := ← (slot "timestamp").orElse (Doc.readNat Text.word64) 0 }

/-- The written form of a question. -/
def toJson (query : PollingQuery) : Json :=
  .record [("timestamp", .nat query.timestamp)]

end PollingQuery

/-- The latest stamp among some resources, zero if there are none. -/
def latestStamp {R : Type} [Resource R] (resources : List R) : Nat :=
  (resources.map changedAt).foldl max 0

/-- The answer to a client's question. -/
structure PollingResponse (R : Type) where
  /-- The changed resources. -/
  data : List R
  /-- The latest stamp among them. -/
  latest : Nat
  deriving Repr

namespace PollingResponse

variable {R : Type} [Resource R]

/-- The answer that holds the resources. -/
def of (resources : List R) : PollingResponse R :=
  ⟨resources, latestStamp resources⟩

/-- The written form of an answer. -/
def toJson (response : PollingResponse R) : Json :=
  .record [
    ("data", .list (response.data.map Resource.toJson)),
    ("meta", .record [("latestTimestamp", .nat response.latest)])]

/-- Reads the latest stamp of an answer. -/
def readLatest : Reader Nat := fun d => do
  let slot ← d.slots ["latestTimestamp"]
  (slot "latestTimestamp").required (Doc.readNat Text.word64)

/-- Reads an answer. -/
def read : Reader (PollingResponse R) := fun d => do
  let slot ← d.slots ["data", "meta"]
  some {
    data := ← (slot "data").required (Doc.readList Resource.read)
    latest := ← (slot "meta").required readLatest }

end PollingResponse

namespace Index

variable {R : Type} [Resource R]

/-- The answer to a question about the resources that fulfil a condition. -/
def pollWhere (query : PollingQuery) (keep : R → Bool) (index : Index R) : PollingResponse R :=
  .of (index.filter fun resource => query.timestamp < changedAt resource && keep resource)

/-- The answer to a question about all resources. -/
def poll (query : PollingQuery) (index : Index R) : PollingResponse R :=
  .of (index.changedAfter query.timestamp)

end Index

end ChainFeed
