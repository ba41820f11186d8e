import ChainFeed.Json.Reader
import ChainFeed.Text.Numeral

/-!
# Backing off

A request that fails for a transient reason is made again, after a **delay** that grows as the
Fibonacci numbers do.
-/

namespace ChainFeed

/-- How often and after which delays a request is made again. -/
structure Backoff where
  /-- The first delay, in milliseconds. -/
  startDelayMillis : Nat
  /-- How often a request is made again at most. -/
  maxRetries : Nat
  deriving DecidableEq, Repr

namespace Backoff

/-- Three more attempts, the first after a tenth of a second. -/
def standard : Backoff := ⟨100, 3⟩

/-- The written form of a backoff. -/
def toJson (backoff : Backoff) : Json :=
  .record [
    ("start_delay_millis", .nat backoff.startDelayMillis),
    ("max_retries", .nat backoff.maxRetries)]

/-- Reads a backoff. -/
def read : Reader Backoff := fun d => do
  let slot ← d.slots ["start_delay_millis", "max_retries"]
  some {
    startDelayMillis := ← (slot "start_delay_millis").required (Doc.readNat Text.word64)
    maxRetries := ← (slot "max_retries").required (Doc.readNat Text.word64) }

end Backoff

/-- The delay before an attempt and the one before the attempt after it, in milliseconds. -/
structure Delays where
  /-- The delay that comes next. -/
  current : Nat
  /-- The delay after it. -/
  next : Nat
  deriving DecidableEq, Repr

namespace Delays

/-- The delays of a backoff: the first two are the same. -/
def start (backoff : Backoff) : Delays := ⟨backoff.startDelayMillis, backoff.startDelayMillis⟩

/-- The delays after the next one: each is the sum of the two before it, as far as that can be
written in 64 bits. -/
def step (delays : Delays) : Delays :=
  ⟨delays.next, min (delays.current + delays.next) (Text.word64 - 1)⟩

end Delays

end ChainFeed
