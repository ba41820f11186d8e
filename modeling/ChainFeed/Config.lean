import ChainFeed.Address
import ChainFeed.Gateway.AccessNode
import ChainFeed.Ingest.State

/-!
# Configuration

What the service needs to know: how to reach the access node that is its gateway, how its follower
goes about the ticks, and where it listens. Everything but the gateway's URL has a default. A
configuration that can be read may still be refused, if ticks or requests would never happen, or if
the storage of accounts were listed more often than ticks happen.
-/

namespace ChainFeed

namespace Ingest.Settings

/-- How a follower goes about its ticks unless it is said otherwise. -/
def standard : Ingest.Settings where
  startHeight := none
  maxBlocksPerTick := 50
  maxConcurrentRequests := 8
  storageResyncInterval := Span.ofSeconds 5
  trackedAddresses := []

end Ingest.Settings

/-- What the service needs to know. -/
structure Config where
  /-- How to reach the gateway. -/
  gateway : AccessNode
  /-- How long it is from one tick to the next. -/
  blockPollingInterval : Span
  /-- How the follower goes about its ticks. -/
  ingest : Ingest.Settings
  /-- The number at which the service listens. -/
  portNumber : Nat
  /-- What is logged, if it is not for the environment to say. -/
  logFilter : Option String
  deriving Repr

/-- Why a configuration is refused. -/
inductive ConfigError where
  /-- A tick would merge no blocks. -/
  | noBlocksPerTick
  /-- No request could be under way. -/
  | noConcurrentRequests
  /-- There would be no time between ticks. -/
  | noPollingInterval
  /-- Storage would be listed more often than ticks happen. -/
  | resyncTooOften (resync polling : Span)
  deriving DecidableEq, Repr

namespace ConfigError

/-- The text of the error. -/
def message : ConfigError → String
  | noBlocksPerTick => "max_blocks_per_tick must be positive"
  | noConcurrentRequests => "max_concurrent_requests must be positive"
  | noPollingInterval => "block_polling_interval must be positive"
  | resyncTooOften resync polling =>
    "storage_resync_interval (" ++ resync.brief ++
      ") is shorter than block_polling_interval (" ++ polling.brief ++ ")"

/-- What the service says when it refuses to start. -/
def refusal (e : ConfigError) : String :=
  "Invalid indexer config: " ++ e.message

end ConfigError

namespace Config

/-- The time between ticks unless it is said otherwise. -/
def standardPolling : Span := Span.ofMillis 500

/-- The number at which the service listens unless it is said otherwise. -/
def standardPortNumber : Nat := 8779

/-- The configuration with a gateway at a URL, with defaults for everything else. -/
def standard (addr : Url) : Config :=
  ⟨.standard addr, standardPolling, .standard, standardPortNumber, none⟩

/-- The first reason to refuse a configuration. -/
def error? (config : Config) : Option ConfigError :=
  let resync := config.ingest.storageResyncInterval
  let polling := config.blockPollingInterval
  if config.ingest.maxBlocksPerTick = 0 then some .noBlocksPerTick
  else if config.ingest.maxConcurrentRequests = 0 then some .noConcurrentRequests
  else if polling = Span.zero then some .noPollingInterval
  else if resync < polling then some (.resyncTooOften resync polling)
  else none

/-- The written form of a configuration. -/
def toJson (config : Config) : Json :=
  .record ([
    ("gateway", config.gateway.toJson),
    ("block_polling_interval", .text config.blockPollingInterval.text),
    ("storage_resync_interval", .text config.ingest.storageResyncInterval.text)] ++
    (config.ingest.startHeight.map fun height => ("start_height", Json.nat height)).toList ++ [
    ("max_blocks_per_tick", .nat config.ingest.maxBlocksPerTick),
    ("max_concurrent_requests", .nat config.ingest.maxConcurrentRequests),
    ("tracked_addresses", .texts config.ingest.trackedAddresses),
    ("port", .nat config.portNumber)] ++
    (config.logFilter.map fun filter => ("override_rust_log", Json.text filter)).toList)

/-- The names of a configuration's fields. -/
def fieldNames : List String :=
  ["gateway", "block_polling_interval", "storage_resync_interval", "start_height",
   "max_blocks_per_tick", "max_concurrent_requests", "tracked_addresses", "port",
   "override_rust_log"]

/-- Reads how a follower goes about its ticks. Addresses may be spelled in any way. -/
def readSettings (slot : String → Slot) : Option Ingest.Settings := do
  let standard := Ingest.Settings.standard
  let count := Doc.readNat Text.word64
  let tracked ← (slot "tracked_addresses").orElse (Doc.readList Doc.readText) []
  some {
    startHeight := ← (slot "start_height").orNull count
    maxBlocksPerTick := ← (slot "max_blocks_per_tick").orElse count standard.maxBlocksPerTick
    maxConcurrentRequests :=
      ← (slot "max_concurrent_requests").orElse count standard.maxConcurrentRequests
    storageResyncInterval :=
      ← (slot "storage_resync_interval").orElse Span.read
        standard.storageResyncInterval
    trackedAddresses := tracked.map Address.canonical }

/-- Reads a configuration. -/
def read : Reader Config := fun d => do
  let slot ← d.slots fieldNames
  some {
    gateway := ← (slot "gateway").required AccessNode.read
    blockPollingInterval :=
      ← (slot "block_polling_interval").orElse Span.read standardPolling
    ingest := ← readSettings slot
    portNumber := ← (slot "port").orElse (Doc.readNat Text.word16) standardPortNumber
    logFilter := ← (slot "override_rust_log").orNull Doc.readText }

/-- Whether a field can be read. -/
def accepts (name : String) (d : Doc) : Bool :=
  match name with
  | "gateway" => (AccessNode.read d).isSome
  | "block_polling_interval" | "storage_resync_interval" => (Span.read d).isSome
  | "start_height" => (Slot.orNull (Doc.readNat Text.word64) (.given d)).isSome
  | "max_blocks_per_tick" | "max_concurrent_requests" => (Doc.readNat Text.word64 d).isSome
  | "tracked_addresses" => (Doc.readList Doc.readText d).isSome
  | "port" => (Doc.readNat Text.word16 d).isSome
  | _ => (Slot.orNull Doc.readText (.given d)).isSome

/-- Whether the first field that cannot be read has a span without room for a carry. -/
def carries (d : Doc) : Bool :=
  match d.firstRefused? fieldNames accepts with
  | some ("gateway", d) => AccessNode.carries d
  | some ("block_polling_interval", d) | some ("storage_resync_interval", d) => Span.carries d
  | _ => false

/-- Why the bytes of a file hold no configuration. -/
inductive ReadError where
  /-- They are no document, or not that of a configuration. -/
  | malformed
  /-- The first fault in them is a span whose seconds have no room for a carry. -/
  | carry
  deriving DecidableEq, Repr

/-- The configuration that the bytes of a file hold. They are read in their order, so what comes
behind the first fault does not matter. -/
def ofBytes (bytes : List UInt8) : Except ReadError Config :=
  if (Doc.frontOfBytes? bytes).any carries then .error .carry
  else
    match (Doc.ofBytes? bytes).bind read with
    | some config => .ok config
    | none => .error .malformed

end Config

end ChainFeed
