/-
Federation/Config/Reader.lean

Settings in a document.

Each section of the settings is a record of the document, each setting a field
of its section. What the document does not set has its default. Keys that name
no setting do not count.
-/
import Federation.Config.Basic
import Federation.Config.Record
import Federation.Toml.Document

namespace Federation

/-! ### The words for modes -/

/-- The word for a coordination. -/
def Coordination.word : Coordination → String
  | centralized => "centralized"
  | decentralized => "decentralized"

/-- The word for a mode of synchronisation. -/
def ClockSyncMode.word : ClockSyncMode → String
  | off => "off"
  | init => "init"
  | on => "on"

/-- The word for what becomes of a start without a peer. -/
def PeerRequirement.word : PeerRequirement → String
  | strict => "strict"
  | bestEffort => "best_effort"

/-- The value that a word stands for, among all there are. -/
def ofWord? {α : Type} (all : List α) (word : α → String) (i : Toml.Item) :
    Option α := do
  let w ← i.word?
  all.find? (word · = w)

instance : Written Coordination :=
  ⟨ofWord? [.centralized, .decentralized] Coordination.word⟩

instance : Written ClockSyncMode := ⟨ofWord? [.off, .init, .on] ClockSyncMode.word⟩

instance : Written PeerRequirement :=
  ⟨ofWord? [.strict, .bestEffort] PeerRequirement.word⟩

/-! ### The sections -/

open RecordReader

instance : Written FederateId := ⟨fun i => (Written.ofItem? i).map FederateId.mk⟩

instance : Written RetryPolicy := ⟨RecordReader.ofItem? do
  let d : RetryPolicy := {}
  let maxAttempts ← field "max_attempts" d.maxAttempts
  let initialBackoff ← field "initial_backoff" d.initialBackoff
  let maxBackoff ← field "max_backoff" d.maxBackoff
  let jitter ← field "jitter" d.jitter
  return { maxAttempts, initialBackoff, maxBackoff, jitter }⟩

instance : Written CoordinatorSettings := ⟨RecordReader.ofItem? do
  let d : CoordinatorSettings := {}
  let host ← field "host" d.host
  let port ← field "port" d.port
  let connectTimeout ← field "connect_timeout" d.connectTimeout
  let retry ← field "retry" d.retry
  return { host, port, connectTimeout, retry }⟩

instance : Written CoordinationSettings := ⟨RecordReader.ofItem? do
  let d : CoordinationSettings := {}
  let mode ← field "mode" d.mode
  let stpOffset ← field "stp_offset" d.stpOffset
  return { mode, stpOffset }⟩

instance : Written ClockSyncSettings := ⟨RecordReader.ofItem? do
  let d : ClockSyncSettings := {}
  let mode ← field "mode" d.mode
  let exchanges ← field "exchanges_per_interval" d.exchanges
  let period ← field "period" d.period
  let force ← field "force" d.force
  let testOffset ← optional "test_offset"
  return { mode, exchanges, period, force, testOffset }⟩

instance : Written ServerSettings := ⟨RecordReader.ofItem? do
  let d : ServerSettings := {}
  let host ← field "host" d.host
  let port ← optional "port"
  let basePort ← field "base_port" d.basePort
  let portRange ← field "port_range" d.portRange
  return { host, port, basePort, portRange }⟩

instance : Written OutboundPeer := ⟨RecordReader.ofItem? do
  let id ← required "id"
  let address ← optional "address"
  return { id, address }⟩

instance : Written PeerSettings := ⟨RecordReader.ofItem? do
  let d : PeerSettings := {}
  let inbound ← field "inbound" d.inbound
  let outbound ← field "outbound" d.outbound
  let connectTimeout ← field "connect_timeout" d.connectTimeout
  let unreachable ← field "unreachable" d.unreachable
  let retry ← field "retry" d.retry
  return { inbound, outbound, connectTimeout, unreachable, retry }⟩

instance : Written Config := ⟨RecordReader.ofItem? do
  let federate ← required "federate_id"
  let federationId ← required "federation_id"
  let coordinator ← field "coordinator" {}
  let coordination ← field "coordination" {}
  let clockSync ← field "clock_sync" {}
  let server ← field "server" {}
  let peers ← field "peers" {}
  return { federate, federationId, coordinator, coordination, clockSync,
           server, peers }⟩

namespace Config

/-- The settings that a text holds. -/
def read (text : String) : Except ConfigError Config :=
  match Toml.read? text >>=
    fun entries => Written.ofItem? (.table .header entries) with
  | some c => .ok c
  | none => .error .malformed

/-- The settings of a file with the given content, which could perhaps not be
read. -/
def load (content : Except IoError String) : Except ConfigError Config := do
  read (← content.mapError .unreadable)

end Config

end Federation
