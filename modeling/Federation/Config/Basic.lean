/-
Federation/Config/Basic.lean

The settings of a federate.

A federate needs a number and the id of its federation; everything else has a
default. Settings can be written down that make no sense together:
`Config.flaws` lists what is wrong with them, in the order in which flaws are
reported, and settings are valid if there is none.

A federate that may choose its server port tries the ports of a range, which
must not go beyond the last port there is; with a fixed port the range does not
matter.
-/
import Federation.ClockSync.Round
import Federation.Connection
import Federation.Retry

namespace Federation

/-- The first port that is tried by default. -/
def defaultPort : UInt16 := 15045

/-- Where the coordinator listens, and how hard to try to reach it. -/
structure CoordinatorSettings where
  host : String := "localhost"
  port : UInt16 := defaultPort
  connectTimeout : Duration := .ofSeconds 5
  retry : RetryPolicy := {}

/-- How the federation is coordinated. -/
structure CoordinationSettings where
  mode : Coordination := .centralized
  /-- The safe-to-process offset of the whole federate. -/
  stpOffset : Duration := .zero

/-- How the clock is synchronised with the coordinator's. -/
structure ClockSyncSettings where
  mode : ClockSyncMode := .init
  /-- The number of exchanges of a round. -/
  exchanges : UInt16 := 10
  /-- The time between two rounds. -/
  period : Duration := .ofSeconds 5
  /-- Whether to synchronise even on the coordinator's host. -/
  force : Bool := false
  /-- The skew that federates start with in tests. -/
  testOffset : Option Duration := none

/-- Where the federate listens for its peers. -/
structure ServerSettings where
  host : String := "0.0.0.0"
  /-- The port, if it is fixed. -/
  port : Option UInt16 := none
  /-- The first of the ports to try. -/
  basePort : UInt16 := defaultPort
  /-- The number of ports to try. -/
  portRange : UInt16 := 1024

/-- What becomes of the start if a peer cannot be reached. -/
inductive PeerRequirement where
  /-- It fails. -/
  | strict
  /-- It goes on without the peer. -/
  | bestEffort
deriving DecidableEq

/-- A peer to connect to. Without an address the coordinator is asked for it. -/
structure OutboundPeer where
  id : FederateId
  address : Option String := none
deriving DecidableEq

/-- The peers that are set beyond those that the connections imply. -/
structure PeerSettings where
  inbound : List FederateId := []
  outbound : List OutboundPeer := []
  /-- How long to wait for the inbound peers. -/
  connectTimeout : Duration := .ofSeconds 30
  unreachable : PeerRequirement := .strict
  retry : RetryPolicy := {}

/-- The address that is set for a peer. -/
def PeerSettings.addressOf (s : PeerSettings) (peer : FederateId) : Option String :=
  (s.outbound.find? (·.id = peer)).bind (·.address)

/-- The settings of a federate. -/
structure Config where
  federate : FederateId
  federationId : String
  coordinator : CoordinatorSettings := {}
  coordination : CoordinationSettings := {}
  clockSync : ClockSyncSettings := {}
  server : ServerSettings := {}
  peers : PeerSettings := {}

/-- What is wrong with the settings of a federate. -/
inductive ConfigFlaw where
  | emptyFederationId
  | longFederationId (bytes : Nat)
  | emptyCoordinatorHost
  | noCoordinatorAttempts
  | noPeerAttempts
  | noExchanges
  | noPeriod
  | emptyPortRange
  | portRangeBeyondLast
  | ownOutboundPeer (me : FederateId)
  | repeatedOutboundPeer (peer : FederateId)
  | ownInboundPeer (me : FederateId)
deriving DecidableEq

/-- The text of a flaw. -/
def ConfigFlaw.message : ConfigFlaw → String
  | emptyFederationId => "federation_id must not be empty"
  | longFederationId bytes =>
    "federation_id is " ++ toString bytes ++ " bytes, at most " ++
      toString Frame.maxFederationId ++ " allowed"
  | emptyCoordinatorHost => "coordinator.host must not be empty"
  | noCoordinatorAttempts => "coordinator.retry.max_attempts must be at least 1"
  | noPeerAttempts => "peers.retry.max_attempts must be at least 1"
  | noExchanges => "clock_sync.exchanges_per_interval must be at least 1"
  | noPeriod => "clock_sync.period must be positive"
  | emptyPortRange => "server.port_range must be at least 1"
  | portRangeBeyondLast => "server.base_port + server.port_range exceeds 65535"
  | ownOutboundPeer me => me.render ++ " is listed as its own outbound peer"
  | repeatedOutboundPeer peer => "outbound peer " ++ peer.render ++ " listed twice"
  | ownInboundPeer me => me.render ++ " is listed as its own inbound peer"

/-- Why there are no settings. -/
inductive ConfigError where
  /-- They cannot be read from their file. -/
  | unreadable (source : IoError)
  /-- They are not written as settings are. -/
  | malformed
  /-- They make no sense together. -/
  | invalid (flaw : ConfigFlaw)
deriving DecidableEq

/-- The text of settings that make no sense together. -/
def ConfigFlaw.report (flaw : ConfigFlaw) : String :=
  "invalid configuration: " ++ flaw.message

/-- The flaw, if the condition holds. -/
def ConfigFlaw.when (flaw : ConfigFlaw) (condition : Prop)
    [Decidable condition] : List ConfigFlaw :=
  if condition then [flaw] else []

/-- What is wrong with the ports to try. -/
def ServerSettings.flaws (s : ServerSettings) : List ConfigFlaw :=
  match s.port with
  | some _ => []
  | none =>
    ConfigFlaw.when .emptyPortRange (s.portRange = 0) ++
    ConfigFlaw.when .portRangeBeyondLast
      (65536 < s.basePort.toNat + s.portRange.toNat)

/-- What is wrong with the outbound peers of federate `me`, of which `before`
have been seen. -/
def OutboundPeer.flaws (me : FederateId) (before : List FederateId) :
    List OutboundPeer → List ConfigFlaw
  | [] => []
  | p :: rest =>
    ConfigFlaw.when (.ownOutboundPeer me) (p.id = me) ++
    ConfigFlaw.when (.repeatedOutboundPeer p.id) (p.id ∈ before) ++
      flaws me (p.id :: before) rest

namespace Config

variable (c : Config)

/-- The safe-to-process offset as an interval. -/
def stpOffset : Interval := .ofDuration c.coordination.stpOffset

/-- All that is wrong with the settings. -/
def flaws : List ConfigFlaw :=
  ConfigFlaw.when .emptyFederationId (c.federationId = "") ++
  ConfigFlaw.when (.longFederationId c.federationId.utf8ByteSize)
    (Frame.maxFederationId < c.federationId.utf8ByteSize) ++
  ConfigFlaw.when .emptyCoordinatorHost (c.coordinator.host = "") ++
  ConfigFlaw.when .noCoordinatorAttempts (c.coordinator.retry.maxAttempts = 0) ++
  ConfigFlaw.when .noPeerAttempts (c.peers.retry.maxAttempts = 0) ++
  ConfigFlaw.when .noExchanges
    (c.clockSync.mode ≠ .off ∧ c.clockSync.exchanges = 0) ++
  ConfigFlaw.when .noPeriod (c.clockSync.mode = .on ∧ c.clockSync.period.isZero) ++
  c.server.flaws ++
  OutboundPeer.flaws c.federate [] c.peers.outbound ++
  ConfigFlaw.when (.ownInboundPeer c.federate) (c.federate ∈ c.peers.inbound)

/-- Refuses settings with a flaw; the first one is reported. -/
def validate : Except ConfigError Unit :=
  match c.flaws with
  | [] => .ok ()
  | flaw :: _ => .error (.invalid flaw)

/-- The settings with another coordinator. -/
def withCoordinator (host : String) (port : UInt16) : Config :=
  { c with coordinator := { c.coordinator with host, port } }

/-- The settings with another coordination. -/
def withCoordination (mode : Coordination) : Config :=
  { c with coordination := { c.coordination with mode } }

/-- The settings with another way to synchronise the clock. -/
def withClockSync (clockSync : ClockSyncSettings) : Config := { c with clockSync }

/-- The settings with a fixed server port. -/
def withServerPort (port : UInt16) : Config :=
  { c with server := { c.server with port := some port } }

end Config

end Federation
