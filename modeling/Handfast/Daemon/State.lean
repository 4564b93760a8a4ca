/-
  Handfast.Daemon.State

  The data of the device manager (`crates/daemon/src/device.rs`): the device
  table and the transfer registry, the commands that drive the actor, and the
  effects one command has outside the actor's own state.

  What a handler reads from outside is one record, `Env`: the clocks, the local
  battery, the files behind a send, and whether the store, the data-port bind
  and each `try_send` on the outbound queue succeed.  Everything a handler does
  beyond updating the actor is an `Effect`, listed in program order.  A live
  connection is named by a number (`ConnId`), a oneshot reply channel likewise
  (`ReplyTo`).
-/
import Handfast.Core.Store
import Handfast.Plugins.Registry

namespace Handfast.Daemon

open Handfast.Lib Handfast.Protocol Handfast.Plugins Handfast.Core

/-- Names one established TLS connection. -/
abbrev ConnId := Nat

/-- Names one oneshot reply channel. -/
abbrev ReplyTo := Nat

inductive IpAddr where
  | v4 (bits : BitVec 32)
  | v6 (bits : BitVec 128)
  deriving DecidableEq, Repr

structure SocketAddr where
  ip : IpAddr
  port : UInt16
  deriving DecidableEq, Repr

/-- An established, encrypted connection to one remote device. -/
structure Transport where
  conn : ConnId
  peerFingerprint : Fingerprint
  peerAddr : SocketAddr
  deriving DecidableEq

/-- An identity broadcast heard over UDP. -/
structure PeerAnnouncement where
  ip : IpAddr
  identity : Identity

/-- Where received files should land. -/
inductive SaveTarget where
  | dir (path : String)
  | uri (uri : String)
  deriving DecidableEq, Repr

/-- How long a start-pairing call waits, and how long a parked incoming request
    stays pending (30 s, in nanoseconds). -/
def pairingTimeout : Nat := 30 * 10 ^ 9
def incomingPairTimeout : Nat := 30 * 10 ^ 9

/-! ## The actor's state -/

/-- Everything the manager knows about one remote device. -/
structure DeviceState where
  identity : Identity
  /-- Last advertised connect address. -/
  addr : Option SocketAddr
  /-- Fingerprint of the current connection's certificate. -/
  liveFingerprint : Option String
  /-- Pinned fingerprint from a completed pairing, if trusted. -/
  pinnedFingerprint : Option String
  /-- Outbound queue of the live connection, if connected. -/
  outbound : Option ConnId
  /-- Resolves the pending pairing call when answered or closed. -/
  pendingPairReply : Option ReplyTo
  plugins : List Plugin

namespace DeviceState

def new (identity : Identity) : DeviceState where
  identity := identity
  addr := none
  liveFingerprint := none
  pinnedFingerprint := none
  outbound := none
  pendingPairReply := none
  plugins := registry

def isConnected (s : DeviceState) : Bool := s.outbound.isSome

end DeviceState

inductive Direction where
  | outgoing
  | incoming
  deriving DecidableEq, Repr

def Direction.label : Direction → String
  | outgoing => "outgoing"
  | incoming => "incoming"

inductive TransferState where
  | active
  | finished
  | failed
  deriving DecidableEq, Repr

def TransferState.label : TransferState → String
  | active => "active"
  | finished => "finished"
  | failed => "failed"

structure TransferRecord where
  deviceId : String
  direction : Direction
  fileName : String
  total : Nat
  state : TransferState
  done : Nat
  reason : Option String
  cancel : Bool
  deriving DecidableEq, Repr

structure Manager where
  devices : Table String DeviceState
  store : Store
  selfDeviceId : String
  selfIdentity : Identity
  saveTarget : SaveTarget
  transfers : Table String TransferRecord
  /-- A `u64`, taken to last for every run. -/
  nextTransferSeq : Nat
  /-- Parked incoming pairing requests with their deadlines. -/
  incomingPairs : Table String Nat

/-! ## Commands -/

/-- Messages driving the device manager actor. -/
inductive Command where
  | announce (a : PeerAnnouncement)
  | connected (deviceId : String) (transport : Transport)
  | packetFrom (deviceId : String) (packet : Packet)
  | connClosed (deviceId : String)
  | listDevices (reply : ReplyTo)
  | startPairing (deviceId : String) (reply : ReplyTo)
  | unpair (deviceId : String) (reply : ReplyTo)
  | pairingAnswer (deviceId : String) (accept : Bool) (reply : ReplyTo)
  | pairingTimeout (deviceId : String)
  | sendFile (deviceId path : String) (reply : ReplyTo)
  | listTransfers (reply : ReplyTo)
  | cancelTransfer (transferId : String) (reply : ReplyTo)
  | sharePayload (deviceId : String) (header : Packet) (payload : Except String Transport)
  | transferOutcome (transferId : String) (result : Except String Unit)

def Command.device : Command → Option String
  | announce a => some a.identity.deviceId
  | connected d _ => some d
  | packetFrom d _ => some d
  | connClosed d => some d
  | startPairing d _ => some d
  | unpair d _ => some d
  | pairingAnswer d _ _ => some d
  | pairingTimeout d => some d
  | sendFile d _ _ => some d
  | sharePayload d _ _ => some d
  | listDevices _ | listTransfers _ | cancelTransfer _ _ | transferOutcome _ _ => none

/-! ## Surroundings and effects -/

/-- A source that was made ready for transfer. -/
structure Materialized where
  localPath : String
  cleanup : Option String

/-- What `fs::metadata` tells about a file. -/
structure Metadata where
  isFile : Bool
  len : UInt64
  modifiedMs : Int

/-- What the actor reads from outside while it handles one command. -/
structure Env where
  /-- `Instant::now()`. -/
  now : Nat
  /-- `unix_now()`. -/
  unixNow : Int
  ambient : Ambient
  /-- The message of a failing store write, if it fails. -/
  storeWrite : Option String
  /-- The message of a failing store read, if it fails. -/
  storeRead : Option String
  /-- The message of the `k`-th `try_send` on an outbound queue, if it fails. -/
  trySend : Nat → Option String
  /-- `materialize_source(path)`. -/
  source : String → Result Materialized
  /-- `fs::metadata(path)`. -/
  metadata : String → Except String Metadata
  /-- `PayloadListener::bind`. -/
  bindPort : Result UInt16

/-- Surroundings at instant `now` in which every call succeeds. -/
def Env.nominal (now : Nat) : Env where
  now := now
  unixNow := 0
  ambient := { clock := 0, localBattery := none, packetId := 0 }
  storeWrite := none
  storeRead := none
  trySend := fun _ => none
  source := fun path => .ok { localPath := path, cleanup := none }
  metadata := fun _ => .ok { isFile := true, len := 0, modifiedMs := 0 }
  bindPort := .ok 1739

/-- A connection whose peer certificate hashes to 32 times the same byte. -/
def Transport.uniform (conn : ConnId) (byte : UInt8) : Transport where
  conn := conn
  peerFingerprint := Vector.replicate 32 byte
  peerAddr := { ip := .v4 0, port := 1716 }

/-- A spawned receive task (`receive_stream`). -/
structure ReceiveTask where
  transferId : String
  deviceId : String
  fileName : String
  size : Nat
  payload : Option Transport
  saveTarget : SaveTarget

/-- A spawned send task (`stream_outgoing`). -/
structure SendTask where
  transferId : String
  deviceId : String
  localPath : String
  cleanup : Option String
  size : Nat
  port : UInt16

inductive Reply where
  | pairing (r : Result Bool)
  | done (r : Result Unit)
  | transfer (r : Result String)
  | rows (rows : List Value)

/-- What a command does outside the actor's state. -/
inductive Effect where
  /-- An event goes to the bus. -/
  | publish (ev : Event)
  /-- A packet enters the outbound queue of a device's live connection. -/
  | queued (deviceId : String) (conn : ConnId) (packet : Packet)
  /-- A reply channel is answered. -/
  | replied (reply : ReplyTo) (answer : Reply)
  /-- A reply channel is dropped without an answer. -/
  | dropped (reply : ReplyTo)
  /-- A dial task starts. -/
  | dial (deviceId : String) (addr : SocketAddr) (mine : Identity)
  /-- The reader and writer tasks of a connection start. -/
  | attached (deviceId : String) (transport : Transport)
  /-- The expiry timer of a parked pairing request starts. -/
  | pairTimer (deviceId : String)
  | receive (task : ReceiveTask)
  | send (task : SendTask)
  /-- The staging engine drops a transfer. -/
  | abort (transferId : String)
  /-- A temporary source file is removed. -/
  | removeFile (path : String)

end Handfast.Daemon
