/-
  Handfast.Daemon.Manager

  The device manager actor (`crates/daemon/src/device.rs`), one definition per
  method.  A handler takes the surroundings and the actor and gives the next
  actor with its effects; `handle` is one turn of the actor loop and
  `loadPersisted` the restore before it.
-/
import Handfast.Daemon.State

namespace Handfast.Daemon

open Handfast.Lib Handfast.Protocol Handfast.Plugins Handfast.Core

def jsonInt (i : Int) : Value :=
  if 0 ≤ i then .number (.posInt i.toNat.toUInt64) else .number (.negInt i)

/-- A JSON `u64`. -/
def jsonNat (n : Nat) : Value := .number (.posInt n.toUInt64)

/-- A `kdeconnect.pair` packet. -/
def pairPacket (env : Env) (pair : Bool) : Packet :=
  .new env.ambient.freshId typePair (.object [("pair", .bool pair)])

/-- `send_out`: queue a packet on the live connection.  `k` counts the
    `try_send` calls made before it for the same command. -/
def DeviceState.sendOut (s : DeviceState) (env : Env) (k : Nat) : Result ConnId :=
  match s.outbound with
  | none => .error (.other "device not connected")
  | some conn =>
    match env.trySend k with
    | none => .ok conn
    | some msg => .error (.other msg)

/-- `let _ = state.send_out(packet)` as an effect. -/
def DeviceState.sendIgnored (s : DeviceState) (env : Env) (k : Nat) (deviceId : String)
    (packet : Packet) : List Effect :=
  match s.sendOut env k with
  | .ok conn => [.queued deviceId conn packet]
  | .error _ => []

namespace Manager

/-- A manager on `store`, before anything is restored. -/
def new (store : Store) (selfDeviceId : String) (selfIdentity : Identity)
    (saveTarget : SaveTarget) : Manager where
  devices := .empty
  store := store
  selfDeviceId := selfDeviceId
  selfIdentity := selfIdentity
  saveTarget := saveTarget
  transfers := .empty
  nextTransferSeq := 0
  incomingPairs := .empty

/-! ## Restoring persisted trust -/

def restored (row : DeviceRow) : DeviceState :=
  { DeviceState.new
      { deviceId := row.deviceId, name := row.name, deviceType := row.deviceType
        protocolVersion := protoVersion, incoming := [], outgoing := []
        tcpSourcePort := 0 } with
    pinnedFingerprint := if row.paired then some row.certFingerprint else none }

/-- Restore persisted trust rows, our own id excepted. -/
def loadPersisted (m : Manager) : Manager :=
  { m with
    devices := m.devices.insertAll
      ((m.store.listDevices.filter fun row => row.deviceId ≠ m.selfDeviceId).map
        fun row => (row.deviceId, restored row)) }

/-- The manager a restarted daemon builds on the same store. -/
def restart (m : Manager) : Manager :=
  (new m.store m.selfDeviceId m.selfIdentity m.saveTarget).loadPersisted

/-! ## Small updates -/

def setDevice (m : Manager) (deviceId : String) (state : DeviceState) : Manager :=
  { m with devices := m.devices.insert deviceId state }

def modifyDevice (m : Manager) (deviceId : String) (f : DeviceState → DeviceState) : Manager :=
  match m.devices.get deviceId with
  | some state => m.setDevice deviceId (f state)
  | none => m

/-- Forget a parked pairing request. -/
def unpark (m : Manager) (deviceId : String) : Manager :=
  { m with incomingPairs := m.incomingPairs.remove deviceId }

/-- `let _ = send_out(packet)` on a device's entry, if there is one. -/
def sendTo (m : Manager) (env : Env) (deviceId : String) (packet : Packet) : List Effect :=
  match m.devices.get deviceId with
  | some state => state.sendIgnored env 0 deviceId packet
  | none => []

/-- The `pairing.auto_accept` setting; a failing read counts as unset. -/
def autoAccept (m : Manager) (env : Env) : Bool :=
  match m.store.kvGet env.storeRead "pairing.auto_accept" with
  | .ok (some v) => v = "1"
  | _ => false

/-! ## Transfers -/

def newTransferId (m : Manager) : Manager × String :=
  ({ m with nextTransferSeq := m.nextTransferSeq + 1 }, s!"t{m.nextTransferSeq + 1}")

def registerTransfer (m : Manager) (id deviceId : String) (direction : Direction)
    (fileName : String) (total : Nat) : Manager × List Effect :=
  ({ m with
      transfers := m.transfers.insert id
        { deviceId, direction, fileName, total, state := .active, done := 0,
          reason := none, cancel := false } },
   [.publish (.transferAdded id deviceId direction.label fileName total)])

/-- Put a registered transfer into a terminal state. -/
def settle (m : Manager) (id : String) (state : TransferState)
    (reason : Option String → Option String) : Manager :=
  match m.transfers.get id with
  | some record =>
    { m with
      transfers := m.transfers.insert id { record with state, reason := reason record.reason } }
  | none => m

/-- Cancel an active transfer by flipping its cancel flag. -/
def cancelTransfer (m : Manager) (transferId : String) : Manager × Result Unit :=
  match m.transfers.get transferId with
  | none => (m, .error (.other s!"unknown transfer '{transferId}'"))
  | some record =>
    if record.state ≠ .active then
      (m, .error (.other s!"transfer '{transferId}' is not active"))
    else
      ({ m with transfers := m.transfers.insert transferId { record with cancel := true } },
       .ok ())

/-- Terminal-state handler for spawned transfer tasks. -/
def onTransferOutcome (m : Manager) (transferId : String) (result : Except String Unit) :
    Manager × List Effect :=
  match result with
  | .ok () =>
    (m.settle transferId .finished fun _ => none,
     [.publish (.transferFinished transferId)])
  | .error reason =>
    -- sweep the staging file the task may have left; a send has none
    (m.settle transferId .failed fun _ => some reason,
     [.abort transferId, .publish (.transferFailed transferId reason)])

/-- `IPC`-visible transfer registry, ordered by id. -/
def transferSnapshot (m : Manager) : List Value :=
  let rows := m.transfers.entries.insertionSort fun a b => a.1 ≤ b.1
  rows.map fun (id, record) =>
    .object
      [("id", .string id),
       ("device_id", .string record.deviceId),
       ("direction", .string record.direction.label),
       ("file_name", .string record.fileName),
       ("total", jsonNat record.total),
       ("state", .string record.state.label),
       ("done", jsonNat record.done),
       ("reason", match record.reason with
         | some reason => .string reason
         | none => .null)]

def announcedName (header : Packet) : String :=
  (header.body.getStr "filename").getD "received-file"

/-- Start a receive for a share header, with an established data connection or
    without one (empty file). -/
def spawnReceive (m : Manager) (deviceId : String) (header : Packet)
    (payload : Option Transport) : Manager × List Effect :=
  match m.devices.get deviceId with
  | none => (m, [])
  | some _ =>
    let fileName := announcedName header
    let announced := header.payloadSize.getD 0
    -- a negative size is an unknown one
    let size := if announced < 0 then unknownSize else announced.toNat
    let (m, transferId) := m.newTransferId
    -- the registry shows 0 for it
    let total := if size = unknownSize then 0 else size
    let (m, added) := m.registerTransfer transferId deviceId .incoming fileName total
    (m, added ++
      [.receive { transferId, deviceId, fileName, size, payload, saveTarget := m.saveTarget }])

/-- A share header with a payload arrived, or its data dial failed. -/
def onSharePayload (m : Manager) (deviceId : String) (header : Packet)
    (payload : Except String Transport) : Manager × List Effect :=
  match payload with
  | .ok transport => m.spawnReceive deviceId header (some transport)
  | .error reason =>
    let (m, transferId) := m.newTransferId
    let (m, added) :=
      -- the transfer shows up, only to fail; the device is not looked up
      m.registerTransfer transferId deviceId .incoming (announcedName header) 0
    (m.settle transferId .failed fun _ => some reason,
     added ++ [.publish (.transferFailed transferId reason)])

/-! ## Sending files -/

/-- `Path::file_name`: the last component, unless it is `..`. -/
def pathFileName (path : String) : Option String :=
  match ((path.toList.splitOnP fun c => c = '/').filter fun c =>
      c ≠ [] ∧ c ≠ ['.']).getLast? with
  | some name => if name = ['.', '.'] then none else some (String.ofList name)
  | none => none

def cleanupEffects (cleanup : Option String) : List Effect :=
  (cleanup.map Effect.removeFile).toList

def emptyHeader (env : Env) (fileName : String) (modifiedMs : Int) : Packet :=
  .new env.ambient.freshId typeShare (.object
    [("filename", .string fileName), ("lastModified", jsonInt modifiedMs),
     ("numberOfFiles", jsonInt 1), ("totalPayloadSize", jsonInt 0)])

/-- The share header announcing a payload on `port`. -/
def payloadHeader (env : Env) (fileName : String) (modifiedMs : Int) (size : Nat)
    (port : UInt16) : Packet :=
  (Packet.new env.ambient.freshId typeShare (.object
    [("filename", .string fileName), ("creationTime", jsonInt modifiedMs),
     ("lastModified", jsonInt modifiedMs), ("numberOfFiles", jsonInt 1),
     ("totalPayloadSize", jsonNat size)])).withPayload (asI64 size) port

/-- Send an empty file: a bare header, and a transfer that is over at once. -/
def sendEmpty (m : Manager) (env : Env) (deviceId fileName : String) (modifiedMs : Int)
    (state : DeviceState) : Manager × List Effect × Result String :=
  match state.sendOut env 0 with
  | .error err => (m, [], .error err)
  | .ok conn =>
    let (m, transferId) := m.newTransferId
    let (m, added) := m.registerTransfer transferId deviceId .outgoing fileName 0
    (m.settle transferId .finished id,
     .queued deviceId conn (emptyHeader env fileName modifiedMs) :: added ++
       [.publish (.transferFinished transferId)],
     .ok transferId)

/-- Announce a payload and start the task that streams it. -/
def sendPayload (m : Manager) (env : Env) (deviceId fileName : String) (src : Materialized)
    (file : Metadata) (state : DeviceState) : Manager × List Effect × Result String :=
  match env.bindPort with
  -- `?` returns here and leaves the temporary source behind
  | .error err => (m, [], .error err)
  | .ok port =>
    match state.sendOut env 0 with
    | .error err => (m, cleanupEffects src.cleanup, .error err)
    | .ok conn =>
      let size := file.len.toNat
      let (m, transferId) := m.newTransferId
      let (m, added) := m.registerTransfer transferId deviceId .outgoing fileName size
      (m,
       .queued deviceId conn (payloadHeader env fileName file.modifiedMs size port) ::
         added ++
         [.send { transferId, deviceId, localPath := src.localPath
                  cleanup := src.cleanup, size, port }],
       .ok transferId)

/-- Send a local file (or a GVFS/KIO URI) to a device. -/
def sendFile (m : Manager) (env : Env) (deviceId path : String) :
    Manager × List Effect × Result String :=
  match env.source path with
  | .error err => (m, [], .error err)
  | .ok src =>
    match env.metadata src.localPath with
    | .error err =>
      (m, cleanupEffects src.cleanup,
       .error (.other ("cannot stat " ++ src.localPath ++ ": " ++ err)))
    | .ok file =>
      if ¬ file.isFile then
        (m, cleanupEffects src.cleanup,
         .error (.other (src.localPath ++ " is not a regular file")))
      else
        match m.devices.get deviceId with
        | none =>
          (m, cleanupEffects src.cleanup,
           .error (.other s!"device '{deviceId}' is unknown"))
        | some state =>
          if ¬ state.isConnected then
            (m, cleanupEffects src.cleanup,
             .error (.other s!"device '{deviceId}' is offline"))
          else
            let fileName := (pathFileName src.localPath).getD "file"
            if file.len = 0 then
              m.sendEmpty env deviceId fileName file.modifiedMs state
            else
              m.sendPayload env deviceId fileName src file state

/-! ## Announcements and connections -/

/-- Update the table from an announcement; also tells whether a dial attempt
    is warranted. -/
def entryForAnnouncement (m : Manager) (a : PeerAnnouncement) :
    Manager × List Effect × Bool :=
  let id := a.identity.deviceId
  let addr : SocketAddr := { ip := a.ip, port := a.identity.tcpSourcePort }
  match m.devices.get id with
  | none =>
    (m.setDevice id { DeviceState.new a.identity with addr := some addr },
     [.publish (.deviceFound id a.identity.name)], true)
  | some state =>
    (m.setDevice id { state with identity := a.identity, addr := some addr },
     [], ¬ state.isConnected)

def onAnnounce (m : Manager) (a : PeerAnnouncement) : Manager × List Effect :=
  let (m, found, warranted) := m.entryForAnnouncement a
  if ¬ warranted then (m, found)
  else
    let id := a.identity.deviceId
    match (m.devices.get id).bind DeviceState.addr with
    | none => (m, found)
    | some addr => (m, found ++ [.dial id addr m.selfIdentity])

/-- The entry of a device that connects without a prior announcement. -/
def shellEntry (deviceId : String) : DeviceState :=
  .new
    { deviceId := deviceId, name := deviceId, deviceType := "unknown"
      protocolVersion := protoVersion, incoming := [], outgoing := []
      tcpSourcePort := 0 }

/-- An entry with `transport` as its live connection. -/
def attach (state : DeviceState) (transport : Transport) : DeviceState :=
  { state with
    outbound := some transport.conn
    liveFingerprint := some (hex transport.peerFingerprint) }

/-- The pinning gate: a paired device must present the pinned certificate. -/
def gateRejects (pinned : Option String) (fingerprint : String) : Bool :=
  pinned.any fun p => p ≠ fingerprint

def onConnected (m : Manager) (deviceId : String) (transport : Transport) :
    Manager × List Effect :=
  let fingerprint := hex transport.peerFingerprint
  match m.devices.get deviceId with
  | some state =>
    -- The gate is checked before any traffic flows.
    if gateRejects state.pinnedFingerprint fingerprint then
      (m, [.publish (.logRecord "error"
        s!"cert mismatch for {deviceId}: possible spoofing")])
    else
      (m.setDevice deviceId (attach state transport),
       [.attached deviceId transport,
        .publish (.deviceStateChanged deviceId "online")])
  | none =>
    (m.setDevice deviceId (attach (shellEntry deviceId) transport),
     [.attached deviceId transport, .publish (.deviceFound deviceId "unknown")])

def onClosed (m : Manager) (deviceId : String) : Manager × List Effect :=
  let offline := Effect.publish (.deviceStateChanged deviceId "offline")
  -- a parked request goes with the connection, whichever connection it was
  let m := m.unpark deviceId
  match m.devices.get deviceId with
  | none => (m, [offline])
  | some state =>
    let refused := state.pendingPairReply.map fun reply =>
      Effect.replied reply (.pairing (.error (.other "connection closed during pairing")))
    (m.setDevice deviceId
      { state with outbound := none, liveFingerprint := none, pendingPairReply := none },
     refused.toList ++ [offline])

/-! ## Pairing -/

/-- The fingerprint a pairing pins: the live one, else the old pin, else `""`. -/
def trustFingerprint (state : DeviceState) : String :=
  (state.liveFingerprint.or state.pinnedFingerprint).getD ""

def persistTrust (m : Manager) (env : Env) (deviceId : String) (paired : Bool) :
    Manager × List Effect :=
  match m.devices.get deviceId with
  | none => (m, [])
  | some state =>
    let fingerprint := if paired then trustFingerprint state else ""
    let row : DeviceRow :=
      { deviceId := deviceId, name := state.identity.name
        deviceType := state.identity.deviceType, certFingerprint := fingerprint
        paired := paired, lastSeen := some env.unixNow }
    let m := m.setDevice deviceId
      { state with pinnedFingerprint := if paired then some fingerprint else none }
    -- A failing write is logged and otherwise ignored.
    ({ m with store := (m.store.upsertDevice env.storeWrite row).2 },
     [.publish (.deviceStateChanged deviceId (if paired then "paired" else "unpaired"))])

/-- Case 2 of a pair packet: the remote wants to pair with us. -/
def onPairRequest (m : Manager) (env : Env) (deviceId : String) : Manager × List Effect :=
  let connected := (m.devices.get deviceId).any DeviceState.isConnected
  if m.autoAccept env ∧ connected then
    let (m, saved) := m.persistTrust env deviceId true
    (m, saved ++ m.sendTo env deviceId (pairPacket env true))
  else if ¬ connected then
    (m, m.sendTo env deviceId (pairPacket env false))
  else
    let name := ((m.devices.get deviceId).map fun s => s.identity.name).getD ""
    ({ m with incomingPairs := m.incomingPairs.insert deviceId (env.now + incomingPairTimeout) },
     [.publish (.pairingRequest deviceId name), .pairTimer deviceId])

def onPairRevoke (m : Manager) (env : Env) (deviceId : String) : Manager × List Effect :=
  let (m, saved) := (m.unpark deviceId).persistTrust env deviceId false
  (m, saved ++ [.publish (.deviceStateChanged deviceId "unpaired")])

/-- What a pair packet says, if it is well formed. -/
def wantsPair (packet : Packet) : Option Bool := (packet.body.get "pair").bind Value.asBool

def onPairPacket (m : Manager) (env : Env) (deviceId : String) (packet : Packet) :
    Manager × List Effect :=
  match wantsPair packet with
  | none => (m, [])
  | some wants =>
    match (m.devices.get deviceId).bind DeviceState.pendingPairReply with
    | some reply =>
      -- Case 1: answer to a pairing we initiated.
      let m := m.modifyDevice deviceId fun s => { s with pendingPairReply := none }
      let answered := Effect.replied reply (.pairing (.ok wants))
      if wants then
        let (m, saved) := m.persistTrust env deviceId true
        (m, answered :: saved)
      else (m, [answered])
    | none => if wants then m.onPairRequest env deviceId else m.onPairRevoke env deviceId

/-- Resolve a parked incoming pairing request with the user's decision. -/
def answerIncomingPairing (m : Manager) (env : Env) (deviceId : String) (accept : Bool) :
    Manager × List Effect × Result Unit :=
  match m.incomingPairs.get deviceId with
  | none => (m, [], .error (.other s!"no pending pairing request from '{deviceId}'"))
  | some deadline =>
    -- the request is gone, in time or not
    let m := m.unpark deviceId
    if env.now > deadline then
      (m, [], .error (.other "pairing request already expired"))
    else
      let (m, saved) := if accept then m.persistTrust env deviceId true else (m, [])
      (m, saved ++ m.sendTo env deviceId (pairPacket env accept) ++
        [.publish (.deviceStateChanged deviceId (if accept then "paired" else "unpaired"))],
       .ok ())

/-- A parked request expired without an answer. -/
def onPairingTimeout (m : Manager) (env : Env) (deviceId : String) : Manager × List Effect :=
  match m.incomingPairs.get deviceId with
  | none => (m, [])
  | some _ => (m.unpark deviceId, m.sendTo env deviceId (pairPacket env false))

def beginPairing (m : Manager) (env : Env) (deviceId : String) (reply : ReplyTo) :
    Manager × List Effect :=
  let refuse (err : Error) := Effect.replied reply (.pairing (.error err))
  match m.devices.get deviceId with
  | none => (m, [refuse (.other s!"unknown device '{deviceId}'")])
  | some state =>
    if ¬ state.isConnected then
      (m, [refuse (.other "device not connected yet; wait for discovery")])
    else if state.pinnedFingerprint.isSome then
      (m, [refuse (.other "already paired")])
    else
      -- Storing the new reply drops the one stored before, if any.
      let superseded := (state.pendingPairReply.map Effect.dropped).toList
      match state.sendOut env 0 with
      | .ok conn =>
        (m.setDevice deviceId { state with pendingPairReply := some reply },
         superseded ++ [.queued deviceId conn (pairPacket env true)])
      | .error err =>
        (m.setDevice deviceId { state with pendingPairReply := none },
         superseded ++ [refuse err])

def unpair (m : Manager) (env : Env) (deviceId : String) : Manager × List Effect :=
  let revoke := m.sendTo env deviceId (pairPacket env false)
  let (m, saved) := m.persistTrust env deviceId false
  (m, revoke ++ saved)

/-! ## Packets -/

def dispatchToPlugins (m : Manager) (env : Env) (deviceId : String) (packet : Packet) :
    Manager × List Packet :=
  match m.devices.get deviceId with
  | none => (m, [])
  | some state =>
    let (plugins, replies) := dispatch env.ambient packet state.plugins
    (m.setDevice deviceId { state with plugins }, replies)

def emitSideEvents (packet : Packet) : List Effect :=
  let field (key : String) := (packet.body.getStr key).getD ""
  if packet.ptype = typeNotification then
    [.publish (.notificationReceived (field "id") (field "appName") (field "title")
      (field "text"))]
  else if packet.ptype = typeClipboard then
    match packet.body.getStr "content" with
    | some text => [.publish (.clipboardUpdated text)]
    | none => []
  else []

/-- Queue the replies one after another; what does not fit is dropped. -/
def sendReplies (m : Manager) (env : Env) (deviceId : String) (replies : List Packet) :
    List Effect :=
  match m.devices.get deviceId with
  | none => []
  | some state =>
    -- each reply takes a slot of the queue, so the `k`-th may find it full
    replies.zipIdx.flatMap fun (reply, k) => state.sendIgnored env k deviceId reply

/-- A packet that is neither an identity, a pair packet nor an empty file. -/
def routePacket (m : Manager) (env : Env) (deviceId : String) (packet : Packet) :
    Manager × List Effect :=
  let (m, replies) := m.dispatchToPlugins env deviceId packet
  (m, emitSideEvents packet ++ m.sendReplies env deviceId replies)

def onPacket (m : Manager) (env : Env) (deviceId : String) (packet : Packet) :
    Manager × List Effect :=
  if packet.ptype = typeIdentity then
    match Identity.fromValue packet.body with
    | some identity => (m.modifyDevice deviceId fun s => { s with identity }, [])
    | none => (m, [])
  else if packet.ptype = typePair then m.onPairPacket env deviceId packet
  else if packet.ptype = typeShare ∧ (packet.body.get "filename").isSome then
    m.spawnReceive deviceId packet none
  else m.routePacket env deviceId packet

/-! ## The actor loop -/

def snapshot (m : Manager) : List Value :=
  let rows := m.devices.entries.insertionSort fun a b => a.2.identity.name ≤ b.2.identity.name
  rows.map fun (id, state) =>
    .object
      [("device_id", .string id),
       ("name", .string state.identity.name),
       ("type", .string state.identity.deviceType),
       ("paired", .bool state.pinnedFingerprint.isSome),
       ("online", .bool state.isConnected),
       ("capabilities_incoming", .array (state.identity.incoming.map .string)),
       ("capabilities_outgoing", .array (state.identity.outgoing.map .string))]

def handle (m : Manager) (env : Env) : Command → Manager × List Effect
  | .announce a => m.onAnnounce a
  | .connected deviceId transport => m.onConnected deviceId transport
  | .packetFrom deviceId packet => m.onPacket env deviceId packet
  | .connClosed deviceId => m.onClosed deviceId
  | .listDevices reply => (m, [.replied reply (.rows m.snapshot)])
  | .startPairing deviceId reply => m.beginPairing env deviceId reply
  | .unpair deviceId reply =>
    let (m, effects) := m.unpair env deviceId
    (m, effects ++ [.replied reply (.done (.ok ()))])
  | .pairingAnswer deviceId accept reply =>
    let (m, effects, result) := m.answerIncomingPairing env deviceId accept
    (m, effects ++ [.replied reply (.done result)])
  | .pairingTimeout deviceId => m.onPairingTimeout env deviceId
  | .sendFile deviceId path reply =>
    let (m, effects, result) := m.sendFile env deviceId path
    (m, effects ++ [.replied reply (.transfer result)])
  | .listTransfers reply => (m, [.replied reply (.rows m.transferSnapshot)])
  | .cancelTransfer transferId reply =>
    let (m, result) := m.cancelTransfer transferId
    (m, [.replied reply (.done result)])
  | .sharePayload deviceId header payload => m.onSharePayload deviceId header payload
  | .transferOutcome transferId result => m.onTransferOutcome transferId result

def step (m : Manager) (a : Env × Command) : Manager := (m.handle a.1 a.2).1

end Manager
end Handfast.Daemon
