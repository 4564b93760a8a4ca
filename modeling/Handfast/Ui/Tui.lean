/-
  Handfast.Ui.Tui

  The state of the terminal interface and the two reducers the daemon drives
  (`crates/tui/src/state.rs`): `State.applyEvent` for a pushed event and
  `State.applyOutcome` for the result of a request.  Key presses and rendering
  are not modelled here; their fields are part of the state.
-/
import Handfast.Ipc.Proto
import Handfast.Lib.Table
import Handfast.Ui.Model

namespace Handfast.Ui.Tui

open Handfast.Ipc Handfast.Lib

/-- Maximum notifications kept by the ring buffer. -/
def notificationCap : Nat := 200

/-- Maximum log lines kept by the rolling buffer. -/
def logCap : Nat := 1000

/-! ## Transfers -/

/-- One tracked file transfer (active or finished). -/
structure TransferEntry where
  id : String
  /-- File name being transferred (empty when only progress was observed). -/
  name : String
  /-- Bytes transferred so far. -/
  done : Nat
  /-- Total size in bytes (`0` while unknown). -/
  total : Nat
  deriving DecidableEq, Repr

namespace TransferEntry

def fromAdded (id name : String) (total : Nat) : TransferEntry where
  id := id
  name := name
  done := 0
  total := total

/-- Placeholder for a transfer whose registration event predates this session. -/
def fromProgress (id : String) (done total : Nat) : TransferEntry where
  id := id
  name := ""
  done := done
  total := total

def applyProgress (entry : TransferEntry) (done total : Nat) : TransferEntry :=
  { entry with done := done, total := total }

/-- Completion transition from a finished event; the bar fills only when the
    daemon ever reported a size. -/
def markFinished (entry : TransferEntry) : TransferEntry :=
  if entry.total > 0 then { entry with done := entry.total } else entry

/-- Whether the daemon reported successful completion for this entry. -/
def isFinished (entry : TransferEntry) : Bool :=
  entry.total > 0 && entry.done ≥ entry.total

end TransferEntry

/-! ## The state -/

inductive Tab where
  | devices | transfers | notifications | logs | help
  deriving DecidableEq, Repr

/-- Identity advertised by the daemon in its `Hello` handshake. -/
structure DaemonIdentity where
  version : UInt32
  app : String
  pid : UInt32
  deriving DecidableEq, Repr

/-- Result of an asynchronous request, funneled back into the reducer. -/
inductive Outcome where
  | flash (message : String)
  | devices (entries : List DeviceEntry)
  | notifications (rows : List NotifRow)
  | plugins (device : String) (plugins : List PluginRow)

structure State where
  tab : Tab
  helpOverlay : Bool
  quit : Bool
  dirty : Bool
  shutdown : Bool
  daemon : Option DaemonIdentity
  flash : Option String
  clipboard : Option String
  devices : List DeviceEntry
  deviceCursor : Nat
  detailOpen : Bool
  detailDevice : Option String
  plugins : List PluginRow
  pluginCursor : Nat
  transfers : Table String TransferEntry
  transferCursor : Nat
  /-- Oldest first. -/
  notifications : List NotifRow
  notificationCursor : Nat
  replyOpen : Bool
  replyDraft : String
  replyTarget : Option String
  /-- Oldest first. -/
  logs : List String

namespace State

/-- Fresh empty state showing the Devices tab. -/
def new : State where
  tab := .devices
  helpOverlay := false
  quit := false
  dirty := true
  shutdown := false
  daemon := none
  flash := none
  clipboard := none
  devices := []
  deviceCursor := 0
  detailOpen := false
  detailDevice := none
  plugins := []
  pluginCursor := 0
  transfers := .empty
  transferCursor := 0
  notifications := []
  notificationCursor := 0
  replyOpen := false
  replyDraft := ""
  replyTarget := none
  logs := []

/-- Clamp `cursor` into `0..len` (collapses to `0` for empty lists). -/
def clampAt (cursor len : Nat) : Nat := if len = 0 then 0 else min cursor (len - 1)

/-- Keep every cursor inside its list after removals and replacements. -/
def clampCursors (s : State) : State :=
  { s with
    deviceCursor := clampAt s.deviceCursor s.devices.length
    pluginCursor := clampAt s.pluginCursor s.plugins.length
    transferCursor := clampAt s.transferCursor s.transfers.entries.length
    notificationCursor := clampAt s.notificationCursor s.notifications.length }

/-- Close the detail panel and drop its cached rows. -/
def closeDetail (s : State) : State :=
  { s with detailOpen := false, detailDevice := none, plugins := [], pluginCursor := 0 }

/-- Drop the oldest elements beyond `cap`. -/
def capped {α : Type} (cap : Nat) (xs : List α) : List α := xs.drop (xs.length - cap)

def pushLog (s : State) (level msg : String) : State :=
  -- `{level:<5}`: padded on the right to five characters
  let level := level ++ "".pushn ' ' (5 - level.length)
  { s with logs := capped logCap (s.logs ++ [s!"[{level}] {msg}"]) }

def pushNotification (s : State) (row : NotifRow) : State :=
  { s with notifications := capped notificationCap (s.notifications ++ [row]) }

/-- What an event does to the state, before the cursors are clamped. -/
def reduce (s : State) : ServerEvent → State
  | .hello version app pid => { s with daemon := some { version, app, pid } }
  | .deviceFound id name =>
    { s with devices := DeviceEntry.upsert s.devices (.fromFound id name) }
  | .deviceLost id =>
    let s := { s with devices := s.devices.filter fun device => device.id ≠ id }
    if s.detailDevice = some id then s.closeDetail else s
  | .deviceStateChanged id state =>
    { s with devices := Rows.modify DeviceEntry.id id (fun device => device.applyState state)
               s.devices }
  | .transferAdded id _ _ fileName total =>
    { s with transfers := s.transfers.insert id (.fromAdded id fileName total) }
  | .transferProgress id bytesDone bytesTotal =>
    match s.transfers.get id with
    | some entry =>
      { s with transfers := s.transfers.insert id (entry.applyProgress bytesDone bytesTotal) }
    | none =>
      -- registration predates this session; track by counters
      { s with transfers := s.transfers.insert id (.fromProgress id bytesDone bytesTotal) }
  | .transferFinished id =>
    match s.transfers.get id with
    | some entry => { s with transfers := s.transfers.insert id entry.markFinished }
    | none => s
  | .notificationReceived id app title body => s.pushNotification { id, app, title, body }
  | .clipboardUpdated text => { s with clipboard := some text }
  | .logRecord level msg => s.pushLog level msg
  | .daemonShutdown => { s with shutdown := true, flash := some "daemon is shutting down" }
  -- events without UI impact, a failed transfer among them
  | .transferFailed _ _ | .shareReceived _ _ | .pairingRequest _ _ | .batteryChanged _ _ _
  | .telephonyEvent _ _ _ | .volumeChanged _ _ | .commandResult _ _ _ _ => s

def applyEvent (s : State) (event : ServerEvent) : State :=
  { (s.reduce event).clampCursors with dirty := true }

def applyOutcome (s : State) (outcome : Outcome) : State :=
  let s :=
    match outcome with
    | .flash message => { s with flash := some message }
    | .devices entries => { s with devices := entries }
    | .notifications rows => { s with notifications := capped notificationCap rows }
    | .plugins device plugins =>
      if s.detailDevice = some device then { s with plugins := plugins } else s
  { s.clampCursors with dirty := true }

/-! ## What the reducers leave alone -/

variable {s : State} {event : ServerEvent} {level msg : String} {row : NotifRow}

@[simp] theorem applyEvent_devices : (s.applyEvent event).devices = (s.reduce event).devices := rfl

@[simp] theorem applyEvent_transfers :
    (s.applyEvent event).transfers = (s.reduce event).transfers := rfl

@[simp] theorem pushLog_devices :
    (s.pushLog level msg).devices = s.devices := by
  simp only [pushLog]

@[simp] theorem pushLog_transfers :
    (s.pushLog level msg).transfers = s.transfers := by
  simp only [pushLog]

@[simp] theorem pushNotification_devices :
    (s.pushNotification row).devices = s.devices := by
  simp only [pushNotification]

@[simp] theorem pushNotification_transfers :
    (s.pushNotification row).transfers = s.transfers := by
  simp only [pushNotification]

end State
end Handfast.Ui.Tui
