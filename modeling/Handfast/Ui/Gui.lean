/-
  Handfast.Ui.Gui

  The state of the desktop interface and what the daemon's data does to it
  (`crates/gui/src/app.rs`): `handleEvent` for a pushed event and `devicesLoaded`
  for a device listing.  The messages of the widgets and the acknowledgements
  are not modelled here; their fields are part of the state.
-/
import Handfast.Ipc.Session
import Handfast.Lib.Table
import Handfast.Ui.Model

namespace Handfast.Ui.Gui

open Handfast.Ipc Handfast.Lib

/-- Maximum number of retained log lines. -/
def logCap : Nat := 300

/-- Maximum number of retained notifications (oldest evicted first). -/
def notifCap : Nat := 100

/-! ## Transfers -/

structure TransferRow where
  id : String
  /-- File name as announced by the daemon. -/
  name : String
  /-- Bytes transferred so far. -/
  done : Nat
  /-- Total transfer size in bytes. -/
  total : Nat
  deriving DecidableEq, Repr

namespace TransferRow

/-- Fold a progress or finished event into this row.  A zero reported total
    never clobbers a size learned earlier; completion snaps `done` up to a known
    `total`. -/
def update (row : TransferRow) : ServerEvent → TransferRow
  | .transferProgress _ bytesDone bytesTotal =>
    { row with
      done := bytesDone
      total := if bytesTotal > 0 ∨ row.total = 0 then bytesTotal else row.total }
  | .transferFinished _ => if row.total > 0 then { row with done := row.total } else row
  | _ => row

def upsert (transfers : List TransferRow) (row : TransferRow) : List TransferRow :=
  Rows.upsert TransferRow.id row transfers

theorem update_id (row : TransferRow) (event : ServerEvent) : (row.update event).id = row.id := by
  unfold update
  split
  · rfl
  · split <;> rfl
  · rfl

end TransferRow

/-! ## The state -/

inductive ConnState where
  | disconnected | connecting | connected
  deriving DecidableEq, Repr

inductive Tab where
  | devices | transfers | notifications | logs
  deriving DecidableEq, Repr

inductive BridgeIn where
  | refreshDevices
  | listPlugins (deviceId : String)
  | setPlugin (deviceId plugin : String) (enabled : Bool)
  | pair (deviceId : String)
  | unpair (deviceId : String)
  | sendFile (deviceId path : String)
  | dismissNotification (id : String)
  | clipboardSet (text : String)
  deriving DecidableEq, Repr

/-- The command channel into the IPC driver: what was sent, and whether the
    driver still receives. -/
structure Bridge where
  sent : List BridgeIn
  receiving : Bool
  deriving DecidableEq, Repr

/-- Device-scoped plugin enable flags, keyed by `"device_id:plugin_name"`. -/
abbrev PluginToggles := Table String Bool

structure HandfastApp where
  conn : ConnState
  tab : Tab
  /-- Known devices, in discovery order. -/
  devices : List DeviceCard
  /-- Index of the selected device. -/
  selected : Option Nat
  /-- Stable identity of the selected device. -/
  selectedId : Option String
  plugins : List PluginRow
  transfers : List TransferRow
  /-- Newest first. -/
  notifications : List NotifRow
  /-- Oldest first. -/
  logs : List String
  banner : Option String
  bridge : Option Bridge
  pairTarget : Option String
  unpairTarget : Option String
  clipboardDraft : String
  clipboardStatus : Option String
  filePathDraft : String
  daemonVersion : Option String
  settingsOpen : Bool
  pluginToggles : PluginToggles

namespace HandfastApp

/-- Initial UI state, with the persisted toggles as loaded. -/
def new (pluginToggles : PluginToggles) : HandfastApp where
  conn := .disconnected
  tab := .devices
  devices := []
  selected := none
  selectedId := none
  plugins := []
  transfers := []
  notifications := []
  logs := ["handfast-gui started"]
  banner := none
  bridge := none
  pairTarget := none
  unpairTarget := none
  clipboardDraft := ""
  clipboardStatus := none
  filePathDraft := ""
  daemonVersion := none
  settingsOpen := false
  pluginToggles := pluginToggles

def pushLog (app : HandfastApp) (line : String) : HandfastApp :=
  let logs := if app.logs.length ≥ logCap then app.logs.drop 1 else app.logs
  { app with logs := logs ++ [line] }

/-- Record a user-facing error: banner plus a matching log line. -/
def setBanner (app : HandfastApp) (text : String) : HandfastApp :=
  { app.pushLog s!"[error] {text}" with banner := some text }

/-- Recompute the selection index from its stable id after mutations. -/
def syncSelection (app : HandfastApp) : HandfastApp :=
  { app with
    selected := app.selectedId.bind fun id => app.devices.findIdx? fun device => device.id = id }

end HandfastApp

/-- Trim long single-line payloads for the log view. -/
def clampLine (text : String) (maxChars : Nat) : String :=
  if text.length ≤ maxChars then text
  else String.ofList (text.toList.take (maxChars - 3)) ++ "..."

namespace HandfastApp

def devicesLoaded (app : HandfastApp) (cards : List DeviceCard) : HandfastApp :=
  let count := cards.length
  -- the list was replaced wholesale; old indices mean nothing
  let app := { app with devices := cards, selected := none, selectedId := none, plugins := [] }
  app.pushLog s!"loaded {count} device(s)"

/-- The device disappears, and with it the selection and the in-flight
    requests that name it. -/
def deviceLost (app : HandfastApp) (id : String) : HandfastApp :=
  let app := { app with devices := app.devices.eraseP fun device => device.id = id }
  let app :=
    if app.selectedId = some id then { app with selectedId := none, plugins := [] } else app
  let app := app.syncSelection
  let app := if app.pairTarget = some id then { app with pairTarget := none } else app
  let app := if app.unpairTarget = some id then { app with unpairTarget := none } else app
  app.pushLog s!"device lost: {id}"

def handleEvent (app : HandfastApp) (event : ServerEvent) : HandfastApp :=
  match event with
  | .hello version name pid =>
    let app := { app with daemonVersion := some (toString version) }
    let app := app.pushLog s!"hello: {name} pid {pid} (ipc v{version})"
    if version ≠ ipcVersion then
      app.pushLog
        s!"[warn] protocol mismatch: gui speaks v{ipcVersion}, daemon offers v{version}"
    else app
  | .deviceFound id name =>
    -- re-announcement: the richer card stays, only the name is refreshed
    let card := (Rows.find DeviceEntry.id id app.devices).getD (.fromFound id name)
    { app with devices := DeviceEntry.upsert app.devices { card with name := name } }
  | .deviceLost id => app.deviceLost id
  | .deviceStateChanged id state =>
    { app with devices := Rows.modify DeviceEntry.id id (fun card => card.applyState state)
                 app.devices }
  | .transferAdded id _ direction fileName total =>
    let row : TransferRow := { id, name := fileName, done := 0, total }
    { app with transfers := TransferRow.upsert app.transfers row }.pushLog
      s!"transfer {direction}: {fileName}"
  | .transferProgress id _ _ =>
    -- progress without a prior registration gets a placeholder row
    let transfers :=
      if app.transfers.any fun row => row.id = id then app.transfers
      else app.transfers ++ [{ id, name := id, done := 0, total := 0 }]
    { app with transfers := Rows.modify TransferRow.id id (fun row => row.update event)
                 transfers }
  | .transferFinished id =>
    { app with transfers := Rows.modify TransferRow.id id (fun row => row.update event)
                 app.transfers }.pushLog s!"transfer finished: {id}"
  | .transferFailed id reason =>
    { app with transfers := app.transfers.filter fun row => row.id ≠ id }.pushLog
      s!"[error] transfer failed: {reason}"
  | .notificationReceived id source title body =>
    let rows := { id, app := source, title, body } :: app.notifications
    -- one row goes, however long the list was
    { app with notifications := if rows.length > notifCap then rows.dropLast else rows }
  | .clipboardUpdated text =>
    let line := clampLine text 80
    app.pushLog s!"remote clipboard: {line}"
  | .logRecord level msg => app.pushLog s!"[{level}] {msg}"
  | .daemonShutdown =>
    (app.pushLog "daemon shut down").setBanner "daemon shut down; waiting for it to come back"
  -- these carry no GUI state
  | .shareReceived _ _ | .pairingRequest _ _ | .batteryChanged _ _ _ | .telephonyEvent _ _ _
  | .volumeChanged _ _ | .commandResult _ _ _ _ => app

variable {app : HandfastApp}

@[simp] theorem pushLog_transfers {line : String} :
    (app.pushLog line).transfers = app.transfers := rfl

@[simp] theorem deviceLost_transfers {id : String} :
    (app.deviceLost id).transfers = app.transfers := by
  simp only [deviceLost, pushLog_transfers]
  split <;> split <;> simp only [syncSelection] <;> split <;> rfl

end HandfastApp
end Handfast.Ui.Gui
