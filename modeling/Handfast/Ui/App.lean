/-
  Handfast.Ui.App

  The reducer of the desktop interface (`HandfastApp::update` in
  `crates/gui/src/app.rs`): every message of the widgets and of the IPC driver,
  with the commands it puts into the driver's channel.

  Saving the plugin toggles may fail; `save` is the error of the call made while
  a message is handled.

  Cards, selection, plugin rows and requests under way make up a small part of
  the state, the `Panel`.  `Panel.change` says what a message does to it, and the
  reducer does just that (`update_panel`); what is proved about requests and
  their answers is proved about the panel.
-/
import Handfast.Daemon.Backends
import Handfast.Ui.Gui

namespace Handfast.Ui.Gui

open Handfast.Ipc Handfast.Lib Handfast.Protocol

inductive Message where
  | nothing
  | tabSelected (tab : Tab)
  | bannerClosed
  | ipcStatus (state : ConnState)
  /-- The IPC driver announced its command channel. -/
  | bridgeReady (bridge : Bridge)
  | connectionLost (text : String)
  | loadFailed (text : String)
  | devicesLoaded (cards : List DeviceCard)
  | pluginsLoaded (rows : List PluginRow)
  | notificationsLoaded (rows : List NotifRow)
  | paired (result : Except String Unit)
  | unpaired (result : Except String Unit)
  | fileQueued (result : Except String Unit)
  | dismissed (result : Except String Unit)
  | pluginSet (result : Except String Unit)
  | clipboardSet (result : Except String Unit)
  | event (event : ServerEvent)
  | deviceSelected (index : Nat)
  | pairPressed (id : String)
  | unpairPressed (id : String)
  | togglePlugin (name : String) (enabled : Bool)
  | settingsPressed
  | toggleSavedPlugin (key : String) (enabled : Bool)
  | queueFilePressed
  | pathChanged (path : String)
  | clipboardChanged (text : String)
  | sendPressed
  | refreshPressed
  | dismissPressed (id : String)

/-! ## Plugin toggles -/

/-- Composite persistence key for one device-scoped plugin toggle. -/
def toggleKey (deviceId plugin : String) : String := s!"{deviceId}:{plugin}"

/-- Split a composite key back into device and plugin: everything after the first
    colon belongs to the plugin name. -/
def splitToggleKey (key : String) : Option (String × String) :=
  match key.toList.dropWhile fun ch => ch ≠ ':' with
  | [] => none
  | _ :: plugin =>
    some (String.ofList (key.toList.takeWhile fun ch => ch ≠ ':'), String.ofList plugin)

/-- Overlay persisted toggles onto freshly parsed plugin rows of a device. -/
def applyPersistedToggles (rows : List PluginRow) (deviceId : String) (toggles : PluginToggles) :
    List PluginRow :=
  rows.map fun row =>
    match toggles.get (toggleKey deviceId row.name) with
    | some enabled => { row with enabled }
    | none => row

namespace Bridge

/-- `unbounded_send`. -/
def push (bridge : Bridge) (command : BridgeIn) : Bridge :=
  if bridge.receiving then { bridge with sent := bridge.sent ++ [command] } else bridge

end Bridge

namespace HandfastApp

/-! ## The reducer -/

/-- Id of the currently selected device, if still present. -/
def selectedDeviceId (app : HandfastApp) : Option String :=
  (app.selected.bind fun index => app.devices[index]?).map DeviceEntry.id

/-- Change a card in place, through a mutable lookup by device id. -/
def modifyDevice (app : HandfastApp) (id : String) (f : DeviceCard → DeviceCard) : HandfastApp :=
  { app with devices := Rows.modify DeviceEntry.id id f app.devices }

/-- Best-effort command dispatch; reports false when offline. -/
def dispatch (app : HandfastApp) (command : BridgeIn) : HandfastApp × Bool :=
  match app.bridge with
  | some bridge => ({ app with bridge := some (bridge.push command) }, bridge.receiving)
  | none => (app, false)

def dispatchOrBanner (app : HandfastApp) (command : BridgeIn) : HandfastApp :=
  match app.dispatch command with
  | (app, true) => app
  | (app, false) => app.setBanner "not connected"

def recordPluginToggle (app : HandfastApp) (save : Option String) (deviceId plugin : String)
    (enabled : Bool) : HandfastApp :=
  let app :=
    { app with pluginToggles := app.pluginToggles.insert (toggleKey deviceId plugin) enabled }
  match save with
  | none => app
  | some err => app.pushLog s!"[warn] persisting plugin toggles failed: {err}"

/-- Apply a pair/unpair acknowledgement to the pending target device. -/
def finishPairing (app : HandfastApp) (result : Except String Unit) (unpair : Bool) :
    HandfastApp :=
  let target := if unpair then app.unpairTarget else app.pairTarget
  let app :=
    if unpair then { app with unpairTarget := none } else { app with pairTarget := none }
  match result with
  | .ok () =>
    match target with
    | none => app
    | some id =>
      let app := app.modifyDevice id fun card =>
        if unpair then { card with paired := false, state := "found" }
        else { card with paired := true, state := "paired" }
      app.pushLog (if unpair then s!"unpaired {id}" else s!"paired with {id}")
  | .error err =>
    let app :=
      match target with
      | none => app
      | some id =>
        -- revert the optimistic in-flight label
        app.modifyDevice id fun card =>
          if unpair ∧ card.state = "unpairing" then { card with state := "paired" }
          else if unpair = false ∧ card.state = "pairing" then { card with state := "found" }
          else card
    let action := if unpair then "unpairing" else "pairing"
    app.setBanner s!"{action} failed: {err}"

/-- A plain acknowledgement: a log line, or a banner. -/
def acknowledge (app : HandfastApp) (result : Except String Unit) (done failed : String) :
    HandfastApp :=
  match result with
  | .ok () => app.pushLog done
  | .error err => app.setBanner s!"{failed} failed: {err}"

def update (app : HandfastApp) (save : Option String) : Message → HandfastApp
  | .nothing => app
  | .tabSelected tab => { app with tab }
  | .bannerClosed => { app with banner := none }
  | .ipcStatus state =>
    let app := { app with conn := state }
    -- a fresh successful connect resolves any stale outage text
    if state = .connected then { app with banner := none } else app
  | .bridgeReady bridge => { app with bridge := some bridge }
  | .connectionLost text => app.setBanner text
  | .loadFailed text => app.setBanner s!"load failed: {text}"
  | .devicesLoaded cards => app.devicesLoaded cards
  | .pluginsLoaded rows =>
    let count := rows.length
    let plugins :=
      match app.selectedDeviceId with
      | some deviceId => applyPersistedToggles rows deviceId app.pluginToggles
      | none => rows
    { app with plugins }.pushLog s!"loaded {count} plugin(s)"
  | .notificationsLoaded rows => { app with notifications := rows }
  | .paired result => app.finishPairing result false
  | .unpaired result => app.finishPairing result true
  | .fileQueued result => app.acknowledge result "file queued for transfer" "send"
  | .dismissed result => app.acknowledge result "notification dismissed" "dismiss"
  | .pluginSet result =>
    match result with
    | .ok () => app
    | .error err => app.setBanner s!"plugin change failed: {err}"
  | .clipboardSet result =>
    match result with
    | .ok () => { app with clipboardStatus := some "copied to daemon" }.pushLog "clipboard sent"
    | .error err =>
      { app with clipboardStatus := some s!"error: {err}" }.pushLog
        s!"[error] clipboard send failed: {err}"
  | .event event => app.handleEvent event
  | .deviceSelected index =>
    match app.devices[index]? with
    | none => app
    | some device =>
      { app with selectedId := some device.id, selected := some index, plugins := [] }
        |>.dispatchOrBanner (.listPlugins device.id)
  | .pairPressed id =>
    let app := app.modifyDevice id fun card => { card with state := "pairing" }
    { app with pairTarget := some id }.dispatchOrBanner (.pair id)
  | .unpairPressed id =>
    let app := app.modifyDevice id fun card => { card with state := "unpairing" }
    { app with unpairTarget := some id }.dispatchOrBanner (.unpair id)
  | .togglePlugin name enabled =>
    -- optimistic flip; an authoritative refresh follows shortly
    let app :=
      { app with
        plugins := Rows.modify PluginRow.name name (fun row => { row with enabled }) app.plugins }
    match app.selectedDeviceId with
    | none => app
    | some deviceId =>
      (app.recordPluginToggle save deviceId name enabled).dispatchOrBanner
        (.setPlugin deviceId name enabled)
  | .settingsPressed => { app with settingsOpen := !app.settingsOpen }
  | .toggleSavedPlugin key enabled =>
    match splitToggleKey key with
    | some (deviceId, plugin) =>
      (app.recordPluginToggle save deviceId plugin enabled).dispatchOrBanner
        (.setPlugin deviceId plugin enabled)
    | none => app.setBanner s!"malformed plugin toggle key: {key}"
  | .queueFilePressed =>
    match app.selectedDeviceId with
    | none => app.setBanner "select a device first"
    | some deviceId =>
      let path := Daemon.trimmed app.filePathDraft
      if path = "" then app.setBanner "enter an absolute file path first"
      else app.dispatchOrBanner (.sendFile deviceId path)
  | .dismissPressed id =>
    ({ app with notifications := app.notifications.filter fun row => row.id ≠ id }.dispatch
      (.dismissNotification id)).1
  | .pathChanged path => { app with filePathDraft := path }
  | .clipboardChanged text => { app with clipboardDraft := text }
  | .sendPressed =>
    let text := Daemon.trimmed app.clipboardDraft
    if text = "" then { app with clipboardStatus := some "nothing to send" }
    else
      match { app with clipboardStatus := some "sending" }.dispatch (.clipboardSet text) with
      | (app, true) => app
      | (app, false) => { app with clipboardStatus := some "not connected" }
  | .refreshPressed => app.dispatchOrBanner .refreshDevices

/-- The command a message puts into the channel. -/
def request (app : HandfastApp) : Message → Option BridgeIn
  | .deviceSelected index => app.devices[index]?.map fun device => .listPlugins device.id
  | .pairPressed id => some (.pair id)
  | .unpairPressed id => some (.unpair id)
  | .togglePlugin name enabled =>
    app.selectedDeviceId.map fun deviceId => .setPlugin deviceId name enabled
  | .toggleSavedPlugin key enabled =>
    (splitToggleKey key).map fun parts => .setPlugin parts.1 parts.2 enabled
  | .queueFilePressed =>
    app.selectedDeviceId.bind fun deviceId =>
      if Daemon.trimmed app.filePathDraft = "" then none
      else some (.sendFile deviceId (Daemon.trimmed app.filePathDraft))
  | .dismissPressed id => some (.dismissNotification id)
  | .sendPressed =>
    if Daemon.trimmed app.clipboardDraft = "" then none
    else some (.clipboardSet (Daemon.trimmed app.clipboardDraft))
  | .refreshPressed => some .refreshDevices
  | _ => none

inductive Requested (app : HandfastApp) : Message → BridgeIn → Prop where
  | select {index : Nat} {device : DeviceCard} (hdevice : app.devices[index]? = some device) :
      Requested app (.deviceSelected index) (.listPlugins device.id)
  | pair (d : String) : Requested app (.pairPressed d) (.pair d)
  | unpair (d : String) : Requested app (.unpairPressed d) (.unpair d)
  | toggle {d : String} (name : String) (enabled : Bool)
      (hselected : app.selectedDeviceId = some d) :
      Requested app (.togglePlugin name enabled) (.setPlugin d name enabled)
  | toggleSaved {key d plugin : String} (enabled : Bool)
      (hkey : splitToggleKey key = some (d, plugin)) :
      Requested app (.toggleSavedPlugin key enabled) (.setPlugin d plugin enabled)
  | sendFile {d : String} (hselected : app.selectedDeviceId = some d)
      (hpath : Daemon.trimmed app.filePathDraft ≠ "") :
      Requested app .queueFilePressed (.sendFile d (Daemon.trimmed app.filePathDraft))
  | dismiss (id : String) : Requested app (.dismissPressed id) (.dismissNotification id)
  | clipboard (htext : Daemon.trimmed app.clipboardDraft ≠ "") :
      Requested app .sendPressed (.clipboardSet (Daemon.trimmed app.clipboardDraft))
  | refresh : Requested app .refreshPressed .refreshDevices

/-- **Inversion.** -/
theorem requested_of_request {app : HandfastApp} {m : Message} {c : BridgeIn}
    (h : app.request m = some c) : app.Requested m c := by
  cases m with
  | deviceSelected index =>
    obtain ⟨device, hdevice, rfl⟩ := Option.map_eq_some_iff.mp h
    exact .select hdevice
  | togglePlugin name enabled =>
    obtain ⟨d, hselected, rfl⟩ := Option.map_eq_some_iff.mp h
    exact .toggle name enabled hselected
  | toggleSavedPlugin key enabled =>
    obtain ⟨parts, hkey, rfl⟩ := Option.map_eq_some_iff.mp h
    exact .toggleSaved enabled hkey
  -- without a device or a path nothing is sent
  | queueFilePressed =>
    obtain ⟨d, hselected, hsend⟩ := Option.bind_eq_some_iff.mp h
    split at hsend
    · cases hsend
    · obtain rfl := Option.some.inj hsend
      exact .sendFile hselected ‹_›
  | sendPressed =>
    simp only [request] at h
    split at h
    · cases h
    · obtain rfl := Option.some.inj h
      exact .clipboard ‹_›
  | pairPressed d =>
    obtain rfl := Option.some.inj h
    exact .pair d
  | unpairPressed d =>
    obtain rfl := Option.some.inj h
    exact .unpair d
  | dismissPressed id =>
    obtain rfl := Option.some.inj h
    exact .dismiss id
  | refreshPressed =>
    obtain rfl := Option.some.inj h
    exact .refresh
  | _ => cases h

end HandfastApp

/-! ## The panel -/

/-- Cards, selection, the number of plugin rows, and the requests under way. -/
structure Panel where
  devices : List DeviceCard
  selected : Option Nat
  selectedId : Option String
  rowCount : Nat
  pairTarget : Option String
  unpairTarget : Option String
  bridge : Option Bridge

namespace Panel

def selectedDeviceId (p : Panel) : Option String :=
  (p.selected.bind fun index => p.devices[index]?).map DeviceEntry.id

def modifyDevice (p : Panel) (id : String) (f : DeviceCard → DeviceCard) : Panel :=
  { p with devices := Rows.modify DeviceEntry.id id f p.devices }

/-- The card of the device an acknowledgement is taken to be for. -/
def acknowledged (result : Except String Unit) (unpair : Bool) (card : DeviceCard) : DeviceCard :=
  match result, unpair with
  | .ok (), true => { card with paired := false, state := "found" }
  | .ok (), false => { card with paired := true, state := "paired" }
  | .error _, true => if card.state = "unpairing" then { card with state := "paired" } else card
  | .error _, false => if card.state = "pairing" then { card with state := "found" } else card

theorem acknowledged_id (result : Except String Unit) (unpair : Bool) (card : DeviceCard) :
    (acknowledged result unpair card).id = card.id := by
  unfold acknowledged
  cases result with
  | ok _ => cases unpair <;> rfl
  | error _ => cases unpair <;> dsimp only <;> split <;> rfl

/-- The slot of the request is emptied, and the card of the device in it changes. -/
def finishPairing (p : Panel) (result : Except String Unit) (unpair : Bool) : Panel :=
  let target := if unpair then p.unpairTarget else p.pairTarget
  let p := if unpair then { p with unpairTarget := none } else { p with pairTarget := none }
  target.elim p fun id => p.modifyDevice id (acknowledged result unpair)

section

variable {p : Panel} {result : Except String Unit} {unpair : Bool}

theorem finishPairing_eq : p.finishPairing result unpair =
    { p with
      devices := (if unpair then p.unpairTarget else p.pairTarget).elim p.devices fun id =>
        Rows.modify DeviceEntry.id id (acknowledged result unpair) p.devices
      pairTarget := if unpair then p.pairTarget else none
      unpairTarget := if unpair then none else p.unpairTarget } := by
  unfold finishPairing
  generalize (if unpair then p.unpairTarget else p.pairTarget) = target
  cases target <;> cases unpair <;> rfl

@[simp] theorem finishPairing_selected :
    (p.finishPairing result unpair).selected = p.selected := by
  rw [finishPairing_eq]

@[simp] theorem finishPairing_selectedId :
    (p.finishPairing result unpair).selectedId = p.selectedId := by
  rw [finishPairing_eq]

@[simp] theorem finishPairing_rowCount :
    (p.finishPairing result unpair).rowCount = p.rowCount := by
  rw [finishPairing_eq]

@[simp] theorem finishPairing_bridge :
    (p.finishPairing result unpair).bridge = p.bridge := by
  rw [finishPairing_eq]

end

def deviceLost (p : Panel) (id : String) : Panel :=
  let devices := p.devices.eraseP fun device => device.id = id
  let selectedId := if p.selectedId = some id then none else p.selectedId
  { devices
    selected := selectedId.bind fun id => devices.findIdx? fun device => device.id = id
    selectedId
    rowCount := if p.selectedId = some id then 0 else p.rowCount
    pairTarget := if p.pairTarget = some id then none else p.pairTarget
    unpairTarget := if p.unpairTarget = some id then none else p.unpairTarget
    bridge := p.bridge }

def change (p : Panel) : Message → Panel
  | .bridgeReady bridge => { p with bridge := some bridge }
  | .devicesLoaded cards =>
    { p with devices := cards, selected := none, selectedId := none, rowCount := 0 }
  | .pluginsLoaded rows => { p with rowCount := rows.length }
  | .paired result => p.finishPairing result false
  | .unpaired result => p.finishPairing result true
  | .event (.deviceFound id name) =>
    let card := (Rows.find DeviceEntry.id id p.devices).getD (.fromFound id name)
    { p with devices := DeviceEntry.upsert p.devices { card with name := name } }
  | .event (.deviceLost id) => p.deviceLost id
  | .event (.deviceStateChanged id state) => p.modifyDevice id fun card => card.applyState state
  | .deviceSelected index =>
    match p.devices[index]? with
    | none => p
    | some device =>
      { p with selected := some index, selectedId := some device.id, rowCount := 0 }
  | .pairPressed id =>
    { p.modifyDevice id (fun card => { card with state := "pairing" }) with
      pairTarget := some id }
  | .unpairPressed id =>
    { p.modifyDevice id (fun card => { card with state := "unpairing" }) with
      unpairTarget := some id }
  | _ => p

/-- The channel is announced once and else left alone. -/
theorem change_bridge {p : Panel} {m : Message} (hready : ∀ bridge, m ≠ .bridgeReady bridge) :
    (p.change m).bridge = p.bridge := by
  cases m with
  | bridgeReady bridge => exact absurd rfl (hready bridge)
  | paired result => exact finishPairing_bridge
  | unpaired result => exact finishPairing_bridge
  | event event => cases event <;> rfl
  | deviceSelected index =>
    simp only [change]
    split <;> rfl
  | _ => rfl

def send (p : Panel) (command : Option BridgeIn) : Panel :=
  { p with bridge := p.bridge.map fun bridge => command.elim bridge bridge.push }

end Panel

namespace HandfastApp

variable {app : HandfastApp}

def panel (app : HandfastApp) : Panel where
  devices := app.devices
  selected := app.selected
  selectedId := app.selectedId
  rowCount := app.plugins.length
  pairTarget := app.pairTarget
  unpairTarget := app.unpairTarget
  bridge := app.bridge

@[simp] theorem pushLog_panel (line : String) : (app.pushLog line).panel = app.panel := rfl

@[simp] theorem setBanner_panel (text : String) : (app.setBanner text).panel = app.panel := rfl

@[simp] theorem recordPluginToggle_panel (save : Option String) (deviceId plugin : String)
    (enabled : Bool) :
    (app.recordPluginToggle save deviceId plugin enabled).panel = app.panel := by
  cases save <;> rfl

@[simp] theorem acknowledge_panel (result : Except String Unit) (done failed : String) :
    (app.acknowledge result done failed).panel = app.panel := by
  cases result <;> rfl

@[simp] theorem dispatch_panel (command : BridgeIn) :
    (app.dispatch command).1.panel = app.panel.send (some command) := by
  unfold dispatch
  cases hbridge : app.bridge <;> simp [panel, Panel.send, hbridge]

@[simp] theorem dispatchOrBanner_panel (command : BridgeIn) :
    (app.dispatchOrBanner command).panel = app.panel.send (some command) := by
  rw [← dispatch_panel, dispatchOrBanner]
  split <;> simp [*]

@[simp] theorem send_none (p : Panel) : p.send none = p := by
  simp [Panel.send]

/-- The panel follows the application. -/
theorem finishPairing_panel (result : Except String Unit) (unpair : Bool) :
    (app.finishPairing result unpair).panel = app.panel.finishPairing result unpair := by
  have hmodify : ∀ (app : HandfastApp) id f,
      (app.modifyDevice id f).panel = app.panel.modifyDevice id f := fun _ _ _ => rfl
  have hslot : (if unpair then app.panel.unpairTarget else app.panel.pairTarget) =
      if unpair then app.unpairTarget else app.pairTarget := rfl
  unfold finishPairing Panel.finishPairing
  rw [hslot]
  -- both sides read the same slot
  generalize (if unpair then app.unpairTarget else app.pairTarget) = target
  cases unpair with
  | true =>
    cases target with
    | none => cases result <;> rfl
    | some id =>
      cases result with
      | ok _ => rfl
      | error err =>
        simp only [setBanner_panel, hmodify, true_and, Bool.true_eq_false, false_and,
          if_false, if_true]
        rfl
  | false =>
    cases target with
    | none => cases result <;> rfl
    | some id =>
      cases result with
      | ok _ => rfl
      | error err =>
        simp only [setBanner_panel, hmodify, Bool.false_eq_true, false_and, true_and,
          if_false]
        rfl

theorem deviceLost_panel (id : String) : (app.deviceLost id).panel = app.panel.deviceLost id := by
  simp only [deviceLost, Panel.deviceLost, pushLog_panel, syncSelection]
  split <;> split <;> split <;> simp_all [panel]

/-- Of an event the panel sees what `change` does. -/
theorem handleEvent_panel (event : ServerEvent) :
    (app.handleEvent event).panel = app.panel.change (.event event) := by
  cases event with
  | deviceLost id => exact deviceLost_panel id
  | hello version name pid =>
    simp only [handleEvent, Panel.change]
    split <;> rfl
  | _ => rfl

/-- **Refinement.** The reducer does to the panel what `Panel.change` says, and sends the
    command of the message. -/
theorem update_panel (save : Option String) (m : Message) :
    (app.update save m).panel = (app.panel.change m).send (app.request m) := by
  cases m with
  | nothing | tabSelected tab | bannerClosed | bridgeReady bridge | connectionLost text
  | loadFailed text | devicesLoaded cards | notificationsLoaded rows | settingsPressed
  | pathChanged path | clipboardChanged text =>
    exact (send_none _).symm
  | ipcStatus state =>
    simp only [update, Panel.change, request, send_none]
    split <;> rfl
  | pluginsLoaded rows =>
    simp only [update, Panel.change, request, send_none, pushLog_panel]
    split
    · simp [panel, applyPersistedToggles]
    · rfl
  | paired result =>
    simp only [update, Panel.change, request, send_none]
    exact finishPairing_panel result false
  | unpaired result =>
    simp only [update, Panel.change, request, send_none]
    exact finishPairing_panel result true
  | fileQueued result => simp [update, Panel.change, request]
  | dismissed result => simp [update, Panel.change, request]
  | pluginSet result => cases result <;> simp [update, Panel.change, request]
  | clipboardSet result => cases result <;> simp [update, Panel.change, request] <;> rfl
  | event event =>
    simp only [update, request, send_none]
    exact handleEvent_panel event
  | deviceSelected index =>
    have hdevice : app.panel.devices[index]? = app.devices[index]? := rfl
    simp only [update, Panel.change, request, hdevice]
    cases app.devices[index]? with
    | none => simp
    | some device =>
      rw [dispatchOrBanner_panel]
      rfl
  | pairPressed id =>
    simp only [update, Panel.change, request, dispatchOrBanner_panel]
    rfl
  | unpairPressed id =>
    simp only [update, Panel.change, request, dispatchOrBanner_panel]
    rfl
  | togglePlugin name enabled =>
    simp only [update, Panel.change, request]
    -- the flip of a checkbox is no change of the panel
    have hflip : HandfastApp.panel { app with
        plugins := Rows.modify PluginRow.name name (fun row => { row with enabled })
          app.plugins } = app.panel := by
      simp [panel]
    have hselected : HandfastApp.selectedDeviceId { app with
        plugins := Rows.modify PluginRow.name name (fun row => { row with enabled })
          app.plugins } = app.selectedDeviceId := rfl
    rw [hselected]
    cases app.selectedDeviceId with
    | none => simpa using hflip
    | some deviceId => simp [hflip]
  | toggleSavedPlugin key enabled =>
    simp only [update, Panel.change, request]
    cases splitToggleKey key with
    | none => simp
    | some parts => simp
  | queueFilePressed =>
    simp only [update, Panel.change, request]
    cases app.selectedDeviceId with
    | none => simp
    | some deviceId =>
      simp only [Option.bind_some]
      split <;> simp
  | dismissPressed id =>
    simp only [update, Panel.change, request, dispatch_panel]
    rfl
  | sendPressed =>
    simp only [update, Panel.change, request]
    split
    · rw [send_none]
      rfl
    · have hsend : (HandfastApp.dispatch { app with clipboardStatus := some "sending" }
          (.clipboardSet (Daemon.trimmed app.clipboardDraft))).1.panel =
            app.panel.send (some (.clipboardSet (Daemon.trimmed app.clipboardDraft))) :=
        dispatch_panel _
      split
      · rename_i heq
        rw [heq] at hsend
        exact hsend
      · rename_i heq
        rw [heq] at hsend
        exact hsend
  | refreshPressed => simp [update, Panel.change, request]

end HandfastApp
end Handfast.Ui.Gui
