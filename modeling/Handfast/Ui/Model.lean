/-
  Handfast.Ui.Model

  The data the two interfaces keep about devices, plugins and notifications
  (`crates/tui/src/model.rs`, `crates/gui/src/model.rs`).  Each crate has its
  own copy of these types and of the device parser, field for field the same
  (`DeviceEntry` in one, `DeviceCard` in the other), modelled once.

  `shown` is what an interface shows as the pairing state of a device; its
  lemmas say how each operation on the list changes it.  The texts of the
  renderer are not modelled.
-/
import Handfast.Lib.Rows
import Handfast.Protocol.Value

namespace Handfast.Ui

open Handfast.Lib Handfast.Protocol

/-! ## Rows -/

structure DeviceEntry where
  id : String
  name : String
  /-- Coarse device kind if the daemon reported one. -/
  kind : String
  /-- Whether an active pairing exists. -/
  paired : Bool
  /-- Latest connectivity state label. -/
  state : String
  deriving DecidableEq, Repr

/-- The GUI's name for a device row. -/
abbrev DeviceCard := DeviceEntry

structure PluginRow where
  name : String
  title : String
  enabled : Bool
  deriving DecidableEq, Repr

structure NotifRow where
  id : String
  app : String
  title : String
  body : String
  deriving DecidableEq, Repr

namespace DeviceEntry

/-- Entry synthesized from a bare device-found event; kind and state unknown. -/
def fromFound (id name : String) : DeviceEntry where
  id := id
  name := name
  kind := "unknown"
  paired := false
  state := "found"

/-- Transition from a state-changed event; an entry counts as paired exactly
    while the daemon reports the "paired" state. -/
def applyState (entry : DeviceEntry) (state : String) : DeviceEntry :=
  { entry with state := state, paired := state = "paired" }

def upsert (devices : List DeviceEntry) (entry : DeviceEntry) : List DeviceEntry :=
  Rows.upsert DeviceEntry.id entry devices

end DeviceEntry

/-! ## Reading a device listing -/

/-- First present string field among `keys`. -/
def fieldStr (obj : Fields) (keys : List String) : Option String :=
  keys.findSome? fun key => (obj.lookup key).bind Value.asStr

/-- First present boolean field among `keys`. -/
def fieldBool (obj : Fields) (keys : List String) : Option Bool :=
  keys.findSome? fun key => (obj.lookup key).bind Value.asBool

/-- Accept either a bare array or an object wrapping one under `wrapperKey`. -/
def listItems (value : Value) (wrapperKey : String) : Option (List Value) :=
  match value.asArray with
  | some items => some items
  | none => (value.get wrapperKey).bind Value.asArray

/-- One item of a device listing; an item without an id is skipped. -/
def parseDevice (item : Value) : Option DeviceEntry := do
  let obj ← item.asObject
  let id ← fieldStr obj ["id", "device_id"]
  let name := (fieldStr obj ["name", "device_name"]).getD id
  let kind := (fieldStr obj ["type", "kind", "device_type"]).getD "unknown"
  let state := (fieldStr obj ["state", "status"]).getD "found"
  let paired := (fieldBool obj ["paired"]).getD (state = "paired")
  return { id, name, kind, paired, state }

def parseDevices (value : Value) : List DeviceEntry :=
  match listItems value "devices" with
  | none => []
  | some items => items.filterMap parseDevice

/-! ## Reading the other listings -/

/-- One item of a plugin listing; an item without a name is skipped. -/
def parsePlugin (item : Value) : Option PluginRow := do
  let obj ← item.asObject
  let name ← fieldStr obj ["name", "plugin", "id"]
  let title := (fieldStr obj ["title", "label"]).getD name
  let enabled := (fieldBool obj ["enabled", "active"]).getD false
  return { name, title, enabled }

def parsePlugins (value : Value) : List PluginRow :=
  match listItems value "plugins" with
  | none => []
  | some items => items.filterMap parsePlugin

/-- One item of a notification listing; an item without an id is skipped. -/
def parseNotification (item : Value) : Option NotifRow := do
  let obj ← item.asObject
  let id ← fieldStr obj ["id", "notification_id"]
  let app := (fieldStr obj ["app", "application", "source"]).getD ""
  let title := (fieldStr obj ["title", "summary"]).getD ""
  let body := (fieldStr obj ["body", "text", "message"]).getD ""
  return { id, app, title, body }

def parseNotifications (value : Value) : List NotifRow :=
  match listItems value "notifications" with
  | none => []
  | some items => items.filterMap parseNotification

/-! ## What is shown about a device -/

def shown (devices : List DeviceEntry) (d : String) : Option Bool :=
  (Rows.find DeviceEntry.id d devices).map DeviceEntry.paired

variable {devices : List DeviceEntry} {d id state : String}

/-- A row shows the pairing of its own device only. -/
theorem shown_upsert {entry : DeviceEntry} :
    shown (DeviceEntry.upsert devices entry) d =
      if d = entry.id then some entry.paired else shown devices d := by
  rw [shown, DeviceEntry.upsert, Rows.find_upsert]
  split <;> rfl

/-- A state change of device `id`: whatever the state is called, the badge says
    whether it is called "paired". -/
theorem shown_applyState :
    shown (Rows.modify DeviceEntry.id id (fun device => device.applyState state) devices) d =
      if d = id then (shown devices d).map fun _ => decide (state = "paired")
      else shown devices d := by
  have hid (device : DeviceEntry) : (device.applyState state).id = device.id := rfl
  rw [shown, Rows.find_modify hid, shown]
  split
  · rw [Option.map_map, Option.map_map]
    rfl
  · rfl

theorem shown_filter :
    shown (devices.filter fun device => device.id ≠ id) d =
      if d = id then none else shown devices d := by
  rw [shown, Rows.find_filter]
  split <;> rfl

end Handfast.Ui
