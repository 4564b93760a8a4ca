/-
  Handfast.Ipc.Proto

  Messages of the local socket (`crates/ipc/src/proto.rs`) and their JSON form,
  as serde's derived code writes and reads it.

  `Request` and `ServerEvent` are adjacently tagged: an object with the variant
  under one key and its fields, as an object, under another.  `Response` is
  internally tagged: the variant's name is one more field.  Reading ignores
  unknown fields; a missing tag or field is an error.  (The positional array
  forms that serde also reads are never written by either side and are left
  out.)

  A `u64` is a natural number here; `Fits` bounds it where that matters, which
  is when it is written as a JSON number.
-/
import Handfast.Core.Bus

namespace Handfast.Ipc

open Handfast.Protocol

/-! ## Fields -/

def field (data : Option Value) (key : String) : Option Value := data.bind fun v => v.get key

def strField (data : Option Value) (key : String) : Option String :=
  (field data key).bind Value.asStr

def boolField (data : Option Value) (key : String) : Option Bool :=
  (field data key).bind Value.asBool

def u8Field (data : Option Value) (key : String) : Option UInt8 :=
  ((field data key).bind Value.asU64).bind fun n =>
    if n.toNat < 2 ^ 8 then some n.toUInt8 else none

def u32Field (data : Option Value) (key : String) : Option UInt32 :=
  ((field data key).bind Value.asU64).bind fun n =>
    if n.toNat < 2 ^ 32 then some n.toUInt32 else none

def u64Field (data : Option Value) (key : String) : Option Nat :=
  ((field data key).bind Value.asU64).map UInt64.toNat

def i32Field (data : Option Value) (key : String) : Option Int :=
  match field data key with
  | some (.number (.posInt n)) => if n.toNat < 2 ^ 31 then some n.toNat else none
  | some (.number (.negInt i)) => if -2 ^ 31 ≤ i then some i else none
  | _ => none

/-- An `Option<String>`: missing and `null` are `None`. -/
def optStrField (data : Option Value) (key : String) : Option (Option String) :=
  match field data key with
  | none | some .null => some none
  | some (.string s) => some (some s)
  | some _ => none

def ofU8 (n : UInt8) : Value := .number (.posInt n.toUInt64)
def ofU32 (n : UInt32) : Value := .number (.posInt n.toUInt64)
def ofU64 (n : Nat) : Value := .number (.posInt (UInt64.ofNat n))
def ofI32 (i : Int) : Value :=
  if 0 ≤ i then .number (.posInt (UInt64.ofNat i.toNat)) else .number (.negInt i)

def ofOptStr : Option String → Value
  | none => .null
  | some s => .string s

/-- A unit variant: its content is missing or `null`. -/
def unitVariant {α : Type} (data : Option Value) (a : α) : Option α :=
  match data with
  | none | some .null => some a
  | some _ => none

/-- The object of an adjacently tagged variant; a unit variant has no content. -/
def adjacent (tag content name : String) : Option Fields → Value
  | none => .object [(tag, .string name)]
  | some fields => .object [(tag, .string name), (content, .object fields)]

/-- The name and the content of an adjacently tagged object. -/
def readAdjacent (tag content : String) : Value → Option (String × Option Value)
  | .object fields =>
    ((fields.lookup tag).bind Value.asStr).map fun name => (name, fields.lookup content)
  | _ => none

section

variable {fields : Fields} {key k tag content name : String} {v : Value}

@[simp] theorem field_self : field (some (.object ((key, v) :: fields))) key = some v := by
  simp [field, Value.get, List.lookup_cons_self]

@[simp] theorem field_of_ne (h : key ≠ k) :
    field (some (.object ((k, v) :: fields))) key = field (some (.object fields)) key := by
  have hne : (key == k) = false := beq_false_of_ne h
  simp [field, Value.get, List.lookup_cons, hne]

theorem u8Field_ofU8 (n : UInt8) :
    u8Field (some (.object ((key, ofU8 n) :: fields))) key = some n := by
  simp only [u8Field, ofU8, field_self, Option.bind_some, Value.asU64, UInt8.toNat_toUInt64,
    if_pos n.toNat_lt, UInt8.toUInt8_toUInt64]

theorem u32Field_ofU32 (n : UInt32) :
    u32Field (some (.object ((key, ofU32 n) :: fields))) key = some n := by
  simp only [u32Field, ofU32, field_self, Option.bind_some, Value.asU64, UInt32.toNat_toUInt64,
    if_pos n.toNat_lt, UInt32.toUInt32_toUInt64]

theorem u64Field_ofU64 {n : Nat} (h : n < 2 ^ 64) :
    u64Field (some (.object ((key, ofU64 n) :: fields))) key = some n := by
  simp only [u64Field, ofU64, field_self, Option.bind_some, Value.asU64, Option.map_some,
    UInt64.toNat_ofNat', Nat.mod_eq_of_lt h]

/-- A number in range is read back. -/
theorem i32Field_ofI32 {i : Int} (hlo : -2 ^ 31 ≤ i) (hhi : i < 2 ^ 31) :
    i32Field (some (.object ((key, ofI32 i) :: fields))) key = some i := by
  by_cases hpos : 0 ≤ i
  · have hlt : i.toNat < 2 ^ 31 := by omega
    have hmod : i.toNat % 2 ^ 64 = i.toNat := Nat.mod_eq_of_lt (by omega)
    simp only [i32Field, ofI32, field_self, if_pos hpos, UInt64.toNat_ofNat', hmod, if_pos hlt,
      Int.toNat_of_nonneg hpos]
  · simp only [i32Field, ofI32, field_self, if_neg hpos, if_pos hlo]

theorem u8Field_skip (h : key ≠ k) :
    u8Field (some (.object ((k, v) :: fields))) key = u8Field (some (.object fields)) key := by
  rw [u8Field, field_of_ne h, u8Field]

theorem u32Field_skip (h : key ≠ k) :
    u32Field (some (.object ((k, v) :: fields))) key = u32Field (some (.object fields)) key := by
  rw [u32Field, field_of_ne h, u32Field]

theorem u64Field_skip (h : key ≠ k) :
    u64Field (some (.object ((k, v) :: fields))) key = u64Field (some (.object fields)) key := by
  rw [u64Field, field_of_ne h, u64Field]

/-- Name and payload are read back from the tagged form. -/
theorem readAdjacent_adjacent (h : content ≠ tag) (data : Option Fields) :
    readAdjacent tag content (adjacent tag content name data) =
      some (name, data.map Value.object) := by
  have hne : (content == tag) = false := beq_false_of_ne h
  cases data with
  | none => simp [adjacent, readAdjacent, List.lookup_cons, hne, Value.asStr]
  | some fields => simp [adjacent, readAdjacent, List.lookup_cons, hne, Value.asStr]

theorem readAdjacent_none (h : fields.lookup tag = none) :
    readAdjacent tag content (.object fields) = none := by
  simp [readAdjacent, h]

end

/-! ## Requests -/

/-- Requests a local client may send to the daemon. -/
inductive Request where
  | daemonInfo
  | deviceList
  | devicePair (deviceId : String)
  | deviceUnpair (deviceId : String)
  | pairingAnswer (deviceId : String) (accept : Bool)
  | pluginList (deviceId : String)
  | pluginSetEnabled (deviceId plugin : String) (enabled : Bool)
  | sendFile (deviceId path : String)
  | notificationList
  | notificationDismiss (notificationId : String)
  | clipboardGet
  | clipboardSet (text : String)
  | ping
  | transferList
  | transferCancel (transferId : String)
  | runCommandList (deviceId : String)
  | runCommand (deviceId commandName : String)
  | setVolume (percent : UInt8)
  | getVolume
  | shareText (deviceId text : String)
  | shareUrl (deviceId url : String)
  | requestBattery (deviceId : String)
  | sendSms (deviceId number text : String)
  deriving DecidableEq, Repr

namespace Request

def parts : Request → String × Option Fields
  | daemonInfo => ("daemon_info", none)
  | deviceList => ("device_list", none)
  | devicePair d => ("device_pair", some [("device_id", .string d)])
  | deviceUnpair d => ("device_unpair", some [("device_id", .string d)])
  | pairingAnswer d accept =>
    ("pairing_answer", some [("device_id", .string d), ("accept", .bool accept)])
  | pluginList d => ("plugin_list", some [("device_id", .string d)])
  | pluginSetEnabled d plugin enabled =>
    ("plugin_set_enabled",
      some [("device_id", .string d), ("plugin", .string plugin), ("enabled", .bool enabled)])
  | sendFile d path => ("send_file", some [("device_id", .string d), ("path", .string path)])
  | notificationList => ("notification_list", none)
  | notificationDismiss n => ("notification_dismiss", some [("notification_id", .string n)])
  | clipboardGet => ("clipboard_get", none)
  | clipboardSet text => ("clipboard_set", some [("text", .string text)])
  | ping => ("ping", none)
  | transferList => ("transfer_list", none)
  | transferCancel t => ("transfer_cancel", some [("transfer_id", .string t)])
  | runCommandList d => ("run_command_list", some [("device_id", .string d)])
  | runCommand d name =>
    ("run_command", some [("device_id", .string d), ("command_name", .string name)])
  | setVolume percent => ("set_volume", some [("percent", ofU8 percent)])
  | getVolume => ("get_volume", none)
  | shareText d text => ("share_text", some [("device_id", .string d), ("text", .string text)])
  | shareUrl d url => ("share_url", some [("device_id", .string d), ("url", .string url)])
  | requestBattery d => ("request_battery", some [("device_id", .string d)])
  | sendSms d number text =>
    ("send_sms",
      some [("device_id", .string d), ("number", .string number), ("text", .string text)])

def toValue (r : Request) : Value := adjacent "method" "params" r.parts.1 r.parts.2

def ofParts (name : String) (data : Option Value) : Option Request :=
  match name with
  | "daemon_info" => unitVariant data daemonInfo
  | "device_list" => unitVariant data deviceList
  | "device_pair" => return devicePair (← strField data "device_id")
  | "device_unpair" => return deviceUnpair (← strField data "device_id")
  | "pairing_answer" =>
    return pairingAnswer (← strField data "device_id") (← boolField data "accept")
  | "plugin_list" => return pluginList (← strField data "device_id")
  | "plugin_set_enabled" =>
    return pluginSetEnabled (← strField data "device_id") (← strField data "plugin")
      (← boolField data "enabled")
  | "send_file" => return sendFile (← strField data "device_id") (← strField data "path")
  | "notification_list" => unitVariant data notificationList
  | "notification_dismiss" => return notificationDismiss (← strField data "notification_id")
  | "clipboard_get" => unitVariant data clipboardGet
  | "clipboard_set" => return clipboardSet (← strField data "text")
  | "ping" => unitVariant data ping
  | "transfer_list" => unitVariant data transferList
  | "transfer_cancel" => return transferCancel (← strField data "transfer_id")
  | "run_command_list" => return runCommandList (← strField data "device_id")
  | "run_command" =>
    return runCommand (← strField data "device_id") (← strField data "command_name")
  | "set_volume" => return setVolume (← u8Field data "percent")
  | "get_volume" => unitVariant data getVolume
  | "share_text" => return shareText (← strField data "device_id") (← strField data "text")
  | "share_url" => return shareUrl (← strField data "device_id") (← strField data "url")
  | "request_battery" => return requestBattery (← strField data "device_id")
  | "send_sms" =>
    return sendSms (← strField data "device_id") (← strField data "number")
      (← strField data "text")
  | _ => none

/-- `serde_json::from_slice::<Request>`. -/
def fromValue (v : Value) : Option Request :=
  (readAdjacent "method" "params" v).bind fun part => ofParts part.1 part.2

theorem ofParts_parts (r : Request) : ofParts r.parts.1 (r.parts.2.map Value.object) = some r := by
  cases r with
  | setVolume percent =>
    -- the one number is read back through its range check
    have hread : ofParts "set_volume" (some (.object [("percent", ofU8 percent)])) =
        (u8Field (some (.object [("percent", ofU8 percent)])) "percent").bind fun p =>
          some (setVolume p) := rfl
    exact hread.trans (by rw [u8Field_ofU8]; rfl)
  | _ => rfl

theorem fromValue_toValue (r : Request) : fromValue r.toValue = some r := by
  rw [fromValue, toValue, readAdjacent_adjacent (by decide)]
  exact ofParts_parts r

end Request

/-! ## Responses -/

inductive Response where
  | ok (result : Value)
  | err (code : Int) (message : String)
  deriving Repr

namespace Response

def toValue : Response → Value
  | ok result => .object [("status", .string "ok"), ("result", result)]
  | err code message =>
    .object [("status", .string "err"), ("code", ofI32 code), ("message", .string message)]

/-- `serde_json::from_slice::<Response>`. -/
def fromValue (v : Value) : Option Response :=
  match strField (some v) "status" with
  | some "ok" => (field (some v) "result").map ok
  | some "err" => return err (← i32Field (some v) "code") (← strField (some v) "message")
  | _ => none

/-- The code is an `i32`. -/
def Fits : Response → Prop
  | ok _ => True
  | err code _ => -2 ^ 31 ≤ code ∧ code < 2 ^ 31

instance : (r : Response) → Decidable r.Fits
  | ok _ => .isTrue trivial
  | err code _ => inferInstanceAs (Decidable (-2 ^ 31 ≤ code ∧ code < 2 ^ 31))

theorem fromValue_toValue {r : Response} (h : r.Fits) : fromValue r.toValue = some r := by
  cases r with
  | ok result => rfl
  | err code message =>
    have hcode : i32Field (some (toValue (err code message))) "code" = some code := by
      rw [toValue, i32Field, field_of_ne (by decide), ← i32Field]
      exact i32Field_ofI32 h.1 h.2
    have hread : fromValue (toValue (err code message)) =
        (i32Field (some (toValue (err code message))) "code").bind fun c =>
          some (err c message) := rfl
    rw [hread, hcode]
    rfl

end Response

/-! ## Events -/

/-- Server-pushed events streamed to clients alongside responses. -/
inductive ServerEvent where
  | hello (version : UInt32) (app : String) (pid : UInt32)
  | deviceFound (id name : String)
  | deviceLost (id : String)
  | deviceStateChanged (id state : String)
  | transferProgress (id : String) (bytesDone bytesTotal : Nat)
  | transferAdded (id deviceId direction fileName : String) (total : Nat)
  | transferFinished (id : String)
  | transferFailed (id reason : String)
  | shareReceived (path deviceId : String)
  | pairingRequest (deviceId deviceName : String)
  | notificationReceived (id app title body : String)
  | clipboardUpdated (text : String)
  | logRecord (level msg : String)
  | batteryChanged (deviceId : String) (level : UInt8) (charging : Bool)
  | telephonyEvent (deviceId state : String) (number : Option String)
  | volumeChanged (percent : UInt8) (muted : Bool)
  | commandResult (deviceId name : String) (success : Bool) (output : String)
  | daemonShutdown
  deriving DecidableEq, Repr

namespace ServerEvent

/-- What the bus event becomes on the socket. -/
def ofEvent : Core.Event → ServerEvent
  | .deviceFound id name => deviceFound id name
  | .deviceLost id => deviceLost id
  | .deviceStateChanged id state => deviceStateChanged id state
  | .pairingRequest id name => pairingRequest id name
  | .transferProgress id bytesDone bytesTotal => transferProgress id bytesDone bytesTotal
  | .transferAdded id deviceId direction fileName total =>
    transferAdded id deviceId direction fileName total
  | .transferFinished id => transferFinished id
  | .transferFailed id reason => transferFailed id reason
  | .shareReceived path deviceId => shareReceived path deviceId
  | .notificationReceived id app title body => notificationReceived id app title body
  | .clipboardUpdated text => clipboardUpdated text
  | .logRecord level msg => logRecord level msg
  | .daemonShutdown => daemonShutdown

def parts : ServerEvent → String × Option Fields
  | hello version app pid =>
    ("hello", some [("version", ofU32 version), ("app", .string app), ("pid", ofU32 pid)])
  | deviceFound id name => ("device_found", some [("id", .string id), ("name", .string name)])
  | deviceLost id => ("device_lost", some [("id", .string id)])
  | deviceStateChanged id state =>
    ("device_state_changed", some [("id", .string id), ("state", .string state)])
  | transferProgress id bytesDone bytesTotal =>
    ("transfer_progress", some [("id", .string id), ("bytes_done", ofU64 bytesDone),
      ("bytes_total", ofU64 bytesTotal)])
  | transferAdded id deviceId direction fileName total =>
    ("transfer_added", some [("id", .string id), ("device_id", .string deviceId),
      ("direction", .string direction), ("file_name", .string fileName),
      ("total", ofU64 total)])
  | transferFinished id => ("transfer_finished", some [("id", .string id)])
  | transferFailed id reason =>
    ("transfer_failed", some [("id", .string id), ("reason", .string reason)])
  | shareReceived path deviceId =>
    ("share_received", some [("path", .string path), ("device_id", .string deviceId)])
  | pairingRequest deviceId deviceName =>
    ("pairing_request",
      some [("device_id", .string deviceId), ("device_name", .string deviceName)])
  | notificationReceived id app title body =>
    ("notification_received", some [("id", .string id), ("app", .string app),
      ("title", .string title), ("body", .string body)])
  | clipboardUpdated text => ("clipboard_updated", some [("text", .string text)])
  | logRecord level msg =>
    ("log_record", some [("level", .string level), ("msg", .string msg)])
  | batteryChanged deviceId level charging =>
    ("battery_changed", some [("device_id", .string deviceId), ("level", ofU8 level),
      ("charging", .bool charging)])
  | telephonyEvent deviceId state number =>
    ("telephony_event", some [("device_id", .string deviceId), ("state", .string state),
      ("number", ofOptStr number)])
  | volumeChanged percent muted =>
    ("volume_changed", some [("percent", ofU8 percent), ("muted", .bool muted)])
  | commandResult deviceId name success output =>
    ("command_result", some [("device_id", .string deviceId), ("name", .string name),
      ("success", .bool success), ("output", .string output)])
  | daemonShutdown => ("daemon_shutdown", none)

def toValue (e : ServerEvent) : Value := adjacent "event" "data" e.parts.1 e.parts.2

def ofParts (name : String) (data : Option Value) : Option ServerEvent :=
  match name with
  | "hello" =>
    return hello (← u32Field data "version") (← strField data "app") (← u32Field data "pid")
  | "device_found" => return deviceFound (← strField data "id") (← strField data "name")
  | "device_lost" => return deviceLost (← strField data "id")
  | "device_state_changed" =>
    return deviceStateChanged (← strField data "id") (← strField data "state")
  | "transfer_progress" =>
    return transferProgress (← strField data "id") (← u64Field data "bytes_done")
      (← u64Field data "bytes_total")
  | "transfer_added" =>
    return transferAdded (← strField data "id") (← strField data "device_id")
      (← strField data "direction") (← strField data "file_name") (← u64Field data "total")
  | "transfer_finished" => return transferFinished (← strField data "id")
  | "transfer_failed" => return transferFailed (← strField data "id") (← strField data "reason")
  | "share_received" => return shareReceived (← strField data "path") (← strField data "device_id")
  | "pairing_request" =>
    return pairingRequest (← strField data "device_id") (← strField data "device_name")
  | "notification_received" =>
    return notificationReceived (← strField data "id") (← strField data "app")
      (← strField data "title") (← strField data "body")
  | "clipboard_updated" => return clipboardUpdated (← strField data "text")
  | "log_record" => return logRecord (← strField data "level") (← strField data "msg")
  | "battery_changed" =>
    return batteryChanged (← strField data "device_id") (← u8Field data "level")
      (← boolField data "charging")
  | "telephony_event" =>
    return telephonyEvent (← strField data "device_id") (← strField data "state")
      (← optStrField data "number")
  | "volume_changed" => return volumeChanged (← u8Field data "percent") (← boolField data "muted")
  | "command_result" =>
    return commandResult (← strField data "device_id") (← strField data "name")
      (← boolField data "success") (← strField data "output")
  | "daemon_shutdown" => unitVariant data daemonShutdown
  | _ => none

/-- `serde_json::from_slice::<ServerEvent>`. -/
def fromValue (v : Value) : Option ServerEvent :=
  (readAdjacent "event" "data" v).bind fun part => ofParts part.1 part.2

/-- The byte counts are `u64`. -/
def Fits : ServerEvent → Prop
  | transferProgress _ bytesDone bytesTotal => bytesDone < 2 ^ 64 ∧ bytesTotal < 2 ^ 64
  | transferAdded _ _ _ _ total => total < 2 ^ 64
  | _ => True

instance : (e : ServerEvent) → Decidable e.Fits
  | transferProgress _ bytesDone bytesTotal =>
    inferInstanceAs (Decidable (bytesDone < 2 ^ 64 ∧ bytesTotal < 2 ^ 64))
  | transferAdded _ _ _ _ total => inferInstanceAs (Decidable (total < 2 ^ 64))
  | hello _ _ _ | deviceFound _ _ | deviceLost _ | deviceStateChanged _ _ | transferFinished _
  | transferFailed _ _ | shareReceived _ _ | pairingRequest _ _ | notificationReceived _ _ _ _
  | clipboardUpdated _ | logRecord _ _ | batteryChanged _ _ _ | telephonyEvent _ _ _
  | volumeChanged _ _ | commandResult _ _ _ _ | daemonShutdown => .isTrue trivial

variable {e : ServerEvent}

/-- Reading a variant's fields gives the variant back.  The names decide by
    computation; what is left are the numbers. -/
theorem ofParts_parts (h : e.Fits) :
    ofParts e.parts.1 (e.parts.2.map Value.object) = some e := by
  cases e with
  | hello version app pid =>
    have hread : ofParts "hello" ((hello version app pid).parts.2.map Value.object) =
        (u32Field ((hello version app pid).parts.2.map Value.object) "version").bind fun v =>
          (u32Field ((hello version app pid).parts.2.map Value.object) "pid").bind fun p =>
            some (hello v app p) := rfl
    refine hread.trans ?_
    simp only [parts, Option.map_some, u32Field_ofU32, Option.bind_some]
    rw [u32Field_skip (by decide), u32Field_skip (by decide), u32Field_ofU32]
    rfl
  | transferProgress id bytesDone bytesTotal =>
    have hread : ofParts "transfer_progress"
        ((transferProgress id bytesDone bytesTotal).parts.2.map Value.object) =
        (u64Field ((transferProgress id bytesDone bytesTotal).parts.2.map Value.object)
          "bytes_done").bind fun d =>
            (u64Field ((transferProgress id bytesDone bytesTotal).parts.2.map Value.object)
              "bytes_total").bind fun t => some (transferProgress id d t) := rfl
    refine hread.trans ?_
    simp only [parts, Option.map_some]
    rw [u64Field_skip (by decide), u64Field_ofU64 h.1, u64Field_skip (by decide),
      u64Field_skip (by decide), u64Field_ofU64 h.2]
    rfl
  | transferAdded id deviceId direction fileName total =>
    have hread : ofParts "transfer_added"
        ((transferAdded id deviceId direction fileName total).parts.2.map Value.object) =
        (u64Field ((transferAdded id deviceId direction fileName total).parts.2.map
          Value.object) "total").bind fun t =>
            some (transferAdded id deviceId direction fileName t) := rfl
    refine hread.trans ?_
    simp only [parts, Option.map_some]
    rw [u64Field_skip (by decide), u64Field_skip (by decide), u64Field_skip (by decide),
      u64Field_skip (by decide), u64Field_ofU64 h]
    rfl
  | batteryChanged deviceId level charging =>
    have hread : ofParts "battery_changed"
        ((batteryChanged deviceId level charging).parts.2.map Value.object) =
        (u8Field ((batteryChanged deviceId level charging).parts.2.map Value.object)
          "level").bind fun l => some (batteryChanged deviceId l charging) := rfl
    refine hread.trans ?_
    simp only [parts, Option.map_some]
    rw [u8Field_skip (by decide), u8Field_ofU8]
    rfl
  | volumeChanged percent muted =>
    have hread : ofParts "volume_changed"
        ((volumeChanged percent muted).parts.2.map Value.object) =
        (u8Field ((volumeChanged percent muted).parts.2.map Value.object)
          "percent").bind fun p => some (volumeChanged p muted) := rfl
    refine hread.trans ?_
    simp only [parts, Option.map_some, u8Field_ofU8]
    rfl
  | telephonyEvent deviceId state number =>
    cases number with
    | none => rfl
    | some n => rfl
  | _ => rfl

theorem fromValue_toValue (h : e.Fits) : fromValue e.toValue = some e := by
  rw [fromValue, toValue, readAdjacent_adjacent (by decide)]
  exact ofParts_parts h

/-- **Disjoint encodings.** A response has no event tag, whatever its result
    holds. -/
theorem fromValue_response (r : Response) : fromValue r.toValue = none := by
  cases r with
  | ok result =>
    rw [Response.toValue, fromValue, readAdjacent_none rfl]
    rfl
  | err code message =>
    rw [Response.toValue, fromValue, readAdjacent_none rfl]
    rfl

end ServerEvent

end Handfast.Ipc
