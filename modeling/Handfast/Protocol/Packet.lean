/-
  Handfast.Protocol.Packet

  The packet and identity records of the KDE Connect protocol
  (`crates/protocol/src/{lib,packet,identity,transfer}.rs`): packet type names,
  the payload envelope, and the reading of an identity from a packet body.

  An identity body is decoded the way serde's derived `Deserialize` does it:
  fields are found under their wire name or one alias (both at once is an
  error), three of them are mandatory, the others have defaults, unknown fields
  are ignored; a JSON array is read positionally.
-/
import Handfast.Protocol.Value

namespace Handfast.Protocol

/-! ## Packet types -/

abbrev typeIdentity : String := "kdeconnect.identity"
abbrev typePair : String := "kdeconnect.pair"
abbrev typePing : String := "kdeconnect.ping"
abbrev typeNotification : String := "kdeconnect.notification"
abbrev typeNotificationRequest : String := "kdeconnect.notification.request"
abbrev typeMpris : String := "kdeconnect.mpris"
abbrev typeMprisRequest : String := "kdeconnect.mpris.request"
abbrev typeClipboard : String := "kdeconnect.clipboard"
abbrev typeShare : String := "kdeconnect.share.request"
abbrev typeRuncommand : String := "kdeconnect.runcommand"
abbrev typeRuncommandRequest : String := "kdeconnect.runcommand.request"
abbrev typeBattery : String := "kdeconnect.battery"
abbrev typeBatteryRequest : String := "kdeconnect.battery.request"
abbrev typeTelephony : String := "kdeconnect.telephony"
abbrev typeSystemvolume : String := "kdeconnect.systemvolume"
abbrev typeFindmyphone : String := "kdeconnect.findmyphone.request"

def protoVersion : UInt16 := 8

/-- `UNKNOWN_SIZE`: the sender did not announce a size (`u64::MAX`). -/
def unknownSize : Nat := 2 ^ 64 - 1

/-! ## Packets -/

structure Packet where
  id : Int
  ptype : String
  body : Value
  /-- Announced payload size; negative means unknown. -/
  payloadSize : Option Int
  /-- How to reach the data connection (`{"port": <u16>}`). -/
  payloadTransferInfo : Option Fields
  deriving Repr, Inhabited

namespace Packet

/-- A packet without payload.  `id` is the value drawn from the process-wide
    counter. -/
def new (id : Int) (ptype : String) (body : Value) : Packet :=
  { id, ptype, body, payloadSize := none, payloadTransferInfo := none }

/-- Announce a payload of `size` bytes on local port `port`. -/
def withPayload (p : Packet) (size : Int) (port : UInt16) : Packet :=
  { p with
    payloadSize := some size
    payloadTransferInfo := some [("port", .number (.posInt port.toUInt64))] }

/-- Port the peer listens on for the data connection, if announced. -/
def payloadTransferPort (p : Packet) : Option UInt16 :=
  ((p.payloadTransferInfo.bind (·.lookup "port")).bind Value.asU64).bind fun port =>
    if port.toNat < 2 ^ 16 then some port.toUInt16 else none

/-- The packet without its id and without the data port it announces. -/
def erase (p : Packet) : Packet :=
  { p with id := 0, payloadTransferInfo := p.payloadTransferInfo.map fun _ => [] }

end Packet

/-- Reinterpret a `u64` as an `i64` (`as i64`). -/
def asI64 (n : Nat) : Int := if n < 2 ^ 63 then n else (n : Int) - 2 ^ 64

/-! ## Identities -/

/-- Advertisement describing a KDE Connect device. -/
structure Identity where
  deviceId : String
  name : String
  deviceType : String
  protocolVersion : UInt16
  incoming : List String
  outgoing : List String
  tcpSourcePort : UInt16
  deriving DecidableEq, Repr, Inhabited

namespace Identity

/-- Deserialize a `u16`. -/
def readU16 : Value → Option UInt16
  | .number (.posInt n) => if n.toNat < 2 ^ 16 then some n.toUInt16 else none
  | _ => none

/-- Deserialize a `Vec<String>`. -/
def readStrings : Value → Option (List String)
  | .array xs => xs.mapM Value.asStr
  | _ => none

/-- Find a field under any of its names.  Outer `none`: it is given twice;
    inner `none`: it is missing. -/
def findField (names : List String) (fields : Fields) : Option (Option Value) :=
  match names.filterMap fun n => fields.lookup n with
  | [] => some none
  | [v] => some (some v)
  | _ => none

def required {α : Type} (read : Value → Option α) : Option (Option Value) → Option α
  | some (some v) => read v
  | _ => none

/-- Read a field with `#[serde(default)]`. -/
def defaulted {α : Type} (dflt : α) (read : Value → Option α) :
    Option (Option Value) → Option α
  | some (some v) => read v
  | some none => some dflt
  | none => none

/-- The identity whose fields are found by `field` under a list of names and a
    position. -/
def assemble (field : List String → Nat → Option (Option Value)) : Option Identity := do
  let deviceId ← required Value.asStr (field ["deviceId"] 0)
  let name ← required Value.asStr (field ["deviceName", "name"] 1)
  let deviceType ← required Value.asStr (field ["deviceType"] 2)
  let protocolVersion ← defaulted 0 readU16 (field ["protocolVersion", "ProtocolVersion"] 3)
  let incoming ← defaulted [] readStrings (field ["incomingCapabilities"] 4)
  let outgoing ← defaulted [] readStrings (field ["outgoingCapabilities"] 5)
  let tcpSourcePort ← defaulted 0 readU16 (field ["tcpPort", "tcpSourcePort"] 6)
  return { deviceId, name, deviceType, protocolVersion, incoming, outgoing, tcpSourcePort }

/-- `serde_json::from_value::<Identity>`. -/
def fromValue : Value → Option Identity
  | .object fields => assemble fun names _ => findField names fields
  | .array xs =>
    if xs.length ≤ 7 then assemble fun _ i => some xs[i]? else none
  | _ => none

/-- A `u16` as a JSON number. -/
def ofU16 (n : UInt16) : Value := .number (.posInt n.toUInt64)

/-- `serde_json::to_value`: the names upstream uses. -/
def toValue (i : Identity) : Value :=
  .object
    [("deviceId", .string i.deviceId),
     ("deviceName", .string i.name),
     ("deviceType", .string i.deviceType),
     ("protocolVersion", ofU16 i.protocolVersion),
     ("incomingCapabilities", .array (i.incoming.map .string)),
     ("outgoingCapabilities", .array (i.outgoing.map .string)),
     ("tcpPort", ofU16 i.tcpSourcePort)]

theorem readU16_ofU16 (n : UInt16) : readU16 (ofU16 n) = some n := by
  have hlt : n.toUInt64.toNat < 2 ^ 16 := by
    rw [UInt16.toNat_toUInt64]
    exact n.toNat_lt
  rw [ofU16, readU16, if_pos hlt]
  simp

theorem readStrings_map (xs : List String) : readStrings (.array (xs.map .string)) = some xs := by
  rw [readStrings, List.mapM_map]
  induction xs with
  | nil => rfl
  | cons x xs ih => simp [List.mapM_cons, Value.asStr, ih]

/-- An identity is read back from what it is written as. -/
theorem fromValue_toValue (i : Identity) : fromValue i.toValue = some i := by
  -- every name is found once, so only the seven values have to be read
  have hread : fromValue i.toValue = (do
      let protocolVersion ← readU16 (ofU16 i.protocolVersion)
      let incoming ← readStrings (.array (i.incoming.map .string))
      let outgoing ← readStrings (.array (i.outgoing.map .string))
      let tcpSourcePort ← readU16 (ofU16 i.tcpSourcePort)
      return { i with protocolVersion, incoming, outgoing, tcpSourcePort }) := rfl
  rw [hread, readU16_ofU16, readStrings_map, readStrings_map, readU16_ofU16]
  rfl

end Identity

/-- `Packet::identity`. -/
def Packet.identity (id : Int) (i : Identity) : Packet := .new id typeIdentity i.toValue

/-! ## Certificate fingerprints -/

/-- SHA-256 of a peer certificate. -/
abbrev Fingerprint := Vector UInt8 32

def hexDigit (n : Nat) : Char :=
  if n < 10 then Char.ofNat ('0'.toNat + n) else Char.ofNat ('a'.toNat + (n - 10))

/-- `format!("{b:02x}")`. -/
def hexByte (b : UInt8) : List Char := [hexDigit (b.toNat / 16), hexDigit (b.toNat % 16)]

/-- Lowercase hexadecimal form of a fingerprint, the form the store keeps. -/
def hex (fp : Fingerprint) : String := String.ofList (fp.toList.flatMap hexByte)

/-- The hexadecimal form of a fingerprint is never the empty string. -/
theorem hex_ne_empty (fp : Fingerprint) : hex fp ≠ "" := by
  intro h
  have hlist : fp.toList.flatMap hexByte = [] := by
    have := congrArg String.toList h
    simpa [hex] using this
  have hlen : fp.toList.length = 32 := by simp
  match hfp : fp.toList, hlen with
  | b :: rest, _ =>
    rw [hfp] at hlist
    simp [hexByte] at hlist

theorem hexDigit_inj : ∀ m < 16, ∀ n < 16, hexDigit m = hexDigit n → m = n := by decide

theorem hexByte_inj {a b : UInt8} (h : hexByte a = hexByte b) : a = b := by
  have ha := a.toNat_lt
  have hb := b.toNat_lt
  simp only [hexByte, List.cons.injEq, and_true] at h
  have hdiv := hexDigit_inj _ (by omega) _ (by omega) h.1
  have hmod := hexDigit_inj _ (by omega) _ (by omega) h.2
  exact UInt8.toNat_inj.mp (by omega)

theorem flatMap_hexByte_inj {as bs : List UInt8} (h : as.flatMap hexByte = bs.flatMap hexByte) :
    as = bs := by
  induction as generalizing bs with
  | nil => cases bs with
    | nil => rfl
    | cons b bs => simp [hexByte] at h
  | cons a as ih => cases bs with
    | nil => simp [hexByte] at h
    | cons b bs =>
      -- every byte gives two digits, so the first two and the rest agree
      have hsplit := List.append_inj h rfl
      rw [hexByte_inj hsplit.1, ih hsplit.2]

/-- Different fingerprints have different hexadecimal forms. -/
theorem hex_inj {a b : Fingerprint} (h : hex a = hex b) : a = b := by
  apply Vector.toList_inj.mp
  apply flatMap_hexByte_inj
  have := congrArg String.toList h
  simpa [hex] using this

end Handfast.Protocol
