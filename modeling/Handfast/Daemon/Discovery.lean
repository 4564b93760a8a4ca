/-
  Handfast.Daemon.Discovery

  UDP discovery (`crates/daemon/src/discovery.rs`): `announce` broadcasts an
  identity packet as one datagram, `recv_one` waits for a datagram that is the
  announcement of another device.

  `serde_json` is a parameter.  It writes text, so a datagram is the UTF-8 bytes
  of one.  The socket hands out at most as many bytes of a datagram as the
  buffer holds and drops the rest.
-/
import Handfast.Daemon.IdentityLine
import Handfast.Daemon.State

namespace Handfast.Daemon

open Handfast.Lib Handfast.Protocol Handfast.Core

namespace Discovery

def maxDatagram : Nat := 4096

/-- The most a UDP datagram over IPv4 can carry. -/
def maxUdpPayload : Nat := 65507

/-- `serde_json`, as far as discovery uses it. -/
structure Json where
  toText : Packet → Except String String
  readPacket : String → Option Packet
  readIdentity : String → Option Identity

variable (json : Json)

/-- The datagram `announce` sends; `id` is the number of the packet. -/
def announce (id : Int) (identity : Identity) : Result ByteArray :=
  match json.toText (.identity id identity) with
  | .error msg => .error (.other msg)
  | .ok text => .ok text.toUTF8

def parseAnnouncement (text : String) : Option Identity :=
  -- the envelope of a packet, or a bare identity from older instances
  match (json.readPacket text).filter fun packet => packet.ptype = typeIdentity with
  | some packet => Identity.fromValue packet.body
  | none => json.readIdentity text

/-- One turn of the loop of `recv_one`, on the bytes the socket handed out. -/
def accept (selfDeviceId : String) (received : ByteArray) : Option Identity :=
  if received.size = 0 ∨ received.size > maxDatagram then none
  else
    match String.fromUTF8? received with
    | none => none
    | some text =>
      match parseAnnouncement json text with
      | none => none
      | some parsed =>
        if parsed.deviceId = selfDeviceId then none
        else if parsed.tcpSourcePort = 0 then none
        else some parsed

/-- What a receive call on the socket gives: an error, or a source and a datagram, of which the
    buffer takes what it can hold. -/
abbrev Arrival := Except String (SocketAddr × ByteArray)

/-- `recv_one` on what arrives, with the arrivals it leaves for the next call; `none` while it
    waits. -/
def recvOne (selfDeviceId : String) : List Arrival → Option (PeerAnnouncement × List Arrival)
  | [] => none
  | .error _ :: later => recvOne selfDeviceId later
  | .ok (source, datagram) :: later =>
    match accept json selfDeviceId (datagram.extract 0 maxDatagram) with
    | some identity => some (⟨source.ip, identity⟩, later)
    | none => recvOne selfDeviceId later

variable {json}

/-! ## Round trip -/

/-- What `serde_json` is assumed to do with the text of a packet: it starts with a brace, and
    parsing gives the packet back. -/
structure Written (json : Json) (packet : Packet) (text : String) : Prop where
  written : json.toText packet = .ok text
  brace : text.toList.head? = some '\x7b'
  read : json.readPacket text = some packet

/-- An object is complete only with its last brace: no shorter text that the bytes of the
    object start with is a packet or an identity. -/
def NeedsAll (json : Json) (text : String) : Prop :=
  ∀ n short, n < text.toUTF8.size → String.fromUTF8? (text.toUTF8.extract 0 n) = some short →
    json.readPacket short = none ∧ json.readIdentity short = none

variable {packet : Packet} {text : String} {selfDeviceId : String} {identity : Identity} {id : Int}

theorem fromUTF8?_self (text : String) : String.fromUTF8? text.toUTF8 = some text := by
  have hvalid : text.toUTF8.IsValidUTF8 := text.isValidUTF8
  exact dif_pos hvalid

/-- Bytes that are read as a text are as many as the text has. -/
theorem size_of_fromUTF8? {bytes : ByteArray} (h : String.fromUTF8? bytes = some text) :
    text.toUTF8.size = bytes.size := by
  by_cases hvalid : bytes.IsValidUTF8
  · rw [String.fromUTF8?, dif_pos hvalid] at h
    cases h
    rfl
  · rw [String.fromUTF8?, dif_neg hvalid] at h
    cases h

theorem Written.size_pos (h : Written json packet text) : text.toUTF8.size ≠ 0 := by
  intro hzero
  have hempty : text = "" := by
    rw [← String.utf8ByteSize_eq_zero_iff]
    exact hzero
  have hbrace := h.brace
  rw [hempty] at hbrace
  cases hbrace

/-- An identity that was written is read back. -/
theorem parseAnnouncement_written (h : Written json (.identity id identity) text) :
    parseAnnouncement json text = some identity := by
  have hbody : Identity.fromValue (Packet.identity id identity).body = some identity :=
    Identity.fromValue_toValue identity
  have htype : (Packet.identity id identity).ptype = typeIdentity := rfl
  simp only [parseAnnouncement, h.read, Option.filter, htype, decide_true, if_true, hbody]

theorem announce_written (h : Written json (.identity id identity) text) :
    announce json id identity = .ok text.toUTF8 := by
  simp only [announce, h.written]

/-- A datagram that fits the buffer is accepted. -/
theorem accept_whole (h : Written json (.identity id identity) text)
    (hport : identity.tcpSourcePort ≠ 0) (hself : identity.deviceId ≠ selfDeviceId)
    (hsize : text.toUTF8.size ≤ maxDatagram) :
    accept json selfDeviceId (text.toUTF8.extract 0 maxDatagram) = some identity := by
  have hall : text.toUTF8.extract 0 maxDatagram = text.toUTF8 := by
    apply ByteArray.ext
    rw [ByteArray.data_extract, Array.extract_eq_self_of_le]
    exact hsize
  rw [hall, accept, if_neg (by have := h.size_pos; omega), fromUTF8?_self]
  simp only [parseAnnouncement_written h, if_neg hself, if_neg hport]

/-- A longer one is cut off and dropped. -/
theorem accept_cut (h : NeedsAll json text) (hsize : maxDatagram < text.toUTF8.size) :
    accept json selfDeviceId (text.toUTF8.extract 0 maxDatagram) = none := by
  unfold accept
  split
  · rfl
  · cases htext : String.fromUTF8? (text.toUTF8.extract 0 maxDatagram) with
    | none => rfl
    | some short =>
      obtain ⟨hpacket, hidentity⟩ := h maxDatagram short hsize htext
      simp only [parseAnnouncement, hpacket, hidentity, Option.filter]

/-- A datagram that is not accepted leaves the loop waiting for the next one. -/
theorem recvOne_drops {source : SocketAddr} {datagram : ByteArray} (later : List Arrival)
    (h : accept json selfDeviceId (datagram.extract 0 maxDatagram) = none) :
    recvOne json selfDeviceId (.ok (source, datagram) :: later) =
      recvOne json selfDeviceId later := by
  simp only [recvOne, h]

/-- **Announcements are received.** The datagram of an announcement that the buffer holds makes
    a peer's `recv_one` return the announced identity; a longer one is dropped. -/
theorem announced_received (json : Json) (id : Int) (identity : Identity) (text : String)
    (selfDeviceId : String) (source : SocketAddr) (later : List Arrival)
    (hwritten : Written json (.identity id identity) text)
    (hport : identity.tcpSourcePort ≠ 0) (hself : identity.deviceId ≠ selfDeviceId) :
    announce json id identity = .ok text.toUTF8 ∧
      (text.toUTF8.size ≤ maxDatagram →
        recvOne json selfDeviceId (.ok (source, text.toUTF8) :: later) =
          some (⟨source.ip, identity⟩, later)) ∧
      (NeedsAll json text → maxDatagram < text.toUTF8.size →
        recvOne json selfDeviceId (.ok (source, text.toUTF8) :: later) =
          recvOne json selfDeviceId later) := by
  refine ⟨announce_written hwritten, fun hsize => ?_, fun hneeds hsize => ?_⟩
  · simp only [recvOne, accept_whole hwritten hport hself hsize]
  · exact recvOne_drops later (accept_cut hneeds hsize)

/-! ## A phone with a long name -/

open Handfast.Protocol.Framing (asciiBytes longNamed longNamedText longNamedText_length textBefore
  textBehind)

/-- `serde_json` on the identity packet of a phone with a long name. -/
def longNamedJson (n : Nat) : Json where
  toText _ := .ok (String.ofList (longNamedText n))
  readPacket text :=
    if text = String.ofList (longNamedText n) then some (.identity 1 (longNamed n)) else none
  readIdentity _ := none

theorem longNamed_written (n : Nat) :
    Written (longNamedJson n) (.identity 1 (longNamed n)) (String.ofList (longNamedText n)) where
  written := rfl
  brace := by
    rw [String.toList_ofList]
    rfl
  read := if_pos rfl

/-- A text of one-byte letters has as many bytes as letters. -/
theorem size_of_ascii {letters : List Char} (h : ∀ ch ∈ letters, ch.utf8Size = 1) :
    (String.ofList letters).toUTF8.size = letters.length := by
  rw [String.toUTF8_eq_toByteArray, String.toByteArray_ofList]
  induction letters with
  | nil => rfl
  | cons ch letters ih =>
    obtain ⟨hch, hrest⟩ := List.forall_mem_cons.mp h
    rw [List.utf8Encode_cons, ByteArray.size_append, ih hrest, List.utf8Encode_singleton,
      List.size_toByteArray, String.length_utf8EncodeChar, hch, List.length_cons, Nat.add_comm]

/-- The datagram grows with the device's name. -/
theorem longNamed_size (n : Nat) : (String.ofList (longNamedText n)).toUTF8.size = n + 189 := by
  have hbefore : ((textBefore "1" "phone").all fun ch => ch.utf8Size = 1) = true := by
    decide +kernel
  have hbehind : (textBehind.all fun ch => ch.utf8Size = 1) = true := by decide +kernel
  have hascii : ∀ ch ∈ longNamedText n, ch.utf8Size = 1 := by
    intro ch hch
    rw [longNamedText, List.mem_append, List.mem_append] at hch
    rcases hch with (hch | hch) | hch
    · exact of_decide_eq_true (List.all_eq_true.mp hbefore ch hch)
    · rw [List.eq_of_mem_replicate hch]
      decide
    · exact of_decide_eq_true (List.all_eq_true.mp hbehind ch hch)
  have hlength := longNamedText_length n
  rw [asciiBytes, List.length_map] at hlength
  rw [size_of_ascii hascii, hlength]

theorem longNamed_needsAll (n : Nat) :
    NeedsAll (longNamedJson n) (String.ofList (longNamedText n)) := by
  intro k short hk hshort
  have hsize := size_of_fromUTF8? hshort
  have hother : short ≠ String.ofList (longNamedText n) := by
    rintro rfl
    rw [ByteArray.size_extract] at hsize
    omega
  exact ⟨if_neg hother, rfl⟩

/-- A short name is heard, one of 5000 letters is not. -/
theorem announced_received_phone :
    let sender : SocketAddr := ⟨.v4 0xC0A80002#32, 1716⟩
    recvOne (longNamedJson 5) "laptop"
        [.ok (sender, (String.ofList (longNamedText 5)).toUTF8)] =
      some (⟨sender.ip, longNamed 5⟩, []) ∧
    recvOne (longNamedJson 5000) "laptop"
        [.ok (sender, (String.ofList (longNamedText 5000)).toUTF8)] =
      recvOne (longNamedJson 5000) "laptop" [] := by
  intro sender
  have hself (n : Nat) : (longNamed n).deviceId ≠ "laptop" := by
    have hid : (longNamed n).deviceId = "phone" := rfl
    rw [hid]
    decide
  have hport (n : Nat) : (longNamed n).tcpSourcePort ≠ 0 := by
    have hvalue : (longNamed n).tcpSourcePort = 1716 := rfl
    rw [hvalue]
    decide
  refine ⟨(announced_received (longNamedJson 5) 1 (longNamed 5) _ "laptop" sender []
    (longNamed_written 5) (hport 5) (hself 5)).2.1 ?_, (announced_received (longNamedJson 5000) 1
      (longNamed 5000) _ "laptop" sender [] (longNamed_written 5000) (hport 5000)
      (hself 5000)).2.2 (longNamed_needsAll 5000) ?_⟩
  · rw [longNamed_size]
    decide
  · rw [longNamed_size]
    decide

/-- A name of 4000 letters fits a datagram and is not heard. -/
theorem long_name_unheard :
    let phone := longNamed 4000
    let sender : SocketAddr := ⟨.v4 0xC0A80002#32, 1716⟩
    phone.tcpSourcePort = 1716 ∧ phone.deviceId = "phone" ∧
    ∃ datagram, announce (longNamedJson 4000) 1 phone = .ok datagram ∧
      datagram.size ≤ maxUdpPayload ∧
      recvOne (longNamedJson 4000) "laptop" [.ok (sender, datagram)] = none := by
  intro phone sender
  have hsize := longNamed_size 4000
  refine ⟨rfl, rfl, _, announce_written (longNamed_written 4000), ?_, ?_⟩
  · rw [hsize]
    decide
  · have hlong : maxDatagram < (String.ofList (longNamedText 4000)).toUTF8.size := by
      rw [hsize]
      decide
    exact recvOne_drops [] (accept_cut (longNamed_needsAll 4000) hlong)

end Discovery

end Handfast.Daemon
