/-
  Handfast.Daemon.Control

  The functions of the control handshake (`crates/daemon/src/handshake.rs`):
  reading the plaintext identity line byte by byte, checking the identity sent
  inside TLS, and comparing the two.

  The JSON codec is a parameter, as in `Protocol.Framing`.  Timeouts are left
  out: a read that has to wait returns nothing.
-/
import Handfast.Protocol.Framing
import Handfast.Core.Bus

namespace Handfast.Daemon

open Handfast.Lib Handfast.Protocol Handfast.Core

def protocolText : Framing.Error → String
  | .io msg => "io error: " ++ msg
  | .json msg => "json error: " ++ msg
  | .cert msg => "certificate error: " ++ msg
  | .other msg => msg

/-- `serde_json`, as far as the handshake uses it. -/
structure Codec where
  toVec : Packet → Except String (List UInt8)
  fromSlice : List UInt8 → Except String Packet
  /-- The message of `from_value::<Identity>` for a body it cannot read. -/
  bodyError : Value → String

/-- The byte `{`. -/
def openBrace : UInt8 := 123

def identityOf (codec : Codec) (packet : Packet) : Result Identity :=
  if packet.ptype ≠ typeIdentity then
    .error (.other s!"expected {typeIdentity} as first packet, got {packet.ptype}")
  else
    match Identity.fromValue packet.body with
    | some identity => .ok identity
    | none => .error (.other ("malformed identity body: " ++ codec.bodyError packet.body))

/-- `read_plaintext_identity` on the bytes that have arrived, one at a time;
    `none` while the line is not complete. -/
def readPlaintextIdentity (codec : Codec) :
    Bool → List UInt8 → List UInt8 → Option (Result Identity)
  | _, _, [] => none
  | first, line, byte :: rest =>
    if first ∧ byte ≠ openBrace then
      some (.error (.other "peer did not start with a plaintext identity packet"))
    else if line.length ≥ Framing.maxPacketLen then
      some (.error (.other s!"identity line exceeds MAX_PACKET_LEN ({Framing.maxPacketLen})"))
    else if byte = Framing.newline then
      match codec.fromSlice line with
      | .error msg => some (.error (.other s!"malformed plaintext identity packet: {msg}"))
      | .ok packet => some (identityOf codec packet)
    else readPlaintextIdentity codec false (line ++ [byte]) rest

/-- The second half of `exchange`: what becomes of the packet that was read. -/
def exchanged (codec : Codec) (read : Framing.Result Packet) : Result Identity :=
  match read with
  | .error err => .error (.other (protocolText err))
  | .ok packet =>
    match identityOf codec packet with
    | .error err => .error err
    | .ok theirs =>
      if theirs.deviceId = "" then .error (.other "peer identity lacks deviceId")
      else .ok theirs

/-- `cross_check`: the identity sent inside TLS must agree with the plaintext one. -/
def crossCheck (plain secure : Identity) : Result Unit :=
  if plain.deviceId ≠ secure.deviceId then
    .error (.other s!"device id changed during handshake: {plain.deviceId} -> {secure.deviceId}")
  else if plain.protocolVersion ≠ secure.protocolVersion then
    .error (.other ("protocol version changed during handshake: " ++
      toString plain.protocolVersion ++ " -> " ++ toString secure.protocolVersion))
  else .ok ()

/-! ## Identities that pass -/

variable {codec : Codec} {json seen rest line : List UInt8} {packet : Packet} {i : Identity}
  {first : Bool}

@[simp] theorem identityOf_identity (id : Int) :
    identityOf codec (.identity id i) = .ok i := by
  have htype : (Packet.identity id i).ptype = typeIdentity := rfl
  have hbody : Identity.fromValue (Packet.identity id i).body = some i :=
    Identity.fromValue_toValue i
  rw [identityOf, if_neg (not_not.mpr htype), hbody]

theorem exchanged_identity (hid : i.deviceId ≠ "") (id : Int) :
    exchanged codec (.ok (.identity id i)) = .ok i := by
  simp only [exchanged, identityOf_identity, if_neg hid]

theorem crossCheck_self (i : Identity) : crossCheck i i = .ok () := by simp [crossCheck]

/-! ## Reading the plaintext line

The bytes before the newline are all taken up into `line`. -/

/-- As long as the newline has not come, the reader waits. -/
theorem readPlaintext_waits (hfirst : first = true → seen.head? = some openBrace ∨ seen = [])
    (hclean : Framing.newline ∉ seen) (hlen : line.length + seen.length ≤ Framing.maxPacketLen) :
    readPlaintextIdentity codec first line seen = none := by
  induction seen generalizing first line with
  | nil => rfl
  | cons byte seen ih =>
    have hbrace : ¬ (first = true ∧ byte ≠ openBrace) := by
      rintro ⟨hf, hne⟩
      rcases hfirst hf with h | h
      · exact hne (Option.some.inj h)
      · cases h
    have hroom : ¬ line.length ≥ Framing.maxPacketLen := by
      rw [List.length_cons] at hlen
      omega
    have hbyte : ¬ byte = Framing.newline := fun h => hclean (h ▸ List.mem_cons_self)
    rw [readPlaintextIdentity, if_neg hbrace, if_neg hroom, if_neg hbyte]
    refine ih nofun (fun hmem => hclean (List.mem_cons_of_mem byte hmem)) ?_
    simp only [List.length_append, List.length_cons, List.length_nil] at hlen ⊢
    omega

/-- At the newline the line is parsed. -/
theorem readPlaintext_line (hfirst : first = true → json.head? = some openBrace)
    (hclean : Framing.newline ∉ json) (hlen : line.length + json.length < Framing.maxPacketLen)
    (hparse : codec.fromSlice (line ++ json) = .ok packet) :
    readPlaintextIdentity codec first line (json ++ [Framing.newline]) =
      some (identityOf codec packet) := by
  -- byte by byte; only the first is checked for the brace
  induction json generalizing first line with
  | nil =>
    have hstart : ¬ first = true := fun hf => by cases hfirst hf
    have hroom : ¬ line.length ≥ Framing.maxPacketLen := by
      rw [List.length_nil] at hlen
      omega
    rw [List.append_nil] at hparse
    rw [List.nil_append, readPlaintextIdentity, if_neg (fun h => hstart h.1), if_neg hroom,
      if_pos rfl, hparse]
  | cons byte json ih =>
    have hbrace : ¬ (first = true ∧ byte ≠ openBrace) := by
      rintro ⟨hf, hne⟩
      exact hne (Option.some.inj (hfirst hf))
    have hroom : ¬ line.length ≥ Framing.maxPacketLen := by
      rw [List.length_cons] at hlen
      omega
    have hbyte : ¬ byte = Framing.newline := fun h => hclean (h ▸ List.mem_cons_self)
    rw [List.cons_append, readPlaintextIdentity, if_neg hbrace, if_neg hroom, if_neg hbyte]
    refine ih nofun (fun hmem => hclean (List.mem_cons_of_mem byte hmem)) ?_ ?_
    · simp only [List.length_append, List.length_cons, List.length_nil] at hlen ⊢
      omega
    · rwa [List.append_assoc]

end Handfast.Daemon
