/-
  Handfast.Daemon.IdentityLine

  The two readers of an identity packet compared: `read_plaintext_identity`
  (`crates/daemon/src/handshake.rs`), which takes one byte at a time off the raw
  socket, and `Packet::read_frame`, which reads the line sent inside TLS.

  `readIdentityLine` is the first with what it leaves on the socket.  It gives
  up as soon as a byte arrives and the line is full, also if that byte is the
  newline; so the longest line it takes is one byte shorter than what
  `encode_into` writes and `read_frame` reads.
-/
import Handfast.Daemon.GreetingRun

namespace Handfast.Daemon

open Handfast.Lib Handfast.Protocol Handfast.Core

def parseIdentityLine (codec : Codec) (line : List UInt8) : Result Identity :=
  match codec.fromSlice line with
  | .error msg => .error (.other s!"malformed plaintext identity packet: {msg}")
  | .ok packet => identityOf codec packet

/-- `read_plaintext_identity` on the bytes that arrive before the peer closes the connection
    or stops sending, with the bytes it does not read; `none` if it has to wait for more. -/
def readIdentityLine (codec : Codec) (closed : Bool) :
    Bool → List UInt8 → List UInt8 → Option (Result Identity × List UInt8)
  | _, _, [] =>
    if closed then
      some (.error (.other "connection closed before the plaintext identity line"), [])
    else none
  | first, line, byte :: rest =>
    if first ∧ byte ≠ openBrace then
      some (.error (.other "peer did not start with a plaintext identity packet"), rest)
    else if line.length ≥ Framing.maxPacketLen then
      some (.error (.other s!"identity line exceeds MAX_PACKET_LEN ({Framing.maxPacketLen})"),
        rest)
    else if byte = Framing.newline then some (parseIdentityLine codec line, rest)
    else readIdentityLine codec closed false (line ++ [byte]) rest

variable {codec : Codec} {json line rest : List UInt8} {packet : Packet} {i : Identity}
  {first closed : Bool}

/-- A line below the limit is parsed, and nothing behind its newline is read. -/
theorem readIdentityLine_parses (hfirst : first = true → json.head? = some openBrace)
    (hclean : Framing.newline ∉ json) (hlen : line.length + json.length < Framing.maxPacketLen) :
    readIdentityLine codec closed first line (json ++ Framing.newline :: rest) =
      some (parseIdentityLine codec (line ++ json), rest) := by
  induction json generalizing first line with
  | nil =>
    have hstart : ¬ first = true := fun hf => by cases hfirst hf
    rw [List.length_nil] at hlen
    rw [List.nil_append, readIdentityLine, if_neg (fun h => hstart h.1), if_neg (by omega),
      if_pos rfl, List.append_nil]
  | cons byte json ih =>
    have hbrace : ¬ (first = true ∧ byte ≠ openBrace) := by
      rintro ⟨hf, hne⟩
      exact hne (Option.some.inj (hfirst hf))
    have hbyte : ¬ byte = Framing.newline := fun h => hclean (h ▸ List.mem_cons_self)
    rw [List.length_cons] at hlen
    rw [List.cons_append, readIdentityLine, if_neg hbrace, if_neg (by omega), if_neg hbyte]
    have hrest : readIdentityLine codec closed false (line ++ [byte])
        (json ++ Framing.newline :: rest) =
          some (parseIdentityLine codec (line ++ [byte] ++ json), rest) := by
      refine ih nofun (fun hmem => hclean (List.mem_cons_of_mem byte hmem)) ?_
      rw [List.length_append, List.length_singleton]
      omega
    rw [hrest, List.append_assoc]
    rfl

/-- A line that fills the limit is refused at the next byte, whatever that is. -/
theorem readIdentityLine_refuses {long : List UInt8} {byte : UInt8}
    (hclean : Framing.newline ∉ long) (hshort : line.length ≤ Framing.maxPacketLen)
    (hlen : Framing.maxPacketLen ≤ line.length + long.length) :
    ∃ e left, readIdentityLine codec closed first line (long ++ byte :: rest) =
      some (.error e, left) := by
  induction long generalizing first line with
  | nil =>
    rw [List.nil_append, readIdentityLine]
    by_cases hstart : first = true ∧ byte ≠ openBrace
    · exact ⟨_, _, if_pos hstart⟩
    · rw [if_neg hstart]
      exact ⟨_, _, if_pos (by rwa [List.length_nil, Nat.add_zero] at hlen)⟩
  | cons b long ih =>
    rw [List.cons_append, readIdentityLine]
    by_cases hstart : first = true ∧ b ≠ openBrace
    · exact ⟨_, _, if_pos hstart⟩
    rw [if_neg hstart]
    -- the line is full, or one byte longer than before
    by_cases hfull : line.length ≥ Framing.maxPacketLen
    · exact ⟨_, _, if_pos hfull⟩
    have hb : ¬ b = Framing.newline := fun h => hclean (h ▸ List.mem_cons_self)
    rw [if_neg hfull, if_neg hb]
    refine ih (fun hmem => hclean (List.mem_cons_of_mem b hmem)) ?_ ?_
    · rw [List.length_append, List.length_singleton]
      omega
    · rw [List.length_cons] at hlen
      rw [List.length_append, List.length_singleton]
      omega

def CarriesIdentity (packet : Packet) (i : Identity) : Prop :=
  packet.ptype = typeIdentity ∧ Identity.fromValue packet.body = some i

theorem CarriesIdentity.identityOf (h : CarriesIdentity packet i) (codec : Codec) :
    Handfast.Daemon.identityOf codec packet = .ok i := by
  rw [Handfast.Daemon.identityOf, if_neg (not_not.mpr h.1), h.2]

/-- **Both readers against the writer.** An identity packet that `encode_into` accepts is read
    back from its line, and the bytes behind the newline stay, exactly if its text is shorter
    than the limit.  A first line that is longer than the limit fails in both readers. -/
theorem identity_line_read_iff (codec : Codec) (packet : Packet) (i : Identity)
    (hspeaks : Greeting.Speaks codec packet) (hidentity : CarriesIdentity packet i)
    (haccepted : (Framing.encodeInto codec.toVec packet []).1 = .ok ()) :
    (∀ closed rest,
      readIdentityLine codec closed true []
          ((Framing.encodeInto codec.toVec packet []).2 ++ rest) = some (.ok i, rest) ↔
        (Framing.textOf codec.toVec packet).length < Framing.maxPacketLen) ∧
    ∀ long rest closed chunks, Framing.newline ∉ long → Framing.maxPacketLen < long.length →
      unread chunks = long ++ rest →
        (∃ e left, readIdentityLine codec closed true [] (long ++ rest) = some (.error e, left)) ∧
        ∃ e left, Framing.readFrame closed chunks [] = some (.error e, left) := by
  refine ⟨fun closed rest => ?_, fun long rest closed chunks hclean hlen hchunks => ⟨?_, ?_⟩⟩
  · obtain ⟨json, hjson, hle⟩ := Framing.encodeInto_accepts haccepted
    obtain ⟨hparse, hclean, hbrace⟩ := hspeaks json hjson
    rw [Framing.encodeInto_ok hjson hle, Framing.textOf_eq hjson, List.nil_append,
      List.append_assoc, List.singleton_append]
    constructor
    · intro hread
      by_contra hfull
      -- the line fills the limit, so the newline is one byte too many
      obtain ⟨e, left, hrefused⟩ : ∃ e left, readIdentityLine codec closed true []
          (json ++ Framing.newline :: rest) = some (.error e, left) :=
        readIdentityLine_refuses hclean (Nat.zero_le _) (by simpa using hfull)
      rw [hrefused] at hread
      cases hread
    · intro hshort
      rw [readIdentityLine_parses (fun _ => hbrace) hclean (by simpa using hshort),
        parseIdentityLine, List.nil_append, hparse]
      simp only [hidentity.identityOf]
  · -- the reader stops at the first byte past the limit
    obtain ⟨front, byte, more, rfl, hfront⟩ :
        ∃ front byte more, long = front ++ byte :: more ∧
          front.length = Framing.maxPacketLen := by
      refine ⟨long.take Framing.maxPacketLen, long[Framing.maxPacketLen],
        long.drop (Framing.maxPacketLen + 1), ?_, by simpa using hlen.le⟩
      rw [← List.drop_eq_getElem_cons hlen, List.take_append_drop]
    rw [List.append_assoc, List.cons_append]
    exact readIdentityLine_refuses (fun hmem => hclean (List.mem_append_left _ hmem))
      (Nat.zero_le _) (by simp [hfront])
  · obtain ⟨e, left, -, hfails⟩ := Framing.readFrame_oversize hclean hlen List.not_mem_nil
      (Nat.zero_le _) hchunks closed
    exact ⟨e, left, hfails⟩

/-! ## A phone with a long name -/

open Handfast.Protocol.Framing (asciiBytes longNamed longNamedText longNamedText_clean
  longNamedText_length)

/-- `serde_json` on the identity packet of this phone. -/
def longNamedCodec (n : Nat) : Codec where
  toVec _ := .ok (asciiBytes (longNamedText n))
  fromSlice bytes :=
    if bytes = asciiBytes (longNamedText n) then .ok (.identity 1 (longNamed n))
    else .error "expected value at line 1 column 1"
  bodyError _ := "invalid type: null, expected struct Identity"

theorem longNamedCodec_speaks (n : Nat) :
    Greeting.Speaks (longNamedCodec n) (.identity 1 (longNamed n)) := by
  intro json hjson
  cases hjson
  exact ⟨if_pos rfl, longNamedText_clean n, rfl⟩

theorem longNamed_carried (n : Nat) :
    CarriesIdentity (.identity 1 (longNamed n)) (longNamed n) :=
  ⟨rfl, Identity.fromValue_toValue _⟩

theorem longNamed_accepted {n : Nat} (h : n + 189 ≤ Framing.maxPacketLen) :
    (Framing.encodeInto (longNamedCodec n).toVec (.identity 1 (longNamed n)) []).1 = .ok () := by
  rw [Framing.encodeInto_ok rfl (by rwa [longNamedText_length])]

/-- A short name is read, and a line of braces fails in both readers. -/
theorem identity_line_read_iff_short :
    readIdentityLine (longNamedCodec 5) false true []
        ((Framing.encodeInto (longNamedCodec 5).toVec (.identity 1 (longNamed 5)) []).2 ++
          [22, 3, 1]) = some (.ok (longNamed 5), [22, 3, 1]) ∧
      ∃ e left, readIdentityLine (longNamedCodec 5) false true []
        (List.replicate (Framing.maxPacketLen + 1) openBrace ++ []) = some (.error e, left) := by
  have hlimit : Framing.maxPacketLen = 524288 := rfl
  obtain ⟨hread, hlong⟩ := identity_line_read_iff (longNamedCodec 5) (.identity 1 (longNamed 5))
    (longNamed 5) (longNamedCodec_speaks 5) (longNamed_carried 5) (longNamed_accepted (by decide))
  refine ⟨(hread false [22, 3, 1]).mpr ?_, ?_⟩
  · rw [Framing.textOf_eq (rfl : (longNamedCodec 5).toVec _ = _), longNamedText_length]
    omega
  · refine (hlong (List.replicate (Framing.maxPacketLen + 1) openBrace) [] false
      [⟨List.replicate (Framing.maxPacketLen + 1) openBrace, by simp⟩] ?_ (by simp) (by simp)).1
    intro hmem
    exact absurd (List.eq_of_mem_replicate hmem) (by decide)

/-- A text of exactly 512 KiB is written and refused. -/
theorem longest_identity_refused :
    let n := Framing.maxPacketLen - 189
    (Framing.encodeInto (longNamedCodec n).toVec (.identity 1 (longNamed n)) []).1 = .ok () ∧
      ¬ readIdentityLine (longNamedCodec n) false true []
        ((Framing.encodeInto (longNamedCodec n).toVec (.identity 1 (longNamed n)) []).2 ++ []) =
          some (.ok (longNamed n), []) := by
  intro n
  have hlimit : n + 189 = Framing.maxPacketLen := Nat.sub_add_cancel (by decide)
  refine ⟨longNamed_accepted hlimit.le, fun hread => ?_⟩
  rw [Framing.encodeInto_ok rfl (by rw [longNamedText_length, hlimit]), List.nil_append,
    List.append_assoc, List.singleton_append] at hread
  obtain ⟨e, left, hrefused⟩ : ∃ e left, readIdentityLine (longNamedCodec n) false true []
      (asciiBytes (longNamedText n) ++ Framing.newline :: []) = some (.error e, left) :=
    readIdentityLine_refuses (longNamedText_clean n) (Nat.zero_le _)
      (by rw [longNamedText_length, hlimit, List.length_nil, Nat.zero_add])
  rw [hrefused] at hread
  cases hread

end Handfast.Daemon
