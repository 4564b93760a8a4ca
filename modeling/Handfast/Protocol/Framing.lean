/-
  Handfast.Protocol.Framing

  Packets on the wire (`crates/protocol/src/packet.rs`): one JSON text per line,
  written by `encode_into` and read back by `read_from` through a buffered
  reader.

  The JSON codec itself is a parameter: `toVec` and `fromSlice` stand for
  `serde_json::to_vec` and `serde_json::from_slice`.  The buffered reader is the
  list of the reads that are still to come, the first of them possibly consumed
  in part: `fill_buf` shows the first read, `consume` takes bytes off it.

  The invariant of the read loop is that `line` holds the bytes since the last
  newline, none of them a newline and never more than the limit.
-/
import Handfast.Lib.Stream
import Handfast.Protocol.Packet

namespace Handfast.Protocol.Framing

open Handfast.Lib

inductive Error where
  | io (msg : String)
  | json (msg : String)
  | cert (msg : String)
  | other (msg : String)
  deriving DecidableEq, Repr

abbrev Result (α : Type) := Except Error α

/-- Maximum length of a serialized packet, without its newline. -/
def maxPacketLen : Nat := 512 * 1024

def newline : UInt8 := 10

/-! ## Writing -/

/-- Append the packet to `buf` as one frame. -/
def encodeInto (toVec : Packet → Except String (List UInt8)) (p : Packet) (buf : List UInt8) :
    Result Unit × List UInt8 :=
  match toVec p with
  | .error msg => (.error (.json msg), buf)
  | .ok json =>
    if json.length > maxPacketLen then
      (.error (.other
        s!"packet of {json.length} bytes exceeds MAX_PACKET_LEN ({maxPacketLen})"), buf)
    else (.ok (), buf ++ (json ++ [newline]))

/-- The stream after packets were written one after another. -/
def encoded (toVec : Packet → Except String (List UInt8)) (packets : List Packet) : List UInt8 :=
  packets.foldl (fun buf p => (encodeInto toVec p buf).2) []

/-! ## Reading -/

/-- `consume` of a buffered reader: take `n` bytes off the first read. -/
def consume (n : Nat) : List (Chunk UInt8) → List (Chunk UInt8)
  | [] => []
  | c :: cs =>
    match c.1.drop n with
    | [] => cs
    | b :: bs => ⟨b :: bs, List.cons_ne_nil b bs⟩ :: cs

/-- `Packet::read_frame` with the bytes of the line that were consumed before.
    When the reads run out, the stream has ended or the call waits (`none`). -/
def readFrame (ended : Bool) :
    List (Chunk UInt8) → List UInt8 → Option (Result (List UInt8) × List (Chunk UInt8))
  | [], line =>
    if ¬ ended then none
    else if line.isEmpty then some (.error (.other "connection closed before a frame"), [])
    else some (.error (.other "truncated frame: connection closed mid-line"), [])
  | c :: cs, line =>
    match c.1.findIdx? fun byte => byte = newline with
    | some pos =>
      if line.length + pos > maxPacketLen then
        some (.error (.other (s!"framed packet of {line.length + pos} bytes exceeds " ++
          s!"MAX_PACKET_LEN ({maxPacketLen})")), c :: cs)
      -- swallow the newline too
      else some (.ok (line ++ c.1.take pos), consume (pos + 1) (c :: cs))
    | none =>
      if line.length + c.1.length > maxPacketLen then
        some (.error (.other
          s!"framed packet exceeds MAX_PACKET_LEN ({maxPacketLen})"), c :: cs)
      -- the whole read is consumed
      else readFrame ended cs (line ++ c.1)

/-- `Packet::read_from`. -/
def readFrom (fromSlice : List UInt8 → Except String Packet) (ended : Bool)
    (chunks : List (Chunk UInt8)) : Option (Result Packet × List (Chunk UInt8)) :=
  match readFrame ended chunks [] with
  | none => none
  | some (.error e, rest) => some (.error e, rest)
  | some (.ok payload, rest) =>
    match fromSlice payload with
    | .error msg => some (.error (.json msg), rest)
    | .ok p => some (.ok p, rest)

/-- The reader gave up on a frame because of its size. -/
inductive Oversize : Error → Prop
  | line (n : Nat) : Oversize (.other (s!"framed packet of {n} bytes exceeds " ++
      s!"MAX_PACKET_LEN ({maxPacketLen})"))
  | chunk : Oversize (.other s!"framed packet exceeds MAX_PACKET_LEN ({maxPacketLen})")

variable {toVec : Packet → Except String (List UInt8)}
  {fromSlice : List UInt8 → Except String Packet} {p : Packet} {packets : List Packet}
  {json rest line buf xs : List UInt8} {c : Chunk UInt8} {cs chunks : List (Chunk UInt8)}
  {ended : Bool}

theorem encodeInto_ok (hjson : toVec p = .ok json) (hlen : json.length ≤ maxPacketLen)
    (buf : List UInt8) : encodeInto toVec p buf = (.ok (), buf ++ (json ++ [newline])) := by
  simp only [encodeInto, hjson, if_neg (Nat.not_lt.mpr hlen)]

theorem encodeInto_accepts (h : (encodeInto toVec p buf).1 = .ok ()) :
    ∃ json, toVec p = .ok json ∧ json.length ≤ maxPacketLen := by
  unfold encodeInto at h
  cases hjson : toVec p with
  | error msg =>
    rw [hjson] at h
    cases h
  | ok json =>
    rw [hjson] at h
    by_cases hlen : json.length > maxPacketLen
    · simp only [if_pos hlen] at h
      cases h
    · exact ⟨json, rfl, Nat.le_of_not_lt hlen⟩

/-- `encode_into` refuses a packet that serializes exactly for its length. -/
theorem encodeInto_refuses (hjson : toVec p = .ok json) :
    (∃ e, (encodeInto toVec p buf).1 = .error e) ↔ maxPacketLen < json.length := by
  by_cases hlen : json.length ≤ maxPacketLen
  · simp [encodeInto_ok hjson hlen, hlen]
  · have hbig : json.length > maxPacketLen := Nat.lt_of_not_le hlen
    simp [encodeInto, hjson, hbig]

/-! ## One read of the loop -/

theorem findIdx?_split {pos : Nat} (h : xs.findIdx? (fun byte => byte = newline) = some pos) :
    newline ∉ xs.take pos ∧ xs = xs.take pos ++ newline :: xs.drop (pos + 1) := by
  obtain ⟨hpos, hat, hbefore⟩ := List.findIdx?_eq_some_iff_getElem.mp h
  constructor
  · intro hmem
    obtain ⟨i, hi, hget⟩ := List.mem_take_iff_getElem.mp hmem
    exact hbefore i (by omega) (by simpa using hget)
  · have hget : xs[pos] = newline := by simpa using hat
    rw [← hget, ← List.drop_eq_getElem_cons hpos, List.take_append_drop]

theorem notMem_of_findIdx?
    (h : xs.findIdx? (fun byte => byte = newline) = none) : newline ∉ xs := by
  intro hmem
  simpa using List.findIdx?_eq_none_iff.mp h newline hmem

theorem findIdx?_of_notMem (h : newline ∉ xs) :
    xs.findIdx? (fun byte => byte = newline) = none := by
  rw [List.findIdx?_eq_none_iff]
  intro byte hbyte
  have hne : byte ≠ newline := by
    rintro rfl
    exact h hbyte
  simpa using hne

theorem unread_consume (n : Nat) (c : Chunk UInt8) (cs : List (Chunk UInt8)) :
    unread (consume n (c :: cs)) = c.1.drop n ++ unread cs := by
  rw [consume]
  split
  · rename_i hdrop
    rw [hdrop, List.nil_append]
  · rename_i b bs hdrop
    rw [hdrop, unread_cons]

/-- The first newline of the stream is the one that ends the frame. -/
theorem newline_found {pos : Nat} (hjson : newline ∉ json) (hline : newline ∉ line)
    (h : line ++ (c.1 ++ unread cs) = json ++ newline :: rest)
    (hfind : c.1.findIdx? (fun byte => byte = newline) = some pos) :
    line ++ c.1.take pos = json ∧ c.1.drop (pos + 1) ++ unread cs = rest ∧
      line.length + pos = json.length := by
  obtain ⟨hbefore, hsplit⟩ := findIdx?_split hfind
  have hstream : (line ++ c.1.take pos) ++ newline :: (c.1.drop (pos + 1) ++ unread cs) =
      json ++ newline :: rest := by
    rw [← h]
    conv_rhs => rw [hsplit]
    simp
  obtain ⟨hframe, hrest⟩ := line_unique (by simp [hline, hbefore]) hjson hstream
  have hpos : pos < c.1.length := (List.findIdx?_eq_some_iff_getElem.mp hfind).1
  refine ⟨hframe, hrest, ?_⟩
  rw [← hframe, List.length_append, List.length_take]
  omega

/-! ## One frame

In both cases the induction is over the reads; `line` takes up what belongs to
the frame until the read with the newline comes. -/

/-- A frame within the limit is returned, and what follows its newline is left. -/
theorem readFrame_ok (hjson : newline ∉ json) (hlen : json.length ≤ maxPacketLen)
    (hline : newline ∉ line) (h : line ++ unread cs = json ++ newline :: rest) (ended : Bool) :
    ∃ cs', readFrame ended cs line = some (.ok json, cs') ∧ unread cs' = rest := by
  -- on the chunks; `line` holds what was read of the frame
  induction cs generalizing line with
  | nil =>
    rw [unread_nil, List.append_nil] at h
    rw [h] at hline
    simp at hline
  | cons c cs ih =>
    rw [unread_cons] at h
    rw [readFrame]
    cases hfind : c.1.findIdx? fun byte => byte = newline with
    | some pos =>
      obtain ⟨hframe, hrest, hcount⟩ := newline_found hjson hline h hfind
      refine ⟨consume (pos + 1) (c :: cs), ?_, by rw [unread_consume, hrest]⟩
      simp only [if_neg (Nat.not_lt.mpr (hcount ▸ hlen)), hframe]
    | none =>
      have hmore := notMem_of_findIdx? hfind
      have hclean : newline ∉ line ++ c.1 := by simp [hline, hmore]
      rw [← List.append_assoc] at h
      obtain ⟨more, hwhole, -⟩ := line_extends hclean h
      have hcount : line.length + c.1.length ≤ maxPacketLen := by
        rw [hwhole, List.length_append, List.length_append] at hlen
        omega
      simp only [if_neg (Nat.not_lt.mpr hcount)]
      exact ih hclean h

/-- Reads without a newline are taken into the line, up to the limit. -/
theorem readFrame_unread (hclean : newline ∉ unread cs)
    (hlen : (line ++ unread cs).length ≤ maxPacketLen) (ended : Bool) :
    readFrame ended cs line = readFrame ended [] (line ++ unread cs) := by
  induction cs generalizing line with
  | nil => rw [unread_nil, List.append_nil]
  | cons c cs ih =>
    rw [unread_cons, List.mem_append, not_or] at hclean
    rw [unread_cons, ← List.append_assoc] at hlen ⊢
    have hcount : ¬ line.length + c.1.length > maxPacketLen := by
      rw [List.length_append, List.length_append] at hlen
      omega
    rw [← ih hclean.2 hlen, readFrame, findIdx?_of_notMem hclean.1]
    simp only [if_neg hcount]

theorem readFrame_waits (hclean : newline ∉ unread cs)
    (hlen : (line ++ unread cs).length ≤ maxPacketLen) : readFrame false cs line = none := by
  rw [readFrame_unread hclean hlen]
  rfl

/-- A line above the limit is rejected before more than the limit is kept, wherever it ends. -/
theorem readFrame_oversize {long : List UInt8} (hlong : newline ∉ long)
    (hlen : maxPacketLen < long.length) (hline : newline ∉ line)
    (hshort : line.length ≤ maxPacketLen) (h : line ++ unread cs = long ++ rest) (ended : Bool) :
    ∃ e cs', Oversize e ∧ readFrame ended cs line = some (.error e, cs') := by
  induction cs generalizing line with
  | nil =>
    have hcount := congrArg List.length h
    rw [unread_nil, List.append_nil, List.length_append] at hcount
    omega
  | cons c cs ih =>
    rw [unread_cons] at h
    rw [readFrame]
    cases hfind : c.1.findIdx? fun byte => byte = newline with
    | some pos =>
      -- the newline comes after all of the long line
      obtain ⟨-, hsplit⟩ := findIdx?_split hfind
      have hstream : long ++ rest = (line ++ c.1.take pos) ++ newline ::
          (c.1.drop (pos + 1) ++ unread cs) := by
        rw [← h]
        conv_lhs => rw [hsplit]
        simp
      obtain ⟨more, hwhole, -⟩ := line_extends hlong hstream
      have hcount := congrArg List.length hwhole
      rw [List.length_append, List.length_append, List.length_take] at hcount
      simp only [if_pos (show line.length + pos > maxPacketLen by omega)]
      exact ⟨_, _, .line _, rfl⟩
    | none =>
      by_cases hcount : line.length + c.1.length > maxPacketLen
      · simp only [if_pos hcount]
        exact ⟨_, _, .chunk, rfl⟩
      · simp only [if_neg hcount]
        have hmore := notMem_of_findIdx? hfind
        exact ih (by simp [hline, hmore]) (by rw [List.length_append]; omega)
          (by rw [List.append_assoc, h])

/-! ## Packets -/

theorem readFrom_decodes (hparse : fromSlice json = .ok p) (hjson : newline ∉ json)
    (hlen : json.length ≤ maxPacketLen) (ended : Bool) :
    Decodes (readFrom fromSlice ended) unread (json ++ [newline]) (.ok p) := by
  intro cs rest hcs
  have hstart : [] ++ unread cs = json ++ newline :: rest := by simpa using hcs
  obtain ⟨cs', hframe, hrest⟩ := readFrame_ok hjson hlen (by simp) hstart ended
  exact ⟨cs', by simp only [readFrom, hframe, hparse], hrest⟩

theorem readFrom_waits (hclean : newline ∉ unread cs) (hlen : (unread cs).length ≤ maxPacketLen)
    (fromSlice : List UInt8 → Except String Packet) : readFrom fromSlice false cs = none := by
  have hframe : readFrame false cs [] = none := readFrame_waits hclean hlen
  simp only [readFrom, hframe]

/-- A line that is too long is refused, whatever it holds. -/
theorem readFrom_oversize (hjson : newline ∉ json) (hlen : maxPacketLen < json.length)
    (hcs : unread cs = json ++ newline :: rest) (fromSlice : List UInt8 → Except String Packet)
    (ended : Bool) :
    ∃ e cs', Oversize e ∧ readFrom fromSlice ended cs = some (.error e, cs') := by
  have hempty : newline ∉ ([] : List UInt8) := List.not_mem_nil
  obtain ⟨e, cs', he, hframe⟩ := readFrame_oversize hjson hlen hempty (Nat.zero_le _) hcs ended
  exact ⟨e, cs', he, by simp only [readFrom, hframe]⟩

/-- The text of a packet; empty for one that does not serialize. -/
def textOf (toVec : Packet → Except String (List UInt8)) (p : Packet) : List UInt8 :=
  (toVec p).toOption.getD []

theorem textOf_eq (h : toVec p = .ok json) : textOf toVec p = json := by
  rw [textOf, h]
  rfl

/-- Accepted packets make a stream of one line each. -/
theorem encoded_eq (h : ∀ p ∈ packets, (encodeInto toVec p []).1 = .ok ()) :
    encoded toVec packets = (packets.map fun p => textOf toVec p ++ [newline]).flatten := by
  have hfold : ∀ buf : List UInt8, packets.foldl (fun buf p => (encodeInto toVec p buf).2) buf =
      buf ++ (packets.map fun p => textOf toVec p ++ [newline]).flatten := by
    induction packets with
    | nil => simp
    | cons p packets ih =>
      intro buf
      obtain ⟨json, hjson, hlen⟩ := encodeInto_accepts (h p List.mem_cons_self)
      rw [List.foldl_cons, encodeInto_ok hjson hlen,
        ih fun q hq => h q (List.mem_cons_of_mem p hq)]
      simp [textOf_eq hjson]
  rw [encoded, hfold, List.nil_append]

/-- What the JSON codec is assumed to do with a packet it serializes: parsing
    gives the packet back, and the text is one line. -/
def RoundTrips (toVec : Packet → Except String (List UInt8))
    (fromSlice : List UInt8 → Except String Packet) (p : Packet) : Prop :=
  ∀ json, toVec p = .ok json → fromSlice json = .ok p ∧ newline ∉ json

/-- Accepted packets are returned, then the reader stands behind them. -/
theorem calls_encoded_packets (hcodec : ∀ p ∈ packets, RoundTrips toVec fromSlice p)
    (h : ∀ p ∈ packets, (encodeInto toVec p []).1 = .ok ())
    (hbytes : unread chunks = encoded toVec packets ++ rest) (ended : Bool) :
    ∃ cs, unread cs = rest ∧ calls (readFrom fromSlice ended) (packets.length + 1) chunks =
      packets.map (fun p => some (.ok p)) ++ calls (readFrom fromSlice ended) 1 cs := by
  have hitems : ∀ item ∈ packets.map fun p =>
      (textOf toVec p ++ [newline], (Except.ok p : Result Packet)),
      Decodes (readFrom fromSlice ended) unread item.1 item.2 := by
    intro item hitem
    obtain ⟨p, hp, rfl⟩ := List.mem_map.mp hitem
    obtain ⟨json, hjson, hlen⟩ := encodeInto_accepts (h p hp)
    obtain ⟨hparse, hclean⟩ := hcodec p hp json hjson
    rw [textOf_eq hjson]
    exact readFrom_decodes hparse hclean hlen ended
  have hstart : unread chunks = ((packets.map fun p =>
      (textOf toVec p ++ [newline], (Except.ok p : Result Packet))).map Prod.fst).flatten ++
        rest := by
    rw [List.map_map]
    exact hbytes.trans (by rw [encoded_eq h]; rfl)
  obtain ⟨cs, hcs, hcalls⟩ := calls_encoded hitems hstart 1
  refine ⟨cs, hcs, ?_⟩
  rw [List.length_map, List.map_map] at hcalls
  exact hcalls

/-- With nothing left to read, an ended stream is reported as closed. -/
theorem calls_ended (h : unread cs = []) :
    calls (readFrom fromSlice true) 1 cs =
      [some (.error (.other "connection closed before a frame"))] := by
  obtain rfl : cs = [] := eq_nil_of_unread h
  rfl

/-- The last call rejects a packet for its size exactly if the writer does. -/
theorem calls_oversize_iff (hjson : toVec p = .ok json) (hcodec : RoundTrips toVec fromSlice p)
    (hcs : unread cs = json ++ newline :: rest) (buf : List UInt8) (ended : Bool) :
    (∃ e, Oversize e ∧ calls (readFrom fromSlice ended) 1 cs = [some (.error e)]) ↔
      ∃ e, (encodeInto toVec p buf).1 = .error e := by
  obtain ⟨hparse, hclean⟩ := hcodec json hjson
  rw [encodeInto_refuses hjson]
  constructor
  · rintro ⟨e, -, hcalls⟩
    by_contra hsmall
    obtain ⟨cs', hnext, -⟩ := readFrom_decodes hparse hclean (Nat.le_of_not_lt hsmall) ended cs rest
      (by simpa using hcs)
    rw [calls, hnext] at hcalls
    cases hcalls
  · intro hbig
    obtain ⟨e, cs', he, hnext⟩ := readFrom_oversize hclean hbig hcs fromSlice ended
    exact ⟨e, he, by rw [calls, hnext]; rfl⟩

/-- **Packets are returned as they were written.** Whatever the reads of the
    stream are: the packets come back in order and then the end of the stream;
    and after them a packet is rejected for its size exactly if the writer
    rejects it. -/
theorem packets_returned (toVec : Packet → Except String (List UInt8))
    (fromSlice : List UInt8 → Except String Packet) (packets : List Packet)
    (hcodec : ∀ p ∈ packets, RoundTrips toVec fromSlice p)
    (haccepted : ∀ p ∈ packets, (encodeInto toVec p []).1 = .ok ())
    (chunks : List (Chunk UInt8)) :
    (unread chunks = encoded toVec packets →
      calls (readFrom fromSlice true) (packets.length + 1) chunks =
        packets.map (fun p => some (.ok p)) ++
          [some (.error (.other "connection closed before a frame"))]) ∧
    (∀ (p : Packet) (json rest buf : List UInt8) (ended : Bool), toVec p = .ok json →
      RoundTrips toVec fromSlice p →
      unread chunks = encoded toVec packets ++ (json ++ newline :: rest) →
      ((∃ e, Oversize e ∧ calls (readFrom fromSlice ended) (packets.length + 1) chunks =
          packets.map (fun p => some (.ok p)) ++ [some (.error e)]) ↔
        ∃ e, (encodeInto toVec p buf).1 = .error e)) := by
  refine ⟨fun hbytes => ?_, fun p json rest buf ended hjson hp hbytes => ?_⟩
  · have hall : unread chunks = encoded toVec packets ++ [] := by simpa using hbytes
    obtain ⟨cs, hcs, hcalls⟩ := calls_encoded_packets hcodec haccepted hall true
    rw [hcalls, calls_ended hcs]
  · obtain ⟨cs, hcs, hcalls⟩ := calls_encoded_packets hcodec haccepted hbytes ended
    simp only [hcalls, List.append_cancel_left_eq]
    exact calls_oversize_iff hjson hp hcs buf ended

/-! ## Packets with their JSON texts -/

def asciiBytes (text : List Char) : List UInt8 := text.map fun ch => UInt8.ofNat ch.toNat

/-- `serde_json::to_vec` on packets whose texts are known.  Their ids tell them apart. -/
def writeKnown (texts : List (Packet × List Char)) (p : Packet) : Except String (List UInt8) :=
  match texts.find? fun row => row.1.id = p.id with
  | some row => .ok (asciiBytes row.2)
  | none => .error "not a known packet"

/-- `serde_json::from_slice` on the texts of these packets. -/
def parseKnown (texts : List (Packet × List Char)) (bytes : List UInt8) : Except String Packet :=
  match texts.find? fun row => asciiBytes row.2 = bytes with
  | some row => .ok row.1
  | none => .error "expected value at line 1 column 1"

/-- Ids and texts are different, and each text is one line. -/
structure Known (texts : List (Packet × List Char)) : Prop where
  ids : (texts.map fun row => row.1.id).Nodup
  distinct : (texts.map fun row => asciiBytes row.2).Nodup
  clean : ∀ row ∈ texts, newline ∉ asciiBytes row.2

section Known

variable {texts : List (Packet × List Char)} {row : Packet × List Char}

theorem find?_of_nodup {α β : Type} [DecidableEq β] {f : α → β} {a : α} {l : List α}
    (h : (l.map f).Nodup) (ha : a ∈ l) : l.find? (fun x => f x = f a) = some a := by
  induction l with
  | nil => cases ha
  | cons x l ih =>
    rw [List.map_cons, List.nodup_cons] at h
    rcases List.mem_cons.mp ha with rfl | ha
    · exact List.find?_cons_of_pos (by simp)
    · have hother : f x ≠ f a := fun heq => h.1 (heq ▸ List.mem_map_of_mem ha)
      rw [List.find?_cons_of_neg (by simpa using hother), ih h.2 ha]

theorem Known.write (h : Known texts) (hrow : row ∈ texts) :
    writeKnown texts row.1 = .ok (asciiBytes row.2) := by
  simp only [writeKnown, find?_of_nodup h.ids hrow]

theorem Known.roundTrips (h : Known texts) (hrow : row ∈ texts) :
    RoundTrips (writeKnown texts) (parseKnown texts) row.1 := by
  intro json hjson
  rw [h.write hrow] at hjson
  cases hjson
  exact ⟨by simp only [parseKnown, find?_of_nodup h.distinct hrow], h.clean row hrow⟩

end Known

/-- A phone whose name is `n` times the letter `a`. -/
def longNamed (n : Nat) : Identity where
  deviceId := "phone"
  name := String.ofList (List.replicate n 'a')
  deviceType := "phone"
  protocolVersion := 8
  incoming := []
  outgoing := []
  tcpSourcePort := 1716

/-- What stands before the name in the text of an identity packet. -/
def textBefore (id device : String) : List Char :=
  ("\x7b\"id\":" ++ id ++ ",\"type\":\"kdeconnect.identity\",\"body\":\x7b\"deviceId\":\"" ++
    device ++ "\",\"deviceName\":\"").toList

def textBehind : List Char :=
  ("\",\"deviceType\":\"phone\",\"incomingCapabilities\":[],\"outgoingCapabilities\":[]," ++
    "\"protocolVersion\":8,\"tcpPort\":1716\x7d\x7d").toList

/-- The text: the keys of an object are in alphabetical order, and no letter is escaped. -/
def longNamedText (n : Nat) : List Char :=
  textBefore "1" "phone" ++ List.replicate n 'a' ++ textBehind

theorem textAround_length :
    (textBefore "1" "phone").length = 78 ∧ textBehind.length = 111 := by decide +kernel

theorem longNamedText_length (n : Nat) : (asciiBytes (longNamedText n)).length = n + 189 := by
  obtain ⟨hbefore, hbehind⟩ := textAround_length
  simp only [asciiBytes, longNamedText, List.length_map, List.length_append,
    List.length_replicate, hbefore, hbehind]
  omega

/-- Every letter of the text is a letter of the frame around the name or an `a`. -/
theorem longNamedText_clean (n : Nat) : newline ∉ asciiBytes (longNamedText n) := by
  have hbefore : newline ∉ asciiBytes (textBefore "1" "phone") := by decide +kernel
  have hbehind : newline ∉ asciiBytes textBehind := by decide +kernel
  have hname : newline ∉ asciiBytes (List.replicate n 'a') := by
    intro hmem
    rw [asciiBytes, List.map_replicate] at hmem
    exact absurd (List.eq_of_mem_replicate hmem) (by decide)
  have hparts : asciiBytes (longNamedText n) = asciiBytes (textBefore "1" "phone") ++
      asciiBytes (List.replicate n 'a') ++ asciiBytes textBehind := by
    simp only [asciiBytes, longNamedText, List.map_append]
  rw [hparts, List.mem_append, List.mem_append]
  exact not_or.mpr ⟨not_or.mpr ⟨hbefore, hname⟩, hbehind⟩

def pingText : List Char := "\x7b\"id\":2,\"type\":\"kdeconnect.ping\",\"body\":null\x7d".toList

/-- A ping, and a phone whose name alone is as long as a packet may be. -/
def knownTexts : List (Packet × List Char) :=
  [(.new 2 typePing .null, pingText),
   (.identity 1 (longNamed maxPacketLen), longNamedText maxPacketLen)]

theorem knownTexts_known : Known knownTexts where
  ids := by decide
  distinct := by
    have hlength : (asciiBytes pingText).length = 45 := by decide +kernel
    have hother : asciiBytes pingText ≠ asciiBytes (longNamedText maxPacketLen) := by
      intro h
      rw [h, longNamedText_length] at hlength
      omega
    simpa [knownTexts] using hother
  clean := by
    have hping : newline ∉ asciiBytes pingText := by decide +kernel
    simpa [knownTexts] using ⟨hping, longNamedText_clean maxPacketLen⟩

/-- Two pings, split in the first text and in front of the second newline; then a packet above
    the limit, which both sides refuse. -/
theorem packets_returned_split :
    let ping := Packet.new 2 typePing .null
    let long := Packet.identity 1 (longNamed maxPacketLen)
    calls (readFrom (parseKnown knownTexts) true) 3
        [⟨(asciiBytes pingText).take 20, by decide +kernel⟩,
         ⟨(asciiBytes pingText).drop 20 ++ newline :: asciiBytes pingText, by simp⟩,
         ⟨[newline], by simp⟩] =
      [some (.ok ping), some (.ok ping),
        some (.error (.other "connection closed before a frame"))] ∧
    (∃ e, (encodeInto (writeKnown knownTexts) long []).1 = .error e) ∧
    ∃ e, Oversize e ∧ calls (readFrom (parseKnown knownTexts) false) 2
        [⟨asciiBytes pingText ++ newline :: asciiBytes (longNamedText maxPacketLen), by simp⟩,
         ⟨[newline], by simp⟩] = [some (.ok ping), some (.error e)] := by
  intro ping long
  have hround := knownTexts_known.roundTrips (List.mem_cons_self ..)
  have hpings : ∀ p ∈ [ping, ping],
      RoundTrips (writeKnown knownTexts) (parseKnown knownTexts) p := by simpa using hround
  have haccepted : ∀ p ∈ [ping, ping], (encodeInto (writeKnown knownTexts) p []).1 = .ok () := by
    have hping : (encodeInto (writeKnown knownTexts) ping []).1 = .ok () := rfl
    simpa using hping
  have hlast : (long, longNamedText maxPacketLen) ∈ knownTexts := by simp [knownTexts, long]
  have hlong := knownTexts_known.write hlast
  have hrefused : ∃ e, (encodeInto (writeKnown knownTexts) long []).1 = .error e :=
    (encodeInto_refuses hlong).mpr (by rw [longNamedText_length]; omega)
  have hfirst : encoded (writeKnown knownTexts) [ping] = asciiBytes pingText ++ [newline] := rfl
  -- both parts are cases of the general theorem, with the bytes computed
  refine ⟨?_, hrefused, ?_⟩
  · exact (packets_returned _ _ [ping, ping] hpings haccepted _).1 (by decide +kernel)
  · refine ((packets_returned _ _ [ping] (fun p hp => hpings p (by simpa using hp))
      (fun p hp => haccepted p (by simpa using hp)) _).2 long _ [] [] false hlong
      (knownTexts_known.roundTrips hlast) ?_).mpr hrefused
    rw [hfirst]
    simp only [unread_cons, unread_nil, List.append_assoc, List.cons_append, List.nil_append,
      List.append_nil]

end Handfast.Protocol.Framing
