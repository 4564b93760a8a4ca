/-
  Handfast.Ipc.Codec

  Length-prefixed frames of the daemon's local socket
  (`crates/ipc/src/{codec,error}.rs`).  A frame is a little-endian `u32` byte
  count followed by that many bytes of JSON.

  `write_frame` appends a frame to the stream, or refuses a payload above the
  limit and leaves the stream alone.  `FrameReader::next` is the loop of
  `Lib.Stream`: it cuts a frame off the buffered bytes, or reads more.  Its
  decision is stable, so the library gives the result for every way the stream
  is cut into reads.
-/
import Handfast.Lib.Stream
import Mathlib.Algebra.Group.Nat.Defs

namespace Handfast.Ipc

open Handfast.Lib

abbrev Bytes := List UInt8

def maxFrameBytes : Nat := 16 * 1024 * 1024

/-- Errors produced by the IPC transport and protocol layers. -/
inductive Error where
  | io (msg : String)
  | json (msg : String)
  | frameTooLarge (size max : Nat)
  | closed
  | other (msg : String)
  deriving DecidableEq, Repr

def Error.text : Error → String
  | io msg => "io: " ++ msg
  | json msg => "json: " ++ msg
  | frameTooLarge size max => s!"frame too large: {size} bytes exceeds limit of {max} bytes"
  | closed => "connection closed"
  | other msg => msg

abbrev Result (α : Type) := Except Error α

/-! ## Headers -/

def lengthPrefix : Nat := 4

/-- `u32::to_le_bytes`. -/
def toLeBytes (n : Nat) : Bytes :=
  [UInt8.ofNat n, UInt8.ofNat (n / 2 ^ 8), UInt8.ofNat (n / 2 ^ 16), UInt8.ofNat (n / 2 ^ 24)]

/-- `u32::from_le_bytes`. -/
def fromLeBytes (b0 b1 b2 b3 : UInt8) : Nat :=
  b0.toNat + 2 ^ 8 * b1.toNat + 2 ^ 16 * b2.toNat + 2 ^ 24 * b3.toNat

@[simp] theorem length_toLeBytes (n : Nat) : (toLeBytes n).length = lengthPrefix := rfl

variable {n : Nat} {payload : Bytes} {r : Result Bytes}

theorem fromLeBytes_ofNat (h : n < 2 ^ 32) :
    fromLeBytes (UInt8.ofNat n) (UInt8.ofNat (n / 2 ^ 8)) (UInt8.ofNat (n / 2 ^ 16))
      (UInt8.ofNat (n / 2 ^ 24)) = n := by
  simp only [fromLeBytes, UInt8.toNat_ofNat']
  omega

/-! ## Writing -/

/-- Serialize `value` and append it to the stream `w` as one frame. -/
def writeFrame {T : Type} (toVec : T → Except String Bytes) (w : Bytes) (value : T) :
    Result Unit × Bytes :=
  match toVec value with
  | .error msg => (.error (.json msg), w)
  | .ok payload =>
    if payload.length > maxFrameBytes then
      (.error (.frameTooLarge payload.length maxFrameBytes), w)
    else (.ok (), w ++ (toLeBytes payload.length ++ payload))

def frame (payload : Bytes) : Bytes := toLeBytes payload.length ++ payload

def written (payloads : List Bytes) : Bytes :=
  payloads.foldl (fun w payload => (writeFrame .ok w payload).2) []

theorem writeFrame_ok (h : payload.length ≤ maxFrameBytes) (w : Bytes) :
    writeFrame .ok w payload = (.ok (), w ++ frame payload) := by
  simp only [writeFrame, if_neg (Nat.not_lt.mpr h), frame]

/-- `write_frame` refuses exactly the payloads above the limit. -/
theorem writeFrame_refuses {w : Bytes} :
    (writeFrame .ok w payload).1 = .error (.frameTooLarge payload.length maxFrameBytes) ↔
      maxFrameBytes < payload.length := by
  by_cases h : payload.length ≤ maxFrameBytes
  · simp [writeFrame_ok h, h]
  · have hbig : payload.length > maxFrameBytes := Nat.lt_of_not_le h
    simp [writeFrame, hbig]

theorem written_eq {payloads : List Bytes} (h : ∀ p ∈ payloads, p.length ≤ maxFrameBytes) :
    written payloads = (payloads.map frame).flatten := by
  -- the frames are appended to whatever is there already
  have hfold : ∀ w : Bytes, payloads.foldl (fun w payload => (writeFrame .ok w payload).2) w =
      w ++ (payloads.map frame).flatten := by
    induction payloads with
    | nil => simp
    | cons p payloads ih =>
      intro w
      rw [List.foldl_cons, writeFrame_ok (h p List.mem_cons_self),
        ih fun q hq => h q (List.mem_cons_of_mem p hq)]
      simp
  rw [written, hfold, List.nil_append]

/-! ## Reading -/

/-- What `FrameReader::next` returns on the buffered bytes, and how many of them
    it takes; `none` if it has to read more.  The limit is checked as soon as
    the header is there. -/
def frameAt : Bytes → Option (Result Bytes × Nat)
  | b0 :: b1 :: b2 :: b3 :: tail =>
    let declared := fromLeBytes b0 b1 b2 b3
    if declared > maxFrameBytes then
      some (.error (.frameTooLarge declared maxFrameBytes), 0)
    else if lengthPrefix + tail.length ≥ lengthPrefix + declared then
      some (.ok (tail.take declared), lengthPrefix + declared)
    else none
  | _ => none

theorem frameAt_le {xs : Bytes} (h : frameAt xs = some (r, n)) :
    n ≤ xs.length := by
  unfold frameAt at h
  split at h
  · dsimp only at h
    split at h
    · cases h
      exact Nat.zero_le _
    · split at h
      · rename_i hlen
        cases h
        rw [lengthPrefix] at hlen ⊢
        simp only [List.length_cons]
        omega
      · cases h
  · cases h

/-- Bytes that come later do not change a frame that is complete. -/
theorem frameAt_stable {xs : Bytes} (ys : Bytes)
    (h : frameAt xs = some (r, n)) : frameAt (xs ++ ys) = some (r, n) := by
  unfold frameAt at h
  split at h
  · rename_i b0 b1 b2 b3 tail
    simp only [List.cons_append, frameAt]
    by_cases hbig : fromLeBytes b0 b1 b2 b3 > maxFrameBytes
    · rwa [if_pos hbig] at h ⊢
    · rw [if_neg hbig] at h ⊢
      split at h
      · rename_i hlen
        have hfits : fromLeBytes b0 b1 b2 b3 ≤ tail.length := Nat.le_of_add_le_add_left hlen
        rw [List.length_append, if_pos (by omega), List.take_append_of_le_length hfits]
        exact h
      · cases h
  · cases h

def frames : Decoder UInt8 (Result Bytes) where
  cut := frameAt
  le := frameAt_le
  stable := frameAt_stable

/-- `FrameReader::next` on a stream that has ended or is still open.  On an open
    stream the call waits (`none`) when the reads run out. -/
def next (ended : Bool) (g : Gathered UInt8) : Option (Result Bytes × Gathered UInt8) :=
  match frames.pull g.chunks g.buf with
  | some (r, g') => some (r, g')
  | none => if ended then some (.error .closed, ⟨g.bytes, []⟩) else none

variable {payload rest : Bytes} {payloads : List Bytes} {g : Gathered UInt8} {ended : Bool}
  {n : Nat}

/-- The length decides: refused at once, complete, or not yet. -/
theorem frameAt_header (h : n < 2 ^ 32) (rest : Bytes) :
    frameAt (toLeBytes n ++ rest) =
      if n > maxFrameBytes then some (.error (.frameTooLarge n maxFrameBytes), 0)
      else if n ≤ rest.length then some (.ok (rest.take n), lengthPrefix + n)
      else none := by
  simp only [toLeBytes, List.cons_append, List.nil_append, frameAt, fromLeBytes_ofNat h, ge_iff_le,
    Nat.add_le_add_iff_left]

theorem lt_of_le_maxFrameBytes (h : n ≤ maxFrameBytes) : n < 2 ^ 32 := by
  have hmax : maxFrameBytes < 2 ^ 32 := by decide
  omega

/-- A complete frame is returned and nothing behind it is taken. -/
theorem next_decodes (h : payload.length ≤ maxFrameBytes) (ended : Bool) :
    Decodes (next ended) Gathered.bytes (frame payload) (.ok payload) := by
  intro g rest hg
  have hcut : frameAt g.bytes = some (.ok payload, lengthPrefix + payload.length) := by
    rw [hg, frame, List.append_assoc, frameAt_header (lt_of_le_maxFrameBytes h),
      if_neg (Nat.not_lt.mpr h), if_pos (by simp), List.take_left]
  obtain ⟨g', hpull, hbytes⟩ := Decoder.pull_eq_some (D := frames) hcut
  refine ⟨g', by rw [next, hpull], ?_⟩
  have hlen : (frame payload).length = lengthPrefix + payload.length := by simp [frame]
  rw [hbytes]
  exact (congrArg (List.drop _) hg).trans (by rw [← hlen, List.drop_left])

/-- A header above the limit is rejected, with or without bytes behind it. -/
theorem next_tooLarge (hg : g.bytes = toLeBytes n ++ rest) (hbig : maxFrameBytes < n)
    (hn : n < 2 ^ 32) (ended : Bool) :
    ∃ g', next ended g = some (.error (.frameTooLarge n maxFrameBytes), g') := by
  have hcut : frameAt g.bytes = some (.error (.frameTooLarge n maxFrameBytes), 0) := by
    rw [hg, frameAt_header hn, if_pos hbig]
  obtain ⟨g', hpull, -⟩ := Decoder.pull_eq_some (D := frames) hcut
  exact ⟨g', by rw [next, hpull]⟩

/-- A header within the limit never is. -/
theorem next_notTooLarge (hg : g.bytes = toLeBytes n ++ rest) (hsmall : n ≤ maxFrameBytes)
    (ended : Bool) (size max : Nat) (g' : Gathered UInt8) :
    next ended g ≠ some (.error (.frameTooLarge size max), g') := by
  have hheader := frameAt_header (lt_of_le_maxFrameBytes hsmall) rest
  rw [if_neg (Nat.not_lt.mpr hsmall), ← hg] at hheader
  intro hnext
  rw [next] at hnext
  split at hheader
  · obtain ⟨g₁, hpull, -⟩ := Decoder.pull_eq_some (D := frames) hheader
    rw [hpull] at hnext
    cases hnext
  · rw [Decoder.pull_eq_none (D := frames) hheader] at hnext
    cases ended with
    | true => cases hnext
    | false => cases hnext

/-- Part of a frame gives nothing to return. -/
theorem frameAt_truncated (h : payload.length ≤ maxFrameBytes) {part : Bytes}
    (hpart : part <+: frame payload) (hne : part ≠ frame payload) : frameAt part = none := by
  obtain ⟨more, hmore⟩ := hpart
  have hshort : more ≠ [] := fun hnil => hne (by rw [← hmore, hnil, List.append_nil])
  have hlen : part.length + more.length = lengthPrefix + payload.length := by
    rw [← List.length_append, hmore]
    simp [frame]
  cases hcut : frameAt part with
  | none => rfl
  | some item =>
    -- decided on the part, so decided the same on the whole frame
    have hwhole := frameAt_stable more hcut
    have hle := frameAt_le hcut
    have hheader := frameAt_header (lt_of_le_maxFrameBytes h) payload
    rw [if_neg (Nat.not_lt.mpr h), if_pos (Nat.le_refl _)] at hheader
    rw [hmore, frame, hheader] at hwhole
    have htaken : lengthPrefix + payload.length = item.2 :=
      congrArg Prod.snd (Option.some.inj hwhole)
    have hpos := List.length_pos_iff.mpr hshort
    omega

/-- On an ended stream, anything the decoder cannot cut is the end. -/
theorem next_closed (h : frameAt g.bytes = none) :
    next true g = some (.error .closed, ⟨g.bytes, []⟩) := by
  rw [next, Decoder.pull_eq_none (D := frames) h]
  rfl

/-- A fresh reader returns all complete frames and then stands behind them. -/
theorem calls_written (h : ∀ p ∈ payloads, p.length ≤ maxFrameBytes) {chunks : List (Chunk UInt8)}
    (hbytes : unread chunks = written payloads ++ rest) (ended : Bool) :
    ∃ g, g.bytes = rest ∧ calls (next ended) (payloads.length + 1) ⟨[], chunks⟩ =
      payloads.map (fun p => some (.ok p)) ++ calls (next ended) 1 g := by
  have hitems : ∀ item ∈ payloads.map fun p => (frame p, (Except.ok p : Result Bytes)),
      Decodes (next ended) Gathered.bytes item.1 item.2 := by
    intro item hitem
    obtain ⟨p, hp, rfl⟩ := List.mem_map.mp hitem
    exact next_decodes (h p hp) ended
  have hstart : Gathered.bytes ⟨[], chunks⟩ =
      ((payloads.map fun p => (frame p, (Except.ok p : Result Bytes))).map Prod.fst).flatten ++
        rest := by
    rw [List.map_map]
    exact hbytes.trans (by rw [written_eq h]; rfl)
  obtain ⟨g, hg, hcalls⟩ := calls_encoded hitems hstart 1
  refine ⟨g, hg, ?_⟩
  rw [List.length_map, List.map_map] at hcalls
  exact hcalls

/-- A last call at a place where nothing can be cut finds the end. -/
theorem calls_closed (h : frameAt g.bytes = none) :
    calls (next true) 1 g = [some (.error .closed)] := by
  rw [calls, next_closed h]
  rfl

/-- The last call reports a frame above the limit exactly if the header does. -/
theorem calls_tooLarge_iff (hg : g.bytes = toLeBytes n ++ rest) (hn : n < 2 ^ 32) (ended : Bool) :
    calls (next ended) 1 g = [some (.error (.frameTooLarge n maxFrameBytes))] ↔
      maxFrameBytes < n := by
  constructor
  · intro hcalls
    by_contra hsmall
    rw [calls] at hcalls
    cases hnext : next ended g with
    | none =>
      rw [hnext] at hcalls
      cases hcalls
    | some item =>
      obtain ⟨r, g'⟩ := item
      rw [hnext] at hcalls
      obtain rfl : r = .error (.frameTooLarge n maxFrameBytes) := by simpa [calls] using hcalls
      exact next_notTooLarge hg (Nat.le_of_not_lt hsmall) ended _ _ _ hnext
  · intro hbig
    obtain ⟨g', hnext⟩ := next_tooLarge hg hbig hn ended
    rw [calls, hnext]
    rfl

/-- **Frames are returned as they were written.** Whatever the reads of the
    stream are: the payloads come back in order and then the end; part of a last
    frame adds nothing; and a header is rejected for its length exactly if
    `write_frame` refuses that length, even when the stream stays open and
    nothing follows the header. -/
theorem written_returned (payloads : List Bytes) (h : ∀ p ∈ payloads, p.length ≤ maxFrameBytes)
    (chunks : List (Chunk UInt8)) :
    (unread chunks = written payloads →
      calls (next true) (payloads.length + 1) ⟨[], chunks⟩ =
        payloads.map (fun p => some (.ok p)) ++ [some (.error .closed)]) ∧
    (∀ last part : Bytes, last.length ≤ maxFrameBytes → part <+: written [last] →
      part ≠ written [last] → unread chunks = written payloads ++ part →
      calls (next true) (payloads.length + 1) ⟨[], chunks⟩ =
        payloads.map (fun p => some (.ok p)) ++ [some (.error .closed)]) ∧
    (∀ (last rest w : Bytes) (ended : Bool), last.length < 2 ^ 32 →
      unread chunks = written payloads ++ (toLeBytes last.length ++ rest) →
      ((writeFrame .ok w last).1 = .error (.frameTooLarge last.length maxFrameBytes) ↔
        calls (next ended) (payloads.length + 1) ⟨[], chunks⟩ =
          payloads.map (fun p => some (.ok p)) ++
            [some (.error (.frameTooLarge last.length maxFrameBytes))])) := by
  refine ⟨fun hbytes => ?_, fun last part hlast hpart hne hbytes => ?_,
    fun last rest w ended hlen hbytes => ?_⟩
  -- in each case what follows the whole frames decides the last call
  · have hall : unread chunks = written payloads ++ [] := by simpa using hbytes
    obtain ⟨g, hg, hcalls⟩ := calls_written h hall true
    rw [hcalls, calls_closed (by rw [hg]; rfl)]
  · obtain ⟨g, hg, hcalls⟩ := calls_written h hbytes true
    have hframe : written [last] = frame last := by
      rw [written_eq (by simpa using hlast)]
      simp
    rw [hframe] at hpart hne
    rw [hcalls, calls_closed (by rw [hg]; exact frameAt_truncated hlast hpart hne)]
  · obtain ⟨g, hg, hcalls⟩ := calls_written h hbytes ended
    rw [hcalls, writeFrame_refuses, List.append_cancel_left_eq]
    exact (calls_tooLarge_iff hg hlen ended).symm

/-- An empty payload and one byte, the second header cut in two; one frame of which
    only the header arrives; and one that is a byte too long, refused on both sides. -/
theorem written_returned_split :
    calls (next true) 3 ⟨[], [⟨[0, 0, 0, 0, 1, 0], by simp⟩, ⟨[0, 0, 7], by simp⟩]⟩ =
        [some (.ok []), some (.ok [7]), some (.error .closed)] ∧
      calls (next true) 2 ⟨[], [⟨[0, 0, 0, 0, 1], by simp⟩, ⟨[0, 0, 0], by simp⟩]⟩ =
        [some (.ok []), some (.error .closed)] ∧
      (writeFrame .ok [] (List.replicate (maxFrameBytes + 1) 7)).1 =
        .error (.frameTooLarge (maxFrameBytes + 1) maxFrameBytes) ∧
      calls (next false) 2 ⟨[], [⟨[1, 0, 0, 0, 7, 1, 0], by simp⟩, ⟨[0, 1], by simp⟩]⟩ =
        [some (.ok [7]), some (.error (.frameTooLarge (maxFrameBytes + 1) maxFrameBytes))] := by
  have hlen : (List.replicate (maxFrameBytes + 1) (7 : UInt8)).length = maxFrameBytes + 1 :=
    List.length_replicate
  -- the long payload is never computed, only its length
  generalize List.replicate (maxFrameBytes + 1) (7 : UInt8) = last at hlen ⊢
  have hrefused : (writeFrame .ok [] last).1 =
      .error (.frameTooLarge last.length maxFrameBytes) :=
    writeFrame_refuses.mpr (by rw [hlen]; exact Nat.lt_succ_self _)
  have hreturned := (written_returned [[7]] (by decide)
    [⟨[1, 0, 0, 0, 7, 1, 0], by simp⟩, ⟨[0, 1], by simp⟩]).2.2
    last [] [] false (by rw [hlen]; decide) (by rw [hlen]; rfl)
  rw [← hlen]
  exact ⟨(written_returned [[], [7]] (by decide) _).1 rfl,
    (written_returned [[]] (by decide) _).2.1 [7] [1, 0, 0, 0] (by decide) (by decide) (by decide)
      rfl, hrefused, hreturned.mp hrefused⟩

end Handfast.Ipc
