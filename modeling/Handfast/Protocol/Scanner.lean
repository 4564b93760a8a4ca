/-
  Handfast.Protocol.Scanner

  One call of `Packet::read_frame` on a stream of any bytes
  (`crates/protocol/src/packet.rs`).

  `scan` says what a call comes to as a function of the bytes alone: the line in
  front of the first newline, or of the whole stream, decides.  The loop of
  `readFrame` checks the limit in two places, depending on whether the read has
  the newline in it, and its two size errors have different texts; both are
  `oversized` here.  `readFrame_unread` moves the loop to the end of a stream
  without a newline, so that the three cases of `scan` are the lemmas of
  `Handfast.Protocol.Framing` and that one.
-/
import Mathlib.Data.List.TakeWhile
import Handfast.Protocol.Framing

namespace Handfast.Protocol.Framing

open Handfast.Lib

/-- What a call of `read_frame` comes to. -/
inductive Scan where
  /-- A frame, and the bytes the reader is left with. -/
  | payload (frame rest : List UInt8)
  | closed
  | truncated
  | oversized
  deriving DecidableEq, Repr

/-- The bytes up to the first newline, or all of them. -/
def firstLine (bytes : List UInt8) : List UInt8 := bytes.takeWhile fun byte => byte ≠ newline

/-- The outcome of a call on a stream with these bytes; `none` while the call waits for more. -/
def scan (ended : Bool) (bytes : List UInt8) : Option Scan :=
  -- a long line is refused with its newline and without it
  if (firstLine bytes).length > maxPacketLen then some .oversized
  else if newline ∈ bytes then
    some (.payload (firstLine bytes) (bytes.drop ((firstLine bytes).length + 1)))
  else if ¬ ended then none
  else if bytes.isEmpty then some .closed
  else some .truncated

/-- The outcome a returned value stands for. -/
inductive Stands : Result (List UInt8) × List (Chunk UInt8) → Scan → Prop
  | payload (frame : List UInt8) (cs : List (Chunk UInt8)) :
      Stands (.ok frame, cs) (.payload frame (unread cs))
  | closed (cs : List (Chunk UInt8)) :
      Stands (.error (.other "connection closed before a frame"), cs) .closed
  | truncated (cs : List (Chunk UInt8)) :
      Stands (.error (.other "truncated frame: connection closed mid-line"), cs) .truncated
  | oversized {e : Error} (cs : List (Chunk UInt8)) : Oversize e → Stands (.error e, cs) .oversized

/-- The loop of `readFrame` with what `line` holds at each turn, and after the last bytes were
    added to it. -/
def readFrameLines (ended : Bool) : List (Chunk UInt8) → List UInt8 →
    Option (Result (List UInt8) × List (Chunk UInt8)) × List (List UInt8)
  | [], line => (readFrame ended [] line, [line])
  | c :: cs, line =>
    match c.1.findIdx? fun byte => byte = newline with
    | some pos =>
      if line.length + pos > maxPacketLen then (readFrame ended (c :: cs) line, [line])
      else (some (.ok (line ++ c.1.take pos), consume (pos + 1) (c :: cs)),
        [line, line ++ c.1.take pos])
    | none =>
      if line.length + c.1.length > maxPacketLen then (readFrame ended (c :: cs) line, [line])
      else
        let later := readFrameLines ended cs (line ++ c.1)
        (later.1, line :: later.2)

variable {cs chunks : List (Chunk UInt8)} {line bytes payload : List UInt8} {ended : Bool}
  {e : Error}

/-! ## The first line of a stream -/

theorem forall_ne_newline (h : newline ∉ line) :
    ∀ byte ∈ line, decide (byte ≠ newline) = true := by
  intro byte hbyte
  have hne : byte ≠ newline := by
    rintro rfl
    exact h hbyte
  simpa using hne

theorem newline_notMem_firstLine (bytes : List UInt8) : newline ∉ firstLine bytes := by
  intro hmem
  simpa using List.mem_takeWhile_imp hmem

theorem firstLine_append (h : newline ∉ line) (rest : List UInt8) :
    firstLine (line ++ newline :: rest) = line := by
  rw [firstLine, List.takeWhile_append_of_pos (forall_ne_newline h), List.takeWhile_cons]
  simp

theorem firstLine_eq_self (h : newline ∉ bytes) : firstLine bytes = bytes :=
  List.takeWhile_eq_self_iff.mpr (forall_ne_newline h)

/-- A stream with a newline is its first line, the newline and the rest. -/
theorem firstLine_split (h : newline ∈ bytes) :
    bytes = firstLine bytes ++ newline :: bytes.drop ((firstLine bytes).length + 1) := by
  obtain ⟨before, rest, rfl, hbefore⟩ := List.eq_append_cons_of_mem h
  rw [firstLine_append hbefore]
  simp

/-- The first line and the rest make up the bytes. -/
theorem firstLine_append_drop (bytes : List UInt8) :
    firstLine bytes ++ bytes.drop (firstLine bytes).length = bytes :=
  List.prefix_iff_eq_append.mp (List.takeWhile_prefix _)

/-- Bytes without a newline at the front of a stream are part of its first line. -/
theorem le_firstLine {n : Nat} (hn : n ≤ bytes.length) (h : newline ∉ bytes.take n) :
    n ≤ (firstLine bytes).length := by
  by_cases hmem : newline ∈ bytes
  · by_contra hshort
    refine h ?_
    rw [firstLine_split hmem, List.take_append]
    -- the newline is right behind the first line
    obtain ⟨k, hk⟩ : ∃ k, n - (firstLine bytes).length = k + 1 :=
      ⟨n - (firstLine bytes).length - 1, by omega⟩
    rw [hk]
    simp
  · rw [firstLine_eq_self hmem]
    exact hn

/-- The payload is what stands before the first newline. -/
theorem scan_payload {rest : List UInt8} (h : scan ended bytes = some (.payload payload rest)) :
    newline ∉ payload ∧ bytes = payload ++ newline :: rest := by
  unfold scan at h
  by_cases hlong : (firstLine bytes).length > maxPacketLen
  · simp [hlong] at h
  rw [if_neg hlong] at h
  by_cases hmem : newline ∈ bytes
  · rw [if_pos hmem] at h
    cases h
    exact ⟨newline_notMem_firstLine bytes, firstLine_split hmem⟩
  · -- without a newline the call waits or fails
    rw [if_neg hmem] at h
    split at h
    · cases h
    · split at h <;> cases h

/-! ## The loop -/

/-- **The bytes decide.** A call returns what `scan` says of the bytes, and waits if `scan`
    says so. -/
theorem readFrame_scan (ended : Bool) (chunks : List (Chunk UInt8)) :
    Option.Rel Stands (readFrame ended chunks []) (scan ended (unread chunks)) := by
  have hstart : [] ++ unread chunks = unread chunks := List.nil_append _
  by_cases hlong : (firstLine (unread chunks)).length > maxPacketLen
  · obtain ⟨e, cs', he, hframe⟩ := readFrame_oversize (newline_notMem_firstLine (unread chunks))
      hlong List.not_mem_nil (Nat.zero_le _)
      (hstart.trans (firstLine_append_drop (unread chunks)).symm) ended
    rw [hframe, scan, if_pos hlong]
    exact .some (.oversized cs' he)
  rw [scan, if_neg hlong]
  by_cases hmem : newline ∈ unread chunks
  · obtain ⟨cs', hframe, hrest⟩ := readFrame_ok (newline_notMem_firstLine (unread chunks))
      (Nat.le_of_not_lt hlong) List.not_mem_nil (hstart.trans (firstLine_split hmem)) ended
    rw [hframe, if_pos hmem, ← hrest]
    exact .some (.payload _ cs')
  · -- all reads are in the line, and the stream is at its end or goes on
    rw [firstLine_eq_self hmem] at hlong
    rw [readFrame_unread hmem (by rw [hstart]; omega) ended, if_neg hmem, hstart, readFrame]
    cases ended with
    | false => exact .none
    | true =>
      by_cases hempty : (unread chunks).isEmpty = true
      · simp only [hempty, if_true]
        exact .some (.closed [])
      · simp only [hempty]
        exact .some (.truncated [])

/-- Every call of `readFrame` is the loop whose lines are listed. -/
theorem readFrameLines_fst (ended : Bool) (cs : List (Chunk UInt8)) (line : List UInt8) :
    (readFrameLines ended cs line).1 = readFrame ended cs line := by
  induction cs generalizing line with
  | nil => rfl
  | cons c cs ih =>
    rw [readFrameLines]
    cases hfind : c.1.findIdx? fun byte => byte = newline with
    | some pos =>
      by_cases hcount : line.length + pos > maxPacketLen
      · simp only [if_pos hcount]
      · simp only [readFrame, hfind, if_neg hcount]
    | none =>
      by_cases hcount : line.length + c.1.length > maxPacketLen
      · simp only [if_pos hcount]
      · simp only [readFrame, hfind, if_neg hcount]
        exact ih (line ++ c.1)

/-- The line never grows above the limit. -/
theorem length_of_mem_lines {kept : List UInt8} (hline : line.length ≤ maxPacketLen)
    (h : kept ∈ (readFrameLines ended cs line).2) : kept.length ≤ maxPacketLen := by
  induction cs generalizing line with
  | nil =>
    obtain rfl : kept = line := List.mem_singleton.mp h
    exact hline
  | cons c cs ih =>
    rw [readFrameLines] at h
    cases hfind : c.1.findIdx? fun byte => byte = newline with
    | some pos =>
      rw [hfind] at h
      by_cases hcount : line.length + pos > maxPacketLen
      · simp only [if_pos hcount, List.mem_singleton] at h
        exact h ▸ hline
      · simp only [if_neg hcount, List.mem_cons, List.not_mem_nil, or_false] at h
        rcases h with rfl | rfl
        · exact hline
        · rw [List.length_append, List.length_take]
          omega
    | none =>
      rw [hfind] at h
      by_cases hcount : line.length + c.1.length > maxPacketLen
      · simp only [if_pos hcount, List.mem_singleton] at h
        exact h ▸ hline
      · -- the whole read is added, after the check
        simp only [if_neg hcount, List.mem_cons] at h
        rcases h with rfl | h
        · exact hline
        · exact ih (by rw [List.length_append]; omega) h

/-- The last line of a call that succeeds is the frame. -/
theorem getLast_lines (h : readFrame ended cs line = some (.ok payload, chunks)) :
    (readFrameLines ended cs line).2.getLast? = some payload := by
  -- on the chunks, as both functions recurse
  induction cs generalizing line with
  | nil =>
    rw [readFrame] at h
    split at h
    · cases h
    · split at h <;> cases h
  | cons c cs ih =>
    rw [readFrame] at h
    rw [readFrameLines]
    cases hfind : c.1.findIdx? fun byte => byte = newline with
    | some pos =>
      rw [hfind] at h
      by_cases hcount : line.length + pos > maxPacketLen
      · simp only [if_pos hcount] at h
        cases h
      · simp only [if_neg hcount] at h ⊢
        cases h
        rfl
    | none =>
      rw [hfind] at h
      by_cases hcount : line.length + c.1.length > maxPacketLen
      · simp only [if_pos hcount] at h
        cases h
      · simp only [if_neg hcount] at h ⊢
        rw [List.getLast?_cons, ih h, Option.getD_some]

/-! ## The outcomes are told apart -/

/-- The letter the text of a failure begins with. -/
def Scan.initial : Scan → Option Char
  | .payload _ _ => none
  | .closed => some 'c'
  | .truncated => some 't'
  | .oversized => some 'f'

theorem Oversize.initial (h : Oversize e) :
    ∃ msg, e = .other msg ∧ msg.toList.head? = some 'f' := by
  cases h with
  | line n => exact ⟨_, rfl, by simp only [String.toList_append]; rfl⟩
  | chunk => exact ⟨_, rfl, by decide⟩

theorem Stands.initial {s : Scan} (h : Stands (.error e, cs) s) :
    s.initial.isSome ∧ ∃ msg, e = .other msg ∧ msg.toList.head? = s.initial := by
  cases h with
  | closed => exact ⟨rfl, _, rfl, by decide⟩
  | truncated => exact ⟨rfl, _, rfl, by decide⟩
  | oversized _ he => exact ⟨rfl, he.initial⟩

/-- An outcome stands for one verdict of the scanner. -/
theorem Stands.unique {r : Result (List UInt8) × List (Chunk UInt8)} {s s' : Scan}
    (h : Stands r s) (h' : Stands r s') : s = s' := by
  obtain ⟨result, cs⟩ := r
  cases result with
  | ok frame =>
    cases h
    cases h'
    rfl
  | error e =>
    -- the texts of the failures begin with different letters
    obtain ⟨hsome, msg, rfl, hmsg⟩ := h.initial
    obtain ⟨hsome', msg', he, hmsg'⟩ := h'.initial
    cases he
    rw [hmsg] at hmsg'
    cases s <;> cases s' <;> simp_all [Scan.initial]

/-- **One call on any stream.** However the bytes are split into reads, a call
    comes to the outcome `scan` gives for the bytes, and a returned value stands
    for no other.  The line it gathers stays within the limit at every turn of every
    call, the last of them being the frame that is returned.  A frame is the bytes in front
    of the first newline, and what is left is the bytes behind it.  A stream of
    more bytes than the limit with no newline among the first of them is
    oversized. -/
theorem frame_of_bytes (ended : Bool) (chunks : List (Chunk UInt8)) :
    (Option.Rel Stands (readFrame ended chunks []) (scan ended (unread chunks)) ∧
      ∀ r s s', Stands r s → Stands r s' → s = s') ∧
    ((readFrameLines ended chunks []).1 = readFrame ended chunks [] ∧
      ∀ kept ∈ (readFrameLines ended chunks []).2, kept.length ≤ maxPacketLen) ∧
    (∀ payload rest, readFrame ended chunks [] = some (.ok payload, rest) →
      (readFrameLines ended chunks []).2.getLast? = some payload ∧ newline ∉ payload ∧
        unread chunks = payload ++ newline :: unread rest) ∧
    (maxPacketLen < (unread chunks).length →
      newline ∉ (unread chunks).take (maxPacketLen + 1) →
      ∃ e rest, Oversize e ∧ readFrame ended chunks [] = some (.error e, rest)) := by
  have hscan := readFrame_scan ended chunks
  refine ⟨⟨hscan, fun r s s' h h' => h.unique h'⟩,
    ⟨readFrameLines_fst ended chunks [], fun kept hkept => ?_⟩, ?_, ?_⟩
  · exact length_of_mem_lines (Nat.zero_le _) hkept
  · intro payload rest hframe
    refine ⟨getLast_lines hframe, ?_⟩
    rw [hframe] at hscan
    generalize hbytes : scan ended (unread chunks) = outcome at hscan
    cases hscan with
    | some h =>
      cases h
      exact scan_payload hbytes
  · intro hlen hclean
    -- the scanner sees the bytes as a whole, so the cuts do not matter
    have hlong : (firstLine (unread chunks)).length > maxPacketLen := le_firstLine hlen hclean
    rw [scan, if_pos hlong] at hscan
    generalize readFrame ended chunks [] = result at hscan
    cases hscan with
    | some h =>
      cases h with
      | oversized rest he => exact ⟨_, rest, he, rfl⟩

end Handfast.Protocol.Framing
