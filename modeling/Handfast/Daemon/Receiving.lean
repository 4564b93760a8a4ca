/-
  Handfast.Daemon.Receiving

  What a receive stores.  The bytes a peer sends, however they are split into
  reads, are the `stream` of the wire; what should end up in the file is its
  `payload` for the announced size.

  `Shared` is one receive on the engine it shares with others: its own steps
  come in between arbitrary calls for other transfers.  The invariant ties the
  byte counter, the engine's counter, the staging file and the part of the
  stream that was consumed together (`Shared.Inv`).
-/
import Handfast.Daemon.Streams

namespace Handfast.Daemon

open Handfast.Lib Handfast.Protocol Handfast.Core

/-! ## Streams -/

inductive Ending where
  | eof
  | failed
  /-- Nothing more arrives, and the next read times out. -/
  | silent
  deriving DecidableEq, Repr

namespace Wire

def stream : Wire → Bytes
  | .bytes data :: w => data ++ stream w
  | _ => []

def ending : Wire → Ending
  | .bytes _ :: w => ending w
  | .closed :: _ | .cut :: _ => .eof
  | .failed _ :: _ => .failed
  | [] => .silent

/-- What a receive of the given size should store: the first `size` bytes if that
    many arrive, or everything up to the end of the stream if the size is not
    known.  (No file has more bytes than a `u64` counts.) -/
def payload (w : Wire) (size : Nat) : Option Bytes :=
  if size = unknownSize then
    if w.ending = .eof ∧ w.stream.length ≤ unknownSize then some w.stream else none
  else if size ≤ w.stream.length then some (w.stream.take size)
  else none

variable {w : Wire}

/-- `read_exact` takes the next bytes of the stream, if there are enough. -/
theorem readBytes_ok {want : Nat} (h : want ≤ w.stream.length) :
    ∃ w', w.readBytes want = (.ok (w.stream.take want), w') ∧
      w'.stream = w.stream.drop want ∧ w'.ending = w.ending := by
  induction w generalizing want with
  | nil =>
    obtain rfl : want = 0 := Nat.le_zero.mp h
    exact ⟨[], rfl, rfl, rfl⟩
  | cons a w ih =>
    cases want with
    | zero => exact ⟨a :: w, rfl, rfl, rfl⟩
    | succ want =>
      cases a with
      | bytes data =>
        by_cases hfit : want + 1 ≤ data.length
        · refine ⟨.bytes (data.drop (want + 1)) :: w, ?_, ?_, rfl⟩
          · simp [readBytes, stream, hfit, List.take_append_of_le_length]
          · simp [stream, hfit, List.drop_append_of_le_length]
        · -- the arrival is used up, and the rest comes from those after it
          have hlong : data.length ≤ want + 1 := by omega
          have hrest : want + 1 - data.length ≤ (stream w).length := by
            rw [stream, List.length_append] at h
            omega
          obtain ⟨w', hread, hstream, hending⟩ := ih hrest
          refine ⟨w', ?_, ?_, hending⟩
          · rw [readBytes, if_neg hfit, hread, stream, List.take_append,
              List.take_of_length_le hlong]
            rfl
          · rw [hstream, stream, List.drop_append, List.drop_of_length_le hlong,
              List.nil_append]
      | closed | cut | failed msg => simp [stream] at h

theorem readBytes_short {want : Nat} (h : w.stream.length < want) :
    ∃ e w', w.readBytes want = (.error e, w') := by
  induction w generalizing want with
  | nil =>
    obtain ⟨k, rfl⟩ := Nat.exists_eq_succ_of_ne_zero (Nat.ne_zero_of_lt h)
    exact ⟨_, _, rfl⟩
  | cons a w ih =>
    obtain ⟨k, rfl⟩ := Nat.exists_eq_succ_of_ne_zero (Nat.ne_zero_of_lt h)
    cases a with
    | bytes data =>
      rw [stream, List.length_append] at h
      have hfit : ¬ k + 1 ≤ data.length := by omega
      have hrest : (stream w).length < k + 1 - data.length := by omega
      obtain ⟨e, w', hread⟩ := ih hrest
      exact ⟨e, w', by rw [readBytes, if_neg hfit, hread]; rfl⟩
    | closed | cut | failed msg => exact ⟨_, _, rfl⟩

/-- `read_some` takes some of the next bytes of the stream, if there are any. -/
theorem readSome_some {max : Nat} (hmax : 0 < max) (h : w.stream ≠ []) :
    ∃ chunk w', w.readSome max = (.ok chunk, w') ∧ chunk ≠ [] ∧ chunk.length ≤ max ∧
      w.stream = chunk ++ w'.stream ∧ w'.ending = w.ending := by
  induction w with
  | nil => exact absurd rfl h
  | cons a w ih =>
    cases a with
    | bytes data =>
      cases data with
      | nil => exact ih h
      | cons b data =>
        refine ⟨(b :: data).take max, .bytes ((b :: data).drop max) :: w, rfl, ?_,
          List.length_take_le _ _, ?_, rfl⟩
        · simp [hmax.ne']
        · rw [stream, stream, ← List.append_assoc, List.take_append_drop]
    | closed | cut | failed msg => exact absurd rfl h

/-- At the end of the stream it tells whether the peer closed it. -/
theorem readSome_none (max : Nat) (h : w.stream = []) :
    (w.ending = .eof ∧ ∃ w', w.readSome max = (.ok [], w')) ∨
      (w.ending ≠ .eof ∧ ∃ e w', w.readSome max = (.error e, w')) := by
  induction w with
  | nil => exact .inr ⟨by decide, _, _, rfl⟩
  | cons a w ih =>
    cases a with
    | bytes data =>
      cases data with
      | nil => exact ih h
      | cons b data => cases h
    | closed | cut => exact .inl ⟨rfl, _, rfl⟩
    | failed msg => exact .inr ⟨by simp [ending], _, _, rfl⟩

end Wire

/-! ## A receive among others -/

structure Shared where
  recv : ReceiveRun
  disk : Disk

/-- A step of the receive, or a call of the engine for another transfer. -/
inductive SharedMove where
  | own
  | other (c : EngineCall)

namespace Shared

/-- The receive takes a step: it is not cancelled and no file operation fails. -/
def own (s : Shared) : ReceiveRun × Disk × List Event := s.recv.step false .none .none s.disk

def step (s : Shared) : SharedMove → Shared
  | .own => { recv := s.own.1, disk := s.own.2.1 }
  | .other c => { s with disk := { s.disk with staging := (s.disk.staging.call .none c).2 } }

/-- A receive that has not begun, on an engine without transfers. -/
def start (task : ReceiveTask) (wire : Wire) (saveDir : String) (files : LocalFiles)
    (remote : Files String UInt8) : Shared where
  recv := .new task wire none
  disk := { staging := .idle saveDir files, remote }

/-- The staging name is free when the receive starts; calls between its steps are
    for other transfers. -/
def Fair (s : Shared) : SharedMove → Prop
  | .own => s.recv.phase = .start →
      s.disk.staging.files.has (s.disk.staging.partPathOf s.recv.task.fileName) = false
  | .other c => c.id ≠ s.recv.id

/-- Whoever finishes finds a free name. -/
def Roomy (s : Shared) : SharedMove → Prop
  | .own => s.recv.phase = .finish → s.disk.staging.HasRoom .none (.finishReceive s.recv.id)
  | .other c => s.disk.staging.HasRoom .none c

instance (s : Shared) : (a : SharedMove) → Decidable (s.Fair a)
  | .own => inferInstanceAs (Decidable (s.recv.phase = .start → _ = false))
  | .other c => inferInstanceAs (Decidable (c.id ≠ s.recv.id))

instance (s : Shared) : (a : SharedMove) → Decidable (s.Roomy a)
  | .own => inferInstanceAs (Decidable (s.recv.phase = .finish → Staging.HasRoom ..))
  | .other _ => inferInstanceAs (Decidable (Staging.HasRoom ..))

variable {s : Shared} {w : Wire} {bytes taken chunk : Bytes} {c : EngineCall} {done : Nat}
  {t : IncomingTransfer} {dir : String}

/-! ## The invariant -/

/-- The engine holds `bytes` for the receive. -/
def Staged (s : Shared) (bytes : Bytes) : Prop :=
  ∃ t, s.disk.staging.incoming.get s.recv.id = some t ∧ t.info = s.recv.info ∧
    t.received = bytes.length ∧ s.disk.staging.files.read t.partPath = some bytes

/-- The stream `w` was consumed up to `taken`, and `chunk` was read after that. -/
structure Consumed (w : Wire) (r : ReceiveRun) (taken chunk : Bytes) : Prop where
  stream : w.stream = taken ++ (chunk ++ r.wire.stream)
  ending : r.wire.ending = w.ending
  counted : taken.length ≤ r.task.size
  within : r.task.size = unknownSize ∨ taken.length + chunk.length ≤ r.task.size

def AtPhase (w : Wire) (s : Shared) : ReceivePhase → Prop
  | .start => s.recv.wire = w ∧ s.disk.staging.incoming.get s.recv.id = none
  | .check done => ∃ taken, done = taken.length ∧ s.Staged taken ∧ Consumed w s.recv taken []
  | .write done chunk => ∃ taken, done = taken.length ∧ s.Staged taken ∧
      Consumed w s.recv taken chunk ∧ chunk ≠ [] ∧ chunk.length ≤ chunkSize
  | .finish => ∃ taken, s.Staged taken ∧ w.payload s.recv.task.size = some taken
  | .copy _ => False
  | .ended (.ok path) => ∃ bytes, w.payload s.recv.task.size = some bytes ∧
      s.disk.staging.files.read path = some bytes ∧ ∀ id, s.disk.staging.NotOwn id path
  | .ended (.error _) => w.payload s.recv.task.size = none

structure Inv (task : ReceiveTask) (w : Wire) (s : Shared) : Prop where
  task : s.recv.task = task
  sound : s.disk.staging.Sound
  phase : s.AtPhase w s.recv.phase

/-! ## Calls for other transfers -/

/-- Other transfers leave the staged bytes alone. -/
theorem other_staged (hsound : s.disk.staging.Sound) (hother : c.id ≠ s.recv.id)
    (hroom : s.disk.staging.HasRoom .none c) (h : s.Staged bytes) :
    (s.step (.other c)).Staged bytes := by
  obtain ⟨t, ht, hinfo, hcount, hread⟩ := h
  have hframe := Staging.call_frame hroom
  refine ⟨t, (hframe.entries _ (Ne.symm hother)).trans ht, hinfo, hcount, ?_⟩
  exact (hframe.files _ (hsound.present _ t ht) (hsound.notOwn (Ne.symm hother) ht)).trans hread

theorem other_atPhase {p : ReceivePhase} (hsound : s.disk.staging.Sound) (hother : c.id ≠ s.recv.id)
    (hroom : s.disk.staging.HasRoom .none c) (h : s.AtPhase w p) :
    (s.step (.other c)).AtPhase w p := by
  have hframe := Staging.call_frame hroom
  cases p with
  | start => exact ⟨h.1, (hframe.entries _ (Ne.symm hother)).trans h.2⟩
  | check done =>
    obtain ⟨taken, hdone, hstaged, hrest⟩ := h
    exact ⟨taken, hdone, other_staged hsound hother hroom hstaged, hrest⟩
  | write done chunk =>
    obtain ⟨taken, hdone, hstaged, hrest⟩ := h
    exact ⟨taken, hdone, other_staged hsound hother hroom hstaged, hrest⟩
  | finish =>
    obtain ⟨taken, hstaged, hrest⟩ := h
    exact ⟨taken, other_staged hsound hother hroom hstaged, hrest⟩
  | copy path => exact h
  | ended result =>
    cases result with
    | error e => exact h
    | ok path =>
      -- the finished file is nobody's staging file
      obtain ⟨bytes, hpayload, hread, hnot⟩ := h
      have hthere : s.disk.staging.files.has path = true :=
        Files.has_eq_true.mpr ⟨bytes, hread⟩
      exact ⟨bytes, hpayload, (hframe.files path hthere (hnot c.id)).trans hread,
        hframe.notOwn hthere hnot⟩

/-! ## Steps of the receive -/

/-- The head of the loop when the size is not known: a chunk is read, or the
    stream is over and complete, or it never will be. -/
theorem readNext_unknown (hstaged : s.Staged taken) (hcons : Consumed w s.recv taken [])
    (hsize : s.recv.task.size = unknownSize) :
    AtPhase w { s with recv := s.recv.readNext taken.length }
      (s.recv.readNext taken.length).phase := by
  have hstream : w.stream = taken ++ s.recv.wire.stream := by simpa using hcons.stream
  unfold ReceiveRun.readNext
  rw [if_pos hsize]
  by_cases hnil : s.recv.wire.stream = []
  · have hall : w.stream = taken := by rw [hstream, hnil, List.append_nil]
    -- nothing is left: the stream is over, or it never will be
    rcases Wire.readSome_none chunkSize hnil with ⟨heof, w', hread⟩ | ⟨hend, e, w', hread⟩
    · rw [hread]
      refine ⟨taken, hstaged, ?_⟩
      rw [Wire.payload, if_pos hsize, if_pos, hall]
      rw [← hcons.ending, hall, ← hsize]
      exact ⟨heof, hcons.counted⟩
    · rw [hread]
      show w.payload s.recv.task.size = none
      rw [Wire.payload, if_pos hsize, if_neg]
      rw [← hcons.ending]
      exact fun h => hend h.1
  · obtain ⟨chunk, w', hread, hne, hlen, hsplit, hend⟩ :=
      Wire.readSome_some (show 0 < chunkSize by decide) hnil
    rw [hread]
    -- only an empty read counts as the end of the stream
    obtain ⟨b, rest, rfl⟩ := List.exists_cons_of_ne_nil hne
    refine ⟨taken, rfl, hstaged, ⟨?_, hend.trans hcons.ending, hcons.counted, .inl hsize⟩,
      hne, hlen⟩
    rw [hstream, hsplit]

/-- The same when the size is known: `size - done` does not underflow, and what
    is read stays within the size. -/
theorem readNext_known (hstaged : s.Staged taken) (hcons : Consumed w s.recv taken [])
    (hsize : s.recv.task.size ≠ unknownSize) :
    AtPhase w { s with recv := s.recv.readNext taken.length }
      (s.recv.readNext taken.length).phase := by
  have hstream : w.stream = taken ++ s.recv.wire.stream := by simpa using hcons.stream
  have hlen : w.stream.length = taken.length + s.recv.wire.stream.length := by
    rw [hstream, List.length_append]
  have hcounted := hcons.counted
  unfold ReceiveRun.readNext
  rw [if_neg hsize]
  by_cases hzero : min chunkSize (s.recv.task.size - taken.length) = 0
  · -- everything was received
    have hfull : taken.length = s.recv.task.size := by
      have hpos : 0 < chunkSize := by decide
      omega
    simp only [hzero, if_true]
    refine ⟨taken, hstaged, ?_⟩
    show w.payload s.recv.task.size = some taken
    rw [Wire.payload, if_neg hsize, if_pos (by omega), hstream, ← hfull, List.take_left]
  · simp only [if_neg hzero]
    by_cases henough : min chunkSize (s.recv.task.size - taken.length) ≤ s.recv.wire.stream.length
    · obtain ⟨w', hread, hrest, hend⟩ := Wire.readBytes_ok henough
      rw [hread]
      have hchunk : (s.recv.wire.stream.take
          (min chunkSize (s.recv.task.size - taken.length))).length =
            min chunkSize (s.recv.task.size - taken.length) := by
        rw [List.length_take]
        omega
      refine ⟨taken, rfl, hstaged,
        ⟨?_, hend.trans hcons.ending, hcounted, .inr ?_⟩, ?_, ?_⟩
      · rw [hstream, hrest, List.take_append_drop]
      · show taken.length + _ ≤ s.recv.task.size
        rw [hchunk]
        omega
      · intro hnil
        rw [hnil] at hchunk
        exact hzero hchunk.symm
      · rw [hchunk]
        omega
    · -- the stream ends, fails or stalls before the announced size
      obtain ⟨e, w', hread⟩ := Wire.readBytes_short (Nat.lt_of_not_le henough)
      rw [hread]
      show w.payload s.recv.task.size = none
      rw [Wire.payload, if_neg hsize, if_neg (by omega)]

theorem own_check (hphase : s.recv.phase = .check done) :
    s.step .own = { s with recv := s.recv.readNext done } := by
  simp [step, own, ReceiveRun.step, hphase]

/-- The first turn stages an empty file. -/
theorem own_start (hphase : s.recv.phase = .start) (hpayload : s.recv.task.payload.isSome)
    (hnew : s.disk.staging.incoming.get s.recv.id = none)
    (hfree : s.disk.staging.files.has
      (s.disk.staging.partPathOf s.recv.task.fileName) = false) :
    s.step .own =
      { recv := s.recv.goto (.check 0)
        disk := { s.disk with staging := s.disk.staging.started s.recv.info } } := by
  have hok : s.disk.staging.startReceive .none s.recv.info =
      (.ok (), s.disk.staging.started s.recv.info) := Staging.startReceive_ok hnew hfree
  simp [step, own, ReceiveRun.step, hphase, hok, hpayload]

theorem own_write (hphase : s.recv.phase = .write done chunk)
    (ht : s.disk.staging.incoming.get s.recv.id = some t) (hlen : chunk.length ≤ chunkSize)
    (hsize : t.received + chunk.length ≤ t.info.fileSize)
    (hfile : s.disk.staging.files.has t.partPath = true) :
    s.step .own =
      { recv := s.recv.afterWrite (done + chunk.length)
        disk := { s.disk with staging := s.disk.staging.extended s.recv.id t chunk } } := by
  simp [step, own, ReceiveRun.step, hphase, Staging.writeChunk_ok ht hlen hsize hfile]

theorem own_finish (hphase : s.recv.phase = .finish) (hlocal : s.recv.task.saveTarget = .dir dir)
    (ht : s.disk.staging.incoming.get s.recv.id = some t) (hdone : Staging.Complete t)
    (hfile : s.disk.staging.files.has t.partPath = true) :
    s.step .own =
      { recv := s.recv.goto (.ended (.ok (s.disk.staging.destination .none t.finalName)))
        disk := { s.disk with
          staging := s.disk.staging.moved s.recv.id t
            (s.disk.staging.destination .none t.finalName) } } := by
  simp [step, own, ReceiveRun.step, hphase, Staging.finishReceive_ok .none rfl ht hdone hfile,
    hlocal]

theorem own_write_overflow (hphase : s.recv.phase = .write done chunk)
    (ht : s.disk.staging.incoming.get s.recv.id = some t)
    (hsize : t.info.fileSize < t.received + chunk.length) :
    ∃ e, s.step .own = { s with recv := s.recv.goto (.ended (.error e)) } := by
  obtain ⟨e, he⟩ := s.disk.staging.writeChunk_overflow .none ht hsize
  exact ⟨e, by simp [step, own, ReceiveRun.step, hphase, he]⟩

/-- A chunk is appended, or refused if it exceeds the announced size. -/
theorem write_atPhase (hdone : done = taken.length) (hphase : s.recv.phase = .write done chunk)
    (hsound : s.disk.staging.Sound) (hstaged : s.Staged taken)
    (hcons : Consumed w s.recv taken chunk) (hlen : chunk.length ≤ chunkSize) :
    (s.step .own).AtPhase w (s.step .own).recv.phase := by
  obtain ⟨t, ht, hinfo, hcount, hread⟩ := hstaged
  have hfile := hsound.present _ t ht
  have hfileSize : t.info.fileSize = s.recv.task.size := by rw [hinfo]; rfl
  by_cases hfits : t.received + chunk.length ≤ t.info.fileSize
  · rw [own_write hphase ht hlen hfits hfile]
    rw [hfileSize, hcount] at hfits
    -- the engine holds the chunk, and the stream was consumed up to its end
    have hstaged' : ∀ p, Staged
        { recv := s.recv.goto p
          disk := { s.disk with staging := s.disk.staging.extended s.recv.id t chunk } }
        (taken ++ chunk) := by
      intro p
      refine ⟨{ t with received := t.received + chunk.length }, ?_, hinfo, ?_, ?_⟩
      · simp [Staging.extended, ReceiveRun.goto, ReceiveRun.id]
      · simp [hcount]
      · exact Files.read_append_self hread
    have hstream : w.stream = (taken ++ chunk) ++ s.recv.wire.stream := by
      rw [hcons.stream, List.append_assoc]
    have hlength : done + chunk.length = (taken ++ chunk).length := by
      rw [hdone, List.length_append]
    unfold ReceiveRun.afterWrite
    -- the loop ends here if the announced size is reached
    by_cases hfull : s.recv.task.size ≠ unknownSize ∧ done + chunk.length ≥ s.recv.task.size
    · rw [if_pos hfull]
      refine ⟨taken ++ chunk, hstaged' _, ?_⟩
      have hexact : (taken ++ chunk).length = s.recv.task.size := by
        rw [List.length_append]
        omega
      show w.payload s.recv.task.size = _
      rw [Wire.payload, if_neg hfull.1, hstream, ← hexact, List.take_left, if_pos]
      simp
    · rw [if_neg hfull]
      refine ⟨taken ++ chunk, hlength, hstaged' _, ?_, hcons.ending, ?_, ?_⟩
      · exact hstream
      · rw [List.length_append]
        exact hfits
      · show s.recv.task.size = unknownSize ∨ _ ≤ s.recv.task.size
        rw [List.length_append]
        exact .inr hfits
  · -- only a stream of unknown size that is too long for any file gets here
    obtain ⟨e, he⟩ := own_write_overflow hphase ht (Nat.lt_of_not_le hfits)
    rw [he]
    rw [hfileSize, hcount] at hfits
    have hsize : s.recv.task.size = unknownSize := hcons.within.resolve_right hfits
    show w.payload s.recv.task.size = none
    rw [Wire.payload, if_pos hsize, if_neg]
    rintro ⟨-, hle⟩
    rw [hcons.stream, List.length_append, List.length_append] at hle
    omega

/-- A complete payload is moved to its destination. -/
theorem finish_atPhase (hphase : s.recv.phase = .finish)
    (hlocal : s.recv.task.saveTarget = .dir dir) (hsound : s.disk.staging.Sound)
    (hroom : s.disk.staging.HasRoom .none (.finishReceive s.recv.id)) (hstaged : s.Staged taken)
    (hpayload : w.payload s.recv.task.size = some taken) :
    (s.step .own).AtPhase w (s.step .own).recv.phase := by
  obtain ⟨t, ht, hinfo, hcount, hread⟩ := hstaged
  have hfile := hsound.present _ t ht
  have hfileSize : t.info.fileSize = s.recv.task.size := by rw [hinfo]; rfl
  -- a payload of known size has just that many bytes
  have hdone : Staging.Complete t := by
    rw [Staging.Complete, hfileSize, hcount]
    unfold Wire.payload at hpayload
    split at hpayload
    · exact .inl ‹_›
    · split at hpayload
      · cases hpayload
        rw [List.length_take]
        omega
      · cases hpayload
  rw [own_finish hphase hlocal ht hdone hfile]
  refine ⟨taken, hpayload, Files.read_rename_target hread, fun id t' ht' => ?_⟩
  -- the destination held no file, the staging files of others do
  have hne : id ≠ s.recv.id := by
    rintro rfl
    simp [Staging.moved] at ht'
  have hold : s.disk.staging.incoming.get id = some t' := by
    simpa [Staging.moved, hne] using ht'
  exact Files.ne_of_has (hsound.present id t' hold) (Staging.has_destination (hroom t ht))

theorem own_sound (h : s.disk.staging.Sound) (hcopy : ∀ path, s.recv.phase ≠ .copy path) :
    (s.step .own).disk.staging.Sound := by
  show s.own.2.1.staging.Sound
  rw [own, ReceiveRun.step_disk hcopy]
  cases s.recv.engineCall false with
  | none => exact h
  | some c => exact h.call .none c

theorem start_atPhase (hphase : s.recv.phase = .start) (hpayload : s.recv.task.payload.isSome)
    (hfree : s.Fair .own) (h : s.AtPhase w .start) :
    (s.step .own).AtPhase w (s.step .own).recv.phase := by
  rw [own_start hphase hpayload h.2 (hfree hphase)]
  refine ⟨[], rfl, ⟨s.disk.staging.freshEntry s.recv.info, ?_, rfl, rfl, ?_⟩, ?_, ?_, ?_, ?_⟩
  · simp [Staging.started, ReceiveRun.goto, ReceiveRun.id, ReceiveRun.info]
  · simp [Staging.started, Staging.freshEntry]
  · show w.stream = s.recv.wire.stream
    rw [h.1]
  · exact congrArg Wire.ending h.1
  · exact Nat.zero_le _
  · exact .inr (Nat.zero_le _)

variable {task : ReceiveTask}

theorem Inv.own_step (hpayload : task.payload.isSome) (hlocal : task.saveTarget = .dir dir)
    (h : s.Inv task w) (hfair : s.Fair .own) (hroom : s.Roomy .own) : (s.step .own).Inv task w := by
  obtain ⟨htask, hsound, hat⟩ := h
  -- with a local directory there is no copy phase
  have hcopy : ∀ path, s.recv.phase ≠ .copy path := by
    intro path hp
    rw [hp] at hat
    exact hat
  refine ⟨(ReceiveRun.step_goes _ _ _ _ _).task.trans htask, own_sound hsound hcopy, ?_⟩
  rw [← htask] at hpayload hlocal
  cases hp : s.recv.phase with
  | start => exact start_atPhase hp hpayload hfair (hp ▸ hat)
  | check done =>
    rw [hp] at hat
    obtain ⟨taken, rfl, hstaged, hcons⟩ := hat
    rw [own_check hp]
    by_cases hsize : s.recv.task.size = unknownSize
    · exact readNext_unknown hstaged hcons hsize
    · exact readNext_known hstaged hcons hsize
  | write done chunk =>
    rw [hp] at hat
    obtain ⟨taken, hdone, hstaged, hcons, -, hlen⟩ := hat
    exact write_atPhase hdone hp hsound hstaged hcons hlen
  | finish =>
    rw [hp] at hat
    obtain ⟨taken, hstaged, hpay⟩ := hat
    exact finish_atPhase hp hlocal hsound (hroom hp) hstaged hpay
  | copy path => exact absurd hp (hcopy path)
  | ended result =>
    have hsame : s.step .own = s := by simp [step, own, ReceiveRun.step, hp]
    rw [hsame]
    exact hat

/-- Calls for other transfers keep the invariant of this one. -/
theorem Inv.other_step (h : s.Inv task w) (hfair : s.Fair (.other c))
    (hroom : s.Roomy (.other c)) : (s.step (.other c)).Inv task w :=
  ⟨h.task, h.sound.call .none c, other_atPhase h.sound hfair hroom h.phase⟩

theorem start_inv (saveDir : String) (files : LocalFiles) (remote : Files String UInt8) :
    (start task w saveDir files remote).Inv task w :=
  ⟨rfl, Staging.idle_sound saveDir files, rfl, rfl⟩

end Shared

/-! ## Every receive ends -/

namespace ReceiveRun

/-- How many more steps a receive can take: each chunk costs two steps and uses
    up at least one byte of the stream. -/
def fuel (r : ReceiveRun) : Nat :=
  match r.phase with
  | .start => 2 * r.wire.stream.length + 4
  | .check _ => 2 * r.wire.stream.length + 3
  | .write _ _ => 2 * r.wire.stream.length + 4
  | .finish => 2
  | .copy _ => 1
  | .ended _ => 0

variable {r : ReceiveRun}

theorem ended_of_fuel (h : r.fuel = 0) : ∃ result, r.phase = .ended result := by
  unfold fuel at h
  split at h
  case h_6 result hp => exact ⟨result, hp⟩
  all_goals omega

theorem readNext_fuel (r : ReceiveRun) (done : Nat) :
    (r.readNext done).fuel ≤ 2 * r.wire.stream.length + 2 := by
  unfold readNext
  by_cases hsize : r.task.size = unknownSize
  · rw [if_pos hsize]
    by_cases hnil : r.wire.stream = []
    · rcases Wire.readSome_none chunkSize hnil with ⟨-, w', hread⟩ | ⟨-, e, w', hread⟩
      · simp [hread, fuel]
      · simp [hread, fuel]
    · obtain ⟨chunk, w', hread, hne, -, hsplit, -⟩ :=
        Wire.readSome_some (show 0 < chunkSize by decide) hnil
      -- the chunk has at least one byte, and the stream got shorter by it
      obtain ⟨b, rest, rfl⟩ := List.exists_cons_of_ne_nil hne
      rw [hread, hsplit]
      simp [fuel]
      omega
  · rw [if_neg hsize]
    by_cases hzero : min chunkSize (r.task.size - done) = 0
    · simp [hzero, fuel, goto]
    · simp only [if_neg hzero]
      by_cases henough : min chunkSize (r.task.size - done) ≤ r.wire.stream.length
      · -- `want` bytes are gone from the stream, and `want` is not 0
        obtain ⟨w', hread, hrest, -⟩ := Wire.readBytes_ok henough
        simp only [hread, fuel, hrest, List.length_drop]
        omega
      · obtain ⟨e, w', hread⟩ := Wire.readBytes_short (Nat.lt_of_not_le henough)
        simp [hread, fuel]

/-- Every step uses fuel, whatever fails. -/
theorem Goes.fuel {r' : ReceiveRun} {events : List Event} (h : Goes r r' events) :
    r'.fuel ≤ r.fuel - 1 := by
  cases h with
  | fails hp => simp [ReceiveRun.fuel, goto]
  | begins hp => simp [ReceiveRun.fuel, goto, hp]
  | skips hp => simp [ReceiveRun.fuel, goto, hp]
  | @reads done hp =>
    have hfuel : r.fuel - 1 = 2 * r.wire.stream.length + 2 := by simp [ReceiveRun.fuel, hp]
    rw [hfuel]
    exact r.readNext_fuel done
  | writes hp =>
    unfold afterWrite
    split <;> simp [ReceiveRun.fuel, goto, hp]
  | hands hp => simp [ReceiveRun.fuel, goto, hp]
  | stores hp => simp [ReceiveRun.fuel, goto]
  | rests hp => simp [ReceiveRun.fuel, hp]

end ReceiveRun

/-! ## What a receive stores -/

namespace Shared

variable {s : Shared} {w : Wire} {task : ReceiveTask} {path dir : String}

def isOwn : SharedMove → Bool
  | .own => true
  | .other _ => false

/-- Each own turn uses up fuel, so there are only so many. -/
theorem fuel_run (s : Shared) (moves : List SharedMove) :
    (run step s moves).recv.fuel ≤ s.recv.fuel - moves.countP isOwn := by
  induction moves generalizing s with
  | nil => exact Nat.le_refl _
  | cons a rest ih =>
    rw [run_cons]
    refine (ih _).trans ?_
    cases a with
    | own =>
      have hstep : (s.step .own).recv.fuel ≤ s.recv.fuel - 1 :=
        (s.recv.step_goes false .none .none s.disk).fuel
      rw [List.countP_cons_of_pos (by rfl)]
      omega
    | other c =>
      rw [List.countP_cons_of_neg (by simp [isOwn])]
      exact Nat.le_refl _

/-- What is expected of a receive of the stream `w`. -/
structure Correct (w : Wire) (s : Shared) : Prop where
  no_underflow : ∀ done, s.recv.phase = .check done → s.recv.task.size ≠ unknownSize →
    done ≤ s.recv.task.size
  chunked : ∀ done chunk, s.recv.phase = .write done chunk → chunk.length ≤ chunkSize
  known : s.recv.task.size ≠ unknownSize → ∀ result, s.recv.phase = .ended result →
    ((∃ path, result = .ok path) ↔ s.recv.task.size ≤ w.stream.length)
  stored_known : s.recv.task.size ≠ unknownSize → ∀ path, s.recv.phase = .ended (.ok path) →
    s.disk.staging.files.read path = some (w.stream.take s.recv.task.size)
  unknown : s.recv.task.size = unknownSize → ∀ result, s.recv.phase = .ended result →
    ((∃ path, result = .ok path) ↔ w.ending = .eof ∧ w.stream.length ≤ unknownSize)
  stored_unknown : s.recv.task.size = unknownSize → ∀ path, s.recv.phase = .ended (.ok path) →
    s.disk.staging.files.read path = some w.stream

theorem payload_known {size : Nat} (h : size ≠ unknownSize) :
    w.payload size = if size ≤ w.stream.length then some (w.stream.take size) else none := by
  rw [Wire.payload, if_neg h]

theorem payload_unknown :
    w.payload unknownSize =
      if w.ending = .eof ∧ w.stream.length ≤ unknownSize then some w.stream else none := by
  rw [Wire.payload, if_pos rfl]

/-- A receive that has ended succeeded just if there is a payload. -/
theorem Inv.ok_iff (h : s.Inv task w) {result : Result String}
    (hp : s.recv.phase = .ended result) :
    (∃ path, result = .ok path) ↔ (w.payload s.recv.task.size).isSome := by
  have hat := h.phase
  rw [hp] at hat
  cases result with
  | error e =>
    rw [show w.payload s.recv.task.size = none from hat]
    simp
  | ok path =>
    obtain ⟨bytes, hpayload, -⟩ := hat
    simp [hpayload]

/-- The stored file holds the payload. -/
theorem Inv.stored (h : s.Inv task w) (hp : s.recv.phase = .ended (.ok path)) :
    s.disk.staging.files.read path = w.payload s.recv.task.size := by
  have hat := h.phase
  rw [hp] at hat
  obtain ⟨bytes, hpayload, hread, -⟩ := hat
  rw [hread, hpayload]

/-- The promise follows from the invariant. -/
theorem Inv.correct (h : s.Inv task w) : s.Correct w where
  no_underflow := by
    intro done hp _
    have hat := h.phase
    rw [hp] at hat
    obtain ⟨taken, rfl, -, hcons⟩ := hat
    exact hcons.counted
  chunked := by
    intro done chunk hp
    have hat := h.phase
    rw [hp] at hat
    obtain ⟨taken, -, -, -, -, hlen⟩ := hat
    exact hlen
  known := by
    intro hsize result hp
    rw [h.ok_iff hp, payload_known hsize]
    split <;> simp_all
  stored_known := by
    intro hsize path hp
    -- a stored file has passed the check of its size
    have hok := (h.ok_iff hp).mp ⟨path, rfl⟩
    rw [h.stored hp]
    rw [payload_known hsize] at hok ⊢
    split at hok
    · exact if_pos ‹_›
    · cases hok
  unknown := by
    intro hsize result hp
    rw [h.ok_iff hp, hsize, payload_unknown]
    split <;> simp_all
  stored_unknown := by
    intro hsize path hp
    have hok := (h.ok_iff hp).mp ⟨path, rfl⟩
    rw [h.stored hp]
    rw [hsize, payload_unknown] at hok ⊢
    split at hok
    · exact if_pos ‹_›
    · cases hok

/-- In every run in which each finish finds a free name, a receive over a data
    connection into a local directory stores what it should, however the stream
    is split and whatever other receives do in between; and it ends after at
    most `2 * n + 4` steps of its own, `n` being the length of the stream. -/
theorem receives_payload (task : ReceiveTask) (wire : Wire) (saveDir : String)
    (files : LocalFiles) (remote : Files String UInt8) (moves : List SharedMove)
    (hpayload : task.payload.isSome) (hlocal : task.saveTarget = .dir saveDir)
    (hfair : AllSteps step Fair (start task wire saveDir files remote) moves)
    (hroom : AllSteps step Roomy (start task wire saveDir files remote) moves) :
    AllStates step (Correct wire) (start task wire saveDir files remote) moves ∧
      (2 * wire.stream.length + 4 ≤ moves.countP isOwn →
        ∃ result, (run step (start task wire saveDir files remote) moves).recv.phase =
          .ended result) := by
  constructor
  · have hinv : AllStates step (Inv task wire) (start task wire saveDir files remote) moves := by
      refine allStates_of_invariant (start_inv saveDir files remote) ?_ (hfair.and hroom)
      intro s a hs ha
      cases a with
      | own => exact hs.own_step hpayload hlocal ha.1 ha.2
      | other c => exact hs.other_step ha.1 ha.2
    exact hinv.mono fun s hs => hs.correct
  · intro henough
    apply ReceiveRun.ended_of_fuel
    have hfuel := fuel_run (start task wire saveDir files remote) moves
    have hstart : (start task wire saveDir files remote).recv.fuel =
        2 * wire.stream.length + 4 := rfl
    omega

/-- A directory with every numbered copy of `a.handfast-part`: all paths that begin
    like one and are no longer than the longest. -/
def crowd : LocalFiles :=
  ⟨fun path => if path.toList.take 6 = "/d/a (".toList ∧ path.length ≤ 25 then some [] else none⟩

theorem numberedName_part (n : Nat) :
    joinPath "/d" (numberedName "a.handfast-part" n) =
      "/d/a (" ++ (toString n ++ ").handfast-part") := by
  have hsplit : splitExtension "a.handfast-part" = ("a", some "handfast-part") := by decide
  have hlast : "/d".toList.getLast? = some 'd' := by decide
  simp only [joinPath, hlast, numberedName, hsplit]
  have htext : ∀ text : String, toString text = text := fun _ => rfl
  apply String.toList_injective
  simp [htext]

theorem crowd_has {n : Nat} (hn : n < maxNameCollisions) :
    crowd.has (joinPath "/d" (numberedName "a.handfast-part" n)) = true := by
  rw [numberedName_part]
  have hlen : (toString n).length ≤ 4 := by
    rw [Nat.toString_eq_ofList_toDigits, String.length_ofList]
    exact (Nat.length_toDigits_le_iff (by decide) (by decide)).mpr hn
  have hprefix : ("/d/a (" ++ (toString n ++ ").handfast-part")).toList.take 6 =
      "/d/a (".toList := by
    rw [String.toList_append]
    exact List.take_left' (by decide)
  have hshort : ("/d/a (" ++ (toString n ++ ").handfast-part")).length ≤ 25 := by
    rw [String.length_append, String.length_append]
    have h1 : "/d/a (".length = 6 := by decide
    have h2 : ").handfast-part".length = 15 := by decide
    omega
  simp only [crowd, Files.has, hprefix, hshort, and_self, if_true]
  rfl

/-- A receive of one byte into `/d`. -/
def oneByteTask : ReceiveTask where
  transferId := "t1"
  deviceId := "phone"
  fileName := "a"
  size := 1
  payload := some (.uniform 1 1)
  saveTarget := .dir "/d"

/-- While its byte is staged, a file named like the staging file arrives. -/
def namedLikeStaging : List SharedMove :=
  [.own, .own, .own,
   .other (.startReceive
     { transferId := "t2", deviceId := "phone", fileName := "a.handfast-part", fileSize := 1 }),
   .other (.writeChunk "t2" [9])]

/-- The crowded directory when both receives are staged. -/
def bothStaged : Shared :=
  run step (start oneByteTask [.bytes [1]] "/d" crowd .empty) namedLikeStaging

theorem bothStaged_files : bothStaged.disk.staging.files =
    (((crowd.put "/d/a.handfast-part" []).append "/d/a.handfast-part" [1]).put
      "/d/a.handfast-part.handfast-part" []).append "/d/a.handfast-part.handfast-part" [9] := rfl

theorem bothStaged_full :
    ¬ HasFreeName (bothStaged.disk.staging.taken .none) "/d" "a.handfast-part" := by
  rintro (hfree | ⟨n, -, hn, hfree⟩)
  · revert hfree
    decide
  · -- neither staging file is one of the numbered copies
    have hthere := crowd_has hn
    have hne := Files.ne_of_has hthere (show crowd.has "/d/a.handfast-part" = false by decide)
    have hne' := Files.ne_of_has hthere
      (show crowd.has "/d/a.handfast-part.handfast-part" = false by decide)
    rw [Staging.taken, Bool.or_eq_false_iff, bothStaged_files, Files.has,
      Files.read_append_of_ne hne', Files.read_put, if_neg hne', Files.read_append_of_ne hne,
      Files.read_put, if_neg hne] at hfree
    exact absurd (hthere.symm.trans hfree.2) (by decide)

theorem freeDestination_plain {taken : String → Bool} {name : String}
    (h : taken (joinPath dir name) = false) :
    freeDestination taken dir name = joinPath dir name := by
  simp [freeDestination, h]

/-- If a file is named like our staging file and no other name is left for it, we
    store its bytes instead of ours. -/
theorem stores_other {t t' : IncomingTransfer} {id plain : String} (hphase : s.recv.phase = .finish)
    (hlocal : s.recv.task.saveTarget = .dir dir) (hdir : s.disk.staging.saveDir = dir)
    (hne : id ≠ s.recv.id) (ht : s.disk.staging.incoming.get s.recv.id = some t)
    (hdone : Staging.Complete t) (ht' : s.disk.staging.incoming.get id = some t')
    (hdone' : Staging.Complete t') (hbytes : s.disk.staging.files.read t'.partPath = some bytes)
    (hfull : ¬ HasFreeName (s.disk.staging.taken .none) dir t'.finalName)
    (hpath : joinPath dir t'.finalName = t.partPath) (hjoin : joinPath dir t.finalName = plain)
    (hplain : s.disk.staging.files.has plain = false)
    (hthere : s.disk.staging.files.has t.partPath = true) :
    ((s.step (.other (.finishReceive id))).step .own).recv =
        s.recv.goto (.ended (.ok plain)) ∧
      ((s.step (.other (.finishReceive id))).step .own).disk.staging.files.read plain =
        some bytes := by
  subst hdir
  -- the other finish moves its bytes over our staging file
  have hrecv : (s.step (.other (.finishReceive id))).recv = s.recv := rfl
  have hstaging : (s.step (.other (.finishReceive id))).disk.staging =
      s.disk.staging.moved id t' t.partPath := by
    rw [← hpath, ← Staging.finishReceive_overwrites ht' hdone' hbytes hfull]
    rfl
  generalize s.step (.other (.finishReceive id)) = s' at hrecv hstaging ⊢
  -- our staging file now holds the other bytes, and our plain name is still free
  have hread : s'.disk.staging.files.read t.partPath = some bytes := by
    rw [hstaging]
    exact Files.read_rename_target hbytes
  have hentry : s'.disk.staging.incoming.get s'.recv.id = some t := by
    rw [hstaging, hrecv]
    simp [Staging.moved, Ne.symm hne, ht]
  have hfree : s'.disk.staging.files.has plain = false := by
    have hfile : s.disk.staging.files.has t'.partPath = true := Files.has_eq_true.mpr ⟨_, hbytes⟩
    rw [hstaging, Files.has, Staging.moved,
      Files.read_rename_of_ne (Files.ne_of_has hfile hplain).symm
        (Files.ne_of_has hthere hplain).symm]
    exact hplain
  have hdest : s'.disk.staging.destination .none t.finalName = plain := by
    have hdir : s'.disk.staging.saveDir = s.disk.staging.saveDir := by rw [hstaging]; rfl
    rw [Staging.destination, hdir, ← hjoin]
    exact freeDestination_plain (by rw [Staging.taken, hjoin, hfree]; rfl)
  rw [own_finish (hrecv ▸ hphase) (hrecv ▸ hlocal) hentry hdone
    (Files.has_eq_true.mpr ⟨bytes, hread⟩), hdest, hrecv]
  exact ⟨rfl, Files.read_rename_target hread⟩

theorem bothStaged_stores :
    ((bothStaged.step (.other (.finishReceive "t2"))).step .own).recv =
        bothStaged.recv.goto (.ended (.ok "/d/a")) ∧
      ((bothStaged.step (.other (.finishReceive "t2"))).step .own).disk.staging.files.read
        "/d/a" = some [9] := by
  have hours : bothStaged.disk.staging.incoming.get bothStaged.recv.id = some
      { info := { transferId := "t1", deviceId := "phone", fileName := "a", fileSize := 1 }
        finalName := "a", partPath := "/d/a.handfast-part", received := 1 } := by decide
  have htheirs : bothStaged.disk.staging.incoming.get "t2" = some
      { info := { transferId := "t2", deviceId := "phone", fileName := "a.handfast-part"
                  fileSize := 1 }
        finalName := "a.handfast-part", partPath := "/d/a.handfast-part.handfast-part"
        received := 1 } := by decide
  have hbytes : bothStaged.disk.staging.files.read "/d/a.handfast-part.handfast-part" =
      some [9] := by decide
  exact stores_other rfl rfl rfl (by decide) hours (.inr rfl) htheirs (.inr rfl) hbytes
    bothStaged_full (by decide) (by decide) (by decide) (by decide)

/-- A receive of known size that stored other bytes. -/
theorem not_correct {r : ReceiveRun} (hrecv : s.recv = r) (hphase : r.phase = .ended (.ok path))
    (hread : s.disk.staging.files.read path = some bytes) (hsize : r.task.size ≠ unknownSize)
    (hdiff : bytes ≠ w.stream.take r.task.size) : ¬ s.Correct w := by
  subst hrecv
  intro hcorrect
  exact hdiff (Option.some.inj (hread.symm.trans (hcorrect.stored_known hsize path hphase)))

theorem namedLikeStaging_wrong :
    AllSteps step Fair (start oneByteTask [.bytes [1]] "/d" crowd .empty)
      (namedLikeStaging ++ [.other (.finishReceive "t2"), .own]) ∧
    ¬ AllStates step (Correct [.bytes [1]]) (start oneByteTask [.bytes [1]] "/d" crowd .empty)
      (namedLikeStaging ++ [.other (.finishReceive "t2"), .own]) := by
  obtain ⟨hrecv, hread⟩ := bothStaged_stores
  constructor
  · rw [allSteps_append]
    exact ⟨by decide, by decide⟩
  · intro hall
    have hrun := hall.last
    rw [run_append, run_cons, run_cons, run_nil, ← bothStaged] at hrun
    have hsize : (bothStaged.recv.goto (.ended (.ok "/d/a"))).task.size = 1 := rfl
    have hwrong : ¬ Correct [.bytes [1]]
        ((bothStaged.step (.other (.finishReceive "t2"))).step .own) :=
      not_correct hrecv rfl hread (by rw [hsize]; decide) (by rw [hsize]; decide)
    exact hwrong hrun

def threeByteTask : ReceiveTask := { oneByteTask with size := 3 }

/-- Its bytes come in two parts, and another receive runs between its steps. -/
def besideAnother : List SharedMove :=
  [.own, .other (.startReceive
     { transferId := "t2", deviceId := "phone", fileName := "b", fileSize := 1 }),
   .own, .other (.writeChunk "t2" [9]), .own, .other (.finishReceive "t2")] ++
  List.replicate 7 .own

theorem receives_payload_split :
    let wire : Wire := [.bytes [1], .bytes [2, 3]]
    AllStates step (Correct wire) (start threeByteTask wire "/d" .empty .empty) besideAnother ∧
      ∃ result, (run step (start threeByteTask wire "/d" .empty .empty)
        besideAnother).recv.phase = .ended result := by
  have hreceives := receives_payload threeByteTask [.bytes [1], .bytes [2, 3]] "/d" .empty .empty
    besideAnother (by decide) rfl (by decide) (by decide)
  exact ⟨hreceives.1, hreceives.2 (by decide)⟩

end Shared

end Handfast.Daemon
