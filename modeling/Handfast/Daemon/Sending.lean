/-
  Handfast.Daemon.Sending

  What a send puts on the data connection.  The loop of `stream_outgoing` ends
  well in two ways: a read reports the end of the file, or the count has reached
  the announced size.  Neither asks whether the count is the announced size, so
  a send of a file that changes after it was announced can report success with
  too few or too many bytes.
-/
import Handfast.Daemon.Streams

namespace Handfast.Daemon

open Handfast.Lib Handfast.Protocol Handfast.Core

def SendTick.bytes (tick : SendTick) : Bytes :=
  match tick.read with
  | .ok chunk => chunk.val
  | .error _ => []

namespace SendRun

/-- What a send meets in one step: its cancel flag and the rest. -/
abbrev Input := Bool × SendTick

def next (r : SendRun) (a : Input) : SendRun := (r.step a.1 a.2).1

/-- What the reads of a list of steps return, one after another. -/
def offered (inputs : List Input) : Bytes := inputs.flatMap fun a => a.2.bytes

variable {r : SendRun} {tick : SendTick} {cancelled : Bool} {inputs : List Input}
  {result : Result Unit} {msg : String} {transport : Transport} {chunk bytes : Bytes} {b : UInt8}
  {n : Nat}

/-! ## One turn of the loop -/

@[simp] theorem close_phase (result : Result Unit) :
    (r.close result).1.phase = .ended result := rfl

theorem next_ended (h : r.phase = .ended result) (a : Input) :
    r.next a = r := by
  simp [next, step, h]

/-- An ended send stays as it is. -/
theorem run_ended (h : r.phase = .ended result) :
    run next r inputs = r := by
  induction inputs with
  | nil => rfl
  | cons a rest ih => rw [run_cons, next_ended h, ih]

theorem next_accept_error (h : r.phase = .accept) (haccept : tick.accept = .error msg) :
    r.next (cancelled, tick) = (r.close (.error (.other msg))).1 := by
  simp [next, step, h, haccept]

theorem next_accept_openError (h : r.phase = .accept) (haccept : tick.accept = .ok transport)
    (hopen : tick.openFile = some msg) :
    r.next (cancelled, tick) =
      ({ r with peer := some transport }.close (.error (.io msg))).1 := by
  simp [next, step, h, haccept, hopen]

/-- Whoever completed the handshake is the peer. -/
theorem next_accept_ok (h : r.phase = .accept) (haccept : tick.accept = .ok transport)
    (hopen : tick.openFile = none) :
    r.next (cancelled, tick) = { r with peer := some transport, phase := .pump } := by
  simp [next, step, h, haccept, hopen]

theorem next_pump_cancelled (h : r.phase = .pump) :
    r.next (true, tick) = (r.close (.error cancelledError)).1 := by
  simp [next, step, h]

theorem next_pump_readError (h : r.phase = .pump) (hread : tick.read = .error msg) :
    r.next (false, tick) = (r.close (.error (.io msg))).1 := by
  simp [next, step, h, hread]

/-- The end of the file ends the task well, whatever the count is. -/
theorem next_pump_eof (h : r.phase = .pump) {hfit : ([] : Bytes).length ≤ payloadChunkSize}
    (hread : tick.read = .ok ⟨[], hfit⟩) :
    r.next (false, tick) = (r.close (.ok ())).1 := by
  simp [next, step, h, hread]

theorem next_pump_writeError (h : r.phase = .pump) {hfit : (b :: chunk).length ≤ payloadChunkSize}
    (hread : tick.read = .ok ⟨b :: chunk, hfit⟩) {sent : Nat}
    (hwrite : tick.write = some (sent, msg)) :
    r.next (false, tick) =
      ({ r with written := r.written ++ (b :: chunk).take sent }.close (.error (.io msg))).1 := by
  simp [next, step, h, hread, hwrite]

/-- A chunk is counted, and ends the send once the size is reached. -/
theorem next_pump_wrote (h : r.phase = .pump) {hfit : (b :: chunk).length ≤ payloadChunkSize}
    (hread : tick.read = .ok ⟨b :: chunk, hfit⟩) (hwrite : tick.write = none) :
    r.next (false, tick) =
      if r.done + (b :: chunk).length ≥ r.task.size then ((r.wrote (b :: chunk)).close (.ok ())).1
      else r.wrote (b :: chunk) := by
  simp only [next, step, h, hread, hwrite, Bool.false_eq_true, if_false, wrote]
  split <;> rfl

/-- What a turn of the loop can do. -/
inductive Pumps (r : SendRun) (tick : SendTick) : SendRun → Prop where
  /-- It fails; a first part of what was read may have gone out. -/
  | fails {r' : SendRun} {e : Error} {part : Bytes} (hphase : r'.phase = .ended (.error e))
      (hwritten : r'.written = r.written ++ part) (hpart : part <+: tick.bytes) : Pumps r tick r'
  /-- The file is at its end, or the announced size is reached. -/
  | ends {r' : SendRun} (hphase : r'.phase = .ended (.ok ()))
      (hwritten : r'.written = r.written ++ tick.bytes) (hread : ∀ msg, tick.read ≠ .error msg)
      (hend : tick.bytes = [] ∨ r.task.size ≤ r.done + tick.bytes.length) : Pumps r tick r'
  | wrote (hne : tick.bytes ≠ []) (hless : r.done + tick.bytes.length < r.task.size) :
      Pumps r tick (r.wrote tick.bytes)

/-- What one turn of the pump does with what it reads. -/
theorem next_pumps (h : r.phase = .pump) (cancelled : Bool) (tick : SendTick) :
    Pumps r tick (r.next (cancelled, tick)) := by
  cases cancelled with
  | true =>
    rw [next_pump_cancelled h]
    exact .fails rfl (List.append_nil _).symm List.nil_prefix
  | false =>
    cases hread : tick.read with
    | error msg =>
      rw [next_pump_readError h hread]
      exact .fails rfl (List.append_nil _).symm List.nil_prefix
    | ok buf =>
      obtain ⟨chunk, hfit⟩ := buf
      have hbytes : tick.bytes = chunk := by rw [SendTick.bytes, hread]
      cases chunk with
      | nil =>
        rw [next_pump_eof h hread]
        exact .ends rfl (by rw [hbytes, List.append_nil]; rfl) (by simp [hread]) (.inl hbytes)
      | cons b chunk =>
        cases hwrite : tick.write with
        | some failure =>
          rw [next_pump_writeError h hread hwrite]
          exact .fails rfl rfl (hbytes ▸ List.take_prefix ..)
        | none =>
          rw [next_pump_wrote h hread hwrite, ← hbytes]
          -- the pump stops at the announced size
          split
          · exact .ends rfl rfl (by simp [hread]) (.inr ‹_›)
          · exact .wrote (by simp [hbytes]) (by omega)

/-! ## Whole sends -/

/-- The reads reach the size `n` exactly, from `done` bytes on: the file does not
    end before, and no read goes past it.  A turn that is cancelled or fails
    ends the send, and what the reads would bring then does not matter. -/
def ReachesSize (n : Nat) : Nat → List Input → Prop
  | _, [] => True
  | done, (cancelled, tick) :: rest =>
    cancelled = true ∨ (∃ msg, tick.read = .error msg) ∨
      tick.bytes ≠ [] ∧
        (tick.write.isSome = true ∨ done + tick.bytes.length = n ∨
          done + tick.bytes.length < n ∧ ReachesSize n (done + tick.bytes.length) rest)

/-- The same for a send that has not accepted its peer yet. -/
def MeetsSize (n : Nat) : List Input → Prop
  | [] => True
  | (_, tick) :: rest =>
    (∃ msg, tick.accept = .error msg) ∨ tick.openFile.isSome = true ∨ ReachesSize n 0 rest

/-- A chunk that is written completes the size or leaves a rest. -/
theorem reachesSize_wrote {done : Nat} {rest : List Input}
    {hfit : (b :: chunk).length ≤ payloadChunkSize} (hread : tick.read = .ok ⟨b :: chunk, hfit⟩)
    (hwrite : tick.write = none) :
    ReachesSize n done ((false, tick) :: rest) ↔
      done + (b :: chunk).length = n ∨
        done + (b :: chunk).length < n ∧ ReachesSize n (done + (b :: chunk).length) rest := by
  have hbytes : tick.bytes = b :: chunk := by rw [SendTick.bytes, hread]
  rw [ReachesSize, hbytes, hwrite, hread]
  simp

/-- If the task ended well, it wrote the first `n` of the bytes on offer. -/
def Exact (r : SendRun) (n : Nat) (bytes : Bytes) : Prop :=
  r.phase = .ended (.ok ()) → r.written.length = n ∧ r.written = bytes.take n

theorem exact_of_ended_error {e : Error} (h : r.phase = .ended (.error e)) : r.Exact n bytes := by
  intro hok
  rw [h] at hok
  cases hok

/-- A task that ends because the count has reached the size is exact if the last
    chunk did not go past it. -/
theorem exact_last {more : Bytes} (hdone : r.done = r.written.length) :
    ((r.wrote chunk).close (.ok ())).1.Exact n (r.written ++ (chunk ++ more)) ↔
      r.done + chunk.length = n := by
  have hlen : (r.wrote chunk).written.length = r.done + chunk.length := by
    simp [wrote, hdone]
  constructor
  · intro hex
    exact hlen.symm.trans (hex rfl).1
  · intro heq _
    refine ⟨hlen.trans heq, ?_⟩
    show r.written ++ chunk = _
    rw [← List.append_assoc, List.take_left' (by rw [← heq, ← hlen]; rfl)]

/-- **The loop.** From a turn with fewer than `n` bytes written, the send is
    exact just if the reads still to come reach the size. -/
theorem exact_iff_reachesSize (hsize : r.task.size = n) (hphase : r.phase = .pump)
    (hdone : r.done = r.written.length) (hlt : r.done < n) :
    (run next r inputs).Exact n (r.written ++ offered inputs) ↔ ReachesSize n r.done inputs := by
  induction inputs generalizing r with
  | nil =>
    refine iff_of_true (fun hok => ?_) trivial
    rw [run, List.foldl_nil, hphase] at hok
    cases hok
  | cons a rest ih =>
    obtain ⟨cancelled, tick⟩ := a
    rw [run_cons]
    cases cancelled with
    | true =>
      rw [next_pump_cancelled hphase, run_ended (close_phase _)]
      exact iff_of_true (exact_of_ended_error rfl) (.inl rfl)
    | false =>
      cases hread : tick.read with
      | error msg =>
        rw [next_pump_readError hphase hread, run_ended (close_phase _)]
        exact iff_of_true (exact_of_ended_error rfl) (.inr (.inl ⟨msg, hread⟩))
      | ok buf =>
        have hbytes : tick.bytes = buf.val := by rw [SendTick.bytes, hread]
        obtain ⟨chunk, hfit⟩ := buf
        cases chunk with
        | nil =>
          -- the file ended early, and the task reports success
          rw [next_pump_eof hphase hread, run_ended (close_phase _)]
          refine iff_of_false (fun hex => ?_) (by simp [ReachesSize, hbytes, hread])
          have hlen : r.written.length = n := (hex rfl).1
          omega
        | cons b chunk =>
          cases hwrite : tick.write with
          | some failure =>
            obtain ⟨sent, msg⟩ := failure
            rw [next_pump_writeError hphase hread hwrite, run_ended (close_phase _)]
            exact iff_of_true (exact_of_ended_error rfl)
              (by simp [ReachesSize, hbytes, hwrite])
          | none =>
            have hoffered : offered ((false, tick) :: rest) =
                (b :: chunk) ++ offered rest := by
              rw [offered, List.flatMap_cons, hbytes, offered]
            rw [next_pump_wrote hphase hread hwrite, reachesSize_wrote hread hwrite,
              hsize, hoffered]
            by_cases hge : r.done + (b :: chunk).length ≥ n
            · rw [if_pos hge, run_ended (close_phase _), exact_last hdone]
              exact ⟨.inl, fun h => h.resolve_right fun hlt => by omega⟩
            · have hnext : (run next (r.wrote (b :: chunk)) rest).Exact n
                  (r.written ++ (b :: chunk) ++ offered rest) ↔
                    ReachesSize n (r.done + (b :: chunk).length) rest :=
                ih hsize hphase (by simp [wrote, hdone]) (Nat.lt_of_not_le hge)
              rw [if_neg hge, ← List.append_assoc, hnext]
              exact ⟨fun h => .inr ⟨Nat.lt_of_not_le hge, h⟩,
                fun h => (h.resolve_left fun heq => hge heq.ge).2⟩

/-! ## What is reported -/

/-- What a send owes: success means that exactly the announced bytes went out,
    anything else is reported as a failure. -/
structure Honest (r : SendRun) (bytes : Bytes) : Prop where
  exact : r.Exact r.task.size bytes
  failed : r.phase ≠ .ended (.ok ()) → ∀ report, r.result = some report →
    ∀ (m : Manager) (env : Env), ∃ reason,
      (m.handle env (.transferOutcome r.id report)).2 =
        [.abort r.id, .publish (.transferFailed r.id reason)] ∧
      ∀ record, m.transfers.get r.id = some record →
        (m.handle env (.transferOutcome r.id report)).1.transfers.get r.id =
          some { record with state := .failed, reason := some reason }

/-- Every report but that of a finished send is an error. -/
theorem reported_failed (h : r.phase ≠ .ended (.ok ())) {report : Except String Unit}
    (hreport : r.result = some report) : ∃ reason, report = .error reason := by
  unfold result at hreport
  split at hreport
  · exact absurd ‹_› h
  · exact ⟨_, (Option.some.inj hreport).symm⟩
  · cases hreport

/-- A failure is always reported as one, so honesty is about success only. -/
theorem honest_iff_exact : r.Honest bytes ↔ r.Exact r.task.size bytes := by
  refine ⟨Honest.exact, fun hex => ⟨hex, fun hnot report hreport m env => ?_⟩⟩
  obtain ⟨reason, rfl⟩ := reported_failed hnot hreport
  refine ⟨reason, rfl, fun record hrecord => ?_⟩
  simp [Manager.handle, Manager.onTransferOutcome, Manager.settle, hrecord]

theorem run_task (r : SendRun) (inputs : List Input) : (run next r inputs).task = r.task := by
  induction inputs generalizing r with
  | nil => rfl
  | cons a rest ih =>
    rw [run_cons, ih]
    exact (r.step_wires a.1 a.2).task

/-- A send is honest in exactly the runs in which the file, as it is read, still
    has the announced size: it does not end earlier, and no read goes past it. -/
theorem sends_exactly_iff_meetsSize (task : SendTask) (hsize : 0 < task.size)
    (control : Option Fingerprint) (inputs : List Input) :
    (run next (new task control) inputs).Honest (offered inputs.tail) ↔
      MeetsSize task.size inputs := by
  rw [honest_iff_exact, run_task]
  cases inputs with
  | nil => exact iff_of_true (fun hok => by cases hok) trivial
  | cons a rest =>
    obtain ⟨cancelled, tick⟩ := a
    rw [run_cons, MeetsSize]
    cases haccept : tick.accept with
    | error msg =>
      rw [next_accept_error rfl haccept, run_ended (close_phase _)]
      exact iff_of_true (exact_of_ended_error rfl) (.inl ⟨msg, rfl⟩)
    | ok transport =>
      cases hopen : tick.openFile with
      | some msg =>
        rw [next_accept_openError rfl haccept hopen, run_ended (close_phase _)]
        exact iff_of_true (exact_of_ended_error rfl) (.inr (.inl rfl))
      | none =>
        rw [next_accept_ok rfl haccept hopen]
        refine (exact_iff_reachesSize rfl rfl rfl hsize).trans ?_
        simp [new]

/-- Three bytes are announced to `phone`. -/
def threeBytes : SendTask where
  transferId := "t1"
  deviceId := "phone"
  localPath := "/home/user/notes"
  cleanup := none
  size := 3
  port := 1739

/-- A step in which the phone has dialed, nothing fails and a read returns `chunk`. -/
def reads (chunk : { bytes : Bytes // bytes.length ≤ payloadChunkSize }) : Input :=
  (false,
   { accept := .ok (.uniform 1 7), openFile := none, read := .ok chunk, write := none })

/-- The file is truncated to one byte after it was announced. -/
def truncated : List Input :=
  [reads ⟨[], by decide⟩, reads ⟨[1], by decide⟩, reads ⟨[], by decide⟩]

theorem truncated_not_honest :
    ¬ (run next (new threeBytes none) truncated).Honest (offered truncated.tail) := by
  intro h
  have hlen : [(1 : UInt8)].length = 3 := (h.exact rfl).1
  cases hlen

/-- An unchanged file is sent as announced. -/
theorem sends_exactly_unchanged :
    (run next (new threeBytes none)
        [reads ⟨[], by decide⟩, reads ⟨[1, 2], by decide⟩, reads ⟨[3], by decide⟩]).Honest
      (offered [reads ⟨[1, 2], by decide⟩, reads ⟨[3], by decide⟩]) :=
  (sends_exactly_iff_meetsSize threeBytes (by decide) none _).mpr
    (.inr (.inr (.inr (.inr ⟨by decide, .inr (.inr ⟨by decide,
      .inr (.inr ⟨by decide, .inr (.inl rfl)⟩)⟩)⟩))))

/-- A file that has grown by one byte is sent with it. -/
example : (run next (new threeBytes none)
    [reads ⟨[], by decide⟩, reads ⟨[1, 2, 3, 4], by decide⟩]).written = [1, 2, 3, 4] := rfl

end SendRun
end Handfast.Daemon
