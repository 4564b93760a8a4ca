/-
  Handfast.Ipc.Report

  How a session learns that its connection is dead (`run_sessions` in
  `crates/gui/src/bridge.rs` over `crates/ipc/src/client.rs`).

  A session loop waits on the event channel and reconnects once the channel has
  ended.  The channel ends with the reader task, but the `dead` flag, which makes
  every later request fail, is also set by calls.  A call that sets it while the
  reader is still in its loop leaves a session that goes on waiting; a reader
  that is out of its loop is done after two more steps, puts nothing more into
  the channel, and the session leaves its loop once it has taken what is there
  (`reported_of_left`).
-/
import Handfast.Ipc.Client

namespace Handfast.Ipc

open Handfast.Lib

/-- The call is about to mark the connection dead. -/
def CallPhase.isFailing : CallPhase → Bool
  | failing _ => true
  | _ => false

/-! ## The reader -/

namespace ReaderPhase

/-- Steps of the reader until its task is over, once it is out of its loop. -/
def ahead : ReaderPhase → Nat
  | reading => 3
  | leaving => 2
  | draining => 1
  | gone => 0

end ReaderPhase

namespace Client

variable {refused : Nat → Option Error} {s : Client}

/-- What the reader task does at its next turn. -/
def readerMove (s : Client) : Move :=
  match s.reader with
  | .reading | .gone => .read
  | .leaving => .readerStore
  | .draining => .readerDrain

/-- What a move does to the reader and the event channel. -/
structure Leaves (s t : Client) : Prop where
  left : t.reader ≠ .reading
  events : t.events = s.events
  reader : t.reader = s.reader ∨ t.reader.ahead < s.reader.ahead

/-- Out of its loop, the reader only goes on to its end, and no event is read. -/
theorem step_leaves (hleft : s.reader ≠ .reading) (m : Move) : Leaves s (s.step refused m) := by
  cases m with
  | read =>
    simp only [step]
    split
    · exact absurd ‹_› hleft
    · exact absurd ‹_› hleft
    · exact ⟨hleft, rfl, .inl rfl⟩
  | leave =>
    simp only [step, hleft, if_false]
    exact ⟨hleft, rfl, .inl rfl⟩
  | readerStore =>
    simp only [step]
    split
    · rename_i hreader
      exact ⟨by simp, rfl, .inr (by simp [hreader, ReaderPhase.ahead])⟩
    · exact ⟨hleft, rfl, .inl rfl⟩
  | readerDrain =>
    simp only [step]
    split
    · rename_i hreader
      exact ⟨by simp [drainPending], rfl,
        .inr (by simp [hreader, ReaderPhase.ahead, drainPending])⟩
    · exact ⟨hleft, rfl, .inl rfl⟩
  | load c | acquire c | push c | write c failure | unlock c | reload c | receive c | timeout c
  | store c | drain c | answer | publish e =>
    -- calls and server touch neither
    simp only [step]
    repeat' split
    all_goals exact ⟨hleft, rfl, .inl rfl⟩

theorem run_leaves (hleft : s.reader ≠ .reading) (moves : List Move) :
    (run (step refused) s moves).events = s.events := by
  induction moves generalizing s with
  | nil => rfl
  | cons m moves ih =>
    have hstep : Leaves s (s.step refused m) := step_leaves hleft m
    exact (ih hstep.left).trans hstep.events

/-- Its next turn brings a reader that is out of its loop nearer to its end. -/
theorem readerMove_nearer (hleft : s.reader ≠ .reading) (hgone : s.reader ≠ .gone) :
    (s.step refused s.readerMove).reader.ahead < s.reader.ahead := by
  cases hreader : s.reader with
  | reading => exact absurd hreader hleft
  | leaving => simp [readerMove, step, hreader, ReaderPhase.ahead]
  | draining => simp [readerMove, step, hreader, ReaderPhase.ahead, drainPending]
  | gone => exact absurd hreader hgone

/-- A call that is about to mark the connection dead finds the reader out of its
    loop. -/
def Timely (s : Client) : Move → Prop
  | .store c => (s.phase c).isFailing = true → s.reader ≠ .reading
  | _ => True

instance (s : Client) : (m : Move) → Decidable (Timely s m)
  | .store c => inferInstanceAs (Decidable ((s.phase c).isFailing = true → s.reader ≠ .reading))
  | .load _ | .acquire _ | .push _ | .write _ _ | .unlock _ | .reload _ | .receive _
  | .timeout _ | .drain _ | .answer | .publish _ | .read | .leave | .readerStore
  | .readerDrain => .isTrue trivial

end Client

/-! ## The session loop -/

/-- A session on a connection: how many events it has taken from the channel, and
    whether it is still in its loop. -/
structure EventLoop where
  client : Client
  taken : Nat
  inLoop : Bool

namespace EventLoop

/-- A turn of the reader or of the session, or anything else that happens on the
    connection. -/
inductive Turn where
  | move (m : Client.Move)
  | reader
  | session

inductive Party where
  | reader
  | session

def Turn.party : Turn → Option Party
  | move _ => none
  | reader => some .reader
  | session => some .session

/-- `events.recv()`: the next event, the end of the channel, or nothing yet. -/
def recv (w : EventLoop) : EventLoop :=
  if w.inLoop = false then w
  else if w.taken < w.client.events.length then { w with taken := w.taken + 1 }
  else if w.client.reader = .gone then { w with inLoop := false }
  else w

def step (refused : Nat → Option Error) (w : EventLoop) : Turn → EventLoop
  | .move m => { w with client := w.client.step refused m }
  | .reader => { w with client := w.client.step refused w.client.readerMove }
  | .session => w.recv

variable {refused : Nat → Option Error} {w : EventLoop}

/-- What is left to do until the session is out of its loop. -/
def work (w : EventLoop) : Nat :=
  w.client.reader.ahead + (w.client.events.length - w.taken) + w.inLoop.toNat

def Ready (w : EventLoop) : Party → Prop
  | .reader => w.client.reader ≠ .gone
  | .session => w.inLoop = true ∧ (w.taken < w.client.events.length ∨ w.client.reader = .gone)

theorem recv_work (h : w.Ready .session) : w.recv.work < w.work := by
  obtain ⟨hloop, hnext⟩ := h
  by_cases htaken : w.taken < w.client.events.length
  · simp only [recv, hloop, htaken, work, if_true, Bool.true_eq_false, if_false]
    omega
  · have hgone := hnext.resolve_left htaken
    simp [recv, hloop, htaken, hgone, work]

theorem recv_of_not_ready (h : ¬ w.Ready .session) : w.recv = w := by
  simp only [Ready, not_and_or, not_or] at h
  unfold recv
  rcases h with hloop | ⟨htaken, hgone⟩
  · rw [if_pos (by simpa using hloop)]
  · rw [if_neg htaken, if_neg hgone, ite_self]

/-- A move of the client that leaves the reader where it is changes nothing for
    the session. -/
theorem client_work {t : Client} (h : Client.Leaves w.client t) :
    work { w with client := t } < w.work ∨ (work { w with client := t } = w.work ∧
      ∀ p, w.Ready p → Ready { w with client := t } p) := by
  rcases h.reader with hsame | hnearer
  · refine .inr ⟨by simp [work, hsame, h.events], fun p hp => ?_⟩
    cases p with
    | reader => simpa [Ready, hsame] using hp
    | session => simpa [Ready, hsame, h.events] using hp
  · refine .inl ?_
    simp only [work, h.events]
    omega

theorem step_work (hleft : w.client.reader ≠ .reading) (a : Turn) :
    (w.step refused a).work < w.work ∨ ((w.step refused a).work = w.work ∧
      ∀ p, w.Ready p → (w.step refused a).Ready p) := by
  cases a with
  | move m => exact client_work (Client.step_leaves hleft m)
  | reader => exact client_work (Client.step_leaves hleft _)
  | session =>
    by_cases hready : w.Ready .session
    · exact .inl (recv_work hready)
    · have hsame : w.step refused .session = w := recv_of_not_ready hready
      rw [hsame]
      exact .inr ⟨rfl, fun _ hp => hp⟩

/-- A reader that has left its loop does not come back. -/
theorem step_left (hleft : w.client.reader ≠ .reading) (a : Turn) :
    (w.step refused a).client.reader ≠ .reading := by
  cases a with
  | move m => exact (Client.step_leaves hleft m).left
  | reader => exact (Client.step_leaves hleft _).left
  | session =>
    simp only [step, recv]
    repeat' split
    all_goals exact hleft

theorem step_out (hout : w.inLoop = false) (a : Turn) : (w.step refused a).inLoop = false := by
  cases a with
  | move m => exact hout
  | reader => exact hout
  | session => simp [step, recv, hout]

/-- Once the reader is out of its loop, the session leaves its own. -/
theorem leaves_loop (hleft : w.client.reader ≠ .reading) {schedule : Nat → Turn}
    (hfair : FairTo Turn.party schedule) :
    ∃ k, ∀ j, k ≤ j → (after (step refused) w schedule j).inLoop = false := by
  obtain ⟨k, hk⟩ : ∃ k, (after (step refused) w schedule k).inLoop = false := by
    refine fairTo_ends work Ready (fun w => w.client.reader ≠ .reading)
      (fun w => w.inLoop = false) hleft (fun w a h => step_left h a)
      (fun w a h => step_work h a) ?_ ?_ hfair
    · intro w a p h hp hready
      cases a with
      | move m => cases hp
      | reader =>
        cases hp
        have hnearer : (w.client.step refused w.client.readerMove).reader.ahead <
            w.client.reader.ahead := Client.readerMove_nearer h hready
        have hsame : (w.client.step refused w.client.readerMove).events = w.client.events :=
          (Client.step_leaves h _).events
        simp only [step, work, hsame]
        omega
      | session =>
        cases hp
        exact recv_work hready
    -- until the reader is gone it can move, and then the channel is closed
    · intro w _ hin
      by_cases hgone : w.client.reader = .gone
      · exact ⟨.session, by simpa using hin, .inr hgone⟩
      · exact ⟨.reader, hgone⟩
  have hout : ∀ (w : EventLoop) a, w.inLoop = false → (w.step refused a).inLoop = false :=
    fun w a h => step_out h a
  exact ⟨k, fun j hkj => after_stable hout hkj hk⟩

end EventLoop

/-! ## Dead connections -/

namespace Client

variable {refused : Nat → Option Error} {s : Client}

/-- The channel delivers at most the events that were read by now, and every
    session that waits on it leaves its loop. -/
structure Reported (refused : Nat → Option Error) (s : Client) : Prop where
  events : ∀ moves, (run (step refused) s moves).events = s.events
  session : ∀ taken schedule, FairTo EventLoop.Turn.party schedule →
    ∃ k, ∀ j, k ≤ j → (after (EventLoop.step refused) ⟨s, taken, true⟩ schedule j).inLoop = false

theorem reported_of_left (hleft : s.reader ≠ .reading) : Reported refused s where
  events := run_leaves hleft
  session := fun _ _ hfair => EventLoop.leaves_loop hleft hfair

/-- A dead connection has no reader in its loop, as long as calls are timely. -/
theorem step_dead_left (h : s.dead = true → s.reader ≠ .reading) {m : Move} (hm : Timely s m) :
    (s.step refused m).dead = true → (s.step refused m).reader ≠ .reading := by
  by_cases hleft : s.reader = .reading
  · have halive : s.dead = false := by
      by_contra hdead
      exact h (by simpa using hdead) hleft
    intro hdead
    cases m with
    | store c =>
      simp only [step] at hdead ⊢
      split at hdead
      · rename_i e hphase
        exact absurd hleft (hm (by simp [hphase, CallPhase.isFailing]))
      · simp [halive] at hdead
    | leave => simp [step, hleft]
    | read =>
      simp only [step] at hdead
      repeat' split at hdead
      all_goals simp [halive] at hdead
    | load c | acquire c | push c | write c failure | unlock c | reload c | receive c | timeout c
    | drain c | answer | publish e =>
      -- the flag is as it was
      simp only [step] at hdead
      repeat' split at hdead
      all_goals simp [halive, goto, drainPending] at hdead
    | readerStore => simp [step, hleft, halive] at hdead
    | readerDrain => simp [step, hleft, halive] at hdead
  · exact fun _ => (step_leaves hleft m).left

/-- **Dead connections are reported.** In every run of a connection in which calls
    mark it dead only behind a reader that is out of its loop: whenever the flag is
    set, no event is put into the channel any more, and every session waiting on
    the channel leaves its loop, if reader and session have their turns. -/
theorem dead_connection_reported (toVec : Request → Except String Bytes) (request : Nat → Request)
    (moves : List Move) (h : AllSteps (step (refusal toVec request)) Timely start moves) :
    AllStates (step (refusal toVec request))
      (fun s => s.dead = true → Reported (refusal toVec request) s) start moves := by
  have hstart : start.dead = true → start.reader ≠ .reading := nofun
  have hleft : AllStates (step (refusal toVec request))
      (fun s => s.dead = true → s.reader ≠ .reading) start moves :=
    allStates_of_invariant hstart (fun _ _ hs hm => step_dead_left hs hm) h
  exact hleft.mono fun s hs hdead => reported_of_left (hs hdead)

/-- A frame does not decode while a ping is under way: the reader leaves its loop,
    and the ping times out. -/
theorem dead_connection_reported_timeout :
    Reported (refusal plainJson bigClipboard) (run (step (refusal plainJson bigClipboard)) start
      (enters 1 ++ [.reload 1, .leave, .timeout 1, .store 1])) := by
  refine (dead_connection_reported plainJson bigClipboard
    (enters 1 ++ [.reload 1, .leave, .timeout 1, .store 1]) ?_).last ?_
  · rw [refusal_bigClipboard]
    decide
  · rw [refusal_bigClipboard]
    decide

def byTurns (k : Nat) : EventLoop.Turn := if k % 2 = 0 then .reader else .session

theorem byTurns_fair : FairTo EventLoop.Turn.party byTurns := by
  intro p k
  cases p with
  | reader => exact ⟨2 * k, by omega, by simp [byTurns, EventLoop.Turn.party]⟩
  | session => exact ⟨2 * k + 1, by omega, by simp [byTurns, EventLoop.Turn.party]⟩

/-- A reader with nothing to read and a session that has taken all events wait on. -/
theorem waits_forever (hreading : s.reader = .reading) (hin : s.inbound = []) (j : Nat) :
    after (EventLoop.step refused) ⟨s, s.events.length, true⟩ byTurns j =
      ⟨s, s.events.length, true⟩ := by
  induction j with
  | zero => rfl
  | succ j ih =>
    rw [after_succ, ih, byTurns]
    split
    · simp [EventLoop.step, readerMove, step, hreading, hin]
    · simp [EventLoop.step, EventLoop.recv, hreading]

/-- A request that `write_frame` refuses marks the connection dead: the next ping
    fails, an event that comes later is still delivered, and a session that waits
    for one never leaves its loop. -/
theorem refused_request_unreported :
    let s := run (step (refusal plainJson bigClipboard)) start (enters 0 ++ [.store 0, .drain 0])
    s.dead = true ∧
    (s.step (refusal plainJson bigClipboard) (.load 1)).phase 1 = .returned (.error .closed) ∧
    (run (step (refusal plainJson bigClipboard)) s [.publish .daemonShutdown, .read]).events ≠
      s.events ∧
    FairTo EventLoop.Turn.party byTurns ∧
    ∀ j, (after (EventLoop.step (refusal plainJson bigClipboard)) ⟨s, s.events.length, true⟩
      byTurns j).inLoop = true := by
  rw [refusal_bigClipboard]
  refine ⟨by decide, by decide, by decide, byTurns_fair, fun j => ?_⟩
  rw [waits_forever (by decide) (by decide)]

end Client

end Handfast.Ipc
