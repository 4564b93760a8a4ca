/-
  Handfast.Ipc.Client

  Concurrent requests over one client connection (`crates/ipc/src/client.rs`).
  Responses carry no id: the reader gives each one to the oldest waiter, and
  the order of the waiters is meant to be the order of the frames on the wire.

  Calls, the reader and the server interleave at the granularity of single lock
  sections, frame writes and accesses to the `dead` flag: each is one `Move`.
  Calls are numbered, and the server's response to call `c` is written `c`.
  What `write_frame` refuses never touches the stream.  Any other failed write
  breaks the socket: the frame does not arrive and no later one is taken.

  A waiter whose frame was refused stands in the queue with no response to
  come.  Until its call has marked the connection dead, a frame written behind
  it is answered to the wrong waiter.  `Matched` is the invariant of the runs
  without such a write.  It splits the queue at the point from which waiters
  and outstanding answers no longer correspond: behind it no call will look at
  its reply.
-/
import Handfast.Ipc.Codec
import Handfast.Ipc.Proto
import Handfast.Lib.Trace
import Mathlib.Logic.Function.Basic

namespace Handfast.Ipc

open Handfast.Lib

/-- Where one `Client::request` stands. -/
inductive CallPhase where
  | idle
  /-- The connection was alive; the call wants the write lock. -/
  | checked
  | locked
  /-- Its waiter is queued, its frame not written. -/
  | queued
  /-- `write_frame` returned; the lock is still held. -/
  | wrote (result : Result Unit)
  /-- The lock is dropped after a write that worked. -/
  | unlocked
  /-- The connection was still alive; the call awaits its reply. -/
  | waiting
  /-- In `fail_all_pending`, before the store to `dead`, and before the drain. -/
  | failing (e : Error)
  | draining (e : Error)
  /-- An answer is named by the request it is for. -/
  | returned (result : Result Nat)
  deriving DecidableEq

/-- The call is between taking and dropping the write lock. -/
def CallPhase.Holds : CallPhase → Prop
  | locked | queued | wrote _ => True
  | _ => False

/-- The call is on its way out with an error. -/
def CallPhase.Failed : CallPhase → Prop
  | wrote (.error _) | failing _ | draining _ => True
  | _ => False

/-- The call has its write behind it and does not wait for its reply. -/
def CallPhase.Past : CallPhase → Prop
  | wrote _ | unlocked | failing _ | draining _ | returned _ => True
  | _ => False

inductive ReaderPhase where
  | reading
  /-- Out of the loop, before the store to `dead`, and before the drain. -/
  | leaving
  | draining
  /-- The task is over, and with it the sending end of the event channel. -/
  | gone
  deriving DecidableEq, Repr

inductive Frame where
  | event (e : ServerEvent)
  | response (c : Nat)
  deriving DecidableEq, Repr

def Frame.answered : Frame → Option Nat
  | event _ => none
  | response c => some c

/-- One connection, the calls on it, and what is on the wire. -/
structure Client where
  dead : Bool
  /-- The call that holds the write lock. -/
  lock : Option Nat
  pending : List Nat
  phase : Nat → CallPhase
  /-- What was sent into the reply channel of a call. -/
  reply : Nat → Option (Result Nat)
  reader : ReaderPhase
  /-- What was sent into the event channel. -/
  events : List ServerEvent
  sent : List Nat
  inbound : List Frame
  broken : Bool

namespace Client

def start : Client where
  dead := false
  lock := none
  pending := []
  phase := fun _ => .idle
  reply := fun _ => none
  reader := .reading
  events := []
  sent := []
  inbound := []
  broken := false

/-- One atomic action of a call, of the server or of the reader. -/
inductive Move where
  | load (c : Nat)
  | acquire (c : Nat)
  | push (c : Nat)
  /-- With the socket's error if it has one. -/
  | write (c : Nat) (failure : Option String)
  | unlock (c : Nat)
  | reload (c : Nat)
  | receive (c : Nat)
  | timeout (c : Nat)
  | store (c : Nat)
  | drain (c : Nat)
  /-- The server answers the next request, or sends an event. -/
  | answer
  | publish (e : ServerEvent)
  | read
  /-- End of the stream, a read error or a frame that does not decode. -/
  | leave
  | readerStore
  | readerDrain
  deriving DecidableEq, Repr

/-- Call `c` goes on to phase `p`. -/
def goto (s : Client) (c : Nat) (p : CallPhase) : Client :=
  { s with phase := Function.update s.phase c p }

/-- The lock section that sends an error to every waiter. -/
def drainPending (s : Client) : Client :=
  { s with
    pending := []
    reply := fun c => if c ∈ s.pending then some (.error .closed) else s.reply c }

def timedOut : Error := .other "ipc request timed out after 10s"

/-- `refused c` is the error with which `write_frame` rejects the request of call
    `c` before it touches the stream. -/
def step (refused : Nat → Option Error) (s : Client) : Move → Client
  | .load c =>
    if s.phase c = .idle then
      if s.dead then s.goto c (.returned (.error .closed)) else s.goto c .checked
    else s
  | .acquire c =>
    if s.phase c = .checked ∧ s.lock = none then { s.goto c .locked with lock := some c } else s
  | .push c =>
    if s.phase c = .locked then { s.goto c .queued with pending := s.pending ++ [c] } else s
  | .write c failure =>
    if s.phase c = .queued then
      match refused c, failure with
      | some e, _ => s.goto c (.wrote (.error e))
      | none, some msg => { s.goto c (.wrote (.error (.io msg))) with broken := true }
      | none, none =>
        if s.broken then s else { s.goto c (.wrote (.ok ())) with sent := s.sent ++ [c] }
    else s
  | .unlock c =>
    match s.phase c with
    | .wrote (.ok ()) => { s.goto c .unlocked with lock := none }
    | .wrote (.error e) => { s.goto c (.failing e) with lock := none }
    | _ => s
  | .reload c =>
    if s.phase c = .unlocked then
      if s.dead then s.goto c (.returned (.error .closed)) else s.goto c .waiting
    else s
  | .receive c =>
    if s.phase c = .waiting then
      match s.reply c with
      | some result => s.goto c (.returned result)
      | none => s
    else s
  -- the deadline is looked at only if the reply is not there
  | .timeout c =>
    if s.phase c = .waiting ∧ s.reply c = none then s.goto c (.failing timedOut) else s
  | .store c =>
    match s.phase c with
    | .failing e => { s.goto c (.draining e) with dead := true }
    | _ => s
  | .drain c =>
    match s.phase c with
    | .draining e => (s.goto c (.returned (.error e))).drainPending
    | _ => s
  | .answer =>
    match s.sent with
    | [] => s
    | c :: rest => { s with sent := rest, inbound := s.inbound ++ [.response c] }
  | .publish e => { s with inbound := s.inbound ++ [.event e] }
  | .read =>
    match s.reader, s.inbound with
    | .reading, .event e :: rest => { s with inbound := rest, events := s.events ++ [e] }
    | .reading, .response c :: rest =>
      match s.pending with
      | w :: more =>
        { s with
          inbound := rest
          pending := more
          reply := Function.update s.reply w (some (.ok c)) }
      | [] => { s with inbound := rest, reader := .leaving }
    | _, _ => s
  | .leave => if s.reader = .reading then { s with reader := .leaving } else s
  | .readerStore =>
    if s.reader = .leaving then { s with reader := .draining, dead := true } else s
  | .readerDrain =>
    if s.reader = .draining then { s with reader := .gone }.drainPending else s

/-- The refusals of `write_frame` for given requests. -/
def refusal (toVec : Request → Except String Bytes) (request : Nat → Request) (c : Nat) :
    Option Error :=
  match (writeFrame toVec [] (request c)).1 with
  | .ok () => none
  | .error e => some e

/-- No call has returned another call's answer. -/
def OwnAnswers (s : Client) : Prop := ∀ c k, s.phase c = .returned (.ok k) → k = c

/-- While the connection counts as alive, no frame goes out behind the waiter of
    a refused request. -/
def InStep (refused : Nat → Option Error) (s : Client) : Move → Prop
  | .write c none =>
    s.phase c = .queued → refused c = none → s.dead = false → ∀ w ∈ s.pending, refused w = none
  | _ => True

/-! ## Waiters and outstanding answers -/

variable {refused : Nat → Option Error} {s : Client} {c w k : Nat} {p : CallPhase}
  {sent matched stale last : List Nat} {broken : Bool}

/-- Requests whose answers the reader has not taken yet, in wire order. -/
def outstanding (s : Client) : List Nat := s.inbound.filterMap Frame.answered ++ s.sent

/-- The waiter that is queued although its frame may still be written. -/
def holding (s : Client) : List Nat := s.lock.toList.filter fun c => s.phase c = .queued

/-- The call of this waiter will not look at its reply. -/
structure Stale (refused : Nat → Option Error) (s : Client) (w : Nat) : Prop where
  past : (s.phase w).Past
  cause : s.dead = true ∨ ((s.phase w).Failed ∧ (refused w ≠ none ∨ s.broken = true))

/-- The queue is a part that corresponds to the outstanding answers, then stale
    waiters, then the waiter of the call that is about to write. -/
structure Lined (refused : Nat → Option Error) (s : Client)
    (matched stale surplus last : List Nat) : Prop where
  pending : s.pending = matched ++ (stale ++ last)
  outstanding : s.outstanding = matched ++ surplus
  stale : ∀ w ∈ stale, Stale refused s w
  surplus : surplus ≠ [] → s.dead = true
  -- a drain may have taken the last waiter away
  last : last = s.holding ∨ (s.dead = true ∧ last = [])

structure Matched (refused : Nat → Option Error) (s : Client) : Prop where
  own : OwnAnswers s
  reply : ∀ c k, s.reply c = some (.ok k) → k = c ∨ (s.dead = true ∧ s.phase c ≠ .waiting)
  lock : ∀ c, (s.phase c).Holds → s.lock = some c
  draining : ∀ c e, s.phase c = .draining e → s.dead = true
  reader : s.reader = .draining → s.dead = true
  lined : ∃ matched stale surplus last, Lined refused s matched stale surplus last

theorem matched_start : Matched refused start where
  own _ _ h := nomatch h
  reply _ _ h := nomatch h
  lock _ h := h.elim
  draining _ _ h := nomatch h
  reader h := nomatch h
  lined := ⟨[], [], [], [], rfl, rfl, by simp, by simp, .inl rfl⟩

@[simp] theorem goto_phase_self : (s.goto c p).phase c = p := Function.update_self ..

theorem goto_phase_of_ne (h : w ≠ c) : (s.goto c p).phase w = s.phase w :=
  Function.update_of_ne h ..

theorem goto_phase_cases (s : Client) (c : Nat) (p : CallPhase) (d : Nat) :
    d = c ∧ (s.goto c p).phase d = p ∨ d ≠ c ∧ (s.goto c p).phase d = s.phase d := by
  by_cases hdc : d = c
  · exact .inl ⟨hdc, by rw [hdc, goto_phase_self]⟩
  · exact .inr ⟨hdc, goto_phase_of_ne hdc⟩

/-- Inside its lock section a call may change its phase without looking at the
    others. -/
theorem holding_goto_of_ne (hlock : s.lock = some c) (h : p ≠ .queued) :
    (s.goto c p).holding = [] := by
  simp [holding, goto, hlock, h]

theorem holding_goto_queued (hlock : s.lock = some c) : (s.goto c .queued).holding = [c] := by
  simp [holding, goto, hlock]

theorem holding_of_phase (hlock : s.lock = some c) (h : s.phase c = .queued) : s.holding = [c] := by
  simp [holding, hlock, h]

theorem holding_of_ne (hlock : s.lock = some c) (h : s.phase c ≠ .queued) : s.holding = [] := by
  simp [holding, hlock, h]

/-- A phase change that neither starts nor ends the queued phase. -/
theorem holding_goto (hold : s.phase c ≠ .queued) (hnew : p ≠ .queued) :
    (s.goto c p).holding = s.holding := by
  have hphase : ∀ w, (s.goto c p).phase w = .queued ↔ s.phase w = .queued := by
    intro w
    by_cases hw : w = c
    · subst hw
      simp [hold, hnew]
    · rw [goto_phase_of_ne hw]
  simp only [holding, hphase]
  rfl

/-! ## Changes that keep the correspondence -/

/-- What a call may go on to outside of its lock section. -/
structure Passes (s : Client) (c : Nat) (p : CallPhase) : Prop where
  own : ∀ k, p = .returned (.ok k) → k = c
  waiting : p = .waiting → s.dead = false ∧ ¬ (s.phase c).Failed
  draining : ∀ e, p = .draining e → s.dead = true
  failed : (s.phase c).Failed → p.Failed ∨ s.dead = true
  past : (s.phase c).Past → p.Past ∨ p = .waiting
  notQueued : s.phase c ≠ .queued ∧ p ≠ .queued

theorem Stale.goto (h : Stale refused s w) (hp : Passes s c p) : Stale refused (s.goto c p) w := by
  by_cases hw : w = c
  · subst hw
    have hcause : s.dead = true ∨ (p.Failed ∧ (refused w ≠ none ∨ s.broken = true)) := by
      obtain hdead | ⟨hfailed, hwhy⟩ := h.cause
      · exact .inl hdead
      · exact (hp.failed hfailed).symm.imp_right fun hf => ⟨hf, hwhy⟩
    have hwaiting : p ≠ .waiting := by
      intro hpw
      obtain ⟨hdead, hnot⟩ := hp.waiting hpw
      obtain hd | ⟨hfailed, -⟩ := h.cause
      · simp [hdead] at hd
      · exact hnot hfailed
    refine ⟨?_, ?_⟩ <;> rw [goto_phase_self]
    · exact (hp.past h.past).resolve_right hwaiting
    · exact hcause
  · refine ⟨?_, ?_⟩ <;> rw [goto_phase_of_ne hw]
    · exact h.past
    · exact h.cause

/-- Staleness depends on the phases and on the two flags only. -/
theorem Stale.congr {t : Client} (h : Stale refused s w) (hphase : t.phase w = s.phase w)
    (hdead : t.dead = s.dead) (hbroken : s.broken = true → t.broken = true) :
    Stale refused t w := by
  refine ⟨hphase ▸ h.past, ?_⟩
  rw [hphase, hdead]
  exact h.cause.imp_right fun hf => ⟨hf.1, hf.2.imp_right hbroken⟩

theorem Stale.ne_of_not_past (h : Stale refused s w) (hc : ¬ (s.phase c).Past) : w ≠ c := by
  rintro rfl
  exact hc h.past

/-- A call that leaves its lock section, fails or returns. -/
theorem Passes.of_past (hqueued : s.phase c ≠ .queued) (hp : p.Past)
    (hown : ∀ k, p = .returned (.ok k) → k = c) (hdrain : ∀ e, p = .draining e → s.dead = true)
    (hfail : (s.phase c).Failed → p.Failed ∨ s.dead = true) : Passes s c p where
  own := hown
  waiting h := by
    rw [h] at hp
    exact hp.elim
  draining := hdrain
  failed := hfail
  past _ := .inl hp
  notQueued := by
    refine ⟨hqueued, fun h => ?_⟩
    rw [h] at hp
    exact hp.elim

theorem Passes.of_alive (halive : s.dead = false) (hfail : ¬ (s.phase c).Failed)
    (hqueued : s.phase c ≠ .queued) (hpast : (s.phase c).Past → p = .waiting)
    (hp : p = .checked ∨ p = .waiting) : Passes s c p where
  own k h := by simp [h] at hp
  waiting _ := ⟨halive, hfail⟩
  draining e h := by simp [h] at hp
  failed h := absurd h hfail
  past h := .inr (hpast h)
  notQueued := ⟨hqueued, fun h => by simp [h] at hp⟩

/-- The waiters that stay behind once call `c` has written, or failed to. -/
theorem Lined.after_write {surplus : List Nat} (hl : Lined refused s matched stale surplus last)
    (hphase : s.phase c = .queued) (hlock : s.lock = some c) {r : Result Unit}
    (hbroken : s.broken = true → broken = true)
    (hcause : s.dead = true ∨ ((CallPhase.wrote r).Failed ∧ (refused c ≠ none ∨ broken = true))) :
    ∀ w ∈ stale ++ last,
      Stale refused { s.goto c (.wrote r) with sent := sent, broken := broken } w := by
  intro w hw
  obtain hw | hw := List.mem_append.mp hw
  · have hwc := (hl.stale w hw).ne_of_not_past (c := c) (by simp [hphase, CallPhase.Past])
    exact (hl.stale w hw).congr (goto_phase_of_ne hwc) rfl hbroken
  · obtain hlast | ⟨-, hlast⟩ := hl.last
    · rw [hlast, holding_of_phase hlock hphase, List.mem_singleton] at hw
      subst hw
      exact ⟨by simp [goto, CallPhase.Past], by simpa [goto] using hcause⟩
    · simp [hlast] at hw

variable {rest : List Frame} {more : List Nat}

/-- Only the call that holds the lock may be about to write. -/
theorem holding_eq_singleton (h : s.holding = w :: more) : more = [] ∧ s.phase w = .queued := by
  have hlen : s.holding.length ≤ 1 :=
    (List.length_filter_le ..).trans (by cases s.lock <;> simp)
  have hmem : w ∈ s.holding := by simp [h]
  exact ⟨by simpa [h] using hlen, by simpa using (List.mem_filter.mp hmem).2⟩

/-- The next answer belongs to the oldest waiter, or that waiter no longer cares;
    and the rest of the queue is lined up again. -/
theorem Lined.pop {surplus : List Nat} (hl : Lined refused s matched stale surplus last)
    (hin : s.inbound = .response k :: rest) (hpending : s.pending = w :: more)
    (reply : Nat → Option (Result Nat)) :
    (k = w ∨ (s.dead = true ∧ s.phase w ≠ .waiting)) ∧
      ∃ matched stale surplus last, Lined refused
        { s with inbound := rest, pending := more, reply } matched stale surplus last := by
  have hout : k :: (rest.filterMap Frame.answered ++ s.sent) = matched ++ surplus := by
    rw [← hl.outstanding, Client.outstanding, hin]
    rfl
  have hwait : w :: more = matched ++ (stale ++ last) := hpending.symm.trans hl.pending
  have hstale : ∀ v ∈ stale, Stale refused { s with inbound := rest, pending := more, reply } v :=
    fun v hv => (hl.stale v hv).congr rfl rfl id
  cases matched with
  | cons m matched =>
    obtain ⟨hk, hrest⟩ := List.cons.inj hout
    obtain ⟨hw, hmore⟩ := List.cons.inj hwait
    exact ⟨.inl (hk.trans hw.symm), matched, stale, surplus, last, hmore, hrest, hstale,
      hl.surplus, hl.last⟩
  | nil =>
    -- an answer without a waiter of its own: the connection is dead
    have hdead : s.dead = true := hl.surplus (by rw [← List.nil_append surplus, ← hout]; simp)
    cases stale with
    | cons v stale =>
      obtain ⟨rfl, hmore⟩ := List.cons.inj hwait
      refine ⟨.inr ⟨hdead, fun hw => ?_⟩, [], stale, _, last, hmore, rfl,
        fun v hv => hstale v (List.mem_cons_of_mem _ hv), fun _ => hdead, hl.last⟩
      have hpast := (hl.stale w List.mem_cons_self).past
      simp [hw, CallPhase.Past] at hpast
    | nil =>
      -- the only waiter left is the one of the call about to write
      have hlast : s.holding = w :: more :=
        hl.last.elim (fun hh => hh.symm.trans hwait.symm)
          fun hh => absurd hwait (by simp [hh.2])
      obtain ⟨hmore, hqueued⟩ := holding_eq_singleton hlast
      exact ⟨.inr ⟨hdead, by simp [hqueued]⟩, [], [], _, [], hmore, rfl, by simp,
        fun _ => hdead, .inr ⟨hdead, rfl⟩⟩

section Rules

variable (h : Matched refused s)

include h

/-- **Phase rule.** A call that goes on keeps the invariant. -/
theorem Matched.goto (hp : Passes s c p)
    (hholds : p.Holds → s.lock = some c) : Matched refused (s.goto c p) where
  own := by
    intro d k hd
    obtain ⟨rfl, hphase⟩ | ⟨-, hphase⟩ := s.goto_phase_cases c p d
    · exact hp.own k (hphase.symm.trans hd)
    · exact h.own d k (hphase.symm.trans hd)
  reply := by
    intro d k hd
    refine (h.reply d k hd).imp_right fun ⟨hdead, hnot⟩ => ⟨hdead, fun hw => ?_⟩
    obtain ⟨-, hphase⟩ | ⟨-, hphase⟩ := s.goto_phase_cases c p d
    · -- nobody starts to wait on a dead connection
      have halive := (hp.waiting (hphase.symm.trans hw)).1
      simp [hdead] at halive
    · exact hnot (hphase.symm.trans hw)
  lock := by
    intro d hd
    obtain ⟨rfl, hphase⟩ | ⟨-, hphase⟩ := s.goto_phase_cases c p d
    · exact hholds (hphase ▸ hd)
    · exact h.lock d (hphase ▸ hd)
  draining := by
    intro d e hd
    obtain ⟨-, hphase⟩ | ⟨-, hphase⟩ := s.goto_phase_cases c p d
    · exact hp.draining e (hphase.symm.trans hd)
    · exact h.draining d e (hphase.symm.trans hd)
  reader := h.reader
  lined := by
    obtain ⟨matched, stale, surplus, last, hl⟩ := h.lined
    refine ⟨matched, stale, surplus, last, hl.pending, hl.outstanding, ?_, hl.surplus, ?_⟩
    · exact fun w hw => (hl.stale w hw).goto hp
    · rw [holding_goto hp.notQueued.1 hp.notQueued.2]
      exact hl.last

/-- Marking the connection dead is always safe. -/
theorem Matched.kill : Matched refused { s with dead := true } where
  own := h.own
  reply c k hc := (h.reply c k hc).imp_right fun hr => ⟨rfl, hr.2⟩
  lock := h.lock
  draining _ _ _ := rfl
  reader _ := rfl
  lined := by
    obtain ⟨matched, stale, surplus, last, hl⟩ := h.lined
    refine ⟨matched, stale, surplus, last, hl.pending, hl.outstanding, ?_, fun _ => rfl, ?_⟩
    · intro w hw
      exact ⟨(hl.stale w hw).past, .inl rfl⟩
    · exact hl.last.imp_right fun hlast => ⟨rfl, hlast.2⟩

/-- On a dead connection the whole queue may be drained. -/
theorem Matched.drainPending (hdead : s.dead = true) : Matched refused s.drainPending where
  own := h.own
  reply := by
    intro c k hc
    simp only [Client.drainPending] at hc
    split at hc
    · cases hc
    · exact h.reply c k hc
  lock := h.lock
  draining := h.draining
  reader := h.reader
  -- what is outstanding now has no waiter left
  lined := ⟨[], [], s.outstanding, [], rfl, rfl, by simp, fun _ => hdead, .inr ⟨hdead, rfl⟩⟩

theorem Matched.setReader {r : ReaderPhase}
    (hr : r = .draining → s.dead = true) : Matched refused { s with reader := r } where
  own := h.own
  reply := h.reply
  lock := h.lock
  draining := h.draining
  reader := hr
  lined := by
    obtain ⟨matched, stale, surplus, last, hl⟩ := h.lined
    exact ⟨matched, stale, surplus, last, hl.pending, hl.outstanding,
      fun w hw => (hl.stale w hw).congr rfl rfl id, hl.surplus, hl.last⟩

/-- Changes on the wire that leave the outstanding answers alone. -/
theorem Matched.setWire {inbound : List Frame} {events : List ServerEvent}
    (hsame : inbound.filterMap Frame.answered ++ sent = s.outstanding) :
    Matched refused { s with inbound := inbound, sent := sent, events := events } where
  own := h.own
  reply := h.reply
  lock := h.lock
  draining := h.draining
  reader := h.reader
  lined := by
    obtain ⟨matched, stale, surplus, last, hl⟩ := h.lined
    exact ⟨matched, stale, surplus, last, hl.pending, hsame.trans hl.outstanding,
      fun w hw => (hl.stale w hw).congr rfl rfl id, hl.surplus, hl.last⟩

/-! ## The lock section -/

theorem Matched.not_holds (hlock : s.lock = none) (c : Nat) : ¬ (s.phase c).Holds := by
  intro hc
  have := h.lock c hc
  simp [hlock] at this

theorem Matched.setLock {l : Option Nat} (hholds : ∀ c, (s.phase c).Holds → l = some c)
    (hnone : ∀ c, s.phase c ≠ .queued) : Matched refused { s with lock := l } where
  own := h.own
  reply := h.reply
  lock := hholds
  draining := h.draining
  reader := h.reader
  lined := by
    obtain ⟨matched, stale, surplus, last, hl⟩ := h.lined
    have hempty : ∀ l : Option Nat, (l.toList.filter fun c => s.phase c = .queued) = [] := by
      intro l
      simp [hnone]
    refine ⟨matched, stale, surplus, last, hl.pending, hl.outstanding, ?_, hl.surplus, ?_⟩
    · exact fun w hw => (hl.stale w hw).congr rfl rfl id
    · exact hl.last.imp_left fun hlast => by
        rw [hlast, holding, hempty, holding, hempty]

/-- Only the holder of the lock is in its lock section. -/
theorem Matched.only_holder (hc : (s.phase c).Holds) {d : Nat} (hd : (s.phase d).Holds) : d = c :=
  Option.some.inj ((h.lock d hd).symm.trans (h.lock c hc))

/-- The lock is free, so nobody else holds it. -/
theorem Matched.acquire (hphase : s.phase c = .checked)
    (hlock : s.lock = none) : Matched refused { s.goto c .locked with lock := some c } := by
  have hfree := h.not_holds hlock
  have hnone : ∀ d, s.phase d ≠ .queued := fun d hd => hfree d (by rw [hd]; trivial)
  have htaken : Matched refused { s with lock := some c } :=
    h.setLock (fun d hd => absurd hd (hfree d)) hnone
  refine htaken.goto (c := c) (p := .locked) ⟨?_, ?_, ?_, ?_, ?_, ?_⟩ fun _ => rfl
  · exact fun k hk => nomatch hk
  · exact fun hp => nomatch hp
  · exact fun e he => nomatch he
  · intro hf
    simp [hphase, CallPhase.Failed] at hf
  · intro hpast
    simp [hphase, CallPhase.Past] at hpast
  · exact ⟨hnone c, by simp⟩

theorem Matched.release (hc : (s.phase c).Holds) (hp : Passes s c p)
    (hout : ¬ p.Holds) : Matched refused { s.goto c p with lock := none } := by
  have hgone : Matched refused (s.goto c p) := h.goto hp fun hh => absurd hh hout
  have hfree : ∀ d, ¬ ((s.goto c p).phase d).Holds := by
    intro d hd
    obtain ⟨-, hphase⟩ | ⟨hdc, hphase⟩ := s.goto_phase_cases c p d
    · exact hout (hphase ▸ hd)
    · exact hdc (h.only_holder hc (hphase ▸ hd))
  exact hgone.setLock (fun d hd => absurd hd (hfree d))
    fun d hd => hfree d (by rw [hd]; trivial)

/-- A step inside the lock section, given what it does to the queue. -/
theorem Matched.inside (hc : (s.phase c).Holds) (hp : p.Holds)
    {pending : List Nat}
    (hlined : ∃ matched stale surplus last,
      Lined refused { s.goto c p with pending, sent, broken } matched stale surplus last) :
    Matched refused { s.goto c p with pending, sent, broken } := by
  -- a phase inside the section is none of those the other clauses speak of
  refine ⟨?_, ?_, ?_, ?_, h.reader, hlined⟩
  · intro d k hd
    obtain ⟨-, hphase⟩ | ⟨-, hphase⟩ := s.goto_phase_cases c p d
    · rw [show p = .returned (.ok k) from hphase.symm.trans hd] at hp
      exact hp.elim
    · exact h.own d k (hphase.symm.trans hd)
  · intro d k hd
    refine (h.reply d k hd).imp_right fun ⟨hdead, hnot⟩ => ⟨hdead, fun hw => ?_⟩
    obtain ⟨-, hphase⟩ | ⟨-, hphase⟩ := s.goto_phase_cases c p d
    · rw [show p = .waiting from hphase.symm.trans hw] at hp
      exact hp.elim
    · exact hnot (hphase.symm.trans hw)
  · intro d hd
    obtain ⟨rfl, -⟩ | ⟨-, hphase⟩ := s.goto_phase_cases c p d
    · exact h.lock d hc
    · exact h.lock d (hphase ▸ hd)
  · intro d e hd
    obtain ⟨-, hphase⟩ | ⟨-, hphase⟩ := s.goto_phase_cases c p d
    · rw [show p = .draining e from hphase.symm.trans hd] at hp
      exact hp.elim
    · exact h.draining d e (hphase.symm.trans hd)

theorem Matched.push (hphase : s.phase c = .locked) :
    Matched refused { s.goto c .queued with pending := s.pending ++ [c] } := by
  have hc : (s.phase c).Holds := by rw [hphase]; trivial
  have hlock := h.lock c hc
  obtain ⟨matched, stale, surplus, last, hl⟩ := h.lined
  have hempty : s.holding = [] := holding_of_ne hlock (by simp [hphase])
  have hlast : last = [] := hl.last.elim (fun hh => hh.trans hempty) And.right
  refine h.inside hc (p := .queued) trivial ⟨matched, stale, surplus, [c], ?_, hl.outstanding,
    ?_, hl.surplus, .inl (holding_goto_queued hlock).symm⟩
  · simp [hl.pending, hlast]
  · intro w hw
    have hwc := (hl.stale w hw).ne_of_not_past (c := c) (by simp [hphase, CallPhase.Past])
    exact (hl.stale w hw).congr (goto_phase_of_ne hwc) rfl id

theorem Matched.write_fails (hphase : s.phase c = .queued) {e : Error}
    (hbroken : s.broken = true → broken = true) (hwhy : refused c ≠ none ∨ broken = true) :
    Matched refused { s.goto c (.wrote (.error e)) with broken := broken } := by
  have hc : (s.phase c).Holds := by rw [hphase]; trivial
  have hlock := h.lock c hc
  obtain ⟨matched, stale, surplus, last, hl⟩ := h.lined
  refine h.inside hc (p := .wrote (.error e)) trivial
    ⟨matched, stale ++ last, surplus, [], ?_, hl.outstanding,
      hl.after_write hphase hlock hbroken (.inr ⟨trivial, hwhy⟩), hl.surplus, .inl ?_⟩
  · exact hl.pending.trans (by simp)
  · exact (holding_goto_of_ne hlock (by simp)).symm

/-- The request that is written joins the line of those outstanding. -/
theorem Matched.write_ok (hphase : s.phase c = .queued) (hbroken : s.broken = false)
    (hclear : s.dead = false → ∀ w ∈ s.pending, refused w = none) :
    Matched refused { s.goto c (.wrote (.ok ())) with sent := s.sent ++ [c] } := by
  have hc : (s.phase c).Holds := by rw [hphase]; trivial
  have hlock := h.lock c hc
  obtain ⟨matched, stale, surplus, last, hl⟩ := h.lined
  have hout : s.inbound.filterMap Frame.answered ++ (s.sent ++ [c]) =
      matched ++ (surplus ++ [c]) := by
    rw [← List.append_assoc, ← List.append_assoc, ← hl.outstanding, outstanding]
  have hnone : (s.goto c (.wrote (.ok ()))).holding = [] := holding_goto_of_ne hlock (by simp)
  refine h.inside hc (p := .wrote (.ok ())) trivial ?_
  cases hdead : s.dead with
  | true =>
    -- the call will find the connection dead: its answer is surplus
    exact ⟨matched, stale ++ last, surplus ++ [c], [], hl.pending.trans (by simp), hout,
      hl.after_write hphase hlock id (.inl hdead), fun _ => hdead, .inl hnone.symm⟩
  | false =>
    have hsurplus : surplus = [] := by
      by_contra hne
      have hd := hl.surplus hne
      simp [hdead] at hd
    have hstale : stale = [] := by
      refine List.eq_nil_iff_forall_not_mem.mpr fun w hw => ?_
      obtain hd | ⟨-, hr | hb⟩ := (hl.stale w hw).cause
      · simp [hdead] at hd
      · exact hr (hclear hdead w (by simp [hl.pending, hw]))
      · simp [hbroken] at hb
    have hlast : last = [c] := by
      obtain hlast | ⟨hd, -⟩ := hl.last
      · rw [hlast, holding_of_phase hlock hphase]
      · simp [hdead] at hd
    refine ⟨matched ++ [c], [], [], [], ?_, ?_, by simp, by simp, .inl hnone.symm⟩
    · exact hl.pending.trans (by simp [hstale, hlast])
    · exact hout.trans (by simp [hsurplus])

/-! ## Replies -/

/-- The reader hands the next answer to the oldest waiter. -/
theorem Matched.pop (hin : s.inbound = .response k :: rest) (hpending : s.pending = w :: more) :
    Matched refused
      { s with
        inbound := rest
        pending := more
        reply := Function.update s.reply w (some (.ok k)) } := by
  obtain ⟨matched, stale, surplus, last, hl⟩ := h.lined
  obtain ⟨hfits, hlined⟩ := hl.pop hin hpending (Function.update s.reply w (some (.ok k)))
  refine ⟨h.own, fun d j hd => ?_, h.lock, h.draining, h.reader, hlined⟩
  by_cases hdw : d = w
  · subst hdw
    obtain rfl : k = j := by simpa using hd
    exact hfits
  · exact h.reply d j (by simpa [Function.update_of_ne hdw] using hd)

/-- An answer nobody waits for makes the reader leave. -/
theorem Matched.surplus (hin : s.inbound = .response k :: rest) (hpending : s.pending = []) :
    Matched refused { s with inbound := rest, reader := .leaving } := by
  obtain ⟨matched, stale, surplus, last, hl⟩ := h.lined
  obtain ⟨rfl, hrest⟩ := List.append_eq_nil_iff.mp (hl.pending.symm.trans hpending)
  have hdead : s.dead = true := by
    refine hl.surplus ?_
    rintro rfl
    have hout := hl.outstanding
    simp [outstanding, hin, Frame.answered] at hout
  exact ⟨h.own, h.reply, h.lock, h.draining, nofun,
    ⟨[], [], _, [], hpending, rfl, by simp, fun _ => hdead, .inr ⟨hdead, rfl⟩⟩⟩

/-! ## Runs -/

/-- **Step rule.** Every move keeps the correspondence, a frame behind a refused
    waiter apart. -/
theorem Matched.step (m : Move) (hm : InStep refused s m) : Matched refused (s.step refused m) := by
  cases m with
  | load c =>
    simp only [Client.step]
    split <;> [rename_i hphase; exact h]
    split
    · exact h.goto (.of_past (by simp [hphase]) trivial nofun nofun
        (by simp [hphase, CallPhase.Failed])) nofun
    · rename_i halive
      exact h.goto (.of_alive (by simpa using halive) (by simp [hphase, CallPhase.Failed])
        (by simp [hphase]) (by simp [hphase, CallPhase.Past]) (.inl rfl)) nofun
  | acquire c =>
    simp only [Client.step]
    split <;> [rename_i hready; exact h]
    exact h.acquire hready.1 hready.2
  | push c =>
    simp only [Client.step]
    split <;> [rename_i hphase; exact h]
    exact h.push hphase
  | write c failure =>
    simp only [Client.step]
    split <;> [rename_i hphase; exact h]
    cases hrefused : refused c with
    | some e => exact h.write_fails hphase id (.inl (by simp [hrefused]))
    | none =>
      cases failure with
      | some msg => exact h.write_fails hphase (fun _ => rfl) (.inr rfl)
      | none =>
        dsimp only
        split <;> [exact h; rename_i hbroken]
        exact h.write_ok hphase (by simpa using hbroken) (hm hphase hrefused)
  | unlock c =>
    simp only [Client.step]
    split
    · rename_i hphase
      exact h.release (by rw [hphase]; trivial)
        (.of_past (by simp [hphase]) trivial nofun nofun (by simp [hphase, CallPhase.Failed])) id
    · rename_i e hphase
      exact h.release (by rw [hphase]; trivial)
        (.of_past (by simp [hphase]) trivial nofun nofun fun _ => .inl trivial) id
    · exact h
  | reload c =>
    simp only [Client.step]
    split <;> [rename_i hphase; exact h]
    split
    · exact h.goto (.of_past (by simp [hphase]) trivial nofun nofun
        (by simp [hphase, CallPhase.Failed])) nofun
    · rename_i halive
      exact h.goto (.of_alive (by simpa using halive) (by simp [hphase, CallPhase.Failed])
        (by simp [hphase]) (fun _ => rfl) (.inr rfl)) nofun
  | receive c =>
    simp only [Client.step]
    split <;> [rename_i hphase; exact h]
    split <;> [rename_i result hreply; exact h]
    have hown : ∀ k, CallPhase.returned result = .returned (.ok k) → k = c := by
      intro k hk
      obtain rfl : result = .ok k := CallPhase.returned.inj hk
      -- a call that waits finds nothing but its own answer
      exact (h.reply c k hreply).resolve_right fun hr => hr.2 hphase
    exact h.goto (.of_past (by simp [hphase]) trivial hown nofun
      (by simp [hphase, CallPhase.Failed])) nofun
  | timeout c =>
    simp only [Client.step]
    split <;> [rename_i hready; exact h]
    exact h.goto (.of_past (by simp [hready.1]) trivial nofun nofun fun _ => .inl trivial) nofun
  | store c =>
    simp only [Client.step]
    split <;> [rename_i e hphase; exact h]
    exact h.kill.goto (c := c) (.of_past (by simp [hphase]) trivial nofun (fun _ _ => rfl)
      fun _ => .inl trivial) nofun
  | drain c =>
    simp only [Client.step]
    split <;> [rename_i e hphase; exact h]
    have hdead := h.draining c e hphase
    exact Matched.drainPending (h.goto (.of_past (by simp [hphase]) trivial nofun nofun
      fun _ => .inr hdead) nofun) hdead
  | answer =>
    simp only [Client.step]
    split <;> [exact h; rename_i c rest hsent]
    exact h.setWire (by simp [outstanding, hsent, Frame.answered])
  | publish e => exact h.setWire (by simp [outstanding, Frame.answered])
  | read =>
    simp only [Client.step]
    split
    · rename_i e rest hreader hin
      exact h.setWire (by simp [outstanding, hin, List.filterMap_cons, Frame.answered])
    · rename_i k rest hreader hin
      split
      · rename_i w more hpending
        exact h.pop hin hpending
      · rename_i hpending
        exact h.surplus hin hpending
    · exact h
  | leave =>
    simp only [Client.step]
    split <;> [exact h.setReader (by simp); exact h]
  | readerStore =>
    simp only [Client.step]
    split <;> [exact h.kill.setReader fun _ => rfl; exact h]
  | readerDrain =>
    simp only [Client.step]
    split <;> [rename_i hreader; exact h]
    exact (h.setReader (by simp)).drainPending (h.reader hreader)

end Rules

/-- **Own answers.** For every set of requests, however calls, reader and server
    interleave: as long as no frame is written behind the waiter of a refused
    request on a connection not yet marked dead, no call returns the answer to
    another one. -/
theorem request_returns_own (toVec : Request → Except String Bytes) (request : Nat → Request)
    (moves : List Move)
    (h : AllSteps (step (refusal toVec request)) (InStep (refusal toVec request)) start moves) :
    AllStates (step (refusal toVec request)) OwnAnswers start moves := by
  have hmatched : AllStates (step (refusal toVec request)) (Matched (refusal toVec request))
      start moves :=
    allStates_of_invariant matched_start (fun _ m hs hm => hs.step m hm) h
  exact hmatched.mono fun _ hs => hs.own

instance (refused : Nat → Option Error) (s : Client) : (m : Move) → Decidable (InStep refused s m)
  | .write c none => inferInstanceAs (Decidable (s.phase c = .queued → refused c = none →
      s.dead = false → ∀ w ∈ s.pending, refused w = none))
  | .write _ (some _) | .load _ | .acquire _ | .push _ | .unlock _ | .reload _ | .receive _
  | .timeout _ | .store _ | .drain _ | .answer | .publish _ | .read | .leave | .readerStore
  | .readerDrain => .isTrue trivial

/-- JSON of the two kinds of request used below; nothing in them is escaped. -/
def plainJson : Request → Except String Bytes
  | .clipboardSet text =>
    .ok (("\x7b\"method\":\"clipboard_set\",\"params\":\x7b\"text\":\"".toList ++ text.toList ++
      "\"\x7d\x7d".toList).map fun ch => UInt8.ofNat ch.toNat)
  | r => .ok (("\x7b\"method\":\"".toList ++ r.parts.1.toList ++ "\"\x7d".toList).map
      fun ch => UInt8.ofNat ch.toNat)

/-- Call 0 puts a text of 16 MiB on the clipboard; the others ask for something small. -/
def bigClipboard : Nat → Request
  | 0 => .clipboardSet (String.ofList (List.replicate maxFrameBytes 'a'))
  | 1 => .ping
  | _ => .clipboardGet

theorem refusal_of_ok {toVec : Request → Except String Bytes} {request : Nat → Request}
    {payload : Bytes} (h : toVec (request c) = .ok payload) :
    refusal toVec request c =
      if payload.length > maxFrameBytes then
        some (.frameTooLarge payload.length maxFrameBytes)
      else none := by
  by_cases hbig : payload.length > maxFrameBytes
  · simp [refusal, writeFrame, h, hbig]
  · simp [refusal, writeFrame, h, hbig]

/-- Only call 0 is refused: 47 bytes of JSON stand around its text. -/
theorem refusal_bigClipboard : refusal plainJson bigClipboard = fun c =>
    if c = 0 then some (.frameTooLarge (maxFrameBytes + 47) maxFrameBytes) else none := by
  funext c
  match c with
  | 0 =>
    have haround : ("\x7b\"method\":\"clipboard_set\",\"params\":\x7b\"text\":\"".toList.length,
        "\"\x7d\x7d".toList.length) = (44, 3) := by decide
    obtain ⟨hopen, hclose⟩ := Prod.mk.inj haround
    rw [(refusal_of_ok rfl : refusal plainJson bigClipboard 0 = _)]
    simp only [List.length_map, List.length_append, String.toList_ofList, List.length_replicate,
      hopen, hclose]
    rw [show 44 + maxFrameBytes + 3 = maxFrameBytes + 47 by omega, if_pos (by omega)]
    rfl
  | 1 => decide
  | n + 2 =>
    have hrequest : bigClipboard (n + 2) = .clipboardGet := rfl
    rw [if_neg (by omega), refusal, hrequest]
    decide

/-- One call from its first check to the end of its lock section. -/
def enters (c : Nat) : List Move := [.load c, .acquire c, .push c, .write c none, .unlock c]

/-- A ping is answered before the big request comes, one that is under way when it
    fails and one that comes later are not. -/
theorem request_returns_own_refused :
    AllStates (step (refusal plainJson bigClipboard)) OwnAnswers start
      (enters 1 ++ [.reload 1, .publish .daemonShutdown, .answer, .read, .read, .receive 1] ++
        enters 2 ++ [.reload 2] ++ enters 0 ++ [.store 0, .drain 0, .receive 2, .load 3]) := by
  refine request_returns_own plainJson bigClipboard _ ?_
  rw [refusal_bigClipboard]
  decide

/-- Call 0 is refused but has not marked the connection dead yet when calls 1 and
    2 write.  The answer to call 1 goes to the waiter of call 0, and the answer to
    call 2 to call 1: the ping returns what was asked of the clipboard. -/
theorem ping_returns_clipboard :
    ¬ AllStates (step (refusal plainJson bigClipboard)) OwnAnswers start
      (enters 0 ++ enters 1 ++ [.reload 1] ++ enters 2 ++ [.reload 2, .answer, .answer, .read,
        .read, .receive 1]) := by
  rw [refusal_bigClipboard]
  intro h
  have hlast := h.last 1 2 (by decide)
  omega

end Client

end Handfast.Ipc
