/-
  Handfast.Ipc.Oversize

  Concurrent requests of which some are too large for a frame, on a connection
  where nothing else goes wrong: the server answers every request it gets, in
  order, no write fails and no call times out.

  A `Turn` lets a call, the server or the reader take its next step.  Every step
  of a call brings it nearer to its return, every answer and every response that
  is read brings the wire nearer to silence, and an event can only come before a
  response that is already there (`work`).  So under every fair schedule all
  calls return, unless one of them can never move (`fairTo_ends`).

  `Healthy` is the invariant of connections without an oversized request: each
  call returns its own answer.  `Lone` is the one of a single request that is
  oversized.  As soon as there is a second request, the oversized one can make it
  fail (`next_fails`).
-/
import Handfast.Ipc.Report
import Mathlib.Data.Prod.Lex
import Mathlib.Algebra.BigOperators.Fin
import Mathlib.Algebra.Order.BigOperators.Group.Finset

namespace Handfast.Ipc

open Handfast.Lib

def CallPhase.remaining : CallPhase → Nat
  | idle => 9
  | checked => 8
  | locked => 7
  | queued => 6
  | wrote _ => 5
  | unlocked => 4
  | waiting => 3
  | failing _ => 2
  | draining _ => 1
  | returned _ => 0

@[simp] theorem Frame.answered_event (e : ServerEvent) : (event e).answered = none := rfl

@[simp] theorem Frame.answered_response (c : Nat) : (response c).answered = some c := rfl

namespace Client

variable {refused : Nat → Option Error} {s t : Client} {c d n : Nat}

/-! ## Turns -/

/-- What call `c` does at its next turn: no write fails on the way, and no deadline
    passes. -/
def callMove (s : Client) (c : Nat) : Move :=
  match s.phase c with
  | .idle => .load c
  | .checked => .acquire c
  | .locked => .push c
  | .queued => .write c none
  | .wrote _ => .unlock c
  | .unlocked => .reload c
  | .waiting | .returned _ => .receive c
  | .failing _ => .store c
  | .draining _ => .drain c

/-- A turn of one of `n` calls, of the server or of the reader, or an event that
    the server sends. -/
inductive Turn (n : Nat) where
  | call (c : Fin n)
  | server
  | reader
  | publish (e : ServerEvent)

inductive Party (n : Nat) where
  | call (c : Fin n)
  | server
  | reader

def Turn.party : Turn n → Option (Party n)
  | call c => some (.call c)
  | server => some .server
  | reader => some .reader
  | publish _ => none

def Turn.move (s : Client) : Turn n → Move
  | call c => s.callMove c
  | server => .answer
  | reader => s.readerMove
  | publish e => .publish e

def turn (refused : Nat → Option Error) (s : Client) (t : Turn n) : Client :=
  s.step refused (t.move s)

/-! ## What a turn brings -/

def CanMove (s : Client) (c : Nat) : Prop :=
  match s.phase c with
  | .checked => s.lock = none
  | .waiting => s.reply c ≠ none
  | .returned _ => False
  | _ => True

/-- The call takes its next step, and only its own phase and its own frame are
    concerned, as far as the progress of the others goes. -/
structure Moved (s t : Client) (c : Nat) : Prop where
  nearer : (t.phase c).remaining < (s.phase c).remaining
  others : ∀ d, d ≠ c → t.phase d = s.phase d
  sent : t.sent.length ≤ s.sent.length + 1
  inbound : t.inbound = s.inbound

theorem callMove_stays (h : ¬ s.CanMove c) : s.step refused (s.callMove c) = s := by
  unfold CanMove at h
  cases hp : s.phase c with
  | checked => simp_all [callMove, step]
  | waiting => simp_all [callMove, step]
  | returned r => simp [callMove, hp, step]
  | _ => simp [hp] at h

theorem Moved.of_phase {p : CallPhase} (hphase : t.phase = Function.update s.phase c p)
    (hnearer : p.remaining < (s.phase c).remaining) (hsent : t.sent.length ≤ s.sent.length + 1)
    (hinbound : t.inbound = s.inbound) : Moved s t c where
  nearer := by simpa [hphase] using hnearer
  others := fun d hd => by rw [hphase, Function.update_of_ne hd]
  sent := hsent
  inbound := hinbound

theorem callMove_moved (hsound : s.broken = false) (h : s.CanMove c) :
    Moved s (s.step refused (s.callMove c)) c := by
  unfold CanMove at h
  -- each phase has fewer ahead of it than the one before
  cases hp : s.phase c with
  | idle | unlocked =>
    simp only [callMove, step, hp, if_true]
    split <;> exact .of_phase rfl (by simp [hp, CallPhase.remaining]) (Nat.le_succ _) rfl
  | checked =>
    have hlock : s.lock = none := by simpa [hp] using h
    simp only [callMove, step, hp, hlock, and_self, if_true]
    exact .of_phase rfl (by simp [hp, CallPhase.remaining]) (Nat.le_succ _) rfl
  | locked | failing e | draining e =>
    simp only [callMove, step, hp, if_true]
    exact .of_phase rfl (by simp [hp, CallPhase.remaining]) (Nat.le_succ _) rfl
  | queued =>
    simp only [callMove, step, hp, hsound, if_true, Bool.false_eq_true, if_false]
    split
    · exact .of_phase rfl (by simp [hp, CallPhase.remaining]) (Nat.le_succ _) rfl
    · exact .of_phase rfl (by simp [hp, CallPhase.remaining]) (Nat.le_succ _) rfl
    · exact .of_phase rfl (by simp [hp, CallPhase.remaining]) (by simp) rfl
  | wrote r =>
    simp only [callMove, step, hp]
    cases r <;> exact .of_phase rfl (by simp [hp, CallPhase.remaining]) (Nat.le_succ _) rfl
  | waiting =>
    have hreply : s.reply c ≠ none := by simpa [hp] using h
    obtain ⟨r, hr⟩ := Option.ne_none_iff_exists'.mp hreply
    simp only [callMove, step, hp, hr, if_true]
    exact .of_phase rfl (by simp [hp, CallPhase.remaining]) (Nat.le_succ _) rfl
  | returned r => simp [hp] at h

/-! ## The work that is left -/

/-- Steps of the calls until all have returned. -/
def callWork (n : Nat) (s : Client) : Nat := ∑ c : Fin n, (s.phase c).remaining

/-- A request has to be answered and its response to be read. -/
def wireWork (s : Client) : Nat := 2 * s.sent.length + (s.inbound.filterMap Frame.answered).length

def nextResponse (s : Client) : Option Nat := s.inbound.findIdx? fun f => f.answered.isSome

/-- What is left to do.  Events may come at any time, but they come behind the
    responses that are there. -/
def work (n : Nat) (s : Client) : Nat ×ₗ Nat :=
  toLex (3 * s.callWork n + s.wireWork, s.nextResponse.getD 0)

def Ready (s : Client) : Party n → Prop
  | .call c => s.CanMove c
  | .server => s.sent ≠ []
  | .reader => s.nextResponse.isSome = true

theorem Moved.callWork {c : Fin n} (h : Moved s t c) :
    t.callWork n < s.callWork n := by
  refine Finset.sum_lt_sum (fun d _ => ?_) ⟨c, Finset.mem_univ c, h.nearer⟩
  by_cases hd : d = c
  · subst hd
    exact h.nearer.le
  · rw [h.others d fun heq => hd (Fin.ext heq)]

theorem work_lt_of_fst
    (h : 3 * t.callWork n + t.wireWork < 3 * s.callWork n + s.wireWork) : t.work n < s.work n :=
  Prod.Lex.toLex_lt_toLex.mpr (.inl h)

/-- A call that moves leaves less work. -/
theorem Moved.work {c : Fin n} (h : Moved s t c) : t.work n < s.work n := by
  have hcalls := h.callWork
  have hsent := h.sent
  refine work_lt_of_fst ?_
  simp only [wireWork, h.inbound]
  omega

/-- Progress looks at the calls, the lock, the replies and the requests on the
    wire, and at the responses among the inbound frames. -/
theorem same_work (hphase : t.phase = s.phase) (hlock : t.lock = s.lock)
    (hreply : t.reply = s.reply) (hsent : t.sent = s.sent)
    (hresponses : t.inbound.filterMap Frame.answered = s.inbound.filterMap Frame.answered)
    (hnext : t.nextResponse = s.nextResponse) :
    t.work n = s.work n ∧ ∀ p : Party n, s.Ready p → t.Ready p := by
  refine ⟨by simp [Client.work, callWork, wireWork, hphase, hsent, hresponses, hnext],
    fun p hp => ?_⟩
  cases p with
  | call c => simpa [Ready, CanMove, hphase, hlock, hreply] using hp
  | server => simpa [Ready, hsent] using hp
  | reader => simpa [Ready, hnext] using hp

theorem server_work (h : s.sent ≠ []) : (s.step refused .answer).work n < s.work n := by
  obtain ⟨c, rest, hsent⟩ := List.exists_cons_of_ne_nil h
  refine work_lt_of_fst ?_
  simp only [step, hsent, callWork, wireWork, List.length_cons, List.filterMap_append,
    List.length_append]
  simp only [List.filterMap_cons, List.filterMap_nil, Frame.answered_response, List.length_cons,
    List.length_nil]
  omega

/-- The reader takes a response, or an event that stands before one. -/
theorem reader_work (hreading : s.reader = .reading) (h : s.nextResponse.isSome = true) :
    (s.step refused .read).work n < s.work n := by
  cases hin : s.inbound with
  | nil => simp [nextResponse, hin] at h
  | cons f rest =>
    cases f with
    | event e =>
      have hnext : s.nextResponse =
          (rest.findIdx? fun f => f.answered.isSome).map (· + 1) := by
        simp [nextResponse, hin, List.findIdx?_cons]
      rw [hnext, Option.isSome_map] at h
      obtain ⟨k, hk⟩ := Option.isSome_iff_exists.mp h
      refine Prod.Lex.toLex_lt_toLex.mpr (.inr ⟨?_, ?_⟩)
      · simp [step, hreading, hin, callWork, wireWork, List.filterMap_cons]
      · simp [step, hreading, hin, nextResponse, List.findIdx?_cons, hk]
    | response k =>
      refine work_lt_of_fst ?_
      cases hpending : s.pending with
      | nil =>
        simp [step, hreading, hin, hpending, callWork, wireWork]
      | cons w more =>
        simp [step, hreading, hin, hpending, callWork, wireWork]

/-- With no response on its way, reading changes no progress. -/
theorem reader_stays (hreading : s.reader = .reading) (h : ¬ s.nextResponse.isSome = true) :
    (s.step refused .read).work n = s.work n ∧
      ∀ p : Party n, s.Ready p → (s.step refused .read).Ready p := by
  cases hin : s.inbound with
  | nil =>
    have hsame : s.step refused .read = s := by simp [step, hin]
    rw [hsame]
    exact ⟨rfl, fun _ hp => hp⟩
  | cons f rest =>
    cases f with
    | event e =>
      have hnone : rest.findIdx? (fun f => f.answered.isSome) = none := by
        simpa [nextResponse, hin, List.findIdx?_cons] using h
      have hread : s.step refused .read =
          { s with inbound := rest, events := s.events ++ [e] } := by
        simp [step, hreading, hin]
      rw [hread]
      refine same_work rfl rfl rfl rfl ?_ ?_
      · simp [hin, List.filterMap_cons]
      · simp [nextResponse, hin, List.findIdx?_cons, hnone]
    | response k => simp [nextResponse, hin, List.findIdx?_cons] at h

theorem publish_stays (e : ServerEvent) :
    (s.step refused (.publish e)).work n = s.work n ∧
      ∀ p : Party n, s.Ready p → (s.step refused (.publish e)).Ready p := by
  refine same_work rfl rfl rfl rfl ?_ ?_
  · simp [step]
  · simp [step, nextResponse, List.findIdx?_append, List.findIdx?_cons]

theorem readerMove_reading (hreading : s.reader = .reading) : s.readerMove = .read := by
  simp [readerMove, hreading]

/-- The turn of a party that has something to do lowers the work. -/
theorem ready_turn (hreading : s.reader = .reading) (hsound : s.broken = false) {t : Turn n}
    {p : Party n} (hparty : t.party = some p) (hready : s.Ready p) :
    (s.turn refused t).work n < s.work n := by
  cases t with
  | call c =>
    cases hparty
    exact (callMove_moved hsound hready).work
  | server =>
    cases hparty
    exact server_work hready
  | reader =>
    cases hparty
    rw [turn, Turn.move, readerMove_reading hreading]
    exact reader_work hreading hready
  | publish e => cases hparty

/-- Any other turn leaves the work and whoever has something to do. -/
theorem idle_turn (hreading : s.reader = .reading) {t : Turn n}
    (hidle : ∀ p, t.party = some p → ¬ s.Ready p) :
    (s.turn refused t).work n = s.work n ∧
      ∀ p : Party n, s.Ready p → (s.turn refused t).Ready p := by
  cases t with
  | call c =>
    rw [turn, Turn.move, callMove_stays (hidle _ rfl)]
    exact ⟨rfl, fun _ hp => hp⟩
  | server =>
    have hnone : s.sent = [] := not_not.mp (hidle _ rfl)
    have hsame : s.step refused .answer = s := by simp [step, hnone]
    rw [turn, Turn.move, hsame]
    exact ⟨rfl, fun _ hp => hp⟩
  | reader =>
    rw [turn, Turn.move, readerMove_reading hreading]
    exact reader_stays hreading (hidle _ rfl)
  | publish e => exact publish_stays e

/-- **Calls return.** If an invariant keeps the connection and the reader going and
    lets somebody move as long as a call has not returned, then under every fair
    schedule all calls return. -/
theorem calls_return (I : Client → Prop) (hinit : I s)
    (hstep : ∀ s (t : Turn n), I s → I (s.turn refused t))
    (hgoing : ∀ s, I s → s.reader = .reading ∧ s.broken = false)
    (hlive : ∀ s, I s → ∀ c : Fin n, (∀ r, s.phase c ≠ .returned r) → ∃ p : Party n, s.Ready p)
    {schedule : Nat → Turn n} (hfair : FairTo Turn.party schedule) :
    ∃ k, ∀ c : Fin n, ∃ r, (after (turn refused) s schedule k).phase c = .returned r := by
  refine fairTo_ends (work n) (Ready) I (fun s => ∀ c : Fin n, ∃ r, s.phase c = .returned r)
    hinit hstep (fun s t h => ?_) (fun s t p h hparty hready => ?_) (fun s h hnot => ?_) hfair
  · obtain ⟨hreading, hsound⟩ := hgoing s h
    by_cases hready : ∃ p, t.party = some p ∧ s.Ready p
    · obtain ⟨p, hparty, hp⟩ := hready
      exact .inl (ready_turn hreading hsound hparty hp)
    · exact .inr (idle_turn hreading fun p hparty hp => hready ⟨p, hparty, hp⟩)
  · exact ready_turn (hgoing s h).1 (hgoing s h).2 hparty hready
  · rw [not_forall] at hnot
    obtain ⟨c, hc⟩ := hnot
    exact hlive s h c fun r hr => hc ⟨r, hr⟩

theorem step_returned {r : Result Nat} (h : s.phase c = .returned r) (m : Move) :
    (s.step refused m).phase c = .returned r := by
  have hother : ∀ {d p}, s.phase d ≠ s.phase c → (s.goto d p).phase c = .returned r := by
    intro d p hd
    rwa [goto_phase_of_ne fun heq => hd (by rw [heq])]
  cases m with
  | load d | acquire d | push d | write d failure | unlock d | reload d | receive d | timeout d
  | store d | drain d =>
    -- whichever call moves, it has not returned
    simp only [step]
    repeat' split
    all_goals first
      | exact h
      | exact hother (by simp_all)
  | answer | publish e | read | leave | readerStore | readerDrain =>
    simp only [step]
    repeat' split
    all_goals exact h

end Client

/-! ## Connections without an oversized request -/

def CallPhase.Fine : CallPhase → Prop
  | wrote (.error _) | failing _ | draining _ | returned (.error _) => False
  | _ => True

/-- The frame of the call is written, and its reply not taken. -/
def CallPhase.Awaits : CallPhase → Prop
  | wrote _ | unlocked | waiting => True
  | _ => False

namespace Client

variable {s t : Client} {c d n : Nat} {p : CallPhase}

structure Healthy (s : Client) : Prop where
  matched : Matched (fun _ => none) s
  alive : s.dead = false
  reading : s.reader = .reading
  sound : s.broken = false
  locked : ∀ c, s.lock = some c → (s.phase c).Holds
  fine : ∀ c, (s.phase c).Fine
  reply : ∀ c e, s.reply c ≠ some (.error e)
  awaited : ∀ c, (s.phase c).Awaits → s.reply c = none → c ∈ s.pending

theorem healthy_start : Healthy start where
  matched := matched_start
  alive := rfl
  reading := rfl
  sound := rfl
  locked := nofun
  fine := fun _ => trivial
  reply := nofun
  awaited := fun _ h => h.elim

/-- Waiters and outstanding answers correspond, but for the call about to write. -/
theorem Healthy.pending_eq (h : Healthy s) : s.pending = s.outstanding ++ s.holding := by
  obtain ⟨matched, stale, surplus, last, hl⟩ := h.matched.lined
  have hsurplus : surplus = [] := by
    by_contra hne
    simpa [h.alive] using hl.surplus hne
  have hstale : stale = [] := by
    refine List.eq_nil_iff_forall_not_mem.mpr fun w hw => ?_
    obtain hd | ⟨-, hr | hb⟩ := (hl.stale w hw).cause
    · simp [h.alive] at hd
    · exact hr rfl
    · simp [h.sound] at hb
  have hlast : last = s.holding := hl.last.resolve_right fun hd => by simp [h.alive] at hd
  rw [hl.pending, hl.outstanding, hsurplus, hstale, hlast, List.append_nil, List.nil_append]

theorem Healthy.awaited_outstanding (h : Healthy s) (hc : (s.phase c).Awaits)
    (hreply : s.reply c = none) : c ∈ s.outstanding := by
  have hmem := h.awaited c hc hreply
  rw [h.pending_eq, List.mem_append] at hmem
  refine hmem.resolve_right fun hhold => ?_
  have hqueued : s.phase c = .queued := by simpa using (List.mem_filter.mp hhold).2
  rw [hqueued] at hc
  exact hc

theorem Healthy.locked_update (h : Healthy s) (hkeeps : (s.phase c).Holds → p.Holds) (d : Nat)
    (hd : s.lock = some d) : (Function.update s.phase c p d).Holds := by
  by_cases hdc : d = c
  · subst hdc
    simpa using hkeeps (h.locked d hd)
  · rw [Function.update_of_ne hdc]
    exact h.locked d hd

/-- **Phase rule.** A call that goes on without an error keeps the connection
    healthy. -/
theorem Healthy.of_call (h : Healthy s) (hmatched : Matched (fun _ => none) t)
    (hphase : t.phase = Function.update s.phase c p)
    (hsame : t.dead = s.dead ∧ t.reader = s.reader ∧ t.broken = s.broken ∧ t.reply = s.reply)
    (hpending : ∀ w ∈ s.pending, w ∈ t.pending) (hfine : p.Fine)
    (hawaits : p.Awaits → s.reply c = none → c ∈ t.pending)
    (hlock : ∀ d, t.lock = some d → (Function.update s.phase c p d).Holds) : Healthy t := by
  obtain ⟨hdead, hreader, hbroken, hreply⟩ := hsame
  refine ⟨hmatched, hdead.trans h.alive, hreader.trans h.reading, hbroken.trans h.sound, ?_, ?_, ?_,
    ?_⟩
  · rw [hphase]
    exact hlock
  · intro d
    rw [hphase]
    by_cases hdc : d = c
    · subst hdc
      simpa using hfine
    · rw [Function.update_of_ne hdc]
      exact h.fine d
  · rw [hreply]
    exact h.reply
  -- who awaits a reply keeps its place in the queue
  · intro d hd hnone
    rw [hphase] at hd
    rw [hreply] at hnone
    by_cases hdc : d = c
    · subst hdc
      exact hawaits (by simpa using hd) hnone
    · rw [Function.update_of_ne hdc] at hd
      exact hpending d (h.awaited d hd hnone)

theorem Healthy.of_wire (h : Healthy s) (hmatched : Matched (fun _ => none) t)
    (hsame : t = { s with sent := t.sent, inbound := t.inbound, events := t.events }) :
    Healthy t := by
  rw [hsame] at hmatched ⊢
  exact ⟨hmatched, h.alive, h.reading, h.sound, h.locked, h.fine, h.reply, h.awaited⟩

theorem inStep_of_none (s : Client) (m : Move) : InStep (fun _ => none) s m := by
  cases m with
  | write c failure =>
    cases failure with
    | none => exact fun _ _ _ _ _ => rfl
    | some msg => trivial
  | _ => trivial

theorem Healthy.call (h : Healthy s) (c : Nat) :
    Healthy (s.step (fun _ => none) (s.callMove c)) := by
  have hmatched := h.matched.step (s.callMove c) (inStep_of_none s _)
  have hfine := h.fine c
  have halive := h.alive
  cases hp : s.phase c with
  | idle =>
    simp only [callMove, step, hp, halive, if_true, Bool.false_eq_true, if_false] at hmatched ⊢
    exact h.of_call hmatched rfl ⟨rfl, rfl, rfl, rfl⟩ (fun _ hw => hw) trivial False.elim
      (h.locked_update (by simp [hp, CallPhase.Holds]))
  | checked =>
    simp only [callMove, step, hp, true_and] at hmatched ⊢
    split at hmatched
    · rename_i hlock
      rw [if_pos hlock]
      refine h.of_call hmatched rfl ⟨rfl, rfl, rfl, rfl⟩ (fun _ hw => hw) trivial False.elim ?_
      intro d hd
      obtain rfl : c = d := Option.some.inj hd
      simp [CallPhase.Holds]
    · rename_i hlock
      rw [if_neg hlock]
      exact h
  | locked =>
    simp only [callMove, step, hp, if_true] at hmatched ⊢
    exact h.of_call hmatched rfl ⟨rfl, rfl, rfl, rfl⟩ (fun _ hw => List.mem_append_left _ hw)
      trivial False.elim (h.locked_update fun _ => trivial)
  | queued =>
    -- whoever is about to write has queued its waiter under the lock
    have hc : c ∈ s.pending := by
      have hlock := h.matched.lock c (by rw [hp]; trivial)
      rw [h.pending_eq, holding_of_phase hlock hp]
      simp
    simp only [callMove, step, hp, h.sound, if_true, Bool.false_eq_true, if_false] at hmatched ⊢
    exact h.of_call hmatched rfl ⟨rfl, rfl, rfl, rfl⟩ (fun _ hw => hw) trivial (fun _ _ => hc)
      (h.locked_update fun _ => trivial)
  | wrote r =>
    cases r with
    | ok _ =>
      simp only [callMove, step, hp] at hmatched ⊢
      exact h.of_call hmatched rfl ⟨rfl, rfl, rfl, rfl⟩ (fun _ hw => hw) trivial
        (fun _ => h.awaited c (by rw [hp]; trivial)) (fun _ hd => by cases hd)
    | error e => simp [hp, CallPhase.Fine] at hfine
  | unlocked =>
    simp only [callMove, step, hp, halive, if_true, Bool.false_eq_true, if_false] at hmatched ⊢
    exact h.of_call hmatched rfl ⟨rfl, rfl, rfl, rfl⟩ (fun _ hw => hw) trivial
      (fun _ => h.awaited c (by rw [hp]; trivial))
      (h.locked_update (by simp [hp, CallPhase.Holds]))
  | waiting =>
    simp only [callMove, step, hp, if_true] at hmatched ⊢
    cases hr : s.reply c with
    | none => simpa [hr] using h
    | some r =>
      simp only [hr] at hmatched ⊢
      cases r with
      | ok k =>
        exact h.of_call hmatched rfl ⟨rfl, rfl, rfl, rfl⟩ (fun _ hw => hw) trivial False.elim
          (h.locked_update (by simp [hp, CallPhase.Holds]))
      -- nobody is told of an error
      | error e => exact absurd hr (h.reply c e)
  | failing e => simp [hp, CallPhase.Fine] at hfine
  | draining e => simp [hp, CallPhase.Fine] at hfine
  | returned r => simpa [callMove, step, hp] using h

theorem Healthy.read (h : Healthy s) : Healthy (s.step (fun _ => none) .read) := by
  have hmatched := h.matched.step .read (inStep_of_none s _)
  cases hin : s.inbound with
  | nil => simpa [step, h.reading, hin] using h
  | cons f rest =>
    cases f with
    | event e =>
      simp only [step, h.reading, hin] at hmatched ⊢
      exact h.of_wire hmatched (by rw [h.reading])
    | response k =>
      cases hpending : s.pending with
      | nil =>
        -- the response has a waiter
        have hnone := h.pending_eq
        simp [hpending, outstanding, hin, Frame.answered] at hnone
      | cons w more =>
        simp only [step, h.reading, hin, hpending] at hmatched ⊢
        refine ⟨hmatched, h.alive, rfl, h.sound, h.locked, h.fine, ?_, ?_⟩
        · intro d e
          by_cases hdw : d = w
          · simp [hdw]
          · simpa [hdw] using h.reply d e
        · intro d hd hnone
          -- the oldest waiter has its reply now
          have hdw : d ≠ w := by
            rintro rfl
            simp at hnone
          have hmem := h.awaited d hd (by simpa [hdw] using hnone)
          rw [hpending] at hmem
          exact (List.mem_cons.mp hmem).resolve_left hdw

/-- With no request refused, every turn keeps the client healthy. -/
theorem Healthy.turn (h : Healthy s) (t : Turn n) : Healthy (s.turn (fun _ => none) t) := by
  cases t with
  | call c => exact h.call c
  | server =>
    have hmatched := h.matched.step .answer (inStep_of_none s _)
    refine h.of_wire hmatched ?_
    simp only [Client.turn, Turn.move, step]
    split <;> rfl
  | reader =>
    rw [Client.turn, Turn.move, readerMove_reading h.reading]
    exact h.read
  | publish e => exact h.of_wire (h.matched.step (.publish e) (inStep_of_none s _)) rfl

/-- As long as a call has not returned, somebody has something to do. -/
theorem Healthy.live (h : Healthy s) (houtside : ∀ d, n ≤ d → s.phase d = .idle) (c : Fin n)
    (hc : ∀ r, s.phase c ≠ .returned r) : ∃ p : Party n, s.Ready p := by
  have hfine := h.fine c
  cases hp : s.phase c with
  | checked =>
    cases hlock : s.lock with
    | none => exact ⟨.call c, by simpa [Ready, CanMove, hp] using hlock⟩
    | some d =>
      -- the call that holds the lock can go on
      have hholds := h.locked d hlock
      have hd : d < n := by
        by_contra hd
        rw [houtside d (Nat.not_lt.mp hd)] at hholds
        exact hholds
      refine ⟨.call ⟨d, hd⟩, ?_⟩
      simp only [Ready, CanMove]
      cases hpd : s.phase d <;> simp_all [CallPhase.Holds]
  | waiting =>
    cases hreply : s.reply c with
    | some r => exact ⟨.call c, by simp [Ready, CanMove, hp, hreply]⟩
    | none =>
      have hout := h.awaited_outstanding (by rw [hp]; trivial) hreply
      rcases List.mem_append.mp hout with hin | hsent
      · obtain ⟨f, hf, hanswered⟩ := List.mem_filterMap.mp hin
        refine ⟨.reader, ?_⟩
        simp only [Ready, nextResponse, List.findIdx?_isSome, List.any_eq_true]
        exact ⟨f, hf, by simp [hanswered]⟩
      · exact ⟨.server, List.ne_nil_of_mem hsent⟩
  | idle | locked | queued | wrote r | unlocked | failing e | draining e =>
    exact ⟨.call c, by simp [Ready, CanMove, hp]⟩
  | returned r => exact absurd hp (hc r)

theorem turn_outside {refused : Nat → Option Error} (hreading : s.reader = .reading)
    (hsound : s.broken = false) (t : Turn n) (hd : n ≤ d) :
    (s.turn refused t).phase d = s.phase d := by
  cases t with
  | call c =>
    by_cases hmove : s.CanMove c
    · exact (callMove_moved hsound hmove).others d (by omega)
    · rw [turn, Turn.move, callMove_stays hmove]
  | server =>
    simp only [turn, Turn.move, step]
    split <;> rfl
  | reader =>
    rw [turn, Turn.move, readerMove_reading hreading]
    simp only [step]
    repeat' split
    all_goals rfl
  | publish e => rfl

/-- Without an oversized request every call returns its own answer. -/
theorem healthy_returns {schedule : Nat → Turn n} (hfair : FairTo Turn.party schedule) :
    ∃ k, ∀ c : Fin n,
      (after (turn fun _ => none) start schedule k).phase c = .returned (.ok c) := by
  have hstep : ∀ s (t : Turn n), (Healthy s ∧ ∀ d, n ≤ d → s.phase d = .idle) →
      Healthy (s.turn (fun _ => none) t) ∧
        ∀ d, n ≤ d → (s.turn (fun _ => none) t).phase d = .idle := by
    rintro s t ⟨h, houtside⟩
    refine ⟨h.turn t, fun d hd => ?_⟩
    rw [turn_outside h.reading h.sound t hd]
    exact houtside d hd
  obtain ⟨k, hk⟩ := calls_return (fun s => Healthy s ∧ ∀ d, n ≤ d → s.phase d = .idle)
    ⟨healthy_start, fun _ _ => rfl⟩ hstep (fun s h => ⟨h.1.reading, h.1.sound⟩)
    (fun s h c hc => h.1.live h.2 c hc) hfair
  have hhealthy : Healthy (after (turn fun _ => none) start schedule k) :=
    after_invariant healthy_start (fun s t h => h.turn t) k
  refine ⟨k, fun c => ?_⟩
  obtain ⟨r, hr⟩ := hk c
  have hfine := hhealthy.fine c
  cases r with
  | ok j => rw [hr, hhealthy.matched.own c j hr]
  | error e => simp [hr, CallPhase.Fine] at hfine

end Client

/-! ## A lone oversized request -/

/-- A phase of a call whose request is refused with `e`. -/
def CallPhase.Refused (e : Error) : CallPhase → Prop
  | idle | checked | locked | queued => True
  | wrote r => r = .error e
  | failing e' | draining e' => e' = e
  | returned r => r = .error e
  | unlocked | waiting => False

namespace Client

variable {refused : Nat → Option Error} {s : Client} {e : Error} {c d n : Nat}

/-- The connection of one call, whose request is refused. -/
structure Lone (e : Error) (s : Client) : Prop where
  reading : s.reader = .reading
  sound : s.broken = false
  phase : (s.phase 0).Refused e
  fresh : s.phase 0 = .idle → s.dead = false
  free : ¬ (s.phase 0).Holds → s.lock = none
  silent : s.outstanding = []

theorem lone_start : Lone e start where
  reading := rfl
  sound := rfl
  phase := trivial
  fresh := fun _ => rfl
  free := fun _ => rfl
  silent := rfl

theorem Lone.call (h : Lone e s) (he : refused 0 = some e) :
    Lone e (s.step refused (s.callMove 0)) := by
  have hphase := h.phase
  cases hp : s.phase 0 with
  | idle =>
    simp only [callMove, step, hp, h.fresh hp, if_true, Bool.false_eq_true, if_false]
    exact ⟨h.reading, h.sound, by simp [CallPhase.Refused], by simp,
      fun _ => h.free (by simp [hp, CallPhase.Holds]), h.silent⟩
  | checked =>
    have hlock := h.free (by simp [hp, CallPhase.Holds])
    simp only [callMove, step, hp, hlock, and_self, if_true]
    exact ⟨h.reading, h.sound, by simp [CallPhase.Refused], by simp,
      by simp [CallPhase.Holds], h.silent⟩
  | locked =>
    simp only [callMove, step, hp, if_true]
    exact ⟨h.reading, h.sound, by simp [CallPhase.Refused], by simp,
      by simp [CallPhase.Holds], h.silent⟩
  | queued =>
    simp only [callMove, step, hp, he, if_true]
    exact ⟨h.reading, h.sound, by simp [CallPhase.Refused], by simp,
      by simp [CallPhase.Holds], h.silent⟩
  | wrote r =>
    -- the write was refused, and from here the call is on its way out
    obtain rfl : r = .error e := by simpa [hp, CallPhase.Refused] using hphase
    simp only [callMove, step, hp]
    exact ⟨h.reading, h.sound, by simp [CallPhase.Refused], by simp, fun _ => rfl, h.silent⟩
  | failing e' =>
    obtain rfl : e' = e := by simpa [hp, CallPhase.Refused] using hphase
    simp only [callMove, step, hp]
    exact ⟨h.reading, h.sound, by simp [CallPhase.Refused], by simp,
      fun _ => h.free (by simp [hp, CallPhase.Holds]), h.silent⟩
  | draining e' =>
    obtain rfl : e' = e := by simpa [hp, CallPhase.Refused] using hphase
    simp only [callMove, step, hp]
    exact ⟨h.reading, h.sound, by simp [CallPhase.Refused, drainPending],
      by simp [drainPending], fun _ => h.free (by simp [hp, CallPhase.Holds]), h.silent⟩
  | returned r => simpa [callMove, step, hp] using h
  | unlocked => simp [hp, CallPhase.Refused] at hphase
  | waiting => simp [hp, CallPhase.Refused] at hphase

theorem Lone.turn (h : Lone e s) (he : refused 0 = some e) (t : Turn 1) :
    Lone e (s.turn refused t) := by
  -- nothing was sent, so nothing is answered
  obtain ⟨hresponses, hsent⟩ := List.append_eq_nil_iff.mp h.silent
  cases t with
  | call c =>
    obtain rfl : c = 0 := Subsingleton.elim c 0
    exact h.call he
  | server => simpa [Client.turn, Turn.move, step, hsent] using h
  | reader =>
    rw [Client.turn, Turn.move, readerMove_reading h.reading]
    cases hin : s.inbound with
    | nil => simpa [step, hin] using h
    | cons f rest =>
      cases f with
      | event ev =>
        have hread : s.step refused .read =
            { s with inbound := rest, events := s.events ++ [ev] } := by
          simp [step, h.reading, hin]
        rw [hread]
        refine ⟨h.reading, h.sound, h.phase, h.fresh, h.free, ?_⟩
        rw [hin] at hresponses
        simpa [outstanding, hsent] using hresponses
      | response k => simp [hin] at hresponses
  | publish ev =>
    refine ⟨h.reading, h.sound, h.phase, h.fresh, h.free, ?_⟩
    simpa [Client.turn, Turn.move, step, outstanding, hsent] using hresponses

theorem Lone.live (h : Lone e s) (hc : ∀ r, s.phase 0 ≠ .returned r) :
    ∃ p : Party 1, s.Ready p := by
  have hphase := h.phase
  refine ⟨.call 0, ?_⟩
  cases hp : s.phase 0 with
  | checked => simpa [Ready, CanMove, hp] using h.free (by simp [hp, CallPhase.Holds])
  | returned r => exact absurd hp (hc r)
  | waiting => simp [hp, CallPhase.Refused] at hphase
  | _ => simp [Ready, CanMove, hp]

/-- Alone, the refused call returns its error. -/
theorem lone_returns (he : refused 0 = some e) {schedule : Nat → Turn 1}
    (hfair : FairTo Turn.party schedule) :
    ∃ k, (after (turn refused) start schedule k).phase 0 = .returned (.error e) := by
  obtain ⟨k, hk⟩ := calls_return (Lone e) lone_start (fun s t h => h.turn he t)
    (fun s h => ⟨h.reading, h.sound⟩)
    (fun s h c hc => h.live fun r hr => hc r (by rwa [Subsingleton.elim c 0])) hfair
  have hlone : Lone e (after (turn refused) start schedule k) :=
    after_invariant lone_start (fun s t h => h.turn he t) k
  obtain ⟨r, hr⟩ := hk 0
  have hr : (after (turn refused) start schedule k).phase 0 = .returned r := hr
  have hphase := hlone.phase
  obtain rfl : r = .error e := by simpa [hr, CallPhase.Refused] using hphase
  exact ⟨k, hr⟩

/-! ## An oversized request and another one -/

/-- A call that is refused before any other has started leaves the connection dead
    and the others where they were. -/
theorem refused_first (he : refused c = some e) (hdc : d ≠ c) {c' : Fin n} (hc : c' = c) :
    (run (turn refused) start (List.replicate 8 (.call c' : Turn n))).dead = true ∧
      (run (turn refused) start (List.replicate 8 (.call c' : Turn n))).phase d = .idle := by
  subst hc
  simp [run, List.replicate, turn, Turn.move, callMove, step, start, goto, he, drainPending, hdc]

/-- On a dead connection a request fails at once. -/
theorem dead_turn {d : Fin n} (hdead : s.dead = true) (hidle : s.phase d = .idle) :
    (s.turn refused (.call d)).phase d = .returned (.error .closed) := by
  simp [turn, Turn.move, callMove, step, hdead, hidle]

/-- Calls, server and reader in turn. -/
def roundRobin (n : Nat) (j : Nat) : Turn n :=
  if h : j % (n + 2) < n then .call ⟨j % (n + 2), h⟩
  else if j % (n + 2) = n then .server else .reader

theorem roundRobin_fair (n : Nat) : FairTo Turn.party (roundRobin n) := by
  have hturn : ∀ i < n + 2, ∀ k, ((n + 2) * k + i) % (n + 2) = i := by
    intro i hi k
    rw [Nat.mul_add_mod, Nat.mod_eq_of_lt hi]
  intro p k
  have hlate : ∀ i, k ≤ (n + 2) * k + i := by
    intro i
    have hk : 1 * k ≤ (n + 2) * k := Nat.mul_le_mul_right k (by omega)
    omega
  cases p with
  | call c =>
    have hc := hturn c (by omega) k
    exact ⟨(n + 2) * k + c, hlate c, by simp [roundRobin, hc, Turn.party]⟩
  | server =>
    have hn := hturn n (by omega) k
    exact ⟨(n + 2) * k + n, hlate n, by simp [roundRobin, hn, Turn.party]⟩
  | reader =>
    have hn := hturn (n + 1) (by omega) k
    exact ⟨(n + 2) * k + (n + 1), hlate _, by simp [roundRobin, hn, Turn.party]⟩

/-- Call `c` to its end, then `d`, then all in turn. -/
def oneThenOther (c d : Fin n) : Nat → Turn n :=
  startingWith (List.replicate 8 (.call c) ++ [.call d]) (roundRobin n)

/-- A refused request makes the request that comes next fail. -/
theorem next_fails {c d : Fin n} (he : refused c = some e) (hdc : d ≠ c) (j : Nat) (hj : 9 ≤ j) :
    (after (turn refused) start (oneThenOther c d) j).phase d = .returned (.error .closed) := by
  have hne : (d : Nat) ≠ c := fun heq => hdc (Fin.ext heq)
  obtain ⟨hdead, hidle⟩ := refused_first he hne rfl
  have hlast : (after (turn refused) start (oneThenOther c d) 9).phase d =
      .returned (.error .closed) := by
    have hafter : after (turn refused) start (oneThenOther c d)
        (List.replicate 8 (Turn.call c) ++ [Turn.call d]).length =
          run (turn refused) start (List.replicate 8 (.call c) ++ [.call d]) :=
      after_startingWith _
    rw [List.length_append, List.length_replicate, List.length_singleton] at hafter
    rw [hafter, run_append]
    exact dead_turn hdead hidle
  have hstays : ∀ (s : Client) (t : Turn n), s.phase d = .returned (.error .closed) →
      (s.turn refused t).phase d = .returned (.error .closed) :=
    fun s t h => step_returned h _
  exact after_stable hstays hj hlast

/-! ## All sets of requests -/

/-- Only the refusals of the calls that have turns matter. -/
theorem turn_congr {refused' : Nat → Option Error} (h : ∀ c < n, refused c = refused' c) :
    turn (n := n) refused = turn refused' := by
  funext s t
  cases t with
  | call c =>
    simp only [turn, Turn.move, callMove]
    split
    case h_4 => simp only [step, h c c.isLt]
    all_goals rfl
  | server => rfl
  | reader =>
    simp only [turn, Turn.move, readerMove]
    split <;> rfl
  | publish ev => rfl

/-- What becomes of a request if nothing but its size can go wrong. -/
def ownOutcome (payload : Bytes) (c : Nat) : Result Nat :=
  if payload.length > maxFrameBytes then .error (.frameTooLarge payload.length maxFrameBytes)
  else .ok c

/-- **Oversized requests.** For every set of requests that can be encoded, with a
    server that answers in order and no timeout: under all fair schedules every
    oversized request returns `FrameTooLarge` and every other one its own response,
    exactly if there is only one request or none is oversized. -/
theorem oversized_fails_alone_iff (toVec : Request → Except String Bytes)
    (request : Nat → Request) (payload : Nat → Bytes) (n : Nat)
    (hencodes : ∀ c < n, toVec (request c) = .ok (payload c)) :
    (∀ schedule : Nat → Turn n, FairTo Turn.party schedule → ∀ c : Fin n, ∃ k, ∀ j, k ≤ j →
      (after (turn (refusal toVec request)) start schedule j).phase c =
        .returned (ownOutcome (payload c) c)) ↔
      n ≤ 1 ∨ ∀ c < n, (payload c).length ≤ maxFrameBytes := by
  have hrefusal : ∀ c < n, refusal toVec request c =
      if (payload c).length > maxFrameBytes then
        some (.frameTooLarge (payload c).length maxFrameBytes)
      else none := fun c hc => refusal_of_ok (hencodes c hc)
  constructor
  · intro hall
    by_contra hnot
    simp only [not_or, Nat.not_le, not_forall] at hnot
    obtain ⟨hn, c, hc, hbig⟩ := hnot
    -- some other request comes after the oversized one
    obtain ⟨d, hdc⟩ : ∃ d : Fin n, d ≠ ⟨c, hc⟩ :=
      have : Nontrivial (Fin n) := Fin.nontrivial_iff_two_le.mpr hn
      exists_ne _
    have he := hrefusal c hc
    rw [if_pos hbig] at he
    obtain ⟨k, hk⟩ := hall (oneThenOther ⟨c, hc⟩ d) ((roundRobin_fair n).startingWith _) d
    have hfails := next_fails (c := ⟨c, hc⟩) he hdc (max k 9) (le_max_right ..)
    rw [hk _ (le_max_left ..)] at hfails
    have hown := CallPhase.returned.inj hfails
    unfold ownOutcome at hown
    split at hown <;> cases hown
  · intro hwhen schedule hfair c
    have hstays : ∀ {r} (s : Client) (t : Turn n), s.phase c = .returned r →
        (s.turn (refusal toVec request) t).phase c = .returned r :=
      fun s t h => step_returned h _
    suffices hk : ∃ k, (after (turn (refusal toVec request)) start schedule k).phase c =
        .returned (ownOutcome (payload c) c) by
      obtain ⟨k, hk⟩ := hk
      exact ⟨k, fun j hkj => after_stable hstays hkj hk⟩
    by_cases hbig : (payload c).length > maxFrameBytes
    · -- it is the only request
      have hn : n = 1 := by
        rcases hwhen with hn | hsmall
        · exact le_antisymm hn (Nat.one_le_of_lt c.isLt)
        · exact absurd (hsmall c c.isLt) (Nat.not_le.mpr hbig)
      have he := hrefusal c c.isLt
      rw [if_pos hbig] at he
      rw [ownOutcome, if_pos hbig]
      subst hn
      obtain rfl : c = 0 := Subsingleton.elim c 0
      exact lone_returns he hfair
    · have hsmall : ∀ d < n, (payload d).length ≤ maxFrameBytes := by
        rcases hwhen with hn | hsmall
        · intro d hd
          obtain rfl : d = c := by omega
          exact Nat.not_lt.mp hbig
        · exact hsmall
      have hnone : ∀ d < n, refusal toVec request d = none := by
        intro d hd
        rw [hrefusal d hd, if_neg (Nat.not_lt.mpr (hsmall d hd))]
      rw [turn_congr hnone, ownOutcome, if_neg hbig]
      obtain ⟨k, hk⟩ := healthy_returns hfair
      exact ⟨k, hk c⟩

/-- Two pings at the same time return their own answers. -/
theorem oversized_fails_alone_pings :
    FairTo Turn.party (roundRobin 2) ∧ ∃ k, ∀ j, k ≤ j →
      (after (turn (refusal plainJson fun _ => .ping)) start (roundRobin 2) j).phase 1 =
        .returned (.ok 1) := by
  obtain ⟨json, hjson, hsmall⟩ :
      ∃ json, plainJson .ping = .ok json ∧ json.length ≤ maxFrameBytes := ⟨_, rfl, by decide⟩
  have hall := (oversized_fails_alone_iff plainJson (fun _ => .ping) (fun _ => json) 2
    fun _ _ => hjson).mpr (.inr fun _ _ => hsmall)
  have hown := hall (roundRobin 2) (roundRobin_fair 2) 1
  rw [ownOutcome, if_neg (Nat.not_lt.mpr hsmall)] at hown
  exact ⟨roundRobin_fair 2, hown⟩

/-- A ping that comes after the attempt to put 16 MiB on the clipboard fails. -/
theorem ping_fails_after_oversized :
    FairTo Turn.party (oneThenOther (0 : Fin 2) 1) ∧
    refusal plainJson bigClipboard 1 = none ∧
    ∀ j, 9 ≤ j → (after (turn (refusal plainJson bigClipboard)) start
      (oneThenOther (0 : Fin 2) 1) j).phase 1 = .returned (.error .closed) := by
  have hbig : refusal plainJson bigClipboard (0 : Fin 2) =
      some (.frameTooLarge (maxFrameBytes + 47) maxFrameBytes) := by
    rw [refusal_bigClipboard]
    rfl
  refine ⟨(roundRobin_fair 2).startingWith _, ?_, fun j hj => next_fails hbig (by decide) j hj⟩
  rw [refusal_bigClipboard]
  rfl

end Client
end Handfast.Ipc
