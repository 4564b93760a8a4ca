/-
  Handfast.Daemon.Expiry

  Parked pairing requests and their timers.  Parking a request starts a task
  that sleeps for `INCOMING_PAIR_TIMEOUT` and then sends `PairingTimeout` with
  the device id.  The task is never cancelled, and nothing tells which request
  it belongs to.

  `Timed` is the actor with its clock and the timers that still sleep.  A timer
  fires some time after it is due.  The clock of a move is the later of the
  actor's and the move's own, so every list of moves is a possible timing.

  A request is safe from the timers of earlier ones if none of them sleeps when
  it is parked (`Inv`).  How a request is answered is decided by the first
  answer or timeout for its device (`responses_eq`).
-/
import Handfast.Daemon.LinkRefine
import Handfast.Lib.Trace

namespace Handfast.Daemon

open Handfast.Lib Handfast.Protocol Handfast.Core

/-- What a pair packet that is queued to `d` says. -/
def Effect.pairTo (d : String) : Effect → Option Bool
  | .queued e _ packet =>
    if e = d ∧ packet.ptype = typePair then Manager.wantsPair packet else none
  | _ => none

def pairsTo (d : String) (effects : List Effect) : List Bool := effects.filterMap (Effect.pairTo d)

def Effect.timer : Effect → Option String
  | .pairTimer d => some d
  | _ => none

structure Timed where
  manager : Manager
  now : Nat
  /-- Sleeping timers: the device, and when they are due. -/
  timers : List (String × Nat)

inductive TimedMove where
  /-- The actor handles a command; timeouts come from the timers. -/
  | command (env : Env) (c : Command)
  /-- A timer that is due fires, and the actor handles its `PairingTimeout`. -/
  | timeout (env : Env) (deviceId : String) (due : Nat)

def TimedMove.env : TimedMove → Env
  | .command env _ | .timeout env _ _ => env

namespace Timed

def time (s : Timed) (a : TimedMove) : Nat := max s.now a.env.now

def envAt (s : Timed) (a : TimedMove) : Env := { a.env with now := s.time a }

/-- The timer of the move sleeps and is due. -/
def Fires (s : Timed) (a : TimedMove) : Prop :=
  match a with
  | .timeout _ d due => (d, due) ∈ s.timers ∧ due ≤ s.time a
  | .command _ _ => False

instance (s : Timed) : (a : TimedMove) → Decidable (s.Fires a)
  | .timeout env d due =>
    inferInstanceAs (Decidable ((d, due) ∈ s.timers ∧ due ≤ s.time (.timeout env d due)))
  | .command _ _ => inferInstanceAs (Decidable False)

def handled (s : Timed) (a : TimedMove) : Option Command :=
  match a with
  | .command _ (.pairingTimeout _) => none
  | .command _ c => some c
  | .timeout _ d _ => if s.Fires a then some (.pairingTimeout d) else none

def outcome (s : Timed) (a : TimedMove) : Manager × List Effect :=
  match s.handled a with
  | some c => s.manager.handle (s.envAt a) c
  | none => (s.manager, [])

def sleeping (s : Timed) (a : TimedMove) : List (String × Nat) :=
  match a with
  | .timeout _ d due => if s.Fires a then s.timers.erase (d, due) else s.timers
  | .command _ _ => s.timers

def step (s : Timed) (a : TimedMove) : Timed where
  manager := (s.outcome a).1
  now := s.time a
  timers := s.sleeping a ++ ((s.outcome a).2.filterMap Effect.timer).map fun d =>
    (d, s.time a + incomingPairTimeout)

def start (m : Manager) : Timed where
  manager := m
  now := 0
  timers := []

def parked (s : Timed) (d : String) : Option Nat := s.manager.incomingPairs.get d

/-- No timeout removes or declines a request before its deadline. -/
def Lives (s : Timed) (a : TimedMove) : Prop :=
  match a with
  | .timeout _ _ _ => ∀ d deadline, s.parked d = some deadline → s.time a < deadline →
      (s.step a).parked d = some deadline ∧ pairsTo d (s.outcome a).2 = []
  | .command _ _ => True

def parksFor (s : Timed) (a : TimedMove) : Option String :=
  (s.handled a).bind fun c => c.device.filter fun d =>
    (s.manager.link d).Parks (s.manager.linkInput (s.envAt a) d c)

/-- A request is only parked when no timer of the device sleeps. -/
def ParksAlone (s : Timed) (a : TimedMove) : Prop :=
  ∀ d ∈ s.parksFor a, ∀ t ∈ s.timers, t.1 ≠ d

instance (s : Timed) (a : TimedMove) : Decidable (s.ParksAlone a) :=
  inferInstanceAs (Decidable (∀ d ∈ s.parksFor a, ∀ t ∈ s.timers, t.1 ≠ d))

/-! ## Deadlines -/

variable {s : Timed} {a : TimedMove} {c : Command} {d : String} {m : Manager} {env : Env}
  {deadline : Nat} {moves : List TimedMove} {conn : ConnId}

theorem outcome_some (h : s.handled a = some c) : s.outcome a = s.manager.handle (s.envAt a) c := by
  rw [outcome, h]

theorem outcome_none (h : s.handled a = none) : s.outcome a = (s.manager, []) := by
  rw [outcome, h]

theorem now_le_time (s : Timed) (a : TimedMove) : s.now ≤ s.time a := Nat.le_max_left _ _

theorem parked_eq (s : Timed) (d : String) : s.parked d = (s.manager.link d).parked := rfl

/-- A command moves the link as the pairing machine says. -/
theorem link_step (h : s.handled a = some c) (d : String) :
    (s.step a).manager.link d =
      (s.manager.link d).step (s.manager.linkInput (s.envAt a) d c) := by
  have hmanager : (s.step a).manager = (s.manager.handle (s.envAt a) c).1 := by
    rw [step, outcome_some h]
  rw [hmanager, Manager.handle_link]

theorem link_unhandled (h : s.handled a = none) (d : String) :
    (s.step a).manager.link d = s.manager.link d := by
  rw [step, outcome_none h]

/-- The instant of a pair packet is that of the surroundings. -/
theorem now_of_pair {wants auto saved : Bool} {now : Nat}
    (h : m.linkInput env d c = .pair wants auto now saved) : now = env.now := by
  cases c with
  | packetFrom e p =>
    rcases m.linkInput_packetFrom env d e p with hidle | ⟨wants', -, -, -, hpair⟩
    · rw [hidle] at h
      cases h
    · rw [hpair] at h
      cases h
      rfl
  | _ =>
    unfold Manager.linkInput at h
    split at h <;> cases h

/-- A command about another device means nothing to `d`. -/
theorem linkInput_other (h : c.device ≠ some d) :
    m.linkInput env d c = .idle := if_neg h

/-- A request is parked for the device the command is about. -/
theorem device_of_parks (h : (m.link d).Parks (m.linkInput env d c)) :
    c.device = some d := by
  by_contra hne
  rw [linkInput_other hne] at h
  exact h

/-- The deadline of a request after a move: it was parked before, or is parked now. -/
theorem parked_step (h : (s.step a).parked d = some deadline) :
    s.parked d = some deadline ∨
      deadline = s.time a + incomingPairTimeout ∧ ∃ c, s.handled a = some c ∧
        (s.manager.link d).Parks (s.manager.linkInput (s.envAt a) d c) := by
  rw [parked_eq] at h
  cases hc : s.handled a with
  | none =>
    rw [link_unhandled hc] at h
    exact .inl h
  | some c =>
    rw [link_step hc] at h
    rcases (s.manager.link d).step_parked (s.manager.linkInput (s.envAt a) d c) with
      hsame | hnone | ⟨hparks, wants, auto, now, saved, hi, hnew⟩
    · exact .inl (hsame.symm.trans h)
    · rw [hnone] at h
      cases h
    · -- a new request: its deadline counts from the instant of the packet
      rw [hnew] at h
      cases h
      rw [now_of_pair hi]
      exact .inr ⟨rfl, c, rfl, hparks⟩

/-- Deadlines are at most one timeout away, and no timer of the device is due
    before. -/
structure Inv (s : Timed) : Prop where
  ahead : ∀ d deadline, s.parked d = some deadline → deadline ≤ s.now + incomingPairTimeout
  own : ∀ d deadline, s.parked d = some deadline → ∀ due, (d, due) ∈ s.timers → deadline ≤ due

/-- A new timer is due one timeout from now. -/
theorem mem_timers_step {due : Nat} (h : (d, due) ∈ (s.step a).timers) :
    (d, due) ∈ s.timers ∨ due = s.time a + incomingPairTimeout := by
  rcases List.mem_append.mp h with hold | hnew
  · refine .inl ?_
    unfold sleeping at hold
    split at hold
    · split at hold
      · exact List.mem_of_mem_erase hold
      · exact hold
    · exact hold
  · obtain ⟨e, -, heq⟩ := List.mem_map.mp hnew
    cases heq
    exact .inr rfl

theorem Inv.step (hi : Inv s) (halone : s.ParksAlone a) : Inv (s.step a) := by
  have hlater : s.now ≤ (s.step a).now := now_le_time s a
  have hnow : (s.step a).now = s.time a := rfl
  constructor
  · intro d deadline hparked
    rcases parked_step hparked with hbefore | ⟨rfl, -⟩
    · have hle := hi.ahead d deadline hbefore
      omega
    · rw [hnow]
  · intro d deadline hparked due hdue
    rcases parked_step hparked with hbefore | ⟨rfl, c, hc, hparks⟩
    · rcases mem_timers_step hdue with hold | rfl
      · exact hi.own d deadline hbefore due hold
      · -- a timer started now is due no earlier than any deadline there is
        have hle := hi.ahead d deadline hbefore
        omega
    · rcases mem_timers_step hdue with hold | rfl
      · -- a timer of an earlier request
        have hfor : s.parksFor a = some d := by
          simp [parksFor, hc, device_of_parks hparks, hparks]
        exact absurd rfl (halone d hfor (d, due) hold)
      · exact Nat.le_refl _

/-! ## Packets to a device -/

theorem pairsTo_eq (effects : List Effect) :
    pairsTo d effects = (sentTo id d effects).filterMap fun x =>
      if x.2.ptype = typePair then Manager.wantsPair x.2 else none := by
  rw [pairsTo, sentTo, List.filterMap_filterMap]
  refine List.filterMap_congr fun e _ => ?_
  cases e with
  | queued e conn packet => by_cases he : e = d <;> simp [Effect.pairTo, Effect.sentTo, he]
  | _ => rfl

/-- The pair packets of a command about pairing are those of the pairing machine. -/
theorem pairsTo_handle (h : m.linkInput env d c ≠ .idle) :
    pairsTo d (m.handle env c).2 =
      ((m.link d).posts (env.trySend 0).isNone (m.linkInput env d c)).map Prod.snd := by
  rw [pairsTo_eq, Manager.handle_sent h, List.filterMap_map, ← List.filterMap_eq_map]
  apply List.filterMap_congr
  intro x _
  show (if (pairPacket env x.2).ptype = typePair then Manager.wantsPair (pairPacket env x.2)
    else none) = some x.2
  have htype : (pairPacket env x.2).ptype = typePair := rfl
  rw [if_pos htype]
  rfl

/-- A command about another device says nothing to this one. -/
theorem pairsTo_other (h : c.device ≠ some d) : pairsTo d (m.handle env c).2 = [] := by
  refine List.filterMap_eq_nil_iff.mpr fun e he => ?_
  cases e with
  | queued e conn packet =>
    have hne : e ≠ d := fun heq => Manager.not_queued_other h conn packet (heq ▸ he)
    simp [Effect.pairTo, hne]
  | _ => rfl

/-! ## Requests live until their deadline -/

theorem handled_timeout {due : Nat} (h : s.Fires (.timeout env d due)) :
    s.handled (.timeout env d due) = some (.pairingTimeout d) := by
  rw [handled, if_pos h]

/-- A timer that fires finds the request it was started for. -/
theorem Inv.lives (hi : Inv s) (a : TimedMove) : s.Lives a := by
  cases a with
  | command env c => trivial
  | timeout env e due =>
    intro d deadline hparked hearly
    by_cases hfires : s.Fires (.timeout env e due)
    · -- no timer of `d` is due yet, so this is one of another device
      have hne : e ≠ d := by
        rintro rfl
        have hdue := hi.own e deadline hparked due hfires.1
        have hpast := hfires.2
        omega
      have hc := handled_timeout hfires
      have hidle : s.manager.linkInput (s.envAt (.timeout env e due)) d (.pairingTimeout e) =
          .idle := linkInput_other fun h => hne (Option.some.inj h)
      refine ⟨?_, ?_⟩
      · rw [parked_eq, link_step hc, hidle]
        exact hparked
      · rw [outcome_some hc]
        exact pairsTo_other fun h => hne (Option.some.inj h)
    · have hc : s.handled (.timeout env e due) = none := by rw [handled, if_neg hfires]
      rw [parked_eq, link_unhandled hc, outcome_none hc]
      exact ⟨hparked, rfl⟩

theorem start_inv (store : Store) (self : String) (identity : Identity) (target : SaveTarget) :
    Inv (start (Manager.new store self identity target).loadPersisted) where
  ahead := fun d deadline h => by cases h
  own := fun d deadline h => by cases h

/-- **Parked requests.** If no timer of a device sleeps whenever a request of it is
    parked, then no timeout removes or declines a request before its deadline. -/
theorem parked_requests_live (store : Store) (self : String) (identity : Identity)
    (target : SaveTarget) (moves : List TimedMove)
    (h : AllSteps step ParksAlone
      (start (Manager.new store self identity target).loadPersisted) moves) :
    AllSteps step Lives (start (Manager.new store self identity target).loadPersisted) moves :=
  allSteps_of_invariant (start_inv store self identity target) (fun _ _ hi halone => hi.step halone)
    (fun _ a hi _ => hi.lives a) h

def fresh : Timed := start (Manager.new .empty "desk" default (.dir "/d")).loadPersisted

/-- The phone asks at 0 s and the tablet at 10 s; the phone's timer fires at 30 s and it
    asks again at 35 s; that request waits while the tablet's timer fires at 40 s. -/
def overlapping : List TimedMove :=
  [.command (.nominal 0) (.connected "phone" (.uniform 0 7)),
   .command (.nominal 0) (.packetFrom "phone" (pairPacket (.nominal 0) true)),
   .command (.nominal (10 * 10 ^ 9)) (.connected "tablet" (.uniform 1 8)),
   .command (.nominal (10 * 10 ^ 9)) (.packetFrom "tablet" (pairPacket (.nominal 0) true)),
   .timeout (.nominal (30 * 10 ^ 9)) "phone" (30 * 10 ^ 9),
   .command (.nominal (35 * 10 ^ 9)) (.packetFrom "phone" (pairPacket (.nominal 0) true)),
   .timeout (.nominal (40 * 10 ^ 9)) "tablet" (40 * 10 ^ 9)]

/-- The phone asks at 0 s and is refused, asks again at 20 s, and the timer of the
    first request fires at 30 s. -/
def secondRequest : List TimedMove :=
  [.command (.nominal 0) (.connected "phone" (.uniform 0 7)),
   .command (.nominal 0) (.packetFrom "phone" (pairPacket (.nominal 0) true)),
   .command (.nominal (10 * 10 ^ 9)) (.pairingAnswer "phone" false 0),
   .command (.nominal (20 * 10 ^ 9)) (.packetFrom "phone" (pairPacket (.nominal 0) true))]

theorem parked_requests_live_overlapping :
    AllSteps step Lives fresh overlapping ∧
      (run step fresh overlapping).parked "phone" = some (65 * 10 ^ 9) :=
  ⟨parked_requests_live .empty "desk" default (.dir "/d") overlapping (by decide), by decide⟩

def firstTimer : TimedMove := .timeout (.nominal (30 * 10 ^ 9)) "phone" (30 * 10 ^ 9)

/-- The second request is parked until 50 s; the timer removes and declines it at
    30 s. -/
theorem stale_timer_declines :
    (run step fresh secondRequest).parked "phone" = some (50 * 10 ^ 9) ∧
      (run step fresh secondRequest).time firstTimer = 30 * 10 ^ 9 ∧
      ((run step fresh secondRequest).step firstTimer).parked "phone" = none ∧
      pairsTo "phone" ((run step fresh secondRequest).outcome firstTimer).2 = [false] := by
  decide

/-! ## Requests are answered once -/

/-- What decides about a parked request. -/
inductive Verdict where
  | answer (accept : Bool) (time : Nat)
  | timeout
  deriving DecidableEq

/-- The verdict of a move on the request of `d`. -/
def verdict (d : String) (s : Timed) (a : TimedMove) : Option Verdict :=
  match s.handled a with
  | some (.pairingAnswer e accept _) => if e = d then some (.answer accept (s.time a)) else none
  | some (.pairingTimeout e) => if e = d then some .timeout else none
  | _ => none

def verdicts (d : String) (s : Timed) (moves : List TimedMove) : List Verdict :=
  outputs step (fun s a => (verdict d s a).toList) s moves

/-- The responses to `d`: pair packets queued by the handlers of answers and
    timeouts. -/
def responses (d : String) (s : Timed) (a : TimedMove) : List Bool :=
  match s.handled a with
  | some (.pairingAnswer _ _ _) | some (.pairingTimeout _) => pairsTo d (s.outcome a).2
  | _ => []

/-- The device stays connected over one connection with room in its queue, and
    sends no further request and no revocation. -/
structure Undisturbed (d : String) (s : Timed) (a : TimedMove) : Prop where
  queue : ∀ k, a.env.trySend k = none
  calm : ∀ c ∈ s.handled a,
    (s.manager.link d).Calm (s.manager.linkInput (s.envAt a) d c)

def Verdict.response (deadline : Nat) : Verdict → List Bool
  | answer accept time => if time ≤ deadline then [accept] else []
  | timeout => [false]

def acceptedInTime (deadline : Nat) : List Verdict → Bool
  | [] => false
  | .answer accept time :: _ => accept && time ≤ deadline
  | .timeout :: rest => acceptedInTime deadline rest

/-- The first verdict is an answer after the deadline, or a timeout before the user
    accepts in time. -/
def Missed (deadline : Nat) : List Verdict → Prop
  | [] => False
  | .answer _ time :: _ => deadline < time
  | .timeout :: rest => acceptedInTime deadline rest = true

instance (deadline : Nat) : (vs : List Verdict) → Decidable (Missed deadline vs)
  | [] => inferInstanceAs (Decidable False)
  | .answer _ time :: _ => inferInstanceAs (Decidable (deadline < time))
  | .timeout :: rest => inferInstanceAs (Decidable (acceptedInTime deadline rest = true))

/-- Responses to `d` come from commands about it. -/
theorem responses_other (hc : s.handled a = some c) (h : c.device ≠ some d) :
    responses d s a = [] := by
  have hnone : pairsTo d (s.outcome a).2 = [] := by rw [outcome_some hc, pairsTo_other h]
  rw [responses, hc]
  cases c <;> first | rfl | exact hnone

theorem responses_answer {accept : Bool} {reply : ReplyTo}
    (hc : s.handled a = some (.pairingAnswer d accept reply)) :
    responses d s a = ((s.manager.link d).posts (a.env.trySend 0).isNone
      (.answer accept (s.time a) a.env.storeWrite.isNone)).map Prod.snd := by
  have hi : s.manager.linkInput (s.envAt a) d (.pairingAnswer d accept reply) =
      .answer accept (s.time a) a.env.storeWrite.isNone := if_pos rfl
  rw [responses, hc]
  dsimp only
  rw [outcome_some hc, pairsTo_handle (by simp [hi]), hi]
  rfl

theorem responses_timeout (hc : s.handled a = some (.pairingTimeout d)) :
    responses d s a =
      ((s.manager.link d).posts (a.env.trySend 0).isNone .expire).map Prod.snd := by
  have hi : s.manager.linkInput (s.envAt a) d (.pairingTimeout d) = .expire := if_pos rfl
  rw [responses, hc]
  dsimp only
  rw [outcome_some hc, pairsTo_handle (by simp [hi]), hi]
  rfl

/-- Where no request is parked, nothing is answered. -/
theorem responses_unparked (h : s.parked d = none) : responses d s a = [] := by
  have hnone : (s.manager.link d).parked = none := h
  cases hc : s.handled a with
  | none => rw [responses, hc]
  | some c =>
    by_cases hd : c.device = some d
    · cases c with
      | pairingAnswer e accept reply =>
        cases hd
        simp [responses_answer hc, Link.posts, hnone]
      | pairingTimeout e =>
        cases hd
        simp [responses_timeout hc, Link.posts, hnone]
      | _ => rw [responses, hc]
    · exact responses_other hc hd

/-- Undisturbed, a device without a parked request stays without one. -/
theorem unparked_step (hu : Undisturbed d s a) (h : s.parked d = none) :
    (s.step a).parked d = none := by
  rw [parked_eq] at h ⊢
  cases hc : s.handled a with
  | none => rwa [link_unhandled hc]
  | some c =>
    rw [link_step hc]
    exact (hu.calm c hc).parked_none h

/-- Once nothing is parked, no response follows. -/
theorem responses_after (hu : AllSteps step (Undisturbed d) s moves)
    (h : s.parked d = none) : outputs step (responses d) s moves = [] := by
  induction moves generalizing s with
  | nil => rfl
  | cons a moves ih =>
    rw [outputs, responses_unparked h, ih hu.2 (unparked_step hu.1 h), List.nil_append]

/-- A move without a verdict leaves the request where it is. -/
theorem step_of_no_verdict (hu : Undisturbed d s a) (hnone : verdict d s a = none) :
    responses d s a = [] ∧ (s.step a).parked d = s.parked d ∧
      ((s.step a).manager.link d).outbound = (s.manager.link d).outbound := by
  cases hc : s.handled a with
  | none =>
    rw [responses, hc, parked_eq, parked_eq, link_unhandled hc]
    exact ⟨rfl, rfl, rfl⟩
  | some c =>
    have hcalm := hu.calm c hc
    rw [verdict, hc] at hnone
    -- answers and timeouts can only be about another device
    have hinput : (∀ accept now saved,
        s.manager.linkInput (s.envAt a) d c ≠ .answer accept now saved) ∧
          s.manager.linkInput (s.envAt a) d c ≠ .expire ∧ responses d s a = [] := by
      cases c with
      | pairingAnswer e accept reply =>
        have hne : e ≠ d := fun h => by simp [h] at hnone
        have hother : (Command.pairingAnswer e accept reply).device ≠ some d :=
          fun h => hne (Option.some.inj h)
        rw [linkInput_other hother]
        exact ⟨nofun, nofun, responses_other hc hother⟩
      | pairingTimeout e =>
        have hne : e ≠ d := fun h => by simp [h] at hnone
        have hother : (Command.pairingTimeout e).device ≠ some d :=
          fun h => hne (Option.some.inj h)
        rw [linkInput_other hother]
        exact ⟨nofun, nofun, responses_other hc hother⟩
      | packetFrom e p =>
        rw [responses, hc]
        rcases s.manager.linkInput_packetFrom (s.envAt a) d e p with
          hidle | ⟨wants, -, -, -, hpair⟩
        · rw [hidle]
          exact ⟨nofun, nofun, rfl⟩
        · rw [hpair]
          exact ⟨nofun, nofun, rfl⟩
      | _ =>
        rw [responses, hc]
        unfold Manager.linkInput
        split <;> exact ⟨nofun, nofun, rfl⟩
    rw [parked_eq, parked_eq, link_step hc]
    exact ⟨hinput.2.2, hcalm.parked hinput.1 hinput.2.1, hcalm.outbound⟩

/-- A verdict ends the request, with the response it leads to. -/
theorem step_of_verdict {v : Verdict} (hu : Undisturbed d s a) (hv : verdict d s a = some v)
    (hparked : s.parked d = some deadline) (hconn : (s.manager.link d).outbound = some conn) :
    responses d s a = v.response deadline ∧ (s.step a).parked d = none := by
  have hpost (pair : Bool) : (s.manager.link d).post (a.env.trySend 0).isNone pair =
      [(conn, pair)] := by
    simp [Link.post, hu.queue 0, hconn]
  have hlink : (s.manager.link d).parked = some deadline := hparked
  cases hc : s.handled a with
  | none =>
    rw [verdict, hc] at hv
    cases hv
  | some c =>
    rw [verdict, hc] at hv
    cases c with
    -- the user's answer, in time or not
    | pairingAnswer e accept reply =>
      dsimp only at hv
      split at hv
      · rename_i hd
        subst hd
        obtain rfl := Option.some.inj hv
        have hinput : s.manager.linkInput (s.envAt a) e (.pairingAnswer e accept reply) =
            .answer accept (s.envAt a).now (s.envAt a).storeWrite.isNone := if_pos rfl
        refine ⟨?_, ?_⟩
        · rw [responses_answer hc, Link.posts, hpost, hlink, Verdict.response]
          by_cases htime : s.time a ≤ deadline <;> simp [htime]
        rw [parked_eq, link_step hc, hinput, Link.step, hlink]
        dsimp only
        split <;> simp
      · cases hv
    -- the timer
    | pairingTimeout e =>
      dsimp only at hv
      split at hv
      · rename_i hd
        subst hd
        obtain rfl := Option.some.inj hv
        refine ⟨by rw [responses_timeout hc, Link.posts, hpost, hlink]; rfl, ?_⟩
        have hinput : s.manager.linkInput (s.envAt a) e (.pairingTimeout e) = .expire :=
          if_pos rfl
        rw [parked_eq, link_step hc, hinput, Link.step]
      · cases hv
    | _ => cases hv

/-- **Responses.** All responses to a parked request are those of its first verdict. -/
theorem responses_eq (hu : AllSteps step (Undisturbed d) s moves)
    (hparked : s.parked d = some deadline) (hconn : (s.manager.link d).outbound = some conn) :
    outputs step (responses d) s moves =
      ((verdicts d s moves).head?.map (Verdict.response deadline)).getD [] := by
  -- moves without a verdict leave the request parked; the first verdict removes it
  induction moves generalizing s with
  | nil => rfl
  | cons a moves ih =>
    rw [verdicts, outputs, outputs]
    cases hv : verdict d s a with
    | some v =>
      obtain ⟨hresponse, hgone⟩ := step_of_verdict hu.1 hv hparked hconn
      rw [hresponse, responses_after hu.2 hgone, List.append_nil]
      rfl
    | none =>
      obtain ⟨hresponse, hsame, hout⟩ := step_of_no_verdict hu.1 hv
      rw [hresponse, List.nil_append]
      exact ih hu.2 (hsame.trans hparked) (hout.trans hconn)

/-- **One answer.** A parked request of a device that stays connected and is not
    disturbed gets exactly one response by the time its timer has fired, `true` if
    the user accepted in time and `false` otherwise, unless the first verdict was a
    late answer or a timeout that came before an acceptance in time. -/
theorem answered_once_iff (s : Timed) (d : String) (deadline : Nat) (conn : ConnId)
    (window : List TimedMove) (env : Env) (hparked : s.parked d = some deadline)
    (hconn : (s.manager.link d).outbound = some conn)
    (hcalm : AllSteps step (Undisturbed d) s (window ++ [.timeout env d deadline]))
    (hfires : (run step s window).Fires (.timeout env d deadline)) :
    outputs step (responses d) s (window ++ [.timeout env d deadline]) =
        [acceptedInTime deadline (verdicts d s (window ++ [.timeout env d deadline]))] ↔
      ¬ Missed deadline (verdicts d s (window ++ [.timeout env d deadline])) := by
  rw [responses_eq hcalm hparked hconn]
  -- the timer of the request gives a verdict at the latest
  have hlast : verdict d (run step s window) (.timeout env d deadline) = some .timeout := by
    rw [verdict, handled_timeout hfires]
    exact if_pos rfl
  have hsome : verdicts d s (window ++ [.timeout env d deadline]) ≠ [] := by
    rw [verdicts, outputs_append, outputs, hlast]
    simp
  cases hvs : verdicts d s (window ++ [.timeout env d deadline]) with
  | nil => exact absurd hvs hsome
  | cons v rest =>
    cases v with
    | answer accept time =>
      by_cases htime : time ≤ deadline
      · have hright : ¬ Missed deadline (.answer accept time :: rest) := Nat.not_lt.mpr htime
        refine iff_of_true ?_ hright
        simp [Verdict.response, acceptedInTime, htime]
      · have hmissed : Missed deadline (.answer accept time :: rest) := Nat.lt_of_not_le htime
        refine iff_of_false ?_ (not_not.mpr hmissed)
        simp [Verdict.response, htime]
    | timeout => simp [Verdict.response, acceptedInTime, Missed]

def asked : Timed := run step fresh (overlapping.take 2)

theorem answered_once_accepted :
    outputs step (responses "phone") asked
        [.command (.nominal (10 * 10 ^ 9)) (.pairingAnswer "phone" true 0), firstTimer] = [true] :=
  (answered_once_iff asked "phone" (30 * 10 ^ 9) 0
    [.command (.nominal (10 * 10 ^ 9)) (.pairingAnswer "phone" true 0)] (.nominal (30 * 10 ^ 9))
    (by decide) (by decide)
    ⟨⟨fun _ => rfl, by decide⟩, ⟨fun _ => rfl, by decide⟩, trivial⟩ (by decide)).mpr (by decide)

/-- An answer at 31 s, before the timeout is handled, leaves the request without a
    response.  And a request accepted in time, at 40 s, has been declined by the
    timer of the one before it. -/
theorem late_answer_unanswered :
    outputs step (responses "phone") asked
        [.command (.nominal (31 * 10 ^ 9)) (.pairingAnswer "phone" true 0), firstTimer] = [] ∧
      outputs step (responses "phone") (run step fresh secondRequest)
        [firstTimer, .command (.nominal (40 * 10 ^ 9)) (.pairingAnswer "phone" true 0),
          .timeout (.nominal (50 * 10 ^ 9)) "phone" (50 * 10 ^ 9)] = [false] := by
  decide

end Timed
end Handfast.Daemon
