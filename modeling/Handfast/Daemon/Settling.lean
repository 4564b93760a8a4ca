/-
  Handfast.Daemon.Settling

  Every transfer whose data stream ends comes to an end.  Whatever the peer, the files
  and the user do, and however the actor and the tasks take turns: as long as the task
  of a transfer and the actor get their turns again and again, the record is settled.

  What a data connection delivers is a finite list of bytes here (`Wire`).  A peer
  that never stops sending on a receive of unknown size is outside: `receive_stream`
  would read it for ever.

  What is left to do is the fuel of the task and one turn of the actor to take its
  outcome (`work`).  A step that leaves the work as it is leaves the task as it is, and
  it was not the turn of a party that had something to do.
-/
import Handfast.Daemon.Cancel
import Handfast.Daemon.Receiving
import Handfast.Daemon.Sending

namespace Handfast.Daemon

open Handfast.Lib Handfast.Protocol Handfast.Core

/-- A receive that has ended stays as it is. -/
theorem ReceiveRun.Goes.of_ended {r r' : ReceiveRun} {out : List Event} (h : r.Goes r' out)
    {result : Result String} (hended : r.phase = .ended result) : r' = r := by
  cases h with
  | rests _ => rfl
  | fails hp => exact absurd hended (hp result)
  | stores hp => rcases hp with hp | hp <;> cases hended.symm.trans hp
  | begins hp | skips hp | reads hp | writes hp | hands hp => cases hended.symm.trans hp

namespace SendRun

variable {r : SendRun}

/-- How many more steps a send can take: a step that goes on has sent a byte of the
    announced size. -/
def fuel (r : SendRun) : Nat :=
  match r.phase with
  | .accept => r.task.size - r.done + 2
  | .pump => r.task.size - r.done + 1
  | .ended _ => 0

theorem step_fuel (r : SendRun) (cancelled : Bool) (tick : SendTick) :
    (r.step cancelled tick).1.fuel ≤ r.fuel - 1 := by
  have hended : ∀ {r' : SendRun} {result : Result Unit}, r'.phase = .ended result →
      r'.fuel = 0 := fun h => by simp [fuel, h]
  cases hp : r.phase with
  | ended result => simp [step, fuel, hp]
  | accept =>
    unfold step
    simp only [hp]
    split
    · exact (hended rfl).trans_le (Nat.zero_le _)
    · split
      · exact (hended rfl).trans_le (Nat.zero_le _)
      · simp [fuel, hp]
  | pump =>
    have hstep : r.Pumps tick (r.step cancelled tick).1 := next_pumps hp cancelled tick
    generalize (r.step cancelled tick).1 = r' at hstep ⊢
    cases hstep with
    | fails h | ends h => exact (hended h).trans_le (Nat.zero_le _)
    | wrote hne hless =>
      have hpos := List.length_pos_iff.mpr hne
      simp only [fuel, wrote, hp]
      omega

theorem ended_of_fuel (h : r.fuel = 0) : ∃ result, r.phase = .ended result := by
  unfold fuel at h
  split at h
  · omega
  · omega
  · exact ⟨_, ‹_›⟩

end SendRun

namespace Hub

variable {h : Hub} {id : String} {r : SendRun} {a : HubMove}

/-- Who can get on with a transfer: its receive, its send, or the actor. -/
inductive Turn where
  | receive
  | send
  | settle

def turnOf (id : String) : HubMove → Option Turn
  | .receive i _ _ => if i = id then some .receive else none
  | .send i _ => if i = id then some .send else none
  | .outcome _ i _ => if i = id then some .settle else none
  | .command .. => none

/-- The steps left to a task, and one to take its outcome. -/
def left {R : Type} (fuel : R → Nat) (task : Option R) : Nat := task.elim 0 fun r => fuel r + 1

def work (id : String) (h : Hub) : Nat :=
  left ReceiveRun.fuel (h.receives.get id) + left SendRun.fuel (h.sends.get id)

def Ready (id : String) (h : Hub) : Turn → Prop
  | .receive => ∃ r, h.receives.get id = some r ∧ 0 < r.fuel
  | .send => ∃ r, h.sends.get id = some r ∧ 0 < r.fuel
  | .settle => (h.reported id).isSome = true

/-- A task that is the old one or has used fuel: it is unchanged, or there is less left. -/
theorem left_cases {R : Type} {fuel : R → Nat} {task task' : Option R}
    (h : ∀ r' ∈ task', ∃ r ∈ task, r' = r ∨ fuel r' < fuel r) :
    task' = task ∨ left fuel task' < left fuel task := by
  cases htask' : task' with
  | none => cases task <;> simp [left]
  | some r' =>
    obtain ⟨r, rfl, rfl | hless⟩ := h r' htask'
    · exact .inl rfl
    · exact .inr (Nat.succ_lt_succ hless)

/-- A receive stands still or has less left to do. -/
theorem receive_left (ht : h.Tracked) (hused : h.manager.transfers.get id ≠ none) (a : HubMove) :
    (h.step a).receives.get id = h.receives.get id ∨
      left ReceiveRun.fuel ((h.step a).receives.get id) <
        left ReceiveRun.fuel (h.receives.get id) := by
  refine left_cases fun r' hr' => ?_
  cases step_receives hr' with
  | kept hr => exact ⟨r', hr, .inl rfl⟩
  | started _ => exact absurd ht.numbered.freshId_unused hused
  | @stepped io tools _ r hr =>
    have hgoes : r.Goes (h.receive r io tools).1 (h.receive r io tools).2.2 :=
      r.step_goes (h.cancelled r.id) io tools h.disk
    refine ⟨r, hr, ?_⟩
    by_cases hfuel : r.fuel = 0
    · obtain ⟨result, hended⟩ := ReceiveRun.ended_of_fuel hfuel
      exact .inl (hgoes.of_ended hended)
    · exact .inr (by have := hgoes.fuel; omega)

theorem send_left (ht : h.Tracked) (hused : h.manager.transfers.get id ≠ none) (a : HubMove) :
    (h.step a).sends.get id = h.sends.get id ∨
      left SendRun.fuel ((h.step a).sends.get id) < left SendRun.fuel (h.sends.get id) := by
  refine left_cases fun r' hr' => ?_
  cases step_sends hr' with
  | kept hr => exact ⟨r', hr, .inl rfl⟩
  | started _ => exact absurd ht.numbered.freshId_unused hused
  | @stepped tick _ r hr =>
    refine ⟨r, hr, ?_⟩
    by_cases hfuel : r.fuel = 0
    · obtain ⟨result, hended⟩ := SendRun.ended_of_fuel hfuel
      exact .inl (by rw [SendRun.step, hended])
    · exact .inr (by have := r.step_fuel (h.cancelled r.id) tick; omega)

/-- **One step.** The task of a registered transfer stays as it is, or there is less to do. -/
theorem step_work (ht : h.Tracked) (hused : h.manager.transfers.get id ≠ none) (a : HubMove) :
    (h.step a).work id < h.work id ∨ ((h.step a).receives.get id = h.receives.get id ∧
      (h.step a).sends.get id = h.sends.get id) := by
  unfold work
  rcases receive_left ht hused a with hr | hr <;> rcases send_left ht hused a with hs | hs
  · exact .inr ⟨hr, hs⟩
  · exact .inl (by rw [hr]; omega)
  · exact .inl (by rw [hs]; omega)
  · exact .inl (by omega)

/-- The turn of a party that is ready changes the task. -/
theorem ready_changes {p : Turn} (hturn : turnOf id a = some p) (hready : h.Ready id p)
    (hr : (h.step a).receives.get id = h.receives.get id)
    (hs : (h.step a).sends.get id = h.sends.get id) : False := by
  cases a with
  | command env c control wire => cases hturn
  | receive i io tools =>
    obtain ⟨rfl, rfl⟩ : i = id ∧ Turn.receive = p := by simpa [turnOf] using hturn
    obtain ⟨r, hget, hpos⟩ := hready
    have hgoes : r.Goes (h.receive r io tools).1 (h.receive r io tools).2.2 :=
      r.step_goes (h.cancelled r.id) io tools h.disk
    rw [step_receive hget, hget, Table.get_insert, if_pos rfl, Option.some_inj] at hr
    -- a turn uses fuel, so the task cannot be the same
    have hfuel := hgoes.fuel
    rw [hr] at hfuel
    omega
  | send i tick =>
    obtain ⟨rfl, rfl⟩ : i = id ∧ Turn.send = p := by simpa [turnOf] using hturn
    obtain ⟨r, hget, hpos⟩ := hready
    obtain ⟨out, hout, -⟩ := r.step_goes (h.cancelled r.id) tick
    have hnext : (h.step (.send i tick)).sends.get i =
        some (r.step (h.cancelled r.id) tick).1 := by
      simp only [step, hget]
      rw [hout, performed_publish, Table.get_insert, if_pos rfl]
    rw [hnext, hget, Option.some_inj] at hs
    have hfuel := r.step_fuel (h.cancelled r.id) tick
    rw [hs] at hfuel
    omega
  | outcome env i io =>
    obtain ⟨rfl, rfl⟩ : i = id ∧ Turn.settle = p := by simpa [turnOf] using hturn
    obtain ⟨result, hrep⟩ := Option.isSome_iff_exists.mp hready
    -- the outcome removes the task that reported it
    have hnone : h.receives.get i = none ∧ h.sends.get i = none := by
      rw [← hr, ← hs]
      cases result with
      | ok _ => simp [step_finished hrep]
      | error reason => simp [step_failed hrep]
    simp [reported, hnone] at hrep

theorem reported_of_receive {r : ReceiveRun} (hr : h.receives.get id = some r)
    (hfuel : r.fuel = 0) : (h.reported id).isSome = true := by
  obtain ⟨result, hended⟩ := ReceiveRun.ended_of_fuel hfuel
  cases result <;> simp [reported, hr, ReceiveRun.result, hended]

theorem reported_of_send (hr : h.sends.get id = some r) (hfuel : r.fuel = 0) :
    (h.reported id).isSome = true := by
  obtain ⟨result, hended⟩ := SendRun.ended_of_fuel hfuel
  cases hrecv : (h.receives.get id).bind ReceiveRun.result with
  | some other => simp [reported, hrecv]
  | none => cases result <;> simp [reported, hrecv, hr, SendRun.result, hended]

/-- A registered transfer stays registered. -/
theorem step_registered (ht : h.Tracked) (hused : (h.view id).state ≠ none) (a : HubMove) :
    ((h.step a).view id).state ≠ none := by
  have hnext := step_view ht a id
  generalize (h.step a).view id = v at hnext ⊢
  cases hnext with
  | same | receives _ _ | sends _ _ => exact hused
  | opensReceive hnone | opensSend hnone | opensSettled hnone => exact absurd hnone hused
  | settles _ => simpa using hused

/-- An active transfer has somebody who can get on with it. -/
theorem exists_ready (ht : h.Tracked) (hactive : (h.view id).state = some .active) :
    ∃ p, h.Ready id p := by
  have hstage := ht.stage id
  have hreceives : (h.view id).recv = h.receives.get id := rfl
  have hsends : (h.view id).sending = h.sends.get id := rfl
  generalize h.view id = v at hstage hactive hreceives hsends
  cases hstage with
  | unseen => cases hactive
  | settled _ result => cases result <;> cases hactive
  | @receiving _ _ r _ _ _ =>
    by_cases hfuel : r.fuel = 0
    · exact ⟨.settle, reported_of_receive hreceives.symm hfuel⟩
    · exact ⟨.receive, r, hreceives.symm, Nat.pos_of_ne_zero hfuel⟩
  | @sending _ _ r _ _ _ _ =>
    by_cases hfuel : r.fuel = 0
    · exact ⟨.settle, reported_of_send hsends.symm hfuel⟩
    · exact ⟨.send, r, hsends.symm, Nat.pos_of_ne_zero hfuel⟩

/-- **Every transfer comes to an end.** After any run that has registered a transfer, with
    data connections that deliver finitely many bytes, in every schedule that lets its
    task and the actor have their turns again and again, its record is finished or failed
    at some time. -/
theorem transfers_end (store : Store) (self : String) (identity : Identity) (target : SaveTarget)
    (tempDir : String) (files : LocalFiles) (remote : Files String UInt8)
    (before : List HubMove) (id : String) (schedule : Nat → HubMove)
    (hfair : FairTo (turnOf id) schedule) :
    let h := run Hub.step
      (start (Manager.new store self identity target).loadPersisted tempDir files remote) before
    (h.view id).state ≠ none → ∃ k, ((after Hub.step h schedule k).view id).state = some .finished ∨
      ((after Hub.step h schedule k).view id).state = some .failed := by
  intro h hused
  have ht : h.Tracked := run_tracked (start_tracked ..) before
  have hreg : ∀ h : Hub, (h.view id).state ≠ none → h.manager.transfers.get id ≠ none :=
    fun h hs hnone => hs (by simp [view, hnone])
  refine fairTo_ends (work id) (Ready id) (fun h => h.Tracked ∧ (h.view id).state ≠ none)
    (fun h => (h.view id).state = some .finished ∨ (h.view id).state = some .failed)
    ⟨ht, hused⟩ (fun h a hs => ⟨hs.1.step a, step_registered hs.1 hs.2 a⟩)
    (fun h a hs => ?_) (fun h a p hs hp hready => ?_) (fun h hs hnot => ?_) hfair
  -- a step that does no work for the transfer leaves its tasks as they are
  · refine (step_work hs.1 (hreg h hs.2) a).imp_right fun hsame => ?_
    refine ⟨by rw [work, work, hsame.1, hsame.2], fun p hp => ?_⟩
    cases p <;> simpa [Ready, reported, hsame.1, hsame.2] using hp
  · exact (step_work hs.1 (hreg h hs.2) a).resolve_right fun hsame =>
      ready_changes hp hready hsame.1 hsame.2
  · refine exists_ready hs.1 ?_
    cases hstate : (h.view id).state with
    | none => exact absurd hstate hs.2
    | some state =>
      cases state with
      | active => rfl
      | finished => exact absurd (.inl hstate) hnot
      | failed => exact absurd (.inr hstate) hnot

def inTurns (id : String) (k : Nat) : HubMove :=
  match k % 3 with
  | 0 => .receive id .none .none
  | 1 => .send id { accept := .error "", openFile := none, read := .error "", write := none }
  | _ => .outcome (.nominal 0) id .none

/-- The schedule of the witness gives each task its turn. -/
theorem inTurns_fair (id : String) : FairTo (turnOf id) (inTurns id) := by
  intro p k
  have hmod : 3 * k % 3 = 0 ∧ (3 * k + 1) % 3 = 1 ∧ (3 * k + 2) % 3 = 2 := by omega
  cases p with
  | receive => exact ⟨3 * k, by omega, by simp [inTurns, turnOf, hmod.1]⟩
  | send => exact ⟨3 * k + 1, by omega, by simp [inTurns, turnOf, hmod.2.1]⟩
  | settle => exact ⟨3 * k + 2, by omega, by simp [inTurns, turnOf, hmod.2.2]⟩

theorem transfers_end_oneByte :
    let h := run Hub.step savesToDir (comingIn 1)
    ∃ k, ((after Hub.step h (inTurns "t1") k).view "t1").state = some .finished ∨
      ((after Hub.step h (inTurns "t1") k).view "t1").state = some .failed :=
  transfers_end .empty "desk" default (.dir "/d") "/tmp" .empty .empty (comingIn 1) "t1"
    (inTurns "t1") (inTurns_fair "t1") (by decide)

end Hub

end Handfast.Daemon
