/-
  Handfast.Daemon.PairingMachine

  The device manager, as far as pairing goes, is a pairing machine for each
  device and nothing else: through all commands and restarts, what it keeps about
  a device, what it publishes about it and which `start_pairing` calls it answers
  are the states and the outputs of `Link`, run on what concerns the device.

  The reply channels of the calls are never copied or lost: a link holds at most
  one, and an input that takes one in gives it out or holds it (`conserves`).  So
  every call is answered exactly once, or its channel waits in the device's slot.
-/
import Handfast.Daemon.Calls
import Handfast.Daemon.News
import Handfast.Daemon.PinContinuity

namespace Handfast.Daemon

open Handfast.Lib Handfast.Protocol Handfast.Core

/-- What gets out about the pairing with a device: an event on the bus, or the answer
    to a call (`none` if its channel is dropped). -/
inductive PairingNews where
  | notice (n : Notice)
  | answer (reply : ReplyTo) (accepted : Option Bool)
  deriving DecidableEq

namespace Link

/-- What happens to a link in the life of its daemon. -/
inductive Life where
  | input (i : Input)
  /-- The daemon restarts; `own` says that the id is its own. -/
  | restart (own : Bool)

def lifeStep (l : Link) : Life → Link
  | .input i => l.step i
  | .restart own => l.restart own

def tells (l : Link) : Life → List PairingNews
  | .input i => (l.notices i).map .notice ++ (l.resolves i).map fun r => .answer r.1 r.2
  -- whoever waited for the old daemon gets nothing from the new one
  | .restart _ => []

/-- The reply channel an input brings. -/
def Input.brings : Input → List ReplyTo
  | .start reply _ => [reply]
  | _ => []

/-- No channel is copied or lost. -/
theorem conserves (l : Link) (i : Input) :
    (l.pending.toList ++ i.brings).Perm
      ((l.resolves i).map Prod.fst ++ (l.step i).pending.toList) := by
  rw [step_pending]
  cases i with
  | start reply queued =>
    simp only [resolves, Input.brings]
    split
    · cases l.pending <;> cases queued <;> simp
    · cases l.pending <;> simp [List.Perm.swap]
  | close | pair wants auto now saved => cases hp : l.pending <;> simp [resolves, Input.brings, hp]
  | _ => simp [resolves, Input.brings]

end Link

namespace Manager

variable {m m₀ : Manager} {d : String}

/-- What an event in the life of a daemon with these settings means for a device. -/
def lifeInput (m : Manager) (d : String) : LifeEvent → Link.Life
  | .command env c => .input (m.linkInput env d c)
  | .restart => .restart (d = m.selfDeviceId)

/-- What an event lets out about the pairing with a device. -/
def tells (d : String) (m : Manager) : LifeEvent → List PairingNews
  | .command env c =>
    let effects := (m.handle env c).2
    (about d (news effects)).map .notice ++
      if c.device = some d then (resolutions effects).map fun r => .answer r.1 r.2 else []
  | .restart => []

/-- The settings that decide what a command means for a device. -/
def SameSettings (m₀ m : Manager) : Prop :=
  m.store.kv = m₀.store.kv ∧ m.selfDeviceId = m₀.selfDeviceId

theorem SameSettings.lifeStep (h : m₀.SameSettings m) (e : LifeEvent) :
    m₀.SameSettings (m.lifeStep e) := by
  cases e with
  | command env c =>
    obtain ⟨hkv, hself⟩ := @handle_settings m env c
    exact ⟨hkv.trans h.1, hself.trans h.2⟩
  | restart => exact h

theorem SameSettings.lifeInput (h : m₀.SameSettings m) (d : String)
    (e : LifeEvent) : m.lifeInput d e = m₀.lifeInput d e := by
  cases e with
  | command env c =>
    have hauto : m.autoAccept env = m₀.autoAccept env := by
      simp only [autoAccept, Store.kvGet, h.1]
    rw [Manager.lifeInput, Manager.lifeInput, linkInput, linkInput, hauto]
  | restart => rw [Manager.lifeInput, Manager.lifeInput, h.2]

theorem lifeStep_link (m : Manager) (d : String) (e : LifeEvent) :
    (m.lifeStep e).link d = (m.link d).lifeStep (m.lifeInput d e) := by
  cases e with
  | command env c => exact m.handle_link env d c
  | restart => exact restart_link

theorem tells_link (m : Manager) (d : String) (e : LifeEvent) :
    m.tells d e = (m.link d).tells (m.lifeInput d e) := by
  cases e with
  | restart => rfl
  | command env c =>
    simp only [tells, about_handle, lifeInput, Link.tells]
    congr 1
    by_cases hc : c.device = some d
    · rw [if_pos hc, handle_resolutions, hc, linkInput, if_pos hc]
    · rw [if_neg hc, linkInput, if_neg hc]
      rfl

/-- **Refinement.** In every life of a daemon, the pairing with a device is a run of the
    pairing machine on what concerns the device, with the same outputs. -/
theorem pairing_refined (m : Manager) (d : String) (life : List LifeEvent) :
    (run lifeStep m life).link d = run Link.lifeStep (m.link d) (life.map (m.lifeInput d)) ∧
      outputs lifeStep (tells d) m life =
        outputs Link.lifeStep Link.tells (m.link d) (life.map (m.lifeInput d)) := by
  refine run_simulates (fun m => m.link d) (m.lifeInput d) m.SameSettings ⟨rfl, rfl⟩
    (fun s e hs => hs.lifeStep e) (fun s e hs => ?_) (fun s e hs => ?_) life
  · rw [lifeStep_link, hs.lifeInput]
  · rw [tells_link, hs.lifeInput]

end Manager

/-! ## Reply channels -/

namespace Callers

variable {s : Callers} {d : String}

/-- The channel of the call to `d` that an event opens. -/
def opens (d : String) (s : Callers) : CallEvent → List ReplyTo
  | .command _ (.startPairing e _) => if e = d then [s.next] else []
  | _ => []

/-- The channels that a command about `d` answers or drops. -/
def answers (d : String) (s : Callers) : CallEvent → List ReplyTo
  | .command env c =>
    if (s.issued c).device = some d then
      (resolutions (s.mgr.handle env (s.issued c)).2).map Prod.fst
    else []
  | .timeout _ => []

def slot (d : String) (s : Callers) : List ReplyTo := (s.mgr.link d).pending.toList

theorem opens_brings (env : Env) (c : Command) :
    s.opens d (.command env c) = (s.mgr.linkInput env d (s.issued c)).brings := by
  cases hi : s.mgr.linkInput env d (s.issued c) with
  | start reply queued =>
    have hissued := Manager.linkInput_eq_start hi
    cases c with
    | startPairing e r =>
      cases hissued
      simp [opens, Link.Input.brings]
    | _ => cases hissued
  | _ =>
    -- a call to `d` would have been such an input
    cases c with
    | startPairing e r =>
      by_cases he : e = d
      · simp [Manager.linkInput, issued, Command.device, Command.linkInput, he] at hi
      · simp [opens, he, Link.Input.brings]
    | _ => rfl

/-- A call that was open or comes in is answered or stays open. -/
theorem step_conserves (d : String) (s : Callers) (e : CallEvent) :
    (s.slot d ++ s.opens d e).Perm (s.answers d e ++ (s.step e).slot d) := by
  cases e with
  | timeout reply => simp [opens, answers, slot, step]
  | command env c =>
    have hlink := (s.mgr.link d).conserves (s.mgr.linkInput env d (s.issued c))
    have hanswers : s.answers d (.command env c) =
        ((s.mgr.link d).resolves (s.mgr.linkInput env d (s.issued c))).map Prod.fst := by
      rw [answers, Manager.linkInput]
      by_cases hc : (s.issued c).device = some d
      · rw [if_pos hc, if_pos hc, Manager.handle_resolutions, hc]
      · rw [if_neg hc, if_neg hc]
        rfl
    rw [hanswers, opens_brings, slot, slot, step_link]
    exact hlink

/-- Channels are numbered in the order of their calls. -/
theorem opens_increasing (d : String) (s : Callers) (events : List CallEvent) :
    (outputs step (opens d) s events).Pairwise (· < ·) ∧
      ∀ r ∈ outputs step (opens d) s events, s.next ≤ r := by
  induction events generalizing s with
  | nil => exact ⟨.nil, fun r hr => by cases hr⟩
  | cons e events ih =>
    obtain ⟨hsorted, hle⟩ := ih (s.step e)
    have hnext : s.next ≤ (s.step e).next := by
      cases e with
      | command env c => exact Nat.le_succ _
      | timeout reply => exact Nat.le_refl _
    -- an exchange is opened under the next number, which is then used up
    have hhere : s.opens d e = [] ∨ s.opens d e = [s.next] ∧ s.next < (s.step e).next := by
      unfold opens
      split
      · split
        · exact .inr ⟨rfl, Nat.lt_succ_self _⟩
        · exact .inl rfl
      · exact .inl rfl
    rcases hhere with hnone | ⟨hone, hlt⟩
    · simp only [outputs, hnone, List.nil_append]
      exact ⟨hsorted, fun r hr => hnext.trans (hle r hr)⟩
    · simp only [outputs, hone, List.singleton_append, List.pairwise_cons, List.mem_cons]
      refine ⟨⟨fun r hr => lt_of_lt_of_le hlt (hle r hr), hsorted⟩, ?_⟩
      rintro r (rfl | hr)
      · exact Nat.le_refl _
      · exact hnext.trans (hle r hr)

/-- **Every call is answered once.** In every run, the channels of the calls to a device
    are those that were answered or dropped, each once, and the one in its slot, if
    any; and a call that still waits is the one in the slot. -/
theorem calls_answered_once (store : Store) (self : String) (identity : Identity)
    (target : SaveTarget) (d : String) (events : List CallEvent) :
    let s := start (Manager.new store self identity target).loadPersisted
    (outputs step (opens d) s events).Nodup ∧
      (outputs step (opens d) s events).Perm
        (outputs step (answers d) s events ++ (run step s events).slot d) ∧
      ∀ call ∈ (run step s events).waiting,
        (run step s events).slot call.device = [call.reply] := by
  intro s
  have hinv : AllStates step Inv s events :=
    allStates_of_preserved (start_inv ..) fun s e hs => hs.step e
  refine ⟨(opens_increasing d s events).1.imp fun h => Nat.ne_of_lt h, ?_, fun call hcall => ?_⟩
  · have hempty : s.slot d = [] := by
      rw [slot, show s.mgr.link d = _ from Manager.new_link ..]
      rfl
    have hrun := outputs_conserved (step_conserves d) events (s := s)
    rwa [hempty] at hrun
  · rw [slot, hinv.last.waiting_slot call hcall]
    rfl

end Callers

end Handfast.Daemon
