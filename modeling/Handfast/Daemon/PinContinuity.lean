/-
  Handfast.Daemon.PinContinuity

  Pins over the life of a daemon.  As long as trust decisions reach the disk, a
  pin is a real fingerprint, a paired device that is online presents it, and a
  pin is never replaced by another one: it is removed by a revocation and only
  then can the device be paired anew.

  The link invariant behind it (`Link.Certified`) adds the disk to
  `Link.Sound`: the row holds every pin, and no fingerprint is empty.  A
  restart, which forgets everything but the rows, keeps it.
-/
import Handfast.Daemon.LinkRefine
import Handfast.Lib.Trace

namespace Handfast.Daemon

open Handfast.Lib Handfast.Protocol Handfast.Core

namespace Link

variable {l : Link} {f : String} {i : Input}

/-- A sound link whose pin is on disk and none of whose fingerprints is empty. -/
structure Certified (l : Link) : Prop extends Sound l where
  live_ne : ∀ f, l.live = some f → f ≠ ""
  stored_ne : ∀ f, l.stored = some f → f ≠ ""
  pinned_stored : ∀ f, l.pinned = some f → l.stored = some f

/-- A pin is never empty. -/
theorem Certified.pinned_ne (h : l.Certified) (hf : l.pinned = some f) : f ≠ "" :=
  h.stored_ne f (h.pinned_stored f hf)

theorem unknown_certified : unknown.Certified :=
  { unknown_sound with
    live_ne := by simp [unknown]
    stored_ne := by simp [unknown, stored]
    pinned_stored := by simp [unknown] }

theorem Certified.step_live_ne (h : l.Certified) (hf : (l.step i).live = some f) : f ≠ "" := by
  have hatt : (l.step i).live = _ := congrArg Prod.snd (step_attachment i)
  rw [hatt] at hf
  cases i with
  | attach conn fingerprint =>
    simp only at hf
    split at hf
    · exact h.live_ne f hf
    · cases hf
      exact hex_ne_empty fingerprint
  | close => cases hf
  | _ => exact h.live_ne f hf

/-- Inputs whose writes succeed keep the invariant. -/
theorem Certified.step (h : l.Certified) (hi : i.saved = true) :
    (l.step i).Certified where
  toSound := h.toSound.step i
  live_ne := fun f hf => h.step_live_ne hf
  stored_ne := by
    intro f hf
    rw [stored, step_row] at hf
    split at hf
    · -- the row was written, with the live fingerprint or with none
      rename_i hw
      have hpin : (l.step i).pinned = some f := hf
      rw [step_pinned h.toSound] at hpin
      by_cases hc : l.Completes i
      · rw [if_pos hc] at hpin
        exact h.live_ne f hpin
      · rw [if_neg hc, if_pos (hw.1.resolve_left hc)] at hpin
        cases hpin
    · exact h.stored_ne f hf
  pinned_stored := by
    intro f hf
    rw [stored, step_row]
    split
    · exact hf
    · -- nothing was written, so the pin is the old one
      rename_i hw
      rw [step_pinned h.toSound] at hf
      by_cases hc : l.Completes i
      · have hknown := h.attached_known (h.attached_of_completes hc)
        exact absurd ⟨.inl hc, hknown, hi⟩ hw
      · rw [if_neg hc] at hf
        split at hf
        · cases hf
        · exact h.pinned_stored f hf

theorem Certified.restart (h : l.Certified) (own : Bool) : (l.restart own).Certified where
  toSound := restart_sound l own
  live_ne := by simp [Link.restart, unknown]
  stored_ne := h.stored_ne
  pinned_stored := by
    intro f hf
    cases own with
    | true => cases hf
    | false => exact hf

/-- A pin is removed, never replaced. -/
theorem step_pin_kept (h : l.Sound) {g : String} (hf : l.pinned = some f)
    (hg : (l.step i).pinned = some g) : g = f := by
  rw [step_pinned h] at hg
  split at hg
  · exact h.live_pinned f g hf hg
  · split at hg
    · cases hg
    · exact Option.some.inj (hg.symm.trans hf)

/-- The same across a restart. -/
theorem restart_pin_kept (h : l.Certified) {own : Bool} {g : String} (hf : l.pinned = some f)
    (hg : (l.restart own).pinned = some g) : g = f := by
  cases own with
  | true => cases hg
  | false => exact Option.some.inj (hg.symm.trans (h.pinned_stored f hf))

end Link

/-! ## The life of a daemon -/

/-- What happens to a daemon: a command in its surroundings, or a restart. -/
inductive LifeEvent where
  | command (env : Env) (c : Command)
  | restart

/-- The store accepts what the event writes. -/
def LifeEvent.Saved : LifeEvent → Prop
  | .command env _ => env.storeWrite = none
  | .restart => True

namespace Manager

def lifeStep (m : Manager) : LifeEvent → Manager
  | .command env c => (m.handle env c).1
  | .restart => m.restart

/-- A daemon that starts for the first time: no device is persisted. -/
def firstStart (kv : Table String String) (self : String) (identity : Identity)
    (target : SaveTarget) : Manager :=
  (new { Store.empty with kv := kv } self identity target).loadPersisted

theorem firstStart_link (kv : Table String String) (self : String) (identity : Identity)
    (target : SaveTarget) (d : String) :
    ((firstStart kv self identity target).link d) = .unknown := by
  rw [firstStart, new_link]
  simp [Store.empty, Link.restart, Link.unknown, Link.stored]

variable {m : Manager}

theorem linkInput_saved {env : Env} (henv : env.storeWrite = none) (d : String)
    (c : Command) : (m.linkInput env d c).saved = true := by
  unfold linkInput
  split
  · cases c with
    | packetFrom e p =>
      simp only [Command.linkInput]
      split
      · split <;> simp [Link.Input.saved, henv]
      · rfl
    | _ => simp [Command.linkInput, Link.Input.saved, henv]
  · rfl

/-- With every write accepted, the disk has the pins that memory has. -/
theorem lifeStep_certified (h : ∀ d, (m.link d).Certified) {e : LifeEvent} (he : e.Saved)
    (d : String) : ((m.lifeStep e).link d).Certified := by
  cases e with
  | command env c =>
    rw [lifeStep, handle_link]
    exact (h d).step (linkInput_saved he d c)
  | restart =>
    rw [lifeStep, restart_link]
    exact (h d).restart _

/-- A pin that survives a command or a restart is the same pin. -/
theorem lifeStep_pin_kept (h : ∀ d, (m.link d).Certified) (e : LifeEvent) {d f g : String}
    (hf : (m.link d).pinned = some f) (hg : ((m.lifeStep e).link d).pinned = some g) : g = f := by
  cases e with
  | command env c =>
    rw [lifeStep, handle_link] at hg
    exact Link.step_pin_kept (h d).toSound hf hg
  | restart =>
    rw [lifeStep, restart_link] at hg
    exact Link.restart_pin_kept (h d) hf hg

/-- What pins mean: a pin is a fingerprint, and an online device presents it. -/
def PinsHold (m : Manager) : Prop :=
  ∀ d f, (m.link d).pinned = some f →
    f ≠ "" ∧ ((m.link d).outbound.isSome → (m.link d).live = some f)

def KeepsPins (m : Manager) (e : LifeEvent) : Prop :=
  ∀ d f g, (m.link d).pinned = some f → ((m.lifeStep e).link d).pinned = some g → g = f

theorem pinsHold_of_certified (h : ∀ d, (m.link d).Certified) : m.PinsHold := by
  intro d f hf
  refine ⟨(h d).pinned_ne hf, fun hout => ?_⟩
  have hlive := (h d).trustFingerprint_eq hout
  rw [hlive, (h d).live_pinned f _ hf hlive]

/-- **Pin continuity.** From an empty device table on disk, through any commands
    and restarts whose writes succeed, pins hold in every state and no step
    replaces one. -/
theorem pin_continuity (kv : Table String String) (self : String) (identity : Identity)
    (target : SaveTarget) (events : List LifeEvent) (hsaved : ∀ e ∈ events, e.Saved) :
    AllStates lifeStep PinsHold (firstStart kv self identity target) events ∧
      AllSteps lifeStep KeepsPins (firstStart kv self identity target) events := by
  have hinit : ∀ d, ((firstStart kv self identity target).link d).Certified := by
    intro d
    rw [firstStart_link]
    exact Link.unknown_certified
  have hsteps : AllSteps lifeStep (fun _ e => e.Saved) (firstStart kv self identity target)
      events := allSteps_of_forall_mem hsaved
  constructor
  · exact (allStates_of_invariant hinit (fun m e hm he => lifeStep_certified hm he) hsteps).mono
      fun m hm => pinsHold_of_certified hm
  · exact allSteps_of_invariant hinit (fun m e hm he => lifeStep_certified hm he)
      (fun m e hm _ d f g hf hg => lifeStep_pin_kept hm e hf hg) hsteps

/-- A phone pairs, the daemon restarts, the phone comes back. -/
def pairThenRestart : List LifeEvent :=
  [.command (.nominal 0) (.connected "phone" (.uniform 1 7)),
   .command (.nominal 1) (.packetFrom "phone" (pairPacket (.nominal 1) true)),
   .command (.nominal 2) (.pairingAnswer "phone" true 0),
   .restart,
   .command (.nominal 3) (.connected "phone" (.uniform 2 7))]

theorem pin_continuity_pairThenRestart :
    let m := firstStart .empty "desk" default (.dir "/tmp")
    ((run lifeStep m pairThenRestart).link "phone").pinned =
        some (hex (Transport.uniform 2 7).peerFingerprint) ∧
      AllStates lifeStep PinsHold m pairThenRestart ∧
      AllSteps lifeStep KeepsPins m pairThenRestart :=
  ⟨by decide, pin_continuity .empty "desk" default (.dir "/tmp") pairThenRestart
    (by simp [pairThenRestart, LifeEvent.Saved, Env.nominal])⟩

end Manager
end Handfast.Daemon
