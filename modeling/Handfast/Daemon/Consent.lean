/-
  Handfast.Daemon.Consent

  Pairing needs somebody's consent at the time.  A device should become paired
  only because the user accepts its parked request before the deadline, or
  because it accepts ours while the call that asked is still waiting and has
  not been countermanded by an `Unpair`.

  The actor keeps the reply slot of a call that has timed out, and `Unpair`
  leaves the slot alone, so a late `pair: true` still pins the device.  This is
  the only way consent is missing: with auto-accept off, a run is consented
  throughout exactly if no acceptance meets a slot whose call is gone.
-/
import Handfast.Daemon.Calls

namespace Handfast.Daemon

open Handfast.Lib Handfast.Protocol Handfast.Core

/-- The event is a `pair: true` packet from `d`. -/
def CallEvent.PairsFrom (d : String) : CallEvent → Prop
  | .command _ c => c.PairsFrom d
  | .timeout _ => False

/-- The event is the user accepting the request of `d` no later than `deadline`. -/
def CallEvent.AcceptsBy (d : String) (deadline : Nat) : CallEvent → Prop
  | .command env c => c.AcceptsRequest d ∧ env.now ≤ deadline
  | .timeout _ => False

namespace Callers

variable {s : Callers} {e : CallEvent} {d : String}

/-- The call that sent our request to `d` is waiting, and `d` was not unpaired
    since. -/
def Awaits (s : Callers) (d : String) : Prop :=
  ∃ call ∈ s.waiting, call.device = d ∧ call.revoked = false ∧
    (s.mgr.link d).pending = some call.reply

/-- Whoever becomes paired by the event does so by consent. -/
def Consented (s : Callers) (e : CallEvent) : Prop :=
  ∀ d, (s.mgr.link d).pinned = none → ((s.step e).mgr.link d).pinned.isSome →
    (∃ deadline, (s.mgr.link d).parked = some deadline ∧ e.AcceptsBy d deadline) ∨
      e.PairsFrom d ∧ s.Awaits d

/-- A `pair: true` packet from an unpaired device that finds the reply slot
    taken also finds a call to the device waiting, with no `Unpair` since. -/
def SlotAwaited (s : Callers) (e : CallEvent) : Prop :=
  ∀ d, (s.mgr.link d).pinned = none → (s.mgr.link d).pending.isSome → e.PairsFrom d →
    ∃ call ∈ s.waiting, call.device = d ∧ call.revoked = false

/-- With auto-accept off, an unpaired device becomes paired by an acceptance of
    our request or by the user's. -/
theorem pins_iff (h : s.Inv) (hauto : ∀ env, s.mgr.autoAccept env = false)
    (hp : (s.mgr.link d).pinned = none) :
    ((s.step e).mgr.link d).pinned.isSome ↔
      (e.PairsFrom d ∧ (s.mgr.link d).pending.isSome) ∨
        ∃ deadline, (s.mgr.link d).parked = some deadline ∧ e.AcceptsBy d deadline := by
  cases e with
  | timeout reply => simp [step, hp, CallEvent.PairsFrom, CallEvent.AcceptsBy]
  | command env c =>
    rw [step_link, Link.step_pins_iff (h.sound d) hp, Manager.completes_linkInput,
      issued_pairsFrom, issued_acceptsRequest, hauto env]
    simp only [Bool.false_eq_true, false_and, or_false, Option.mem_def, CallEvent.PairsFrom,
      CallEvent.AcceptsBy]
    refine or_congr Iff.rfl ⟨?_, ?_⟩
    · rintro ⟨hc, deadline, hd, hnow⟩
      exact ⟨deadline, hd, hc, hnow⟩
    · rintro ⟨deadline, hd, hc, hnow⟩
      exact ⟨hc, deadline, hd, hnow⟩

/-- A waiting call to `d` that was not revoked owns the slot. -/
theorem awaits_iff (h : s.Inv) :
    s.Awaits d ↔ ∃ call ∈ s.waiting, call.device = d ∧ call.revoked = false := by
  constructor
  · rintro ⟨call, hmem, hd, hr, -⟩
    exact ⟨call, hmem, hd, hr⟩
  · rintro ⟨call, hmem, rfl, hr⟩
    exact ⟨call, hmem, rfl, hr, h.waiting_slot call hmem⟩

/-- With auto-accept off, pairing is by consent exactly if the slot it finds is awaited. -/
theorem consented_iff (h : s.Inv) (hauto : ∀ env, s.mgr.autoAccept env = false) :
    s.Consented e ↔ s.SlotAwaited e := by
  constructor
  · intro hcons d hp hslot hpair
    have hpins := (pins_iff h hauto hp).mpr (.inl ⟨hpair, hslot⟩)
    rcases hcons d hp hpins with ⟨deadline, -, haccept⟩ | ⟨-, hawaits⟩
    · -- one event is not both a packet and an answer
      cases e with
      | timeout reply => exact haccept.elim
      | command env c => cases c <;> first | exact haccept.1.elim | exact hpair.elim
    · exact (awaits_iff h).mp hawaits
  · intro hslot d hp hpins
    rcases (pins_iff h hauto hp).mp hpins with ⟨hpair, hpending⟩ | haccept
    · exact .inr ⟨hpair, (awaits_iff h).mpr (hslot d hp hpending hpair)⟩
    · exact .inl haccept

/-! ## Runs -/

/-- **Consent.** With auto-accept off, every pairing of a run is by consent
    exactly if every acceptance finds its call waiting. -/
theorem consented_iff_slotAwaited (store : Store) (self : String) (identity : Identity)
    (target : SaveTarget) (hauto : store.kv.get "pairing.auto_accept" ≠ some "1")
    (events : List CallEvent) :
    let s := start (Manager.new store self identity target).loadPersisted
    AllSteps step Consented s events ↔ AllSteps step SlotAwaited s events := by
  refine allSteps_congr
    (fun s => s.Inv ∧ s.mgr.store.kv.get "pairing.auto_accept" ≠ some "1")
    ⟨start_inv store self identity target, hauto⟩ ?_ ?_
  · rintro s e ⟨hinv, hkv⟩ -
    exact ⟨hinv.step e, by rw [step_kv]; exact hkv⟩
  · rintro s e ⟨hinv, hkv⟩
    exact consented_iff hinv (Manager.autoAccept_eq_false hkv)

/-- We ask, the phone accepts at once. -/
def promptAcceptance : List CallEvent :=
  [.command (.nominal 0) (.connected "phone" (.uniform 1 7)),
   .command (.nominal 1) (.startPairing "phone" 0),
   .command (.nominal 2) (.packetFrom "phone" (pairPacket (.nominal 2) true))]

theorem consented_promptAcceptance :
    let s := start (Manager.new .empty "desk" default (.dir "/tmp")).loadPersisted
    ((run step s promptAcceptance).mgr.link "phone").pinned.isSome ∧
      AllSteps step Consented s promptAcceptance := by
  refine ⟨by decide, (consented_iff_slotAwaited .empty "desk" default (.dir "/tmp") (by decide)
    promptAcceptance).mpr ⟨?_, ?_, ?_, trivial⟩⟩
  · exact fun d _ _ h => h.elim
  · exact fun d _ _ h => h.elim
  · intro d _ _ h
    obtain ⟨rfl, -⟩ := h
    decide

/-- We ask, the call times out after 30 seconds, the phone accepts a second later. -/
def lateAcceptance : List CallEvent :=
  [.command (.nominal 0) (.connected "phone" (.uniform 1 7)),
   .command (.nominal 0) (.startPairing "phone" 0),
   .timeout 1,
   .command (.nominal (pairingTimeout + 10 ^ 9))
     (.packetFrom "phone" (pairPacket (.nominal 0) true))]

/-- We ask, unpair the phone, and it accepts. -/
def countermanded : List CallEvent :=
  [.command (.nominal 0) (.connected "phone" (.uniform 1 7)),
   .command (.nominal 1) (.startPairing "phone" 0),
   .command (.nominal 2) (.unpair "phone" 0),
   .command (.nominal 3) (.packetFrom "phone" (pairPacket (.nominal 3) true))]

/-- Both pin the phone without consent. -/
theorem lateAcceptance_not_consented :
    let s := start (Manager.new .empty "desk" default (.dir "/tmp")).loadPersisted
    ¬ AllSteps step Consented s lateAcceptance ∧ ¬ AllSteps step Consented s countermanded := by
  intro s
  constructor
  · rintro ⟨-, -, -, h, -⟩
    rcases h "phone" (by decide) (by decide) with ⟨deadline, -, haccept⟩ | ⟨-, call, hmem, -⟩
    · exact haccept.1.elim
    · -- the call has timed out
      have hnone : (run step s (lateAcceptance.take 3)).waiting = [] := by decide
      exact absurd (hnone ▸ hmem) List.not_mem_nil
  · rintro ⟨-, -, -, h, -⟩
    rcases h "phone" (by decide) (by decide) with ⟨deadline, -, haccept⟩ | ⟨-, call, hmem, -, hr, -⟩
    · exact haccept.1.elim
    · -- the waiting call was revoked
      have hall : ∀ call ∈ (run step s (countermanded.take 3)).waiting, call.revoked = true := by
        decide
      exact absurd (hall call hmem) (by rw [hr]; decide)

end Callers
end Handfast.Daemon
