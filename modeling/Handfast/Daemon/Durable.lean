/-
  Handfast.Daemon.Durable

  Trust decisions and the disk.  When the user is told that an unpairing, an
  answer or a pairing went through, a daemon restarted at that moment should
  pin the same certificate as the running one.

  `persist_trust` ignores a failing write and the report goes out all the same,
  so a revocation can be undone by a restart.  The results say exactly when a
  report is true: the decision is written, or the disk held it before.
-/
import Handfast.Daemon.Calls

namespace Handfast.Daemon

open Handfast.Lib Handfast.Protocol Handfast.Core

namespace Link

variable {l : Link} {own : Bool} {i : Input}

def Durable (l : Link) (own : Bool) : Prop := (l.restart own).pinned = l.pinned

/-- The disk will hold `pin`: the write succeeds, or it is there already.  Our
    own id is never restored, so for it only the absence of a pin lasts. -/
def Keeps (l : Link) (own saved : Bool) (pin : Option String) : Prop :=
  if own then pin = none else saved = true ∨ l.stored = pin

/-- What a restart brings back is the stored row, and nothing for our own id. -/
theorem durable_iff : l.Durable own ↔ if own then l.pinned = none else l.stored = l.pinned := by
  cases own
  · exact Iff.rfl
  · exact eq_comm

/-- A device without an entry has nothing to keep. -/
theorem stored_eq_none_of_unknown (hk : l.known = false) (hrow : l.row.isSome → l.known = true) :
    l.stored = none := by
  cases hr : l.row with
  | none => simp [stored, hr]
  | some pin => exact absurd (hrow (by simp [hr])) (by simp [hk])

/-- A decision survives a restart exactly if it is written or was on disk before. -/
theorem durable_step_of_decision (h : l.Sound) (hrow : l.row.isSome → l.known = true ∨ own = true)
    (hi : l.Completes i ∨ l.Revokes i) :
    (l.step i).Durable own ↔ l.Keeps own i.saved (l.step i).pinned := by
  rw [durable_iff]
  unfold Keeps
  cases own with
  | true => exact Iff.rfl
  | false =>
    simp only [Bool.false_eq_true, if_false, or_false] at hrow ⊢
    cases hk : l.known with
    | true =>
      by_cases hs : i.saved = true
      · have hstored : (l.step i).stored = (l.step i).pinned := by
          rw [stored, step_row, if_pos ⟨hi, hk, hs⟩]
          rfl
        simp [hstored, hs]
      · have hstored : (l.step i).stored = l.stored := by
          rw [stored, step_row, if_neg (fun hc => hs hc.2.2), stored]
        simp [hstored, hs]
    | false =>
      -- an unknown device can only be unpaired, and is neither stored nor pinned
      have hstored : (l.step i).stored = l.stored := by
        rw [stored, step_row, if_neg (by simp [hk]), stored]
      have hnc : ¬ l.Completes i := fun hc =>
        absurd (h.attached_known (h.attached_of_completes hc)) (by simp [hk])
      have hpin : (l.step i).pinned = none := by
        rw [step_pinned h, if_neg hnc, if_pos (hi.resolve_left hnc)]
      simp [hstored, hpin, stored_eq_none_of_unknown hk hrow]

/-- An input that decides nothing leaves the disk and the pin as they are. -/
theorem durable_step_of_no_decision (h : l.Sound) (hc : ¬ l.Completes i) (hr : ¬ l.Revokes i) :
    (l.step i).Durable own ↔ l.Keeps own false l.pinned := by
  have hstored : (l.step i).stored = l.stored := by
    rw [stored, step_row, if_neg (fun hw => hw.1.elim hc hr), stored]
  rw [durable_iff, hstored, step_pinned h, if_neg hc, if_neg hr]
  unfold Keeps
  simp

end Link

/-! ## Reports -/

theorem mem_resolutions_some {effects : List Effect} {reply : ReplyTo} {b : Bool} :
    (reply, some b) ∈ resolutions effects ↔ .replied reply (.pairing (.ok b)) ∈ effects := by
  simp only [resolutions, List.mem_filterMap]
  constructor
  · rintro ⟨e, he, hr⟩
    unfold Effect.resolution at hr
    split at hr <;> cases hr
    exact he
  · intro he
    exact ⟨_, he, rfl⟩

namespace Callers

variable {s : Callers} {e : CallEvent} {d : String} {reply : ReplyTo} {env : Env} {c : Command}
  {m : Manager} {accept : Bool}

/-- The event tells somebody that a trust decision about `d` went through: an
    unpairing or an answer is acknowledged, or a waiting pairing call returns
    `Ok(true)`. -/
def Reports (s : Callers) (d : String) : CallEvent → Prop
  | .command env c =>
    let effects := (s.mgr.handle env (s.issued c)).2
    (∃ reply, c = .unpair d reply ∧ .replied reply (.done (.ok ())) ∈ effects) ∨
      (∃ accept reply, c = .pairingAnswer d accept reply ∧
        .replied reply (.done (.ok ())) ∈ effects) ∨
      ∃ call ∈ s.waiting, call.device = d ∧
        .replied call.reply (.pairing (.ok true)) ∈ effects
  | .timeout _ => False

/-- Whatever the event reports survives a restart. -/
def Durable (s : Callers) (e : CallEvent) : Prop :=
  ∀ d, s.Reports d e →
    ((s.step e).mgr.restart.link d).pinned = ((s.step e).mgr.link d).pinned

/-- The decision behind a report is written, or was on disk before. -/
def Kept (s : Callers) : CallEvent → Prop
  | .command env (.unpair d _) =>
    (s.mgr.link d).Keeps (d = s.mgr.selfDeviceId) env.storeWrite.isNone none
  | .command env (.pairingAnswer d accept _) =>
    (∃ deadline ∈ (s.mgr.link d).parked, env.now ≤ deadline) →
      if accept then
        (s.mgr.link d).Keeps (d = s.mgr.selfDeviceId) env.storeWrite.isNone (s.mgr.link d).live
      else (s.mgr.link d).Keeps (d = s.mgr.selfDeviceId) false (s.mgr.link d).pinned
  | .command env (.packetFrom d p) =>
    (Command.packetFrom d p).PairsFrom d → (∃ call ∈ s.waiting, call.device = d) →
      (s.mgr.link d).Keeps (d = s.mgr.selfDeviceId) env.storeWrite.isNone (s.mgr.link d).live
  | _ => True

/-- `Ok(true)` goes to the call in the slot of a device that sends `pair: true`. -/
theorem replied_true_iff :
    .replied reply (.pairing (.ok true)) ∈ (m.handle env c).2 ↔
      ∃ d, c.PairsFrom d ∧ (m.link d).pending = some reply := by
  rw [← mem_resolutions_some, Manager.handle_resolutions]
  cases c with
  | packetFrom d p =>
    simp only [Command.device, Link.mem_resolves_some, Command.PairsFrom, Command.linkInput]
    constructor
    · rintro ⟨hpending, auto, now, saved, hi⟩
      split at hi
      · rename_i hp
        split at hi
        · rename_i wants hw
          cases hi
          exact ⟨d, ⟨rfl, hp, hw⟩, hpending⟩
        · cases hi
      · cases hi
    · rintro ⟨e, ⟨rfl, hp, hw⟩, hpending⟩
      exact ⟨hpending, m.autoAccept env, env.now, env.storeWrite.isNone, by simp [hp, hw]⟩
  | _ => simp [Command.device, Link.mem_resolves_some, Command.PairsFrom, Command.linkInput]

/-- A waiting call returns `Ok(true)` when its device sends `pair: true`. -/
theorem call_returns_iff (h : s.Inv) {call : Call} (hmem : call ∈ s.waiting) :
    .replied call.reply (.pairing (.ok true)) ∈ (s.mgr.handle env c).2 ↔
      c.PairsFrom call.device := by
  rw [replied_true_iff]
  constructor
  · rintro ⟨e, hc, hpending⟩
    rw [h.slot_inj call.device e call.reply (h.waiting_slot call hmem) hpending]
    exact hc
  · intro hc
    exact ⟨call.device, hc, h.waiting_slot call hmem⟩

/-- The user's answer is acknowledged if it is in time. -/
theorem answer_acknowledged_iff :
    .replied reply (.done (.ok ())) ∈ (m.handle env (.pairingAnswer d accept reply)).2 ↔
      ∃ deadline ∈ (m.link d).parked, env.now ≤ deadline := by
  have hparked : (m.link d).parked = m.incomingPairs.get d := rfl
  have hsend : ∀ (m : Manager) p, Effect.replied reply (.done (.ok ())) ∉ m.sendTo env d p := by
    intro m p hmem
    obtain ⟨conn, he⟩ := Manager.mem_sendTo hmem
    cases he
  have hsave : ∀ (m : Manager) b, Effect.replied reply (.done (.ok ())) ∉
      (m.persistTrust env d b).2 := by
    intro m b
    unfold Manager.persistTrust
    cases m.devices.get d <;> simp
  simp only [Manager.handle, Manager.answerIncomingPairing, hparked]
  cases m.incomingPairs.get d with
  | none => simp
  | some deadline =>
    by_cases hlate : env.now > deadline
    · simp [hlate]
    · cases accept <;> simp [hlate, hsend, hsave, Nat.not_lt.mp hlate]

/-- Reported are an unpair, an answer in time, and an acceptance that a call awaits. -/
theorem reports_iff (h : s.Inv) :
    s.Reports d (.command env c) ↔
      (∃ reply, c = .unpair d reply) ∨
        (∃ accept reply, c = .pairingAnswer d accept reply ∧
          ∃ deadline ∈ (s.mgr.link d).parked, env.now ≤ deadline) ∨
        c.PairsFrom d ∧ ∃ call ∈ s.waiting, call.device = d := by
  refine or_congr (exists_congr fun reply => ?_) (or_congr
    (exists_congr fun accept => exists_congr fun reply => ?_) ?_)
  · refine ⟨And.left, fun hc => ⟨hc, ?_⟩⟩
    subst hc
    simp [issued, Manager.handle]
  · refine and_congr_right fun hc => ?_
    subst hc
    exact answer_acknowledged_iff
  · constructor
    · rintro ⟨call, hmem, rfl, hreply⟩
      exact ⟨issued_pairsFrom.mp ((call_returns_iff h hmem).mp hreply), call, hmem, rfl⟩
    · rintro ⟨hc, call, hmem, rfl⟩
      exact ⟨call, hmem, rfl, (call_returns_iff h hmem).mpr (issued_pairsFrom.mpr hc)⟩

/-! ## When a report is true -/

/-- Durability after a command, in terms of the device's link before it. -/
theorem restart_pinned_iff (s : Callers) (env : Env) (c : Command) (d : String) :
    ((s.step (.command env c)).mgr.restart.link d).pinned =
        ((s.step (.command env c)).mgr.link d).pinned ↔
      ((s.mgr.link d).step (s.mgr.linkInput env d (s.issued c))).Durable
        (d = s.mgr.selfDeviceId) := by
  have hself : (s.step (.command env c)).mgr.selfDeviceId = s.mgr.selfDeviceId :=
    Manager.handle_settings.2
  rw [Manager.restart_link, step_link, hself]
  exact Iff.rfl

theorem Inv.row_known_own (h : s.Inv) (d : String) (hrow : (s.mgr.link d).row.isSome) :
    (s.mgr.link d).known = true ∨ decide (d = s.mgr.selfDeviceId) = true :=
  (h.row_known d hrow).imp_right fun hd => decide_eq_true hd

/-- A completed pairing lasts if the live fingerprint is kept. -/
theorem durable_of_completes (h : s.Inv) {i : Link.Input} (hc : (s.mgr.link d).Completes i) :
    ((s.mgr.link d).step i).Durable (d = s.mgr.selfDeviceId) ↔
      (s.mgr.link d).Keeps (d = s.mgr.selfDeviceId) i.saved (s.mgr.link d).live := by
  rw [Link.durable_step_of_decision (h.sound d) (h.row_known_own d) (.inl hc),
    Link.step_pinned (h.sound d), if_pos hc]

theorem durable_unpair_iff (h : s.Inv) :
    s.Durable (.command env (.unpair d reply)) ↔ s.Kept (.command env (.unpair d reply)) := by
  have hinput : s.mgr.linkInput env d (s.issued (.unpair d reply)) =
      .unpair env.storeWrite.isNone := by
    simp [Manager.linkInput, issued, Command.device, Command.linkInput]
  have hlast : ((s.mgr.link d).step (.unpair env.storeWrite.isNone)).Durable
        (d = s.mgr.selfDeviceId) ↔ s.Kept (.command env (.unpair d reply)) := by
    have hrevokes : (s.mgr.link d).Revokes (.unpair env.storeWrite.isNone) := trivial
    rw [Link.durable_step_of_decision (h.sound d) (h.row_known_own d) (.inr hrevokes),
      Link.step_pinned (h.sound d)]
    exact Iff.rfl
  rw [← hlast, ← hinput, ← restart_pinned_iff]
  constructor
  · intro hdur
    exact hdur d ((reports_iff h).mpr (.inl ⟨reply, rfl⟩))
  · intro hdur e hrep
    rcases (reports_iff h).mp hrep with ⟨reply', hc⟩ | ⟨accept, reply', hc, -⟩ | ⟨hc, -⟩
    · cases hc
      exact hdur
    · cases hc
    · exact hc.elim

theorem durable_answer_iff (h : s.Inv) :
    s.Durable (.command env (.pairingAnswer d accept reply)) ↔
      s.Kept (.command env (.pairingAnswer d accept reply)) := by
  have hinput : s.mgr.linkInput env d (s.issued (.pairingAnswer d accept reply)) =
      .answer accept env.now env.storeWrite.isNone := by
    simp [Manager.linkInput, issued, Command.device, Command.linkInput]
  -- it is acknowledged only while the request is open
  have hrep : ∀ e, s.Reports e (.command env (.pairingAnswer d accept reply)) ↔
      e = d ∧ ∃ deadline ∈ (s.mgr.link d).parked, env.now ≤ deadline := by
    intro e
    rw [reports_iff h]
    constructor
    · rintro (⟨reply', hc⟩ | ⟨accept', reply', hc, hin⟩ | ⟨hc, -⟩)
      · cases hc
      · cases hc
        exact ⟨rfl, hin⟩
      · exact hc.elim
    · rintro ⟨rfl, hin⟩
      exact .inr (.inl ⟨accept, reply, rfl, hin⟩)
  have hdur : s.Durable (.command env (.pairingAnswer d accept reply)) ↔
      ((∃ deadline ∈ (s.mgr.link d).parked, env.now ≤ deadline) →
        ((s.mgr.link d).step (.answer accept env.now env.storeWrite.isNone)).Durable
          (d = s.mgr.selfDeviceId)) := by
    simp only [Durable, hrep, restart_pinned_iff]
    rw [← hinput]
    exact ⟨fun hall hin => hall d ⟨rfl, hin⟩, by rintro hone e ⟨rfl, hin⟩; exact hone hin⟩
  rw [hdur]
  refine forall_congr' fun hin => ?_
  cases accept with
  | true => exact durable_of_completes h ⟨rfl, hin⟩
  | false =>
    exact Link.durable_step_of_no_decision (h.sound d) (fun hc => Bool.false_ne_true hc.1) id

/-- An awaited acceptance is durable exactly if its write is kept. -/
theorem durable_packet_iff (h : s.Inv) {p : Packet} :
    s.Durable (.command env (.packetFrom d p)) ↔ s.Kept (.command env (.packetFrom d p)) := by
  have hrep : ∀ e, s.Reports e (.command env (.packetFrom d p)) ↔
      e = d ∧ (Command.packetFrom d p).PairsFrom d ∧ ∃ call ∈ s.waiting, call.device = d := by
    intro e
    rw [reports_iff h]
    constructor
    · rintro (⟨reply, hc⟩ | ⟨accept, reply, hc, -⟩ | ⟨⟨rfl, hp⟩, hcall⟩)
      · cases hc
      · cases hc
      · exact ⟨rfl, ⟨rfl, hp⟩, hcall⟩
    · rintro ⟨rfl, hp, hcall⟩
      exact .inr (.inr ⟨hp, hcall⟩)
  simp only [Durable, hrep, restart_pinned_iff, Kept]
  have hlast : (Command.packetFrom d p).PairsFrom d → (∃ call ∈ s.waiting, call.device = d) →
      (((s.mgr.link d).step (s.mgr.linkInput env d (.packetFrom d p))).Durable
          (d = s.mgr.selfDeviceId) ↔
        (s.mgr.link d).Keeps (d = s.mgr.selfDeviceId) env.storeWrite.isNone
          (s.mgr.link d).live) := by
    rintro hp ⟨call, hmem, rfl⟩
    -- the waiting call owns the slot, so the packet completes its pairing
    have hpending : (s.mgr.link call.device).pending.isSome := by
      simp [h.waiting_slot call hmem]
    rw [durable_of_completes h (Manager.completes_linkInput.mpr (.inl ⟨hp, .inl hpending⟩))]
    obtain ⟨-, htype, hwants⟩ := hp
    simp [Manager.linkInput, Command.device, Command.linkInput, htype, hwants, Link.Input.saved]
  constructor
  · intro hall hp hcall
    exact (hlast hp hcall).mp (hall d ⟨rfl, hp, hcall⟩)
  · rintro hone e ⟨rfl, hp, hcall⟩
    exact (hlast hp hcall).mpr (hone hp hcall)

/-- One event's reports last exactly if their decisions are kept. -/
theorem durable_event_iff (h : s.Inv) : s.Durable e ↔ s.Kept e := by
  cases e with
  | timeout reply => exact ⟨fun _ => trivial, fun _ d hrep => hrep.elim⟩
  | command env c =>
    cases c with
    | unpair d reply => exact durable_unpair_iff h
    | pairingAnswer d accept reply => exact durable_answer_iff h
    | packetFrom d p => exact durable_packet_iff h
    | _ =>
      refine ⟨fun _ => trivial, fun _ d hrep => ?_⟩
      rcases (reports_iff h).mp hrep with ⟨reply', hc⟩ | ⟨accept, reply', hc, -⟩ | ⟨hc, -⟩
      · cases hc
      · cases hc
      · exact hc.elim

/-- **Durable trust.** On any store and with any pattern of failing writes, every
    report of a run survives a restart exactly if every reported decision is
    written or was on disk before. -/
theorem durable_iff_kept (store : Store) (self : String) (identity : Identity)
    (target : SaveTarget) (events : List CallEvent) :
    let s := start (Manager.new store self identity target).loadPersisted
    AllSteps step Durable s events ↔ AllSteps step Kept s events :=
  allSteps_congr Inv (start_inv store self identity target) (fun _ e hs _ => hs.step e)
    fun _ _ hs => durable_event_iff hs

/-- The phone is paired, and unpaired while the disk is full. -/
def unpairOnFullDisk : List CallEvent :=
  [.command (.nominal 0) (.connected "phone" (.uniform 1 7)),
   .command (.nominal 1) (.startPairing "phone" 0),
   .command (.nominal 2) (.packetFrom "phone" (pairPacket (.nominal 2) true)),
   .command { Env.nominal 3 with storeWrite := some "database or disk is full" }
     (.unpair "phone" 0)]

/-- The unpairing is reported, and the restarted daemon still trusts the phone. -/
theorem unpairOnFullDisk_not_durable :
    ¬ AllSteps step Durable (start (Manager.new .empty "desk" default (.dir "/tmp")).loadPersisted)
      unpairOnFullDisk := by
  rintro ⟨-, -, -, h, -⟩
  have hlost := h "phone" (.inl ⟨0, rfl, by simp [issued, Manager.handle]⟩)
  exact absurd hlost (by decide)

end Callers
end Handfast.Daemon
