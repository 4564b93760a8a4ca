/-
  Handfast.Daemon.Calls

  The callers of `start_pairing`.  The actor keeps a reply channel per device;
  the call that owns it waits outside, in `ManagerHandle::start_pairing`, and
  returns when the channel is answered or dropped, or when its own 30 seconds
  are over, which the actor is not told.

  `Callers` is the actor together with the calls that have not returned.  Every
  `StartPairing` brings a fresh channel; a call also remembers whether an
  `Unpair` of its device was handled since it was made.  The invariant
  (`Callers.Inv`) says that a waiting call owns its device's reply slot.
-/
import Handfast.Daemon.LinkRefine
import Handfast.Lib.Trace

namespace Handfast.Daemon

open Handfast.Lib Handfast.Protocol Handfast.Plugins Handfast.Core

namespace Manager

variable {m : Manager} {env : Env} {d : String} {reply : ReplyTo} {c : Command}

/-- What the link resolves, the handler answers. -/
theorem resolves_mem {r : ReplyTo × Option Bool}
    (h : r ∈ (m.link d).resolves (m.linkInput env d c)) :
    r ∈ resolutions (m.handle env c).2 := by
  rw [handle_resolutions]
  unfold linkInput at h
  split at h
  · rename_i hc
    rw [hc]
    exact h
  · exact absurd h (by simp [Link.resolves])

/-- A start-pairing input comes from a start-pairing command. -/
theorem linkInput_eq_start {queued : Bool} (h : m.linkInput env d c = .start reply queued) :
    c = .startPairing d reply := by
  unfold linkInput at h
  split at h
  · rename_i hc
    cases c with
    | startPairing e reply' => cases hc; cases h; rfl
    -- a packet pairs, or means nothing
    | packetFrom e p =>
      simp only [Command.linkInput] at h
      split at h
      · split at h <;> cases h
      · cases h
    | _ => cases h
  · cases h

end Manager

/-! ## The calls around the actor -/

/-- A `start_pairing` call that has not returned. -/
structure Call where
  reply : ReplyTo
  device : String
  /-- An `Unpair` of the device was handled since the call was made. -/
  revoked : Bool
  deriving DecidableEq

def Call.after (call : Call) : Command → Call
  | .unpair d _ => if call.device = d then { call with revoked := true } else call
  | _ => call

@[simp] theorem Call.after_reply (call : Call) (c : Command) :
    (call.after c).reply = call.reply := by
  unfold Call.after
  split
  · split <;> rfl
  · rfl

@[simp] theorem Call.after_device (call : Call) (c : Command) :
    (call.after c).device = call.device := by
  unfold Call.after
  split
  · split <;> rfl
  · rfl

structure Callers where
  mgr : Manager
  next : ReplyTo
  waiting : List Call

/-- A command reaches the actor, or a waiting call gives up. -/
inductive CallEvent where
  | command (env : Env) (c : Command)
  | timeout (reply : ReplyTo)

namespace Callers

def start (m : Manager) : Callers where
  mgr := m
  next := 0
  waiting := []

/-- The command as it reaches the actor: a start-pairing call brings a fresh
    reply channel, whatever number it was written with. -/
def issued (s : Callers) : Command → Command
  | .startPairing d _ => .startPairing d s.next
  | c => c

def opened (s : Callers) : Command → List Call
  | .startPairing d _ => [{ reply := s.next, device := d, revoked := false }]
  | _ => []

def step (s : Callers) : CallEvent → Callers
  | .command env c =>
    let (mgr, effects) := s.mgr.handle env (s.issued c)
    let returned := (resolutions effects).map Prod.fst
    { mgr := mgr
      next := s.next + 1
      waiting := (s.waiting.map (Call.after · c) ++ s.opened c).filter
        fun call => call.reply ∉ returned }
  | .timeout reply => { s with waiting := s.waiting.filter fun call => call.reply ≠ reply }

/-- Reply slots belong to one device each, a waiting call owns its device's
    slot, and only known devices and our own id have rows. -/
structure Inv (s : Callers) : Prop where
  sound : ∀ d, (s.mgr.link d).Sound
  slot_lt : ∀ d reply, (s.mgr.link d).pending = some reply → reply < s.next
  slot_inj : ∀ d e reply, (s.mgr.link d).pending = some reply →
    (s.mgr.link e).pending = some reply → d = e
  waiting_slot : ∀ call ∈ s.waiting, (s.mgr.link call.device).pending = some call.reply
  row_known : ∀ d, (s.mgr.link d).row.isSome →
    (s.mgr.link d).known = true ∨ d = s.mgr.selfDeviceId

variable {s : Callers} {env : Env} {c : Command} {d : String} {call : Call} {reply : ReplyTo}

theorem step_link (s : Callers) (env : Env) (c : Command) (d : String) :
    ((s.step (.command env c)).mgr.link d) =
      (s.mgr.link d).step (s.mgr.linkInput env d (s.issued c)) :=
  s.mgr.handle_link env d (s.issued c)

theorem step_kv (s : Callers) (e : CallEvent) : (s.step e).mgr.store.kv = s.mgr.store.kv := by
  cases e with
  | timeout reply => rfl
  | command env c => exact Manager.handle_settings.1

theorem mem_waiting_command :
    call ∈ (s.step (.command env c)).waiting ↔
      ((∃ old ∈ s.waiting, old.after c = call) ∨ call ∈ s.opened c) ∧
        call.reply ∉ (resolutions (s.mgr.handle env (s.issued c)).2).map Prod.fst := by
  simp only [step, List.mem_filter, List.mem_append, List.mem_map, decide_eq_true_eq]

/-- The number a start-pairing command reaches the actor with. -/
theorem issued_eq_start (h : s.issued c = .startPairing d reply) :
    reply = s.next := by
  cases c with
  | startPairing e reply' => cases h; rfl
  | _ => cases h

theorem issued_pairsFrom : (s.issued c).PairsFrom d ↔ c.PairsFrom d := by
  cases c <;> exact Iff.rfl

theorem issued_acceptsRequest :
    (s.issued c).AcceptsRequest d ↔ c.AcceptsRequest d := by
  cases c <;> exact Iff.rfl

/-- A slot that an event fills holds the number of the call the event opens. -/
theorem slot_origin (h : ((s.step (.command env c)).mgr.link d).pending = some reply) :
    (s.mgr.link d).pending = some reply ∨
      reply = s.next ∧ (s.issued c).device = some d := by
  rw [step_link] at h
  rcases Link.pending_origin h with hold | ⟨queued, hi⟩
  · exact .inl hold
  · have hc := Manager.linkInput_eq_start hi
    exact .inr ⟨issued_eq_start hc, by rw [hc]; rfl⟩

/-- A call that still waits after a command owns its device's slot. -/
theorem waiting_slot_command (h : s.Inv) (hmem : call ∈ (s.step (.command env c)).waiting) :
    ((s.step (.command env c)).mgr.link call.device).pending = some call.reply := by
  obtain ⟨horigin, hopen⟩ := mem_waiting_command.mp hmem
  -- whoever still waits was not resolved, whichever device one looks at
  have hunresolved : ∀ d, call.reply ∉
      ((s.mgr.link d).resolves (s.mgr.linkInput env d (s.issued c))).map Prod.fst := by
    intro d hr
    obtain ⟨r, hr, hreply⟩ := List.mem_map.mp hr
    exact hopen (List.mem_map.mpr ⟨r, Manager.resolves_mem hr, hreply⟩)
  rw [step_link]
  rcases horigin with ⟨old, hold, rfl⟩ | hnew
  · -- an older call keeps its slot, or it would have been resolved
    have hslot := h.waiting_slot old hold
    rw [← Call.after_reply old c, ← Call.after_device old c] at hslot
    exact (Link.pending_kept_or_resolved hslot).resolve_right (hunresolved _)
  · -- the new call gets the slot, or it would have been resolved
    cases c with
    | startPairing d reply =>
      rw [List.mem_singleton.mp hnew] at hunresolved ⊢
      have hinput : s.mgr.linkInput env d (s.issued (.startPairing d reply)) =
          .start s.next (env.trySend 0).isNone := by
        simp [Manager.linkInput, issued, Command.device, Command.linkInput]
      have hun := hunresolved d
      rw [hinput] at hun ⊢
      exact (Link.start_pending_or_resolved s.next _).resolve_right hun
    | _ => cases hnew

/-- Every event keeps the reply slots and the waiting calls in step. -/
theorem Inv.step (h : s.Inv) (e : CallEvent) : (s.step e).Inv := by
  cases e with
  | timeout reply =>
    exact { h with
      waiting_slot := fun call hc => h.waiting_slot call (List.mem_of_mem_filter hc) }
  | command env c =>
    refine ⟨?_, ?_, ?_, fun call hc => waiting_slot_command h hc, ?_⟩
    · intro d
      rw [step_link]
      exact (h.sound d).step _
    · intro d reply hp
      show reply < s.next + 1
      rcases slot_origin hp with hold | ⟨rfl, -⟩
      · exact Nat.lt_succ_of_lt (h.slot_lt d reply hold)
      · exact Nat.lt_succ_self _
    · intro d e reply hd he
      rcases slot_origin hd with hd | ⟨hnew, hdc⟩ <;> rcases slot_origin he with he | ⟨hnew', hec⟩
      · exact h.slot_inj d e reply hd he
      · -- a new number is not in a slot yet
        exact absurd (hnew' ▸ h.slot_lt d reply hd) (Nat.lt_irrefl _)
      · exact absurd (hnew ▸ h.slot_lt e reply he) (Nat.lt_irrefl _)
      · exact Option.some.inj (hdc.symm.trans hec)
    · intro d hrow
      rw [show (s.step (.command env c)).mgr.selfDeviceId = s.mgr.selfDeviceId from
        Manager.handle_settings.2]
      rw [step_link] at hrow ⊢
      -- a row is written for known devices only, and they stay known
      rcases Link.row_origin hrow with hold | hknown
      · exact (h.row_known d hold).imp_left fun hk => Link.step_known hk _
      · exact .inl (Link.step_known hknown _)

/-- The invariant holds when the daemon starts, on any store. -/
theorem start_inv (store : Store) (self : String) (identity : Identity) (target : SaveTarget) :
    (start (Manager.new store self identity target).loadPersisted).Inv where
  sound := by
    intro d
    rw [start, Manager.new_link]
    exact Link.restart_sound _ _
  slot_lt := by
    intro d reply h
    rw [start, Manager.new_link] at h
    cases h
  slot_inj := by
    intro d e reply h
    rw [start, Manager.new_link] at h
    cases h
  waiting_slot := by simp [start]
  row_known := by
    intro d h
    rw [start, Manager.new_link] at h ⊢
    by_cases hd : d = self
    · exact .inr hd
    · exact .inl (by simpa [Link.restart, hd] using h)

end Callers
end Handfast.Daemon
