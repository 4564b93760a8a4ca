/-
  Handfast.Daemon.Cancel

  What a cancel that was answered with `Ok` is worth.

  `cancel_transfer` raises the cancel flag of an active transfer and answers at
  once; the record is settled later, by the outcome of the task, which does not
  look at the flag.  So all depends on whether the task still looks at the flag
  before it ends.  `Stoppable` says so of a task by its phase, and a step of a
  task whose flag is raised stays stoppable (`Stoppable.step`).  Flags are never
  cleared (`step_flagged`), so a transfer cancelled while its task is stoppable
  never finishes, whatever the actor and the other tasks do meanwhile
  (`cancelled_never_finishes`).
-/
import Handfast.Daemon.Lifecycle

namespace Handfast.Daemon

open Handfast.Lib Handfast.Protocol Handfast.Core

/-! ## Tasks that still look at their flag -/

/-- The receive has a cancel check ahead of it, or has failed. -/
def ReceiveRun.Stoppable (r : ReceiveRun) : Prop :=
  match r.phase with
  -- without a data connection the loop with the check is skipped
  | .start => r.task.payload.isSome = true
  | .check _ => True
  -- the chunk that completes the declared size is the last one
  | .write done chunk => r.task.size = unknownSize ∨ done + chunk.length < r.task.size
  | .finish | .copy _ | .ended (.ok _) => False
  | .ended (.error _) => True

/-- The send has a cancel check ahead of it, or has failed. -/
def SendRun.Stoppable (r : SendRun) : Prop :=
  match r.phase with
  | .accept | .pump | .ended (.error _) => True
  | .ended (.ok _) => False

variable {r : ReceiveRun}

/-- A run that can still be stopped has not succeeded. -/
theorem ReceiveRun.Stoppable.result_ne (h : r.Stoppable) :
    r.result ≠ some (.ok ()) := by
  intro hok
  unfold result at hok
  split at hok
  · rename_i hp
    simp [Stoppable, hp] at h
  · cases hok
  · cases hok

theorem SendRun.Stoppable.result_ne {r : SendRun} (h : r.Stoppable) :
    r.result ≠ some (.ok ()) := by
  intro hok
  unfold result at hok
  split at hok
  · rename_i hp
    simp [Stoppable, hp] at h
  · cases hok
  · cases hok

/-- With bytes still to come the next turn looks at the flag again. -/
theorem ReceiveRun.afterWrite_stoppable {done : Nat}
    (h : r.task.size = unknownSize ∨ done < r.task.size) : (r.afterWrite done).Stoppable := by
  have hgoes : ¬ (r.task.size ≠ unknownSize ∧ done ≥ r.task.size) := by
    rintro ⟨hknown, hdone⟩
    rcases h with h | h
    · exact hknown h
    · omega
  rw [afterWrite, if_neg hgoes]
  trivial

/-- With the flag raised, a receive comes to its check or fails before. -/
theorem ReceiveRun.Stoppable.step (h : r.Stoppable) (io : Faults) (tools : Tools)
    (d : Disk) : (r.step true io tools d).1.Stoppable := by
  unfold ReceiveRun.step
  cases hp : r.phase with
  | start =>
    have hpayload : r.task.payload.isSome = true := by simpa [Stoppable, hp] using h
    simp only [hpayload, if_true]
    split <;> trivial
  | check done => trivial
  | write done chunk =>
    have hmore : r.task.size = unknownSize ∨ done + chunk.length < r.task.size := by
      simpa [Stoppable, hp] using h
    simp only []
    split
    · trivial
    · exact afterWrite_stoppable hmore
  | finish => simp [Stoppable, hp] at h
  | copy path => simp [Stoppable, hp] at h
  | ended result => exact h

/-- With the flag raised, a send fails at the next turn of its loop. -/
theorem SendRun.Stoppable.step {r : SendRun} (h : r.Stoppable) (tick : SendTick) :
    (r.step true tick).1.Stoppable := by
  unfold SendRun.step
  cases hp : r.phase with
  | accept =>
    simp only []
    split
    · trivial
    · split <;> trivial
  | pump => trivial
  | ended result => exact h

/-! ## Flags stay raised -/

namespace Manager

variable {m m' : Manager} {id : String}

/-- The cancel flag of a transfer is raised. -/
def Flagged (m : Manager) (id : String) : Prop :=
  ∃ record, m.transfers.get id = some record ∧ record.cancel = true

theorem Flagged.books {c : Command} {all effects : List Effect} (h : m.Flagged id)
    (hn : m.Numbered) (hb : Booking m c all m' effects) : m'.Flagged id := by
  obtain ⟨record, hget, hflag⟩ := h
  cases hb with
  | aside same => exact ⟨record, by rw [same.transfers, hget], hflag⟩
  | @cancel id' record' hget' hset hseq htarget =>
    by_cases heq : id = id'
    · exact ⟨_, by rw [hset id, if_pos heq], rfl⟩
    · exact ⟨record, by rw [hset id, if_neg heq, hget], hflag⟩
  | opens hset hseq htarget hrest =>
    -- the id that is registered was free, so it is another one
    have hne : id ≠ m.freshId := by
      rintro rfl
      cases hget.symm.trans hn.freshId_unused
    exact ⟨record, by rw [hset id, if_neg hne, hget], hflag⟩

theorem Flagged.settle {id' : String} {state : TransferState}
    {reason : Option String → Option String} (h : m.Flagged id) :
    (m.settle id' state reason).Flagged id := by
  obtain ⟨record, hget, hflag⟩ := h
  unfold Manager.settle
  cases hget' : m.transfers.get id' with
  | none => exact ⟨record, hget, hflag⟩
  | some record' =>
    by_cases heq : id = id'
    · subst heq
      obtain rfl := Option.some.inj (hget'.symm.trans hget)
      exact ⟨{ record' with state, reason := reason record'.reason }, by simp, hflag⟩
    · exact ⟨record, by simpa [heq] using hget, hflag⟩

theorem cancelTransfer_answered {env : Env} {reply : ReplyTo} :
    .replied reply (.done (.ok ())) ∈ (m.handle env (.cancelTransfer id reply)).2 ↔
      (m.cancelTransfer id).2 = .ok () := by
  simp [Manager.handle, eq_comm]

/-- A cancel that is answered with `Ok` raises the flag of an active transfer. -/
theorem cancelTransfer_ok (h : (m.cancelTransfer id).2 = .ok ()) :
    (m.cancelTransfer id).1.Flagged id ∧
      ((m.cancelTransfer id).1.transfers.get id).map TransferRecord.state = some .active := by
  unfold cancelTransfer at h ⊢
  cases hget : m.transfers.get id with
  | none => simp [hget] at h
  | some record =>
    by_cases hstate : record.state = .active
    · simp [hstate, Flagged]
    · simp [hget, hstate] at h

end Manager

namespace Hub

open Manager View

variable {h : Hub} {id : String}

theorem cancelled_iff : h.cancelled id = true ↔ h.manager.Flagged id := by
  simp [cancelled, Flagged, Option.any_eq_true]

/-- The cancel flag stays set, whoever moves next. -/
theorem step_flagged (hn : h.manager.Numbered) (hflag : h.manager.Flagged id) (a : HubMove) :
    (h.step a).manager.Flagged id := by
  rcases step_moves h a with hsame | hmoves
  · rwa [hsame]
  · generalize h.step a = h' at hmoves ⊢
    cases hmoves with
    | command hc =>
      rw [handle_manager]
      exact hflag.books hn (handle_books hc)
    | receive _ | send _ _ _ => exact hflag
    | finished _ | failed _ => exact hflag.settle

/-! ## Tasks under a raised flag -/

structure Stoppable (h : Hub) (id : String) : Prop where
  receive : ∀ r, h.receives.get id = some r → r.Stoppable
  send : ∀ r, h.sends.get id = some r → r.Stoppable

theorem Stoppable.reported_ne (hs : h.Stoppable id) : h.reported id ≠ some (.ok ()) := by
  unfold reported
  cases hr : h.receives.get id with
  | none =>
    cases hr' : h.sends.get id with
    | none => simp
    | some r => simpa using (hs.send r hr').result_ne
  | some r =>
    have hrecv := (hs.receive r hr).result_ne
    cases hres : r.result with
    | some result => simpa [hres] using hrecv
    | none =>
      cases hr' : h.sends.get id with
      | none => simp [hres]
      | some r' => simpa [hres] using (hs.send r' hr').result_ne

/-- A flagged transfer never gets past its last look at the flag. -/
theorem Stoppable.step (ht : h.Tracked) (hflag : h.manager.Flagged id) (hs : h.Stoppable id)
    (a : HubMove) : (h.step a).Stoppable id := by
  -- a command starts tasks under a free id
  have hused : id ≠ h.manager.freshId := by
    rintro rfl
    obtain ⟨record, hget, -⟩ := hflag
    cases hget.symm.trans ht.numbered.freshId_unused
  refine ⟨fun r hr => ?_, fun r hr => ?_⟩
  · cases step_receives hr with
    | kept hr => exact hs.receive r hr
    | started => exact absurd rfl hused
    | @stepped io tools _ r₀ hr₀ =>
      -- the flag it looks at is the one of its own transfer
      rw [Hub.receive, (ht.stage id).recv_id hr₀, cancelled_iff.mpr hflag]
      exact (hs.receive r₀ hr₀).step io tools h.disk
  · cases step_sends hr with
    | kept hr => exact hs.send r hr
    | started => exact absurd rfl hused
    | @stepped tick _ r₀ hr₀ =>
      rw [(ht.stage id).sending_id hr₀, cancelled_iff.mpr hflag]
      exact (hs.send r₀ hr₀).step tick

/-! ## A cancelled transfer -/

/-- A transfer that was cancelled in time. -/
structure Stopping (h : Hub) (id : String) : Prop where
  tracked : h.Tracked
  flagged : h.manager.Flagged id
  stoppable : h.Stoppable id
  unfinished : (h.view id).state ≠ some .finished

theorem Stopping.step (hs : h.Stopping id) (a : HubMove) : (h.step a).Stopping id where
  tracked := hs.tracked.step a
  flagged := step_flagged hs.tracked.numbered hs.flagged a
  stoppable := hs.stoppable.step hs.tracked hs.flagged a
  unfinished := by
    have hused : (h.view id).state ≠ none := by
      obtain ⟨record, hget, -⟩ := hs.flagged
      simp [view, hget]
    have hnext := step_view hs.tracked a id
    generalize (h.step a).view id = v' at hnext
    cases hnext with
    | same | receives _ _ | sends _ _ => exact hs.unfinished
    | opensReceive hnone | opensSend hnone | opensSettled hnone => exact absurd hnone hused
    | @settles result hrep =>
      -- the task that reports here has failed
      cases result with
      | ok _ => exact absurd hrep hs.stoppable.reported_ne
      | error reason =>
        cases (h.view id).state <;> simp [settledState]

/-- Only a transfer in state finished was ever reported as finished. -/
theorem Tracked.not_reported_finished (ht : h.Tracked)
    (hstate : (h.view id).state ≠ some .finished) : .transferFinished id ∉ h.log := by
  intro hmem
  have hevent : Event.transferFinished id ∈ (h.view id).events :=
    List.mem_filter.mpr ⟨hmem, by simp [transferOf]⟩
  have hopened : ∀ {counts events}, Opened id counts events →
      Event.transferFinished id ∉ events := by
    rintro counts events ⟨⟨deviceId, direction, fileName, total, rfl⟩, -⟩
    simp [progressEvents]
  have hstory := (ht.stage id).story
  generalize (h.view id).events = events at hevent hstory
  generalize (h.view id).state = state at hstate hstory
  cases hstory with
  | unseen => cases hevent
  | active hopen => exact hopened hopen hevent
  | finished => exact hstate rfl
  | failed reason hopen =>
    rcases List.mem_append.mp hevent with hevent | hevent
    · exact hopened hopen hevent
    · simp at hevent

/-- A cancel that is answered with success has set the flag in time. -/
theorem cancel_stopping (ht : h.Tracked) {env : Env} {reply : ReplyTo}
    {control : Option Fingerprint} {wire : Wire}
    (hok : .replied reply (.done (.ok ())) ∈ (h.manager.handle env (.cancelTransfer id reply)).2)
    (hs : h.Stoppable id) :
    (h.step (.command env (.cancelTransfer id reply) control wire)).Stopping id := by
  obtain ⟨hflag, hactive⟩ := cancelTransfer_ok (cancelTransfer_answered.mp hok)
  have hafter : h.step (.command env (.cancelTransfer id reply) control wire) =
      { h with manager := (h.manager.cancelTransfer id).1 } := rfl
  refine ⟨ht.step _, ?_, ?_, ?_⟩
  · rw [hafter]
    exact hflag
  · rw [hafter]
    exact ⟨hs.receive, hs.send⟩
  · rw [hafter, view_manager, hactive]
    simp

/-- **Cancelled in time.** A transfer whose task still looks at its flag when a
    cancel is answered with `Ok` never becomes finished and is never reported as
    finished, in every run of the daemon and every interleaving of the actor with
    the tasks. -/
theorem cancelled_never_finishes (store : Store) (selfDeviceId : String) (selfIdentity : Identity)
    (saveTarget : SaveTarget) (tempDir : String) (files : LocalFiles)
    (remote : Files String UInt8) (before after : List HubMove) (env : Env) (id : String)
    (reply : ReplyTo) (control : Option Fingerprint) (wire : Wire) :
    let h := run Hub.step (start (Manager.new store selfDeviceId selfIdentity
      saveTarget).loadPersisted tempDir files remote) before
    .replied reply (.done (.ok ())) ∈ (h.manager.handle env (.cancelTransfer id reply)).2 →
    h.Stoppable id →
    AllStates Hub.step
      (fun h => (h.view id).state ≠ some .finished ∧ .transferFinished id ∉ h.log)
      (h.step (.command env (.cancelTransfer id reply) control wire)) after := by
  intro h hok hs
  have ht : h.Tracked := run_tracked (start_tracked ..) before
  have hstates : AllStates Hub.step (Stopping · id)
      (h.step (.command env (.cancelTransfer id reply) control wire)) after :=
    allStates_of_preserved (cancel_stopping ht hok hs) fun h a hs => hs.step a
  exact hstates.mono fun h hs => ⟨hs.unfinished, hs.tracked.not_reported_finished hs.unfinished⟩

/-- A daemon with one file of one byte coming in, after `n` steps of its receive. -/
def comingIn (n : Nat) : List HubMove :=
  [.command (.nominal 0) (.connected "phone" (.uniform 0 1)) none [],
   .command (.nominal 0) (.sharePayload "phone" (oneByteHeader "a") (.ok (.uniform 1 1))) none
     [.bytes [1]]] ++
  List.replicate n (.receive "t1" .none .none)

def goesOn (n : Nat) : List HubMove :=
  List.replicate n (.receive "t1" .none .none) ++
    [.outcome (.nominal 0) "t1" .none]

def savesToDir : Hub :=
  start (Manager.new .empty "desk" default (.dir "/d")).loadPersisted "/tmp" .empty .empty

/-- The cancel comes before the byte was read. -/
theorem cancelled_never_finishes_inTime :
    AllStates Hub.step
      (fun h => (h.view "t1").state ≠ some .finished ∧ .transferFinished "t1" ∉ h.log)
      ((run Hub.step savesToDir (comingIn 1)).step
        (.command (.nominal 0) (.cancelTransfer "t1" 0) none [])) (goesOn 1) := by
  refine cancelled_never_finishes .empty "desk" default (.dir "/d") "/tmp" .empty .empty
    (comingIn 1) (goesOn 1) (.nominal 0) "t1" 0 none [] (cancelTransfer_answered.mpr rfl)
    ⟨fun r hr => ?_, fun r hr => ?_⟩
  · cases hr
    trivial
  · cases hr

/-- The cancel is answered with `Ok` after the last byte was stored, and the
    transfer finishes. -/
theorem cancel_after_last_byte :
    .replied 0 (.done (.ok ())) ∈
      ((run Hub.step savesToDir (comingIn 3)).manager.handle (.nominal 0)
        (.cancelTransfer "t1" 0)).2 ∧
    ((run Hub.step savesToDir (comingIn 3 ++
      .command (.nominal 0) (.cancelTransfer "t1" 0) none [] :: goesOn 1)).view "t1").state =
        some .finished ∧
    .transferFinished "t1" ∈ (run Hub.step savesToDir (comingIn 3 ++
      .command (.nominal 0) (.cancelTransfer "t1" 0) none [] :: goesOn 1)).log :=
  ⟨cancelTransfer_answered.mpr rfl, by decide, by decide⟩

end Hub
end Handfast.Daemon
