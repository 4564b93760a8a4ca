/-
  Handfast.Daemon.Hub

  The actor with the transfer tasks it spawns and the files they share.

  A move is a command of the actor, a step of one task, or the actor taking the
  outcome that a task sent when it ended.  Moves of different tasks and of the
  actor come in any order; a task whose outcome was not taken yet stays in its
  table, so outcomes may be taken in any order too.  Only tasks send
  `TransferOutcome`; as a command from elsewhere it does nothing here.

  The temporary sources of sends do not lie in the save directory; their removal
  is not followed here.
-/
import Handfast.Daemon.Register
import Handfast.Daemon.Streams

namespace Handfast.Daemon

open Handfast.Lib Handfast.Protocol Handfast.Core

/-- What a step of a send says about its transfer: nothing, or its new count. -/
inductive SendRun.Goes (r : SendRun) : SendRun → List Event → Prop where
  | silent {r' : SendRun} (htask : r'.task = r.task) (hdone : r'.done = r.done) : Goes r r' []
  | progress {r' : SendRun} (htask : r'.task = r.task) (hdone : r.done ≤ r'.done) :
      Goes r r' [.transferProgress r.id r'.done r.task.size]

/-- The one inversion of a send's turn. -/
theorem SendRun.step_goes (r : SendRun) (cancelled : Bool) (tick : SendTick) :
    ∃ out : List Event, ofTransfers (r.step cancelled tick).2 = out.map .publish ∧
      Goes r (r.step cancelled tick).1 out := by
  have hclose : ∀ (r' : SendRun) (result : Result Unit), r'.task = r.task → r'.done = r.done →
      ∃ out : List Event, ofTransfers (r'.close result).2 = out.map .publish ∧
        Goes r (r'.close result).1 out := fun r' result htask hdone =>
    ⟨[], ofTransfers_cleanup _, .silent htask hdone⟩
  unfold step
  cases r.phase with
  | accept =>
    simp only []
    split
    · exact hclose r _ rfl rfl
    · split
      · exact hclose _ _ rfl rfl
      · exact ⟨[], rfl, .silent rfl rfl⟩
  | pump =>
    cases cancelled with
    | true => exact hclose r _ rfl rfl
    | false =>
      simp only [Bool.false_eq_true, if_false]
      split
      · exact hclose r _ rfl rfl
      · exact hclose r _ rfl rfl
      · split
        · exact hclose _ _ rfl rfl
        · -- a chunk went out: its progress, and after the last one the cleanup
          split
          · refine ⟨[_], ?_, .progress rfl (Nat.le_add_right _ _)⟩
            exact congrArg (List.cons _) (ofTransfers_cleanup r.task.cleanup)
          · exact ⟨[_], rfl, .progress rfl (Nat.le_add_right _ _)⟩
  | ended result => exact ⟨[], rfl, .silent rfl rfl⟩

theorem SendRun.Goes.task {r r' : SendRun} {out : List Event} (h : Goes r r' out) :
    r'.task = r.task := by
  cases h with
  | silent htask => exact htask
  | progress htask => exact htask

/-! ## The system -/

structure Hub where
  manager : Manager
  disk : Disk
  receives : Table String ReceiveRun
  sends : Table String SendRun
  /-- History: the events published about transfers and received files. -/
  log : List Event

inductive HubMove where
  /-- The actor handles a command.  If that starts a receive, `wire` is what its
      data connection will deliver; `control` is the certificate on the connection
      the share header comes in or goes out on. -/
  | command (env : Env) (c : Command) (control : Option Fingerprint) (wire : Wire)
  /-- A receive takes a step. -/
  | receive (id : String) (io : Faults) (tools : Tools)
  /-- A send takes a step. -/
  | send (id : String) (tick : SendTick)
  /-- The actor takes the outcome of a task. -/
  | outcome (env : Env) (id : String) (io : Faults)

namespace Hub

/-- Where the engine stages: in the save directory itself, or in a temporary
    directory if the files go to a URI. -/
def stagingDir (tempDir : String) : SaveTarget → String
  | .dir path => path
  | .uri _ => joinPath tempDir "handfast-received"

def start (m : Manager) (tempDir : String) (files : LocalFiles) (remote : Files String UInt8) :
    Hub where
  manager := m
  disk := { staging := .idle (stagingDir tempDir m.saveTarget) files, remote }
  receives := .empty
  sends := .empty
  log := []

def perform (control : Option Fingerprint) (wire : Wire) (io : Faults) (h : Hub) : Effect → Hub
  | .publish ev => { h with log := h.log ++ [ev] }
  | .receive task =>
    { h with receives := h.receives.insert task.transferId (.new task wire control) }
  | .send task => { h with sends := h.sends.insert task.transferId (.new task control) }
  | .abort id =>
    { h with disk := { h.disk with staging := (h.disk.staging.abort io id).2 } }
  | _ => h

/-- The actor handles a command and its effects on transfers take place. -/
def handle (h : Hub) (env : Env) (c : Command) (control : Option Fingerprint) (wire : Wire)
    (io : Faults) : Hub :=
  (ofTransfers (h.manager.handle env c).2).foldl (perform control wire io)
    { h with manager := (h.manager.handle env c).1 }

def cancelled (h : Hub) (id : String) : Bool :=
  (h.manager.transfers.get id).any TransferRecord.cancel

def reported (h : Hub) (id : String) : Option (Except String Unit) :=
  ((h.receives.get id).bind ReceiveRun.result).or ((h.sends.get id).bind SendRun.result)

def receive (h : Hub) (r : ReceiveRun) (io : Faults) (tools : Tools) :
    ReceiveRun × Disk × List Event :=
  r.step (h.cancelled r.id) io tools h.disk

def step (h : Hub) : HubMove → Hub
  | .command env c control wire =>
    -- tasks report through `outcome`, which also retires the task
    if c.isOutcome then h else h.handle env c control wire .none
  | .receive id io tools =>
    match h.receives.get id with
    | none => h
    | some r =>
      let (r', disk, events) := h.receive r io tools
      { h with receives := h.receives.insert id r', disk, log := h.log ++ events }
  | .send id tick =>
    match h.sends.get id with
    | none => h
    | some r =>
      let (r', effects) := r.step (h.cancelled r.id) tick
      (ofTransfers effects).foldl (perform none [] .none)
        { h with sends := h.sends.insert id r' }
  | .outcome env id io =>
    match h.reported id with
    | none => h
    | some result =>
      -- the task is gone once its outcome has been taken
      { h with receives := h.receives.remove id, sends := h.sends.remove id }.handle env
        (.transferOutcome id result) none [] io

def oneByteHeader (name : String) : Packet :=
  (Packet.new 0 typeShare (.object [("filename", .string name)])).withPayload 1 1739

/-! ## Steps by case -/

section Steps

variable {h : Hub} {id : String} {env : Env} {io : Faults} {control : Option Fingerprint}
  {wire : Wire}

/-- Effects leave the actor itself alone. -/
@[simp] theorem performed_manager (effects : List Effect) (h : Hub) :
    (effects.foldl (perform control wire io) h).manager = h.manager := by
  induction effects generalizing h with
  | nil => rfl
  | cons e effects ih =>
    rw [List.foldl_cons, ih]
    cases e <;> rfl

@[simp] theorem handle_manager {c : Command} :
    (h.handle env c control wire io).manager = (h.manager.handle env c).1 := performed_manager _ _

/-- Events go to the log and nowhere else. -/
theorem performed_publish (out : List Event) (h : Hub) :
    (out.map Effect.publish).foldl (perform control wire io) h =
      { h with log := h.log ++ out } := by
  induction out generalizing h with
  | nil => simp
  | cons ev out ih =>
    rw [List.map_cons, List.foldl_cons, ih]
    simp [perform]

theorem step_command {c : Command} (hc : c.isOutcome = false) :
    h.step (.command env c control wire) = h.handle env c control wire .none := by
  simp [step, hc]

theorem step_receive {tools : Tools} {r : ReceiveRun} (hr : h.receives.get id = some r) :
    h.step (.receive id io tools) =
      { h with
        receives := h.receives.insert id (h.receive r io tools).1
        disk := (h.receive r io tools).2.1
        log := h.log ++ (h.receive r io tools).2.2 } := by
  simp [step, hr]

/-- A reported success settles the record and forgets the task. -/
theorem step_finished (hrep : h.reported id = some (.ok ())) :
    h.step (.outcome env id io) =
      { manager := h.manager.settle id .finished fun _ => none
        disk := h.disk
        receives := h.receives.remove id
        sends := h.sends.remove id
        log := h.log ++ [.transferFinished id] } := by
  simp only [step, hrep]
  rfl

/-- A reported failure does the same, and the engine aborts the transfer. -/
theorem step_failed {reason : String} (hrep : h.reported id = some (.error reason)) :
    h.step (.outcome env id io) =
      { manager := h.manager.settle id .failed fun _ => some reason
        disk := { h.disk with staging := (h.disk.staging.abort io id).2 }
        receives := h.receives.remove id
        sends := h.sends.remove id
        log := h.log ++ [.transferFailed id reason] } := by
  simp only [step, hrep]
  rfl

/-- Whatever a task reports, taking the outcome removes it from its table. -/
theorem outcome_receives {result : Except String Unit} (hrep : h.reported id = some result) :
    (h.step (.outcome env id io)).receives = h.receives.remove id := by
  cases result with
  | ok _ => rw [step_finished hrep]
  | error reason => rw [step_failed hrep]

end Steps

/-- The moves that do something, with what there is after them. -/
inductive Moves (h : Hub) : HubMove → Hub → Prop where
  | command {env : Env} {c : Command} {control : Option Fingerprint} {wire : Wire}
      (hc : c.isOutcome = false) :
      Moves h (.command env c control wire) (h.handle env c control wire .none)
  | receive {id : String} {io : Faults} {tools : Tools} {r : ReceiveRun}
      (hr : h.receives.get id = some r) :
      Moves h (.receive id io tools)
        { h with
          receives := h.receives.insert id (h.receive r io tools).1
          disk := (h.receive r io tools).2.1
          log := h.log ++ (h.receive r io tools).2.2 }
  /-- A send publishes progress and nothing else. -/
  | send {id : String} {tick : SendTick} {r : SendRun} {out : List Event}
      (hr : h.sends.get id = some r)
      (hout : ofTransfers (r.step (h.cancelled r.id) tick).2 = out.map .publish)
      (hgoes : r.Goes (r.step (h.cancelled r.id) tick).1 out) :
      Moves h (.send id tick)
        { h with
          sends := h.sends.insert id (r.step (h.cancelled r.id) tick).1
          log := h.log ++ out }
  | finished {env : Env} {id : String} {io : Faults} (hrep : h.reported id = some (.ok ())) :
      Moves h (.outcome env id io)
        { manager := h.manager.settle id .finished fun _ => none
          disk := h.disk
          receives := h.receives.remove id
          sends := h.sends.remove id
          log := h.log ++ [.transferFinished id] }
  | failed {env : Env} {id reason : String} {io : Faults}
      (hrep : h.reported id = some (.error reason)) :
      Moves h (.outcome env id io)
        { manager := h.manager.settle id .failed fun _ => some reason
          disk := { h.disk with staging := (h.disk.staging.abort io id).2 }
          receives := h.receives.remove id
          sends := h.sends.remove id
          log := h.log ++ [.transferFailed id reason] }

/-- **Inversion.** -/
theorem step_moves (h : Hub) (a : HubMove) : h.step a = h ∨ Moves h a (h.step a) := by
  cases a with
  | command env c control wire =>
    cases hc : c.isOutcome with
    | true => exact .inl (by simp [step, hc])
    | false =>
      rw [step_command hc]
      exact .inr (.command hc)
  | receive id io tools =>
    cases hr : h.receives.get id with
    | none => exact .inl (by simp [step, hr])
    | some r =>
      rw [step_receive hr]
      exact .inr (.receive hr)
  | send id tick =>
    cases hr : h.sends.get id with
    | none => exact .inl (by simp [step, hr])
    | some r =>
      -- a send only publishes: it starts no task of its own
      obtain ⟨out, hout, hgoes⟩ := r.step_goes (h.cancelled r.id) tick
      simp only [step, hr]
      rw [hout, performed_publish]
      exact .inr (.send hr hout hgoes)
  | outcome env id io =>
    cases hrep : h.reported id with
    | none => exact .inl (by simp [step, hrep])
    | some result =>
      cases result with
      | ok _ =>
        rw [step_finished hrep]
        exact .inr (.finished hrep)
      | error reason =>
        rw [step_failed hrep]
        exact .inr (.failed hrep)

/-! ## What a step does to the files -/

inductive DiskStep (h : Hub) : HubMove → Disk → Prop where
  | same (a : HubMove) : DiskStep h a h.disk
  | engine {id : String} {io : Faults} {tools : Tools} {r : ReceiveRun} {c : EngineCall}
      (hr : h.receives.get id = some r) (hc : r.engineCall (h.cancelled r.id) = some c) :
      DiskStep h (.receive id io tools)
        { h.disk with staging := (h.disk.staging.call io c).2 }
  /-- A local file goes to the URI. -/
  | copies {id path uri name : String} {io : Faults} {tools : Tools} {r : ReceiveRun}
      (hr : h.receives.get id = some r) (hphase : r.phase = .copy path)
      (huri : r.task.saveTarget = .uri uri) (hname : Manager.pathFileName path = some name) :
      DiskStep h (.receive id io tools)
        ((h.disk.copyOut path (Disk.uriDestination uri name)).removeLocal io path)
  /-- It could not go there and is deleted. -/
  | discards {id path uri : String} {io : Faults} {tools : Tools} {r : ReceiveRun}
      (hr : h.receives.get id = some r) (hphase : r.phase = .copy path)
      (huri : r.task.saveTarget = .uri uri) :
      DiskStep h (.receive id io tools) (h.disk.removeLocal io path)
  | aborts {env : Env} {id reason : String} {io : Faults}
      (hrep : h.reported id = some (.error reason)) :
      DiskStep h (.outcome env id io)
        { h.disk with staging := (h.disk.staging.abort io id).2 }

theorem books_disk {h : Hub} {m' : Manager} {c : Command} {all effects : List Effect}
    {control : Option Fingerprint} {wire : Wire} {io : Faults}
    (hb : Manager.Booking h.manager c all m' effects) :
    (effects.foldl (perform control wire io) { h with manager := m' }).disk = h.disk := by
  cases hb with
  | aside | cancel => rfl
  | @opens record _ _ _ rest hset hseq htarget hrest =>
    generalize record.state = state at hrest
    cases hrest <;> rfl

theorem receive_diskStep {h : Hub} {id : String} {io : Faults} {tools : Tools} {r : ReceiveRun}
    (hr : h.receives.get id = some r) :
    DiskStep h (.receive id io tools) (h.receive r io tools).2.1 := by
  by_cases hcopy : ∃ path, r.phase = .copy path
  · obtain ⟨path, hphase⟩ := hcopy
    cases htarget : r.task.saveTarget with
    | dir dir =>
      have hsame : (h.receive r io tools).2.1 = h.disk := by
        simp [Hub.receive, ReceiveRun.step, hphase, htarget]
      rw [hsame]
      exact .same _
    | uri uri =>
      rcases ReceiveRun.step_copy (h.cancelled r.id) io tools h.disk hphase htarget with
        heq | ⟨name, hname, heq⟩
      · rw [Hub.receive, heq]
        exact .discards hr hphase htarget
      · rw [Hub.receive, heq]
        exact .copies hr hphase htarget hname
  · rw [Hub.receive, ReceiveRun.step_disk fun path hp => hcopy ⟨path, hp⟩]
    cases hc : r.engineCall (h.cancelled r.id) with
    | none => exact .same _
    | some c => exact .engine hr hc

/-- What a step does to the files. -/
theorem step_diskStep (h : Hub) (a : HubMove) : DiskStep h a (h.step a).disk := by
  rcases step_moves h a with hsame | hmoves
  · rw [hsame]
    exact .same a
  · generalize h.step a = h' at hmoves ⊢
    cases hmoves with
    | command hc =>
      rw [Hub.handle, books_disk (Manager.handle_books hc)]
      exact .same _
    | receive hr => exact receive_diskStep hr
    | send _ _ _ | finished _ => exact .same _
    | failed hrep => exact .aborts hrep

/-! ## Where the tasks come from -/

/-- A receive after a move: it is as before, the move started it under a fresh id, or the
    move was its own. -/
inductive ReceiveFrom (h : Hub) : HubMove → String → ReceiveRun → Prop where
  | kept {a : HubMove} {id : String} {r : ReceiveRun} (hr : h.receives.get id = some r) :
      ReceiveFrom h a id r
  | started {env : Env} {c : Command} {control : Option Fingerprint} {wire : Wire}
      {task : ReceiveTask}
      (hs : h.manager.Starts c (h.manager.handle env c).2 (.receive task)) :
      ReceiveFrom h (.command env c control wire) h.manager.freshId (.new task wire control)
  | stepped {io : Faults} {tools : Tools} {id : String} {r : ReceiveRun}
      (hr : h.receives.get id = some r) :
      ReceiveFrom h (.receive id io tools) id (h.receive r io tools).1

inductive SendFrom (h : Hub) : HubMove → String → SendRun → Prop where
  | kept {a : HubMove} {id : String} {r : SendRun} (hr : h.sends.get id = some r) :
      SendFrom h a id r
  | started {env : Env} {c : Command} {control : Option Fingerprint} {wire : Wire}
      {task : SendTask} (hs : h.manager.Starts c (h.manager.handle env c).2 (.send task)) :
      SendFrom h (.command env c control wire) h.manager.freshId (.new task control)
  | stepped {tick : SendTick} {id : String} {r : SendRun} (hr : h.sends.get id = some r) :
      SendFrom h (.send id tick) id (r.step (h.cancelled r.id) tick).1

section Tasks

variable {h : Hub} {a : HubMove} {id : String} {env : Env} {c : Command}
  {control : Option Fingerprint} {wire : Wire} {io : Faults} {m' : Manager} {effects : List Effect}

theorem books_receive {r : ReceiveRun}
    (hb : Manager.Booking h.manager c (h.manager.handle env c).2 m' effects)
    (hr : (effects.foldl (perform control wire io) { h with manager := m' }).receives.get id =
      some r) : ReceiveFrom h (.command env c control wire) id r := by
  cases hb with
  | aside | cancel => exact .kept hr
  | @opens record _ _ _ rest hset hseq htarget hrest =>
    generalize record.state = state at hrest
    cases hrest with
    | receive task htask _ _ hstarts =>
      rcases Table.of_get_insert hr with ⟨hid, rfl⟩ | ⟨-, hold⟩
      · rw [hid, htask]
        exact .started hstarts
      · exact .kept hold
    | send | finished | failed => exact .kept hr

theorem books_send {r : SendRun}
    (hb : Manager.Booking h.manager c (h.manager.handle env c).2 m' effects)
    (hr : (effects.foldl (perform control wire io) { h with manager := m' }).sends.get id =
      some r) : SendFrom h (.command env c control wire) id r := by
  cases hb with
  | aside | cancel => exact .kept hr
  | @opens record _ _ _ rest hset hseq htarget hrest =>
    generalize record.state = state at hrest
    cases hrest with
    | send task htask _ _ hstarts =>
      rcases Table.of_get_insert hr with ⟨hid, rfl⟩ | ⟨-, hold⟩
      · rw [hid, htask]
        exact .started hstarts
      · exact .kept hold
    | receive | finished | failed => exact .kept hr

/-- Where a receive comes from: it was there, took a turn, or was just started. -/
theorem step_receives {r : ReceiveRun} (hr : (h.step a).receives.get id = some r) :
    ReceiveFrom h a id r := by
  rcases step_moves h a with hsame | hmoves
  · exact .kept (hsame ▸ hr)
  · generalize h.step a = h' at hmoves hr
    cases hmoves with
    | command hc => exact books_receive (Manager.handle_books hc) hr
    | receive hr₀ =>
      rcases Table.of_get_insert hr with ⟨rfl, rfl⟩ | ⟨-, hold⟩
      · exact .stepped hr₀
      · exact .kept hold
    | send _ _ _ => exact .kept hr
    | finished _ | failed _ => exact .kept (Table.of_get_remove hr).2

/-- The same for a send. -/
theorem step_sends {r : SendRun} (hr : (h.step a).sends.get id = some r) : SendFrom h a id r := by
  rcases step_moves h a with hsame | hmoves
  · exact .kept (hsame ▸ hr)
  · generalize h.step a = h' at hmoves hr
    cases hmoves with
    | command hc => exact books_send (Manager.handle_books hc) hr
    | send hr₀ _ _ =>
      rcases Table.of_get_insert hr with ⟨rfl, rfl⟩ | ⟨-, hold⟩
      · exact .stepped hr₀
      · exact .kept hold
    | receive _ => exact .kept hr
    | finished _ | failed _ => exact .kept (Table.of_get_remove hr).2

end Tasks

end Hub
end Handfast.Daemon
