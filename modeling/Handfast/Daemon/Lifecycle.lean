/-
  Handfast.Daemon.Lifecycle

  The life of a transfer: registered once, active while its task runs, settled
  once by the outcome of the task, with the published events to match.

  The actor and the tasks interleave freely (`Hub`), but one transfer id sees
  very few of their moves.  `View` is all that concerns one id, and `Next` the
  inversion of a step at one id: nothing, a registration, a step of its task, or
  its settlement (`step_view`).  The invariant `Stage` and the order of the
  states follow from `Next` alone.
-/
import Handfast.Daemon.Hub
import Mathlib.Logic.Relation

namespace Handfast.Daemon

open Handfast.Lib Handfast.Protocol Handfast.Core

/-! ## What is published about one transfer -/

def eventsOf (id : String) (events : List Event) : List Event :=
  events.filter fun ev => transferOf ev = some id

@[simp] theorem eventsOf_nil (id : String) : eventsOf id [] = [] := rfl

@[simp] theorem eventsOf_append (id : String) (xs ys : List Event) :
    eventsOf id (xs ++ ys) = eventsOf id xs ++ eventsOf id ys := List.filter_append xs ys

variable {id : String} {counts : List (Nat × Nat)} {events out : List Event} {r r' : ReceiveRun}

theorem eventsOf_singleton_of_ne {ev : Event} (h : transferOf ev ≠ some id) :
    eventsOf id [ev] = [] := by
  simp [eventsOf, h]

theorem eventsOf_singleton {ev : Event} (h : transferOf ev = some id) :
    eventsOf id [ev] = [ev] := by
  simp [eventsOf, h]

def progressEvents (id : String) (counts : List (Nat × Nat)) : List Event :=
  counts.map fun c => .transferProgress id c.1 c.2

/-- One `TransferAdded`, then progress with counts that do not fall. -/
structure Opened (id : String) (counts : List (Nat × Nat)) (events : List Event) : Prop where
  shape : ∃ deviceId direction fileName total,
    events = .transferAdded id deviceId direction fileName total :: progressEvents id counts
  ascending : (counts.map Prod.fst).Pairwise (· ≤ ·)

/-- What may have been published about a transfer whose record is in a state. -/
inductive Story (id : String) : List Event → Option TransferState → Prop where
  | unseen : Story id [] none
  | active {counts : List (Nat × Nat)} {events : List Event} (h : Opened id counts events) :
      Story id events (some .active)
  | finished {counts : List (Nat × Nat)} {events : List Event} (h : Opened id counts events) :
      Story id (events ++ [.transferFinished id]) (some .finished)
  | failed {counts : List (Nat × Nat)} {events : List Event} (reason : String)
      (h : Opened id counts events) :
      Story id (events ++ [.transferFailed id reason]) (some .failed)

/-- How the record of a transfer may change. -/
inductive StateEdge : Option TransferState → Option TransferState → Prop where
  | registered : StateEdge none (some .active)
  | finished : StateEdge (some .active) (some .finished)
  | failed : StateEdge (some .active) (some .failed)

theorem Opened.added (id deviceId direction fileName : String) (total : Nat) :
    Opened id [] [.transferAdded id deviceId direction fileName total] :=
  ⟨⟨deviceId, direction, fileName, total, rfl⟩, .nil⟩

/-- One more progress event, with a count no smaller than those before. -/
theorem Opened.progress (h : Opened id counts events) {done total : Nat}
    (hdone : ∀ c ∈ counts, c.1 ≤ done) :
    Opened id (counts ++ [(done, total)]) (events ++ [.transferProgress id done total]) := by
  obtain ⟨deviceId, direction, fileName, size, rfl⟩ := h.shape
  refine ⟨⟨deviceId, direction, fileName, size, by simp [progressEvents]⟩, ?_⟩
  rw [List.map_append, List.pairwise_append]
  refine ⟨h.ascending, List.pairwise_singleton _ _, fun a ha b hb => ?_⟩
  obtain ⟨c, hc, rfl⟩ := List.mem_map.mp ha
  obtain rfl : b = done := by simpa using hb
  exact hdone c hc

/-! ## The tasks of one transfer -/

/-- The counts published so far do not exceed what the receive will publish next. -/
def ReceiveRun.Reported (r : ReceiveRun) (counts : List (Nat × Nat)) : Prop :=
  match r.phase with
  | .start => counts = []
  | .check done | .write done _ => ∀ c ∈ counts, c.1 ≤ done
  -- no further progress is published
  | .finish | .copy _ | .ended _ => True

/-- A receive publishes about its own transfer only. -/
theorem ReceiveRun.Goes.others (h : Goes r r' out) (hid : r.id ≠ id) : eventsOf id out = [] := by
  cases h with
  | writes hp => exact eventsOf_singleton_of_ne fun h => hid (Option.some.inj h)
  | _ => rfl

theorem ReceiveRun.Goes.opened (h : Goes r r' out) (hopen : Opened r.id counts events)
    (hrep : r.Reported counts) :
    ∃ counts', Opened r.id counts' (events ++ eventsOf r.id out) ∧ r'.Reported counts' := by
  cases h with
  | fails => exact ⟨counts, by simpa using hopen, trivial⟩
  | begins hp =>
    have hnone : counts = [] := by simpa [Reported, hp] using hrep
    exact ⟨counts, by simpa using hopen, by simp [Reported, goto, hnone]⟩
  | skips => exact ⟨counts, by simpa using hopen, trivial⟩
  | @reads done hp =>
    -- the chunk just read is counted once the engine has taken it
    refine ⟨counts, by simpa using hopen, ?_⟩
    rcases r.readNext_phase done with ⟨e, he⟩ | he | ⟨chunk, he⟩
    · simp [Reported, he]
    · simp [Reported, he]
    · simpa [Reported, he, hp] using hrep
  | @writes done chunk hp =>
    -- the new count is the old one and the chunk, so no smaller than any before
    have hall : ∀ c ∈ counts, c.1 ≤ done := by simpa [Reported, hp] using hrep
    have hle : ∀ c ∈ counts, c.1 ≤ done + chunk.length := fun c hc =>
      (hall c hc).trans (Nat.le_add_right _ _)
    refine ⟨counts ++ [(done + chunk.length, r.task.size)], ?_, ?_⟩
    · rw [eventsOf_singleton rfl]
      exact hopen.progress hle
    · rcases r.afterWrite_phase (done + chunk.length) with he | he
      · simp [Reported, he]
      · simp only [Reported, he]
        intro c hc
        rcases List.mem_append.mp hc with hc | hc
        · exact hle c hc
        · rw [List.mem_singleton.mp hc]
  | hands => exact ⟨counts, by simpa using hopen, trivial⟩
  | stores => exact ⟨counts, by simpa [shareReceived, eventsOf, transferOf] using hopen, trivial⟩
  | rests hp => exact ⟨counts, by simpa using hopen, by simp [Reported, hp]⟩

/-- A send publishes about its own transfer only. -/
theorem SendRun.Goes.others {r r' : SendRun} (h : Goes r r' out)
    (hid : r.id ≠ id) : eventsOf id out = [] := by
  cases h with
  | silent => rfl
  | progress => exact eventsOf_singleton_of_ne fun h => hid (Option.some.inj h)

/-- The counts a send reports stay within what it has sent. -/
theorem SendRun.Goes.opened {r r' : SendRun} (h : Goes r r' out) (hopen : Opened r.id counts events)
    (hrep : ∀ c ∈ counts, c.1 ≤ r.done) :
    ∃ counts', Opened r.id counts' (events ++ eventsOf r.id out) ∧
      ∀ c ∈ counts', c.1 ≤ r'.done := by
  cases h with
  | silent htask hdone => exact ⟨counts, by simpa using hopen, by rwa [hdone]⟩
  | progress htask hdone =>
    have hle : ∀ c ∈ counts, c.1 ≤ r'.done := fun c hc => (hrep c hc).trans hdone
    refine ⟨counts ++ [(r'.done, r.task.size)], ?_, ?_⟩
    · rw [eventsOf_singleton rfl]
      exact hopen.progress hle
    · intro c hc
      rcases List.mem_append.mp hc with hc | hc
      · exact hle c hc
      · rw [List.mem_singleton.mp hc]

/-! ## One transfer in the hub -/

structure View where
  events : List Event
  state : Option TransferState
  recv : Option ReceiveRun
  sending : Option SendRun
  /-- Where received files go. -/
  target : SaveTarget

namespace View

/-- What the task of the transfer reports, once it has ended. -/
def reported (v : View) : Option (Except String Unit) :=
  (v.recv.bind ReceiveRun.result).or (v.sending.bind SendRun.result)

def settledEvent (id : String) : Except String Unit → Event
  | .ok () => .transferFinished id
  | .error reason => .transferFailed id reason

def settledState : Except String Unit → TransferState
  | .ok () => .finished
  | .error _ => .failed

/-- What a step of the hub does to one transfer. -/
inductive Next (id : String) (v : View) : View → Prop where
  | same : Next id v v
  | opensReceive {deviceId direction fileName : String} {total : Nat} {r : ReceiveRun}
      (hnone : v.state = none) (hid : r.id = id) (hphase : r.phase = .start)
      (htarget : r.task.saveTarget = v.target) :
      Next id v
        { v with
          events := v.events ++ [.transferAdded id deviceId direction fileName total]
          state := some .active
          recv := some r }
  | opensSend {deviceId direction fileName : String} {total : Nat} {r : SendRun}
      (hnone : v.state = none) (hid : r.id = id) :
      Next id v
        { v with
          events := v.events ++ [.transferAdded id deviceId direction fileName total]
          state := some .active
          sending := some r }
  | opensSettled {deviceId direction fileName : String} {total : Nat}
      (hnone : v.state = none) (result : Except String Unit) :
      Next id v
        { v with
          events := v.events ++ [.transferAdded id deviceId direction fileName total] ++
            [settledEvent id result]
          state := some (settledState result) }
  | receives {r r' : ReceiveRun} {out : List Event} (hr : v.recv = some r)
      (hgoes : r.Goes r' out) :
      Next id v { v with events := v.events ++ eventsOf id out, recv := some r' }
  | sends {r r' : SendRun} {out : List Event} (hr : v.sending = some r) (hgoes : r.Goes r' out) :
      Next id v { v with events := v.events ++ eventsOf id out, sending := some r' }
  | settles {result : Except String Unit} (hrep : v.reported = some result) :
      Next id v
        { events := v.events ++ [settledEvent id result]
          state := v.state.map fun _ => settledState result
          recv := none
          sending := none
          target := v.target }

/-- Where a transfer is: not registered, running as one task, or over. -/
inductive Stage (id : String) : View → Prop where
  | unseen {target : SaveTarget} : Stage id ⟨[], none, none, none, target⟩
  | receiving {counts : List (Nat × Nat)} {events : List Event} {r : ReceiveRun}
      (h : Opened id counts events) (hid : r.id = id) (hrep : r.Reported counts) :
      Stage id ⟨events, some .active, some r, none, r.task.saveTarget⟩
  | sending {counts : List (Nat × Nat)} {events : List Event} {r : SendRun} {target : SaveTarget}
      (h : Opened id counts events) (hid : r.id = id) (hrep : ∀ c ∈ counts, c.1 ≤ r.done) :
      Stage id ⟨events, some .active, none, some r, target⟩
  | settled {counts : List (Nat × Nat)} {events : List Event} {target : SaveTarget}
      (h : Opened id counts events) (result : Except String Unit) :
      Stage id
        ⟨events ++ [settledEvent id result], some (settledState result), none, none, target⟩

variable {id : String} {v v' : View} {r : ReceiveRun}

theorem Next.of_eq (h : v' = v) : Next id v v' := h ▸ .same

theorem Next.target (h : Next id v v') : v'.target = v.target := by
  cases h <;> rfl

/-- In every stage the events so far tell the state. -/
theorem Stage.story (h : Stage id v) : Story id v.events v.state := by
  cases h with
  | unseen => exact .unseen
  | receiving h => exact .active h
  | sending h => exact .active h
  | settled h result =>
    cases result with
    | ok _ => exact .finished h
    | error reason => exact .failed reason h

/-- A transfer without a record has no past. -/
theorem Stage.of_none (h : Stage id v) (hnone : v.state = none) :
    v = ⟨[], none, none, none, v.target⟩ := by
  cases h with
  | unseen => rfl
  | _ => cases hnone

theorem Stage.recv_id (h : Stage id v) (hr : v.recv = some r) : r.id = id := by
  cases h with
  | receiving _ hid =>
    obtain rfl := Option.some.inj hr
    exact hid
  | _ => cases hr

/-- A transfer that is received is not sent. -/
theorem Stage.one_task (h : Stage id v) (hr : v.recv = some r) :
    v.sending = none := by
  cases h with
  | receiving => rfl
  | _ => cases hr

/-- A receive stores where received files go. -/
theorem Stage.recv_target (h : Stage id v) (hr : v.recv = some r) :
    r.task.saveTarget = v.target := by
  cases h with
  | receiving =>
    obtain rfl := Option.some.inj hr
    rfl
  | _ => cases hr

theorem Stage.sending_id (h : Stage id v) {r : SendRun} (hr : v.sending = some r) :
    r.id = id := by
  cases h with
  | sending _ hid =>
    obtain rfl := Option.some.inj hr
    exact hid
  | _ => cases hr

/-- A step of the hub takes a transfer from one stage to the next. -/
theorem Stage.next (h : Stage id v) (hnext : Next id v v') : Stage id v' := by
  cases hnext with
  | same => exact h
  | opensReceive hnone hid hphase htarget =>
    -- the id was free, so nothing was published about it yet
    rw [h.of_none hnone, ← htarget]
    exact .receiving (Opened.added ..) hid (by simp [ReceiveRun.Reported, hphase])
  | opensSend hnone hid =>
    rw [h.of_none hnone]
    exact .sending (Opened.added ..) hid (by simp)
  | opensSettled hnone result =>
    rw [h.of_none hnone]
    exact .settled (Opened.added ..) result
  | receives hr hgoes =>
    cases h with
    | @receiving counts events r hopen hid hrep =>
      obtain rfl := Option.some.inj hr
      subst hid
      obtain ⟨counts', hopen', hrep'⟩ := hgoes.opened hopen hrep
      rw [← hgoes.task]
      exact .receiving hopen' (congrArg ReceiveTask.transferId hgoes.task) hrep'
    | _ => cases hr
  | sends hr hgoes =>
    cases h with
    | @sending counts events r target hopen hid hrep =>
      obtain rfl := Option.some.inj hr
      subst hid
      obtain ⟨counts', hopen', hrep'⟩ := hgoes.opened hopen hrep
      exact .sending hopen' (congrArg SendTask.transferId hgoes.task) hrep'
    | _ => cases hr
  | @settles result hrep =>
    -- only a task reports, and it leaves its table with the report: no second end
    cases h with
    | unseen => cases hrep
    | receiving hopen => exact .settled hopen result
    | sending hopen => exact .settled hopen result
    | settled => cases hrep

/-- The record moves forward only. -/
theorem Stage.advances (h : Stage id v) (hnext : Next id v v') :
    Relation.ReflTransGen StateEdge v.state v'.state := by
  have hsettle : ∀ result, StateEdge (some .active) (some (settledState result)) := by
    intro result
    cases result with
    | ok _ => exact .finished
    | error _ => exact .failed
  cases hnext with
  | same => exact .refl
  | opensReceive hnone => rw [hnone]; exact .single .registered
  | opensSend hnone => rw [hnone]; exact .single .registered
  | opensSettled hnone result =>
    -- registered as active and settled by the same command
    rw [hnone]
    exact (Relation.ReflTransGen.single .registered).tail (hsettle result)
  | receives => exact .refl
  | sends => exact .refl
  | @settles result hrep =>
    cases h with
    | unseen => cases hrep
    | receiving => exact .single (hsettle result)
    | sending => exact .single (hsettle result)
    | settled => cases hrep

end View

/-! ## Transfer ids -/

/-- A number is read back from its digits. -/
theorem toString_nat_inj {a b : Nat} (h : toString a = toString b) : a = b := by
  rw [Nat.toString_eq_ofList_toDigits, Nat.toString_eq_ofList_toDigits] at h
  have hdigits := congrArg (fun cs => Nat.ofDigitChars 10 cs 0) (String.ofList_injective h)
  simpa [Nat.ofDigitChars_ten_toDigits] using hdigits

namespace Manager

variable {m m' : Manager}

/-- Registered ids were handed out by the counter. -/
def Numbered (m : Manager) : Prop :=
  ∀ id, m.transfers.get id ≠ none → ∃ k ≤ m.nextTransferSeq, id = s!"t{k}"

/-- The next id belongs to no transfer yet. -/
theorem Numbered.freshId_unused (h : m.Numbered) : m.transfers.get m.freshId = none := by
  by_contra hused
  obtain ⟨k, hk, heq⟩ := h _ hused
  have hnum : m.nextTransferSeq + 1 = k := toString_nat_inj (by simpa [freshId] using heq)
  omega

theorem Numbered.books {c : Command} {all effects : List Effect} (h : m.Numbered)
    (hb : Booking m c all m' effects) : m'.Numbered := by
  intro id hid
  cases hb with
  | aside same =>
    rw [same.transfers] at hid
    rw [same.seq]
    exact h id hid
  | @cancel id' record hget hset hseq htarget =>
    rw [hseq]
    by_cases heq : id = id'
    · exact h id (by rw [heq, hget]; simp)
    · exact h id (by rwa [hset id, if_neg heq] at hid)
  | opens hset hseq htarget hrest =>
    rw [hseq]
    by_cases heq : id = m.freshId
    -- the fresh id carries the number the counter has now
    · exact ⟨_, le_rfl, heq⟩
    · obtain ⟨k, hk, hid⟩ := h id (by rwa [hset id, if_neg heq] at hid)
      exact ⟨k, hk.trans (Nat.le_succ _), hid⟩

theorem Numbered.settle (h : m.Numbered) {id : String} {state : TransferState}
    {reason : Option String → Option String} : (m.settle id state reason).Numbered := by
  unfold Manager.settle
  cases hget : m.transfers.get id with
  | none => exact h
  | some record =>
    intro id' hid'
    by_cases heq : id' = id
    · exact h id' (by rw [heq, hget]; simp)
    · exact h id' (by simpa [heq] using hid')

end Manager

/-! ## Steps of the hub -/

namespace Hub

open Manager View

variable {h : Hub} {id : String}

def view (h : Hub) (id : String) : View where
  events := eventsOf id h.log
  state := (h.manager.transfers.get id).map TransferRecord.state
  recv := h.receives.get id
  sending := h.sends.get id
  target := h.manager.saveTarget

structure Tracked (h : Hub) : Prop where
  stage : ∀ id, Stage id (h.view id)
  numbered : h.manager.Numbered

/-- Nothing was published about an id that is not registered, and no task has it. -/
theorem Tracked.unused (ht : h.Tracked) (hnone : h.manager.transfers.get id = none) :
    (∀ ev ∈ h.log, transferOf ev ≠ some id) ∧ h.receives.get id = none ∧
      h.sends.get id = none := by
  have hview := (ht.stage id).of_none (by simp [view, hnone])
  refine ⟨fun ev hmem hev => ?_, congrArg View.recv hview, congrArg View.sending hview⟩
  have hevents : eventsOf id h.log = [] := congrArg View.events hview
  exact List.filter_eq_nil_iff.mp hevents ev hmem (by simp [hev])

section Effects

variable {control : Option Fingerprint} {wire : Wire} {io : Faults}

theorem view_manager (m' : Manager) :
    ({ h with manager := m' } : Hub).view id =
      ⟨(h.view id).events, (m'.transfers.get id).map TransferRecord.state, (h.view id).recv,
        (h.view id).sending, m'.saveTarget⟩ := rfl

theorem view_publish (ev : Event) :
    (h.perform control wire io (.publish ev)).view id =
      ⟨(h.view id).events ++ eventsOf id [ev], (h.view id).state, (h.view id).recv,
        (h.view id).sending, (h.view id).target⟩ := by
  simp [view, perform]

theorem view_receive (task : ReceiveTask) :
    (h.perform control wire io (.receive task)).view id =
      ⟨(h.view id).events, (h.view id).state,
        if id = task.transferId then some (.new task wire control) else (h.view id).recv,
        (h.view id).sending, (h.view id).target⟩ := by
  simp [view, perform]

theorem view_send (task : SendTask) :
    (h.perform control wire io (.send task)).view id =
      ⟨(h.view id).events, (h.view id).state, (h.view id).recv,
        if id = task.transferId then some (.new task control) else (h.view id).sending,
        (h.view id).target⟩ := by
  simp [view, perform]

/-- A command, seen from any transfer. -/
theorem books_view {m' : Manager} {c : Command} {all effects : List Effect}
    (hn : h.manager.Numbered) (hb : Booking h.manager c all m' effects) :
    Next id (h.view id)
      ((effects.foldl (perform control wire io) { h with manager := m' }).view id) := by
  cases hb with
  | aside hsame =>
    -- no effect concerns transfers
    rw [List.foldl_nil, view_manager m', hsame.transfers, hsame.target]
    exact .same
  | @cancel id' record hget hset hseq htarget =>
    -- the flag is no part of the state
    have hstate : (m'.transfers.get id).map TransferRecord.state = (h.view id).state := by
      rw [hset id]
      split
      · rename_i heq
        simp [view, heq, hget]
      · rfl
    rw [List.foldl_nil, view_manager m', hstate, htarget]
    exact .same
  | @opens record deviceId direction fileName rest hset hseq htarget hrest =>
    rw [List.foldl_cons]
    generalize hadded : Event.transferAdded h.manager.freshId deviceId direction fileName
      record.total = added
    have hof : transferOf added = some h.manager.freshId := by rw [← hadded]; rfl
    by_cases heq : id = h.manager.freshId
    · -- this transfer is the one registered
      subst heq
      have hnone : (h.view h.manager.freshId).state = none := by
        simp [view, hn.freshId_unused]
      have hfirst : (perform control wire io { h with manager := m' } (.publish added)).view
          h.manager.freshId = { h.view h.manager.freshId with
            events := (h.view h.manager.freshId).events ++ [added]
            state := some record.state } := by
        rw [view_publish, eventsOf_singleton hof, view_manager m', hset, if_pos rfl, htarget]
        rfl
      generalize perform control wire io { h with manager := m' } (.publish added) = h₁ at hfirst ⊢
      generalize record.state = state at hrest hfirst
      subst hadded
      cases hrest with
      | receive task htask hsave =>
        rw [List.foldl_cons, List.foldl_nil, view_receive, if_pos htask.symm, hfirst]
        exact .opensReceive hnone htask rfl hsave
      | send task htask =>
        rw [List.foldl_cons, List.foldl_nil, view_send, if_pos htask.symm, hfirst]
        exact .opensSend hnone htask
      | finished =>
        rw [List.foldl_cons, List.foldl_nil, view_publish, eventsOf_singleton rfl, hfirst]
        exact .opensSettled hnone (.ok ())
      | failed reason =>
        rw [List.foldl_cons, List.foldl_nil, view_publish, eventsOf_singleton rfl, hfirst]
        exact .opensSettled hnone (.error reason)
    · -- the registration of another transfer
      have hother : ∀ ev, transferOf ev = some h.manager.freshId → eventsOf id [ev] = [] :=
        fun ev hev => eventsOf_singleton_of_ne fun h => heq (Option.some.inj (h.symm.trans hev))
      have hfirst : (perform control wire io { h with manager := m' } (.publish added)).view id =
          h.view id := by
        rw [view_publish, hother _ hof, List.append_nil, view_manager m', hset id, if_neg heq,
          htarget]
        rfl
      generalize record.state = state at hrest
      cases hrest with
      | receive task htask hsave =>
        rw [List.foldl_cons, List.foldl_nil, view_receive, if_neg (htask ▸ heq), hfirst]
        exact .same
      | send task htask =>
        rw [List.foldl_cons, List.foldl_nil, view_send, if_neg (htask ▸ heq), hfirst]
        exact .same
      | finished | failed reason =>
        rw [List.foldl_cons, List.foldl_nil, view_publish, hfirst, hother _ rfl, List.append_nil]
        exact .same

end Effects

section Moves

variable {id' : String} {out : List Event}

/-- A turn of a receive, seen from any transfer. -/
theorem receive_view {r r' : ReceiveRun} {disk : Disk} (hr : h.receives.get id' = some r)
    (hid : r.id = id') (hgoes : r.Goes r' out) :
    Next id (h.view id)
      ({ h with receives := h.receives.insert id' r', disk, log := h.log ++ out }.view id) := by
  by_cases heq : id = id'
  · have hview : (h.view id).recv = some r := by rw [heq]; exact hr
    have hnext : Next id (h.view id) _ := .receives hview hgoes
    simpa [view, heq] using hnext
  · have hothers := hgoes.others (hid ▸ Ne.symm heq)
    exact .of_eq (by simp [view, heq, hothers])

theorem send_view {r r' : SendRun} (hr : h.sends.get id' = some r) (hid : r.id = id')
    (hgoes : r.Goes r' out) :
    Next id (h.view id)
      ({ h with sends := h.sends.insert id' r', log := h.log ++ out }.view id) := by
  by_cases heq : id = id'
  · have hview : (h.view id).sending = some r := by rw [heq]; exact hr
    have hnext : Next id (h.view id) _ := .sends hview hgoes
    simpa [view, heq] using hnext
  · have hothers := hgoes.others (hid ▸ Ne.symm heq)
    exact .of_eq (by simp [view, heq, hothers])

/-- An outcome changes the state of its own transfer only. -/
theorem settle_state (m : Manager) (id id' : String) (state : TransferState)
    (reason : Option String → Option String) :
    ((m.settle id' state reason).transfers.get id).map TransferRecord.state =
      if id = id' then ((m.transfers.get id).map TransferRecord.state).map fun _ => state
      else (m.transfers.get id).map TransferRecord.state := by
  unfold settle
  by_cases heq : id = id'
  · subst heq
    rw [if_pos rfl]
    cases hget : m.transfers.get id <;> simp [hget]
  · rw [if_neg heq]
    cases hget : m.transfers.get id' <;> simp [heq]

/-- An outcome, seen from any transfer. -/
theorem outcome_view {result : Except String Unit} {reason : Option String → Option String}
    {disk : Disk} (hrep : h.reported id' = some result) :
    Next id (h.view id)
      (Hub.view
        { manager := h.manager.settle id' (settledState result) reason
          disk
          receives := h.receives.remove id'
          sends := h.sends.remove id'
          log := h.log ++ [settledEvent id' result] } id) := by
  have hof : transferOf (settledEvent id' result) = some id' := by cases result <;> rfl
  by_cases heq : id = id'
  · subst heq
    have hnext : Next id (h.view id) _ := .settles hrep
    simpa [view, settle_state, settle_target, eventsOf_singleton hof] using hnext
  · have hother : eventsOf id [settledEvent id' result] = [] :=
      eventsOf_singleton_of_ne fun h => heq (Option.some.inj (h.symm.trans hof))
    exact .of_eq (by simp [view, settle_state, settle_target, heq, hother])

end Moves

/-- **Inversion.** What a step does to one transfer. -/
theorem step_view (ht : h.Tracked) (a : HubMove) (id : String) :
    Next id (h.view id) ((h.step a).view id) := by
  rcases step_moves h a with hsame | hmoves
  · exact .of_eq (by rw [hsame])
  · generalize h.step a = h' at hmoves ⊢
    cases hmoves with
    | command hc => exact books_view ht.numbered (handle_books hc)
    | @receive id' io tools r hr =>
      exact receive_view hr ((ht.stage id').recv_id hr) (r.step_goes _ io tools h.disk)
    | @send id' _ _ _ hr _ hgoes => exact send_view hr ((ht.stage id').sending_id hr) hgoes
    | finished hrep | failed hrep => exact outcome_view hrep

theorem step_target (ht : h.Tracked) (a : HubMove) :
    (h.step a).manager.saveTarget = h.manager.saveTarget := (step_view ht a "").target

theorem step_numbered (hn : h.manager.Numbered) (a : HubMove) : (h.step a).manager.Numbered := by
  rcases step_moves h a with hsame | hmoves
  · rwa [hsame]
  · generalize h.step a = h' at hmoves ⊢
    cases hmoves with
    | command hc =>
      rw [handle_manager]
      exact hn.books (handle_books hc)
    | receive _ | send _ _ _ => exact hn
    | finished _ | failed _ => exact hn.settle

theorem Tracked.step (ht : h.Tracked) (a : HubMove) : (h.step a).Tracked where
  stage := fun id => (ht.stage id).next (step_view ht a id)
  numbered := step_numbered ht.numbered a

theorem run_tracked (ht : h.Tracked) (moves : List HubMove) : (run Hub.step h moves).Tracked := by
  exact (allStates_of_preserved ht fun h a ht => ht.step a).last

/-- Before the first command no transfer is known. -/
theorem start_tracked (store : Store) (selfDeviceId : String) (selfIdentity : Identity)
    (saveTarget : SaveTarget) (tempDir : String) (files : LocalFiles)
    (remote : Files String UInt8) :
    (start (Manager.new store selfDeviceId selfIdentity saveTarget).loadPersisted tempDir files
      remote).Tracked where
  stage := fun _ => .unseen
  numbered := fun _ hget => absurd rfl hget

/-- **Life of a transfer.** In every interleaving of the actor with the tasks it
    spawns, the events of an id are one `TransferAdded`, progress that does not
    fall, and at most one terminal event that agrees with its record; the record
    moves from active to finished or failed and never again. -/
theorem transfer_lifecycle (store : Store) (selfDeviceId : String) (selfIdentity : Identity)
    (saveTarget : SaveTarget) (tempDir : String) (files : LocalFiles)
    (remote : Files String UInt8) (moves : List HubMove) :
    let h := start (Manager.new store selfDeviceId selfIdentity saveTarget).loadPersisted tempDir
      files remote
    AllStates Hub.step (fun h => ∀ id, Story id (h.view id).events (h.view id).state) h moves ∧
    AllSteps Hub.step (fun h a => ∀ id,
      Relation.ReflTransGen StateEdge (h.view id).state ((h.step a).view id).state) h moves := by
  intro h
  have hstates : AllStates Hub.step Tracked h moves :=
    allStates_of_preserved (start_tracked ..) fun h a ht => ht.step a
  exact ⟨hstates.mono fun h ht id => (ht.stage id).story,
    hstates.allSteps fun h a ht id => (ht.stage id).advances (step_view ht a id)⟩

end Hub
end Handfast.Daemon
