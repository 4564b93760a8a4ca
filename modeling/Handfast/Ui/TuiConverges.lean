/-
  Handfast.Ui.TuiConverges

  Which devices the terminal interface shows when nothing is under way.

  The manager's table only grows.  A device that is found is published, and every
  list has the devices of the moment at which the manager takes it.  So a device
  of the table is shown, or an event that announces it is under way, or a list
  is that has it or will have it (`Covered`), as long as the interface does not
  give up a device it shows.  It does so when it applies a list that was taken
  before an event it has already applied (`Loses`): the event came by the other
  channel and is not sent again.
-/
import Handfast.Ui.Pairing
import Handfast.Ui.TuiLoop

namespace Handfast.Ui.Tui.Console

open Handfast.Core Handfast.Daemon Handfast.Ipc Handfast.Lib Handfast.Protocol

variable {d : String} {s s' : Console} {resp : Ipc.Response} {n : Nat} {session : Session}
  {e : ServerEvent} {todo : List Call} {call : Call}

/-! ## What is known, shown and under way -/

def Known (d : String) (s : Console) : Prop := (s.manager.devices.get d).isSome = true

def Shown (d : String) (s : Console) : Prop := d ∈ s.tui.devices.map DeviceEntry.id

/-- An event is under way that announces the device. -/
def Coming (d : String) (s : Console) : Prop :=
  ∃ name, .deviceFound d name ∈ s.session.backlog ++ s.queued.drop s.taken

/-- The answer to list request number `n` has the device, as far as it is there: the
    handler has answered, or the manager has.  If not, it will have what the table has. -/
structure Promised (d : String) (s : Console) (n : Nat) : Prop where
  served : ∀ r resp, s.session.served[n]? = some (r, resp) →
    ∃ payload, resp = .ok payload ∧ d ∈ (parseDevices payload).map DeviceEntry.id
  rows : n = s.session.served.length →
    ∀ rows, s.rows = some rows → d ∈ (parseDevices (.array rows)).map DeviceEntry.id

/-- The task will bring a list with the device. -/
def Brings (d : String) (s : Console) (job : Job) : Prop :=
  (∃ call ∈ job.todo, call.request = .deviceList) ∨
    ∃ call n, job.waiting = some (call, n) ∧ call.request = .deviceList ∧ Promised d s n

/-- A list is under way that has the device or will have it. -/
def Listing (d : String) (s : Console) : Prop :=
  (∃ job ∈ s.jobs, Brings d s job) ∨
    ∃ entries, .devices entries ∈ s.outcomes ∧ d ∈ entries.map DeviceEntry.id

/-- Nothing shown or under way names a device that is not in the table. -/
structure Truthful (d : String) (s : Console) : Prop where
  shown : Shown d s → Known d s
  events : ∀ e ∈ s.session.backlog ++ s.queued,
    (∀ id, e ≠ .deviceLost id) ∧ ∀ name, e = .deviceFound d name → Known d s
  rows : ∀ rows, s.rows = some rows → d ∈ (parseDevices (.array rows)).map DeviceEntry.id →
    Known d s
  served : ∀ resp payload, (.deviceList, resp) ∈ s.session.served → resp = .ok payload →
    d ∈ (parseDevices payload).map DeviceEntry.id → Known d s
  outcomes : ∀ entries, .devices entries ∈ s.outcomes → d ∈ entries.map DeviceEntry.id → Known d s

/-- A device of the table is shown or on its way. -/
def Covered (d : String) (s : Console) : Prop := Known d s → Shown d s ∨ Coming d s ∨ Listing d s

/-- The list the loop applies next, if the next outcome is one. -/
def nextList : List Outcome → Option (List DeviceEntry)
  | .devices entries :: _ => some entries
  | _ => none

/-- The device announced by the next event for the relay. -/
def nextFound : List ServerEvent → Option String
  | .deviceFound id _ :: _ => some id
  | _ => none

/-- The move gives up a device: a list is applied that lacks one which is shown, an event
    that announces one is skipped, or the connection goes down. -/
def Loses (s : Console) : Move → Prop
  | .outcome => s.tui.quit = false ∧ s.polled = true ∧
      ∃ entries ∈ nextList s.outcomes,
        ∃ device ∈ s.tui.devices, device.id ∉ entries.map DeviceEntry.id
  | .skip => (nextFound s.session.backlog).isSome = true
  | .fail _ _ | .leave => True
  | _ => False

/-- All events and outcomes have been applied and no request is outstanding. -/
structure Quiet (s : Console) : Prop where
  backlog : s.session.backlog = []
  outbound : s.session.outbound = []
  toClient : s.session.toClient = []
  events : s.taken = s.session.events.length
  jobs : ∀ job ∈ s.jobs, job.todo = [] ∧ job.waiting = none
  outcomes : s.outcomes = []

/-- When all is quiet, the interface shows the devices of the table. -/
def Converged (s : Console) : Prop := s.Quiet → ∀ d, Shown d s ↔ Known d s

/-! ## The two reducers, by ids -/

theorem applyEvent_ids (tui : State) (e : ServerEvent) (h : ∀ id, e ≠ .deviceLost id) :
    d ∈ (tui.applyEvent e).devices.map DeviceEntry.id ↔
      d ∈ tui.devices.map DeviceEntry.id ∨ ∃ name, e = .deviceFound d name := by
  cases e with
  | deviceFound id name =>
    have hids : (tui.applyEvent (.deviceFound id name)).devices.map DeviceEntry.id =
        if id ∈ tui.devices.map DeviceEntry.id then tui.devices.map DeviceEntry.id
        else tui.devices.map DeviceEntry.id ++ [id] := Rows.map_upsert_eq
    rw [hids]
    split
    · rename_i hmem
      constructor
      · exact .inl
      · rintro (hold | ⟨name', hfound⟩)
        · exact hold
        · cases hfound
          exact hmem
    · rw [List.mem_append, List.mem_singleton]
      refine or_congr_right ⟨fun hid => ⟨name, by rw [hid]⟩, ?_⟩
      rintro ⟨name', hfound⟩
      cases hfound
      rfl
  | deviceLost id => exact absurd rfl (h id)
  -- the other events neither add nor drop a row
  | deviceStateChanged id state =>
    have hids : (tui.applyEvent (.deviceStateChanged id state)).devices.map DeviceEntry.id =
        tui.devices.map DeviceEntry.id := Rows.map_modify fun _ => rfl
    rw [hids]
    simp
  | transferProgress id bytesDone bytesTotal =>
    simp only [State.applyEvent_devices, State.reduce]
    split <;> simp
  | transferFinished id =>
    simp only [State.applyEvent_devices, State.reduce]
    split <;> simp
  | _ => simp [State.reduce]

theorem applyOutcome_devices (tui : State) (outcome : Outcome) :
    (tui.applyOutcome outcome).devices =
      match outcome with
      | .devices entries => entries
      | _ => tui.devices := by
  cases outcome with
  | flash _ | devices _ => rfl
  | notifications _ => simp only [State.applyOutcome, State.clampCursors]
  | plugins device plugins =>
    simp only [State.applyOutcome, State.clampCursors]
    split <;> rfl

theorem expectOk_eq_ok {payload : Value} :
    expectOk resp = .ok payload ↔ resp = .ok payload := by
  cases resp <;> simp [expectOk]

/-! ## One move -/

/-- What is shown and under way is right, and nothing is missing. -/
structure Tracked (d : String) (s : Console) : Prop extends Truthful d s where
  covered : Covered d s

/-- What is shown stays, and what is on its way stays so or is shown. -/
theorem Covered.of_moved (h : Covered d s) (hknown : Known d s' → Known d s)
    (hshown : Shown d s → Shown d s')
    (hcoming : Coming d s → Shown d s' ∨ Coming d s' ∨ Listing d s')
    (hlisting : Known d s → Listing d s → Shown d s' ∨ Listing d s') : Covered d s' := by
  intro hk
  rcases h (hknown hk) with hs | hc | hl
  · exact .inl (hshown hs)
  · exact hcoming hc
  · exact (hlisting (hknown hk) hl).imp_right .inr

theorem Promised.of_same (h : Promised d s n) (hserved : s'.session.served = s.session.served)
    (hrows : s'.rows = s.rows) :
    Promised d s' n := by
  refine ⟨?_, ?_⟩
  · rw [hserved]
    exact h.served
  · rw [hserved, hrows]
    exact h.rows

theorem Brings.of_same {job : Job} (h : Brings d s job)
    (hserved : s'.session.served = s.session.served) (hrows : s'.rows = s.rows) :
    Brings d s' job := by
  refine h.imp_right ?_
  rintro ⟨call, n, hwaiting, hcall, hn⟩
  exact ⟨call, n, hwaiting, hcall, hn.of_same hserved hrows⟩

/-- A listing under way survives if what was promised to it does. -/
theorem Listing.of_promised (h : Listing d s) (hjobs : s'.jobs = s.jobs)
    (houtcomes : s'.outcomes = s.outcomes)
    (hpromised : ∀ job ∈ s.jobs, ∀ call n, job.waiting = some (call, n) →
      call.request = .deviceList → Promised d s n → Promised d s' n) : Listing d s' := by
  rcases h with ⟨job, hjob, hbrings⟩ | hlist
  · refine .inl ⟨job, hjobs ▸ hjob, hbrings.imp_right ?_⟩
    rintro ⟨call, n, hwaiting, hcall, hn⟩
    exact ⟨call, n, hwaiting, hcall, hpromised job hjob call n hwaiting hcall hn⟩
  · exact .inr (houtcomes ▸ hlist)

theorem Listing.of_same (h : Listing d s) (hjobs : s'.jobs = s.jobs)
    (houtcomes : s'.outcomes = s.outcomes) (hserved : s'.session.served = s.session.served)
    (hrows : s'.rows = s.rows) : Listing d s' :=
  h.of_promised hjobs houtcomes fun _ _ _ _ _ _ hn => hn.of_same hserved hrows

theorem ofEvent_eq_found {ev : Event} {name : String} :
    ServerEvent.ofEvent ev = .deviceFound d name ↔ ev = .deviceFound d name := by
  cases ev <;> simp [ServerEvent.ofEvent]

theorem ofEvent_eq_lost {ev : Event} {id : String} :
    ServerEvent.ofEvent ev = .deviceLost id ↔ ev = .deviceLost id := by
  cases ev <;> simp [ServerEvent.ofEvent]

/-- The tracking survives a command that announces each device it adds. -/
theorem Tracked.publish (h : Tracked d s) {m : Manager} {events : List Event}
    (hgrow : (m.devices.get d).isSome = true ↔ Known d s ∨ ∃ name, .deviceFound d name ∈ events)
    (hlost : ∀ id, .deviceLost id ∉ events) :
    Tracked d ({ s with manager := m }.publish events) := by
  obtain ⟨later, hsession⟩ := Session.run_publish s.session events
  simp only [Console.publish, hsession]
  have hmono : Known d s → (m.devices.get d).isSome = true := fun hk => hgrow.mpr (.inl hk)
  have hold : ∀ e ∈ s.session.backlog ++ s.queued, (∀ id, e ≠ .deviceLost id) ∧
      ∀ name, e = .deviceFound d name → (m.devices.get d).isSome = true :=
    fun e he => ⟨(h.events e he).1, fun name hname => hmono ((h.events e he).2 name hname)⟩
  refine ⟨⟨fun hd => hmono (h.shown hd), fun e he => ?_,
    fun rows hrows hd => hmono (h.rows rows hrows hd),
    fun resp payload hresp hok hd => hmono (h.served resp payload hresp hok hd),
    fun entries he hd => hmono (h.outcomes entries he hd)⟩, fun hk => ?_⟩
  · rw [List.append_assoc, List.mem_append, List.mem_append] at he
    rcases he with hback | hnew | hqueued
    · exact hold e (List.mem_append_left _ hback)
    · obtain ⟨ev, hev, rfl⟩ := List.mem_map.mp hnew
      refine ⟨fun id hid => ?_, fun name hname => ?_⟩
      · rw [ofEvent_eq_lost] at hid
        exact hlost id (hid ▸ hev)
      · rw [ofEvent_eq_found] at hname
        exact hgrow.mpr (.inr ⟨name, hname ▸ hev⟩)
    · exact hold e (List.mem_append_right _ hqueued)
  · -- known before, or among the new events
    rcases hgrow.mp hk with hbefore | ⟨name, hname⟩
    · rcases h.covered hbefore with hshown | ⟨name, hname⟩ | hlisting
      · exact .inl hshown
      · refine .inr (.inl ⟨name, ?_⟩)
        rcases List.mem_append.mp hname with hback | hqueued
        · exact List.mem_append_left _ (List.mem_append_left _ hback)
        · exact List.mem_append_right _ hqueued
      · exact .inr (.inr (hlisting.of_same rfl rfl rfl rfl))
    · refine .inr (.inl ⟨name, List.mem_append_left _ (List.mem_append_right _ ?_)⟩)
      exact List.mem_map.mpr ⟨_, hname, rfl⟩

/-- The manager takes the list request: from now on the list has what the table has. -/
theorem Tracked.list (h : Tracked d s) : Tracked d { s with rows := some s.manager.snapshot } := by
  refine ⟨{ h.toTruthful with rows := fun rows hrows hd => ?_ }, ?_⟩
  · obtain rfl := Option.some.inj hrows
    exact (mem_snapshot_iff s.manager).mp hd
  · refine h.covered.of_moved id id (fun hc => .inr (.inl hc)) fun hk hlisting => .inr ?_
    refine hlisting.of_promised rfl rfl fun _ _ _ n _ _ hn => ⟨hn.served, fun _ rows hrows => ?_⟩
    obtain rfl := Option.some.inj hrows
    exact (mem_snapshot_iff s.manager).mpr hk

theorem getElem?_concat_cases {α : Type} {xs : List α} {x y : α}
    (h : (xs ++ [x])[n]? = some y) : xs[n]? = some y ∨ n = xs.length ∧ y = x := by
  rcases Nat.lt_trichotomy n xs.length with hlt | rfl | hgt
  · rw [List.getElem?_append_left hlt] at h
    exact .inl h
  · rw [List.getElem?_concat_length, Option.some_inj] at h
    exact .inr ⟨rfl, h.symm⟩
  · have hlt := (List.getElem?_eq_some_iff.mp h).1
    rw [List.length_append, List.length_singleton] at hlt
    omega

/-- The handler answers; a list request with the manager's rows. -/
theorem Tracked.respond (h : Tracked d s) (hw : s.Wired) {r : Request}
    (hphase : s.session.phase = .handling r)
    (hlist : r = .deviceList → ∃ rows, s.rows = some rows ∧ resp = .ok (.array rows)) :
    Tracked d { s with session := s.session.step (.respond resp), rows := none } := by
  rw [Session.respond_eq hphase]
  have hqueued : (s.session.stream ++ [Outbound.response resp]).filterMap Outbound.event? =
      s.queued := by
    rw [List.filterMap_append]
    exact List.append_nil _
  have hnone (rows : List Value) : none ≠ some rows := Option.some_ne_none rows |>.symm
  refine ⟨⟨h.shown, fun e he => ?_, fun rows hrows => absurd hrows (hnone rows),
    fun resp' payload hserved hok hd => ?_, h.outcomes⟩, ?_⟩
  · simp only [queued, Session.queue, hqueued] at he
    exact h.events e he
  · rcases List.mem_append.mp hserved with hold | hnew
    · exact h.served resp' payload hold hok hd
    · obtain ⟨hr, rfl⟩ := Prod.mk.inj (List.mem_singleton.mp hnew)
      obtain ⟨rows, hrows, rfl⟩ := hlist hr.symm
      cases hok
      exact h.rows rows hrows hd
  · refine h.covered.of_moved id id (fun hcoming => .inr (.inl ?_)) fun _ hlisting => .inr ?_
    · obtain ⟨name, hname⟩ := hcoming
      refine ⟨name, ?_⟩
      simp only [queued, Session.queue, hqueued]
      exact hname
    · refine hlisting.of_promised rfl rfl fun job hjob call n hwaiting hcall hn =>
        ⟨fun r' resp' hserved => ?_, fun _ rows hrows => absurd hrows (hnone rows)⟩
      rcases getElem?_concat_cases hserved with hold | ⟨rfl, hnew⟩
      · exact hn.served r' resp' hold
      · -- the request with the handler is the one this task has made
        have hrequest := hw.asked job hjob call _ hwaiting
        rw [hw.sound.handled hphase, hcall, Option.some_inj] at hrequest
        obtain ⟨rows, hrows, rfl⟩ := hlist hrequest
        exact ⟨.array rows, (Prod.mk.inj hnew).2, hn.rows rfl rows hrows⟩

/-- Before the connection is registered the first list is still to come. -/
theorem Wired.listing (hw : s.Wired) (hphase : s.session.phase = .accepted) : Listing d s := by
  obtain ⟨hserved, job, hjob, hlists⟩ := hw.starting hphase
  refine .inl ⟨job, hjob, hlists.imp_right ?_⟩
  rintro ⟨call, n, hwaiting, hcall⟩
  refine ⟨call, n, hwaiting, hcall, fun r resp hn => ?_, fun _ rows hrows => ?_⟩
  · rw [hserved] at hn
    cases hn
  · have hlisting := hw.rows_phase hrows
    rw [hphase] at hlisting
    cases hlisting

/-- Messages move on; what is new among them is not about devices. -/
theorem Tracked.of_session (h : Tracked d s) (hserved : session.served = s.session.served)
    (hevents : ∀ e ∈ session.backlog ++ session.stream.filterMap Outbound.event?,
      e ∈ s.session.backlog ++ s.queued ∨ ∀ id name, e ≠ .deviceLost id ∧ e ≠ .deviceFound id name)
    (hcoming : Coming d s → Coming d { s with session } ∨ Listing d { s with session }) :
    Tracked d { s with session } := by
  refine ⟨{ h.toTruthful with events := fun e he => ?_, served := ?_ }, ?_⟩
  · rcases hevents e he with hold | hother
    · exact h.events e hold
    · exact ⟨fun id => (hother id "").1, fun name hname => absurd hname (hother d name).2⟩
  · rw [hserved]
    exact h.served
  · exact h.covered.of_moved id id (fun hc => .inr (hcoming hc)) fun _ hlisting =>
      .inr (hlisting.of_same rfl rfl hserved rfl)

theorem queued_concat (h : session.stream = s.session.stream ++ [.event e]) :
    session.stream.filterMap Outbound.event? = s.queued ++ [e] := by
  rw [h, List.filterMap_append]
  rfl

/-- Relay, connection task, writer and reader. -/
theorem Tracked.link (h : Tracked d s) (hw : s.Wired) {a : Session.Move} (ha : a.carries = true) :
    Tracked d { s with session := s.session.step a } := by
  have hcarries := hw.sound.carries ha
  have hwired := hw.link ha
  obtain ⟨hserved, -⟩ := Session.step_carries_work (s := s.session) ha
  generalize s.session.step a = session at hcarries hwired hserved ⊢
  cases hcarries with
  | passes hback hstream _ | registers hback hstream _ _ | serves hback hstream _ _ =>
    refine h.of_session hserved (fun e he => .inl ?_) fun hcoming => .inl ?_
    · rw [hback, hstream] at he
      exact he
    · simp only [Coming, queued, hback, hstream]
      exact hcoming
  | @relays e hback hstream _ =>
    -- from the head of the backlog to the end of the queue
    have hqueued := queued_concat hstream
    refine h.of_session hserved (fun e' he' => .inl ?_) fun hcoming => .inl ?_
    · simp only [hqueued, List.mem_append, List.mem_singleton] at he'
      simp only [hback, List.mem_append, List.mem_cons]
      tauto
    · obtain ⟨name, hname⟩ := hcoming
      refine ⟨name, ?_⟩
      simp only [hback, List.mem_append, List.mem_cons] at hname
      change _ ∈ session.backlog ++ (session.stream.filterMap Outbound.event?).drop s.taken
      simp only [hqueued, List.drop_append_of_le_length hw.taken, List.mem_append,
        List.mem_singleton]
      tauto
  | misses hback hstream hphase hlisted =>
    -- an event is missed before the connection is registered only, and then the bootstrap's
    -- list is still to come
    have haccepted : s.session.phase = .accepted := by
      cases hp : s.session.phase with
      | accepted => rfl
      | closed => exact absurd hp hw.phase
      | registered | reading | handling r =>
        rw [hp] at hlisted
        cases hlisted
    refine h.of_session hserved (fun e' he' => .inl ?_) fun _ => .inr ?_
    · simp only [hstream, List.mem_append] at he'
      simp only [hback, List.mem_append, List.mem_cons]
      exact he'.imp_left .inr
    · exact hwired.listing (hphase.trans haccepted)
  | @greets pid hback hstream _ _ =>
    have hqueued := queued_concat hstream
    refine h.of_session hserved (fun e' he' => ?_) fun hcoming => .inl ?_
    · simp only [hback, hqueued, ← List.append_assoc, List.mem_append (t := [_]),
        List.mem_singleton] at he'
      refine he'.imp_right ?_
      rintro rfl id name
      exact ⟨ServerEvent.noConfusion, ServerEvent.noConfusion⟩
    · obtain ⟨name, hname⟩ := hcoming
      refine ⟨name, ?_⟩
      change _ ∈ session.backlog ++ (session.stream.filterMap Outbound.event?).drop s.taken
      rw [hback, hqueued, List.drop_append_of_le_length hw.taken, ← List.append_assoc]
      exact List.mem_append_left _ hname

/-- The event that is skipped announces nothing. -/
theorem Tracked.skip (h : Tracked d s) (hkeep : ¬ Loses s .skip) :
    Tracked d { s with session := { s.session with backlog := s.session.backlog.tail } } := by
  refine h.of_session rfl (fun e he => .inl ?_) fun hcoming => .inl ?_
  · rcases List.mem_append.mp he with hback | hqueued
    · exact List.mem_append_left _ (List.mem_of_mem_tail hback)
    · exact List.mem_append_right _ hqueued
  · obtain ⟨name, hname⟩ := hcoming
    refine ⟨name, ?_⟩
    rcases List.mem_append.mp hname with hback | hqueued
    · refine List.mem_append_left _ ?_
      cases hb : s.session.backlog with
      | nil =>
        rw [hb] at hback
        cases hback
      | cons e rest =>
        rw [hb] at hback
        rcases List.mem_cons.mp hback with rfl | hrest
        · exact absurd (by rw [Loses, hb]; rfl) hkeep
        · exact hrest
    · exact List.mem_append_right _ hqueued

/-- A task makes its next request. -/
theorem Tracked.ask (h : Tracked d s) (hw : s.Wired) {i : Nat}
    (hjob : s.jobs[i]? = some ⟨call :: todo, none⟩) (hwriting : s.session.writing = none) :
    Tracked d { s with
      jobs := s.jobs.set i { todo, waiting := some (call, s.session.requests.length) }
      session := s.session.step (.enqueue call.request) } := by
  rw [Session.enqueue_eq hwriting]
  refine ⟨{ h.toTruthful with }, h.covered.of_moved id id (fun hc => .inr (.inl hc)) ?_⟩
  rintro - (hjobs | houtcome)
  · refine .inr (.inl ?_)
    rcases exists_mem_set ⟨todo, some (call, s.session.requests.length)⟩ hjob hjobs with
      ⟨job, hmem, hbrings⟩ | ⟨call', hcall', hrequest⟩ | ⟨_, _, hwaiting, _⟩
    · exact ⟨job, hmem, hbrings.of_same rfl rfl⟩
    · refine ⟨_, mem_set_self _ hjob, ?_⟩
      rcases List.mem_cons.mp hcall' with rfl | hlater
      · -- the new request is behind all that are answered or with the handler
        refine .inr ⟨_, _, rfl, hrequest, fun r resp hserved => ?_, fun hlast rows hrows => ?_⟩
        · have hlt := (List.getElem?_eq_some_iff.mp hserved).1
          have hle := hw.sound.delivers.requests.length_le
          rw [List.length_map] at hle
          exact absurd hlt (Nat.not_lt.mpr hle)
        · have hphase := hw.rows_phase hrows
          have hlt := (List.getElem?_eq_some_iff.mp (hw.sound.handled hphase)).1
          exact absurd hlast (Nat.ne_of_gt hlt)
      · exact .inl ⟨call', hlater, hrequest⟩
    · cases hwaiting
  · exact .inr (.inr houtcome)

/-- A task sends the outcome it makes of an answer. -/
theorem Tracked.report (h : Tracked d s) (hw : s.Wired) {i : Nat}
    (hjob : s.jobs[i]? = some ⟨todo, some (call, n)⟩)
    (hanswer : s.session.answered.lookup n = some resp) :
    Tracked d (s.settle i todo call (expectOk resp)) := by
  obtain ⟨r, hserved, hrequest⟩ := hw.sound.answered_served hanswer
  have hcall : r = call.request := by
    rw [hw.asked _ (List.mem_of_getElem? hjob) call n rfl, Option.some_inj] at hrequest
    exact hrequest.symm
  refine ⟨{ h.toTruthful with outcomes := fun entries he hd => ?_ },
    h.covered.of_moved id id (fun hc => .inr (.inl hc)) ?_⟩
  · rcases List.mem_append.mp he with hold | hnew
    · exact h.outcomes entries hold hd
    · -- devices are reported as the handler's answer has them
      rw [Option.mem_toList, call.lists] at hnew
      obtain ⟨hlist, payload, hok, rfl⟩ := hnew
      rw [hcall, hlist] at hserved
      exact h.served resp payload (List.mem_of_getElem? hserved) (expectOk_eq_ok.mp hok) hd
  · rintro - (hjobs | ⟨entries, he, hd⟩)
    · right
      rcases exists_mem_set (.spawn todo) hjob hjobs with
        ⟨job, hmem, hbrings⟩ | htodo | ⟨call', n', hwaiting, hlist, hn⟩
      · exact .inl ⟨job, hmem, hbrings.of_same rfl rfl⟩
      · exact .inl ⟨_, mem_set_self _ hjob, .inl htodo⟩
      · -- the list that was promised is this answer
        obtain ⟨rfl, rfl⟩ := Prod.mk.inj (Option.some.inj hwaiting)
        obtain ⟨payload, hok, hd⟩ := hn.served r resp hserved
        refine .inr ⟨parseDevices payload, List.mem_append_right _ ?_, hd⟩
        rw [Option.mem_toList, call.lists]
        exact ⟨hlist, payload, expectOk_eq_ok.mpr hok, rfl⟩
    · exact .inr (.inr ⟨entries, List.mem_append_left _ he, hd⟩)

theorem Tracked.event (h : Tracked d s) (hw : s.Wired) (he : s.session.events[s.taken]? = some e) :
    Tracked d { s with tui := s.tui.applyEvent e, taken := s.taken + 1, polled := false } := by
  have hqueued := hw.event he
  obtain ⟨hlost, hfound⟩ := h.events e (List.mem_append_right _ (List.mem_of_getElem? hqueued))
  have hids := applyEvent_ids (d := d) s.tui e hlost
  refine ⟨{ h.toTruthful with shown := fun hd => ?_ },
    h.covered.of_moved id (fun hd => hids.mpr (.inl hd)) (fun hcoming => ?_) fun _ hlisting =>
      .inr (hlisting.of_same rfl rfl rfl rfl)⟩
  · rcases hids.mp hd with hold | ⟨name, hname⟩
    · exact h.shown hold
    · exact hfound name hname
  · obtain ⟨name, hname⟩ := hcoming
    have hdrop : s.queued.drop s.taken = e :: s.queued.drop (s.taken + 1) := by
      obtain ⟨hlt, hget⟩ := List.getElem?_eq_some_iff.mp hqueued
      rw [List.drop_eq_getElem_cons hlt, hget]
    rw [hdrop] at hname
    rcases List.mem_append.mp hname with hback | hnext
    · exact .inr (.inl ⟨name, List.mem_append_left _ hback⟩)
    · rcases List.mem_cons.mp hnext with hnow | hlater
      · exact .inl (hids.mpr (.inr ⟨name, hnow.symm⟩))
      · exact .inr (.inl ⟨name, List.mem_append_right _ hlater⟩)

/-- The loop applies an outcome; a list has all the devices that are shown. -/
theorem Tracked.outcome (h : Tracked d s) (hkeep : ¬ Loses s .outcome) (hquit : s.tui.quit = false)
    (hpolled : s.polled = true) {outcome : Outcome} {rest : List Outcome}
    (houtcomes : s.outcomes = outcome :: rest) :
    Tracked d { s with tui := s.tui.applyOutcome outcome, outcomes := rest, polled := false } := by
  have hknown : ∀ entries, .devices entries ∈ rest → d ∈ entries.map DeviceEntry.id →
      Known d s := by
    intro entries he
    refine h.outcomes entries ?_
    rw [houtcomes]
    exact List.mem_cons_of_mem _ he
  -- a list that is under way is this outcome or stays under way
  have hlisting : Listing d s →
      (∃ entries, outcome = .devices entries ∧ d ∈ entries.map DeviceEntry.id) ∨
        Listing d { s with
          tui := s.tui.applyOutcome outcome, outcomes := rest, polled := false } := by
    rintro (⟨job, hjob, hbrings⟩ | ⟨entries, he, hd⟩)
    · exact .inr (.inl ⟨job, hjob, hbrings.of_same rfl rfl⟩)
    · rw [houtcomes] at he
      rcases List.mem_cons.mp he with hnow | hlater
      · exact .inl ⟨entries, hnow.symm, hd⟩
      · exact .inr (.inr ⟨entries, hlater, hd⟩)
  have hdevices := applyOutcome_devices s.tui outcome
  by_cases hlist : ∃ entries, outcome = .devices entries
  · obtain ⟨entries, rfl⟩ := hlist
    have hall : ∀ device ∈ s.tui.devices, device.id ∈ entries.map DeviceEntry.id := by
      intro device hdevice
      by_contra hmissing
      refine hkeep ⟨hquit, hpolled, entries, ?_, device, hdevice, hmissing⟩
      rw [houtcomes]
      rfl
    refine ⟨{ h.toTruthful with shown := fun hd => ?_, outcomes := hknown },
      h.covered.of_moved id (fun hd => ?_) (fun hc => .inr (.inl hc)) fun _ hl =>
        (hlisting hl).imp_left ?_⟩
    · refine h.outcomes entries ?_ hd
      rw [houtcomes]
      exact List.mem_cons_self
    · obtain ⟨device, hdevice, rfl⟩ := List.mem_map.mp hd
      exact hall device hdevice
    · rintro ⟨entries', hnow, hd⟩
      cases hnow
      exact hd
  · have hsame : (s.tui.applyOutcome outcome).devices = s.tui.devices := by
      rw [hdevices]
      split
      · exact absurd ⟨_, rfl⟩ hlist
      · rfl
    have hshown : Shown d { s with
        tui := s.tui.applyOutcome outcome, outcomes := rest, polled := false } ↔ Shown d s := by
      simp only [Shown, hsame]
    refine ⟨{ h.toTruthful with shown := fun hd => h.shown (hshown.mp hd), outcomes := hknown },
      h.covered.of_moved id hshown.mpr (fun hc => .inr (.inl hc)) fun _ hl =>
        .inr ((hlisting hl).resolve_left ?_)⟩
    rintro ⟨entries, hnow, -⟩
    exact hlist ⟨entries, hnow⟩

/-- A key press leaves the devices alone. -/
theorem Tracked.acts (h : Tracked d s) (hacts : Acts s s') : Tracked d s' := by
  have hids {tui : State} (hdevices : tui.devices = s.tui.devices) :
      d ∈ tui.devices.map DeviceEntry.id ↔ Shown d s := by
    rw [hdevices, Shown]
  cases hacts with
  | shows hdevices =>
    refine ⟨{ h.toTruthful with shown := fun hd => h.shown ((hids hdevices).mp hd) },
      h.covered.of_moved id (hids hdevices).mpr (fun hc => .inr (.inl hc)) fun _ hlisting =>
        .inr (hlisting.of_same rfl rfl rfl rfl)⟩
  | spawns hdevices =>
    refine ⟨{ h.toTruthful with shown := fun hd => h.shown ((hids hdevices).mp hd) },
      h.covered.of_moved id (hids hdevices).mpr (fun hc => .inr (.inl hc)) ?_⟩
    rintro - (⟨job, hjob, hbrings⟩ | hlist)
    · exact .inr (.inl ⟨job, List.mem_append_left _ hjob, hbrings.of_same rfl rfl⟩)
    · exact .inr (.inr hlist)
  | tells hdevices =>
    refine ⟨{ h.toTruthful with
      shown := fun hd => h.shown ((hids hdevices).mp hd), outcomes := fun entries he hd => ?_ },
      h.covered.of_moved id (hids hdevices).mpr (fun hc => .inr (.inl hc)) ?_⟩
    · rcases List.mem_append.mp he with hold | hnew
      · exact h.outcomes entries hold hd
      · cases List.mem_singleton.mp hnew
    · rintro - (⟨job, hjob, hbrings⟩ | ⟨entries, he, hd⟩)
      · exact .inr (.inl ⟨job, hjob, hbrings.of_same rfl rfl⟩)
      · exact .inr (.inr ⟨entries, List.mem_append_left _ he, hd⟩)

/-! ## Whole runs -/

theorem not_cuts {a : Move} (h : ¬ Loses s a) : ¬ Cuts a := by
  cases a with
  | fail _ _ | leave => exact absurd trivial h
  | _ => exact id

/-- Unless something is lost, a known device stays shown or on its way. -/
theorem Tracked.step (h : Tracked d s) (hw : s.Wired) {a : Move} (hkeep : ¬ Loses s a) :
    Tracked d (s.step a) := by
  rcases step_moves ⟨hw.alive, hw.sound.alive⟩ (not_cuts hkeep) with hsame | hmoves
  · rwa [hsame]
  · generalize s.step a = s' at hmoves ⊢
    cases hmoves with
    | command env c =>
      refine h.publish (s.manager.handle_known_iff env d c) fun id hid => ?_
      exact s.manager.lost_not_published env c (id, .lost)
        (List.mem_filterMap.mpr ⟨_, hid, rfl⟩) rfl
    | @publish ev hev =>
      -- the table stays, and the event is about no device
      refine h.publish (m := s.manager) ⟨.inl, ?_⟩ fun id hid => ?_
      · rintro (hk | ⟨name, hname⟩)
        · exact hk
        · rw [← List.mem_singleton.mp hname] at hev
          cases hev
      · rw [← List.mem_singleton.mp hid] at hev
        cases hev
    | list _ _ => exact h.list
    | respondList hphase hrows => exact h.respond hw hphase fun _ => ⟨_, hrows, rfl⟩
    | @respond r resp hphase hr =>
      have hlist : r = .deviceList → ∃ rows, s.rows = some rows ∧ resp = .ok (.array rows) :=
        fun hlist => absurd hlist hr
      have hrespond := h.respond hw hphase hlist
      rw [← hw.rows_eq_none hphase hr] at hrespond
      exact hrespond
    | link hcarries => exact h.link hw hcarries
    | skip => exact h.skip hkeep
    | ask hjob hwriting => exact h.ask hw hjob hwriting
    | report hjob hanswer => exact h.report hw hjob hanswer
    | event he => exact h.event hw he
    | empty =>
      exact ⟨{ h.toTruthful with }, h.covered.of_moved id id (fun hc => .inr (.inl hc))
        fun _ hlisting => .inr (hlisting.of_same rfl rfl rfl rfl)⟩
    | outcome hquit hpolled houtcomes => exact h.outcome hkeep hquit hpolled houtcomes
    | key hacts => exact h.acts hacts

theorem start_tracked (m : Manager) (d : String) : Tracked d (start m) where
  shown h := absurd h List.not_mem_nil
  events _ h := absurd h List.not_mem_nil
  rows rows h := absurd h (Option.some_ne_none rows).symm
  served _ _ h := absurd h List.not_mem_nil
  outcomes _ h := absurd h List.not_mem_nil
  covered _ := .inr (.inr ((start_wired m).listing rfl))

/-- With everything tracked, a quiet interface shows the table. -/
theorem converged_of_tracked (hw : s.Wired) (h : ∀ d, Tracked d s) : s.Converged := by
  intro hquiet d
  refine ⟨(h d).shown, fun hk => ?_⟩
  rcases (h d).covered hk with hshown | ⟨name, hname⟩ | ⟨job, hjob, hbrings⟩ | ⟨entries, he, -⟩
  · exact hshown
  · -- every event that was queued has been taken
    have hevents := hw.sound.delivers.events
    rw [hquiet.toClient, hquiet.outbound, List.filterMap_nil, List.filterMap_nil, List.append_nil,
      List.append_nil] at hevents
    rw [queued, ← hevents, hquiet.events, List.drop_length, hquiet.backlog] at hname
    cases hname
  · obtain ⟨htodo, hwaiting⟩ := hquiet.jobs job hjob
    rcases hbrings with ⟨call, hcall, -⟩ | ⟨call, n, hsome, -⟩
    · rw [htodo] at hcall
      cases hcall
    · rw [hwaiting] at hsome
      cases hsome
  · rw [hquiet.outcomes] at he
    cases he

/-- **Convergence.** In every run of the daemon and the interface in which no device is given
    up, whatever the order of requests, answers, events and the loop's own steps: whenever all
    is quiet, the interface shows exactly the devices of the manager's table. -/
theorem devices_converge (m : Manager) (moves : List Move)
    (hfits : AllSteps step Fits (start m) moves)
    (hkeeps : AllSteps step (fun s a => ¬ Loses s a) (start m) moves) :
    AllStates step Converged (start m) moves := by
  have htracked : AllStates step (fun s => s.Wired ∧ ∀ d, Tracked d s) (start m) moves := by
    refine allStates_of_invariant ⟨start_wired m, start_tracked m⟩ ?_ (hfits.and hkeeps)
    rintro s a ⟨hw, h⟩ ⟨hfit, hkeep⟩
    exact ⟨hw.step (not_cuts hkeep) hfit, fun d => (h d).step hw hkeep⟩
  exact htracked.mono fun s hs => converged_of_tracked hs.1 hs.2

/-! ## Two runs -/

instance (s : Console) (a : Move) : Decidable (s.Fits a) :=
  match a with
  | .command env c => inferInstanceAs (Decidable (∀ ev ∈ published (s.manager.handle env c).2,
      (ServerEvent.ofEvent ev).Fits))
  | .publish ev => inferInstanceAs (Decidable (ServerEvent.ofEvent ev).Fits)
  | .respond resp => inferInstanceAs (Decidable resp.Fits)
  | .list | .link _ | .skip | .ask _ | .report _ | .fail _ _ | .leave | .poll | .outcome | .key _ =>
    .isTrue trivial

instance (s : Console) (a : Move) : Decidable (Loses s a) :=
  match a with
  | .outcome => inferInstanceAs (Decidable (s.tui.quit = false ∧ s.polled = true ∧
      ∃ entries ∈ nextList s.outcomes,
        ∃ device ∈ s.tui.devices, device.id ∉ entries.map DeviceEntry.id))
  | .skip => inferInstanceAs (Decidable ((nextFound s.session.backlog).isSome = true))
  | .fail _ _ | .leave => .isTrue trivial
  | .command _ _ | .publish _ | .list | .respond _ | .link _ | .ask _ | .report _ | .poll
  | .key _ => .isFalse id

def noDevices : Manager := (Manager.new .empty "desk" default (.dir "/d")).loadPersisted

/-- The connection is set up, and the bootstrap asks for the devices. -/
def bootstrapAsks : List Move :=
  [.link .register, .link (.hello 7), .ask 0, .link .write, .link .serve, .list]

def phoneConnects : Move := .command (.nominal 0) (.connected "phone" (Transport.uniform 0 7))

/-- The bootstrap goes on to the notifications, and the loop applies them. -/
def bootstrapEnds : List Move :=
  [.ask 0, .link .write, .link .serve, .respond (.ok (.array [])), .link .flush, .link .read,
    .report 0, .poll, .outcome]

/-- The phone is in the list, and the tablet connects when that was applied. -/
def listThenFound : List Move :=
  phoneConnects :: bootstrapAsks ++
  [.respond (.ok .null), .link .flush, .link .flush, .link .read, .link .read, .poll, .report 0,
    .poll, .outcome, .command (.nominal 0) (.connected "tablet" (Transport.uniform 1 8)),
    .link .relay, .link .relay, .link .flush, .link .flush, .link .read, .link .read, .poll,
    .poll] ++
  bootstrapEnds

/-- The phone connects after the manager took the list, and the loop applies that event
    before the list. -/
def foundWhileListing : List Move :=
  bootstrapAsks ++
  [phoneConnects, .link .relay, .respond (.ok .null), .link .flush, .link .flush, .link .flush,
    .link .read, .link .read, .link .read, .poll, .poll, .report 0, .poll, .outcome] ++
  bootstrapEnds

theorem devices_converge_phone :
    AllStates step Converged (start noDevices) listThenFound ∧
      (run step (start noDevices) listThenFound).tui.devices.map DeviceEntry.id =
        ["phone", "tablet"] :=
  ⟨devices_converge noDevices listThenFound (by decide) (by decide), by decide⟩

/-- Nothing is under way, the table has the phone, and the interface shows no device. -/
theorem found_device_lost :
    let s := run step (start noDevices) foundWhileListing
    s.Quiet ∧ Known "phone" s ∧ s.tui.devices = [] ∧ ¬ s.Converged := by
  have hquiet : (run step (start noDevices) foundWhileListing).Quiet := by
    refine ⟨rfl, rfl, rfl, rfl, ?_, rfl⟩
    have hjobs : (run step (start noDevices) foundWhileListing).jobs = [.spawn []] := rfl
    rw [hjobs]
    simp [Job.spawn]
  have hknown : Known "phone" (run step (start noDevices) foundWhileListing) := by
    unfold Known
    decide
  have hshown : (run step (start noDevices) foundWhileListing).tui.devices = [] := rfl
  refine ⟨hquiet, hknown, hshown, fun hconverged => ?_⟩
  have hphone := (hconverged hquiet "phone").mpr hknown
  rw [Shown, hshown] at hphone
  cases hphone

end Handfast.Ui.Tui.Console
