/-
  Handfast.Ui.TuiLoop

  The terminal interface at work (`crates/tui/src/app.rs`): its event loop, the
  background tasks that make its requests, the connection, and the daemon's
  device manager at the other end.

  A pushed event and the answer to a request leave the daemon through one queue
  but reach the loop on different ways: the reader puts an event into the event
  channel, while an answer goes to the task that waits for it, and the task puts
  an outcome into another channel.  The loop looks at the event channel first.
  Each access to a channel is a move of its own, so that tasks, reader and loop
  interleave freely.  The moves of the connection are those of `Ipc.Session`; a
  request can fail, and the connection can end.

  `Moves` says what a move can do while the connection stays up, `Wired` what holds
  of requests, tasks and answers in every run.
-/
import Handfast.Daemon.News
import Handfast.Ipc.Codec
import Handfast.Ipc.Session
import Handfast.Ui.TuiState

/-! ## The connection, by what it does to messages -/

namespace Handfast.Ipc.Session

open Handfast.Lib Handfast.Protocol

/-- The moves that neither the daemon nor a caller of the client decides. -/
def Move.carries : Move → Bool
  | relay | register | hello _ | serve | flush | write | read => true
  | publish _ | respond _ | enqueue _ => false

variable {s s' : Session} {a : Move} {r : Request}

/-- What such a move does to the backlog, the queued messages and the connection's phase. -/
inductive Carries (s s' : Session) : Prop
  | passes (hback : s'.backlog = s.backlog) (hstream : s'.stream = s.stream)
      (hphase : s'.phase = s.phase)
  | relays {e : ServerEvent} (hback : s.backlog = e :: s'.backlog)
      (hstream : s'.stream = s.stream ++ [.event e]) (hphase : s'.phase = s.phase)
  | misses {e : ServerEvent} (hback : s.backlog = e :: s'.backlog) (hstream : s'.stream = s.stream)
      (hphase : s'.phase = s.phase) (hlisted : s.phase.listed = false)
  | registers (hback : s'.backlog = s.backlog) (hstream : s'.stream = s.stream)
      (hphase : s'.phase = .registered) (hbefore : s.phase = .accepted)
  | greets {pid : UInt32} (hback : s'.backlog = s.backlog)
      (hstream : s'.stream = s.stream ++ [.event (helloEvent pid)]) (hphase : s'.phase = .reading)
      (hbefore : s.phase = .registered)
  | serves {r : Request} (hback : s'.backlog = s.backlog) (hstream : s'.stream = s.stream)
      (hphase : s'.phase = .handling r) (hbefore : s.phase = .reading)

theorem Carries.stream (h : Carries s s') : s.stream <+: s'.stream := by
  cases h with
  | passes _ hstream _ | misses _ hstream _ _ | registers _ hstream _ _ | serves _ hstream _ _ =>
    exact ⟨[], by rw [hstream, List.append_nil]⟩
  | relays _ hstream _ | greets _ hstream _ _ => exact ⟨_, hstream.symm⟩

theorem step_carries_work (ha : a.carries = true) :
    (s.step a).served = s.served ∧ (s.step a).requests = s.requests := by
  rcases step_moves s a with hsame | hmoves
  · rw [hsame]
    exact ⟨rfl, rfl⟩
  · generalize s.step a = s' at hmoves ⊢
    cases hmoves with
    | publish _ | respond _ | enqueue _ => cases ha
    | hello _ hs =>
      subst hs
      exact ⟨rfl, rfl⟩
    | read _ => simp
    | relay _ _ | miss _ _ | register _ | serve _ _ _ | hangUp _ _ _ | flush _ | write _ =>
      exact ⟨rfl, rfl⟩

/-- A task of the connection hands messages on; it makes up none. -/
theorem Sound.carries (h : Sound s) (ha : a.carries = true) : Carries s (s.step a) := by
  rcases step_moves s a with hsame | hmoves
  · rw [hsame]
    exact .passes rfl rfl rfl
  · generalize s.step a = s' at hmoves ⊢
    cases hmoves with
    | publish _ | respond _ | enqueue _ => cases ha
    | relay hback _ => exact .relays hback rfl rfl
    | miss hback hlisted => exact .misses hback rfl rfl hlisted
    | register hphase => exact .registers rfl rfl rfl hphase
    | hello hphase hs =>
      subst hs
      exact .greets rfl rfl rfl hphase
    | serve hphase _ _ => exact .serves rfl rfl rfl hphase
    | hangUp _ hframe hv =>
      -- the read loop gets requests only
      obtain ⟨r, _, hr, -⟩ := h.toOrderly.head_request hframe
      rw [hv] at hr
      cases hr
    | read _ => exact .passes (by simp) (by simp) (by simp)
    | flush _ | write _ => exact .passes rfl rfl rfl

/-- An answer is the handler's, to the request of that number. -/
theorem Orderly.answered_served (h : Orderly s) {n : Nat} {resp : Response}
    (hn : s.answered.lookup n = some resp) :
    ∃ r, s.served[n]? = some (r, resp) ∧ s.requests[n]? = some r := by
  obtain ⟨-, -, hwaiters, hresponses, ⟨more, hrequests⟩, -⟩ := h.delivers
  -- waiter `n` is the `n`-th that was answered
  have hplace : s.answered[n]? = some (n, resp) := by
    obtain ⟨before, after, hsplit, -⟩ := List.lookup_eq_some_iff.mp hn
    have hlt : before.length < s.answered.length := by
      rw [hsplit, List.length_append, List.length_cons]
      omega
    have hnumber : (s.answered.map Prod.fst)[before.length]? = some n := by
      rw [hsplit]
      simp
    rw [hwaiters, List.getElem?_range hlt, Option.some_inj] at hnumber
    rw [hsplit, ← hnumber]
    simp
  -- and answers come in the order in which requests were handled
  have hresponse : (s.served.map Prod.snd)[n]? = some resp := by
    rw [← hresponses, List.getElem?_append_left, List.getElem?_map, hplace]
    · rfl
    · rw [List.length_map]
      exact (List.getElem?_eq_some_iff.mp hplace).1
  rw [List.getElem?_map, Option.map_eq_some_iff] at hresponse
  obtain ⟨⟨r, resp'⟩, hserved, rfl⟩ := hresponse
  refine ⟨r, hserved, ?_⟩
  have hlt := (List.getElem?_eq_some_iff.mp hserved).1
  rw [← hrequests, List.getElem?_append_left (by rwa [List.length_map]), List.getElem?_map, hserved]
  rfl

/-- The handler has the first request that is not answered. -/
theorem Orderly.handled (h : Orderly s) (hphase : s.phase = .handling r) :
    s.requests[s.served.length]? = some r := by
  obtain ⟨inFlight, -, hline⟩ := h.line
  rw [← hline, hphase, List.getElem?_append_right (by rw [List.length_map]), List.length_map,
    Nat.sub_self]
  rfl

theorem carries_roundTrips (ha : a.carries = true) : a.RoundTrips := by
  cases a with
  | publish _ | respond _ | enqueue _ => cases ha
  | relay | register | hello _ | serve | flush | write | read => trivial

theorem respond_eq (hphase : s.phase = .handling r) (resp : Response) :
    s.step (.respond resp) =
      { s with phase := .reading, served := s.served ++ [(r, resp)] }.queue (.response resp) := by
  simp only [step, hphase]

theorem enqueue_eq (hwriting : s.writing = none) (r : Request) :
    s.step (.enqueue r) = { s with
      writing := some r
      pending := s.pending ++ [s.requests.length]
      requests := s.requests ++ [r] } := by
  simp only [step, hwriting]

/-- Publishing touches the backlog and the history only. -/
theorem run_publish (s : Session) (events : List Core.Event) :
    ∃ later, run step s (events.map .publish) =
      { s with backlog := s.backlog ++ events.map .ofEvent, later } := by
  induction events generalizing s with
  | nil => exact ⟨s.later, by simp only [List.map_nil, run_nil, List.append_nil]⟩
  | cons ev events ih =>
    obtain ⟨later, hrest⟩ := ih (s.step (.publish ev))
    refine ⟨later, ?_⟩
    rw [List.map_cons, run_cons, hrest]
    simp only [step, List.map_cons, List.append_assoc, List.singleton_append]

/-- Publishing events that survive JSON keeps the session sound. -/
theorem Sound.run_publish (h : Sound s) {events : List Core.Event}
    (hfits : ∀ ev ∈ events, (ServerEvent.ofEvent ev).Fits) :
    Sound (run Session.step s (events.map .publish)) := by
  induction events generalizing s with
  | nil => exact h
  | cons ev events ih =>
    have hev : Move.Fits (.publish ev) := hfits ev List.mem_cons_self
    exact ih (h.step hev.roundTrips) fun ev' hev' => hfits ev' (List.mem_cons_of_mem ev hev')

end Handfast.Ipc.Session

namespace Handfast.Ui.Tui

open Handfast.Core Handfast.Daemon Handfast.Ipc Handfast.Lib Handfast.Protocol

/-! ## Background tasks -/

/-- The payload of an answer, or the text of the daemon's error (`expect_ok`). -/
def expectOk : Ipc.Response → Except String Value
  | .ok result => .ok result
  | .err code message => .error s!"daemon error [{code}]: {message}"

def ipcText (e : Ipc.Error) : String :=
  let err := e.text
  s!"ipc: {err}"

/-- A request of a task, and the outcome the task makes of the answer. -/
structure Call where
  request : Request
  report : Except String Value → Option Outcome
  /-- Devices come from device lists only, and as they are listed. -/
  lists : ∀ answer entries, report answer = some (.devices entries) ↔
    request = .deviceList ∧ ∃ payload, answer = .ok payload ∧ entries = parseDevices payload

namespace Call

/-- A device list (`fetch_devices`); `failed` is what the task says of an error. -/
def devices (failed : String → Option String) : Call where
  request := .deviceList
  report
    | .ok payload => some (.devices (parseDevices payload))
    | .error error => (failed error).map .flash
  lists answer entries := by
    cases answer with
    | ok payload => simp [eq_comm]
    | error error => simp

/-- `fetch_notifications`, as the bootstrap makes it. -/
def notifications : Call where
  request := .notificationList
  report
    | .ok payload => some (.notifications (parseNotifications payload))
    | .error error => some (.flash s!"notifications unavailable: {error}")
  lists answer entries := by cases answer <;> simp

/-- `fetch_plugins`. -/
def plugins (deviceId : String) (failed : String → Option String) : Call where
  request := .pluginList deviceId
  report
    | .ok payload => some (.plugins deviceId (parsePlugins payload))
    | .error error => (failed error).map .flash
  lists answer entries := by cases answer <;> simp

def order (request : Request) (h : request ≠ .deviceList) (done : Option String)
    (failed : String → String) : Call where
  request := request
  report
    | .ok _ => done.map .flash
    | .error error => some (.flash (failed error))
  lists answer entries := by cases answer <;> simp [h]

end Call

/-- A spawned task: the requests it has still to make, one after the other, and the one it
    waits for, with the number of its waiter. -/
structure Job where
  todo : List Call
  waiting : Option (Call × Nat)

def Job.spawn (todo : List Call) : Job := { todo, waiting := none }

/-- It will ask for a device list, or has asked. -/
def Job.Lists (job : Job) : Prop :=
  (∃ call ∈ job.todo, call.request = .deviceList) ∨
    ∃ call n, job.waiting = some (call, n) ∧ call.request = .deviceList

/-- Initial data loads (`spawn_bootstrap`). -/
def bootstrap : Job :=
  .spawn [.devices fun error => some s!"devices unavailable: {error}", .notifications]

/-- A fresh device list after another request (`refresh_devices`). -/
def refreshDevices : Call := .devices fun _ => none

/-- First eight characters. -/
def shortHash (id : String) : String := String.ofList (id.toList.take 8)

/-! ## The whole -/

/-- The interface, its connection and the device manager. -/
structure Console where
  manager : Manager
  session : Session
  /-- The manager's answer to the list request that is with the handler. -/
  rows : Option (List Value)
  jobs : List Job
  /-- The outcome channel. -/
  outcomes : List Outcome
  tui : State
  /-- How many events the loop has taken from the event channel. -/
  taken : Nat
  /-- The loop has found the event channel empty and looks further. -/
  polled : Bool
  /-- The client's flag: later requests fail at once. -/
  dead : Bool
  /-- The loop has seen the end of the event channel. -/
  gone : Bool

namespace Console

inductive Move where
  /-- The manager handles a command and publishes what there is to say. -/
  | command (env : Env) (c : Command)
  /-- Another part of the daemon publishes. -/
  | publish (ev : Event)
  /-- The manager handles the list command of the handler. -/
  | list
  /-- The handler answers; a device list with the rows it got. -/
  | respond (resp : Ipc.Response)
  /-- Relay, connection task, writer and reader. -/
  | link (a : Session.Move)
  /-- The relay has fallen behind and the oldest event is gone. -/
  | skip
  /-- A task makes its next request, or sends what it makes of the answer. -/
  | ask (job : Nat)
  | report (job : Nat)
  /-- The request of a task fails (it has timed out, or could not be written), and with it
      all others. -/
  | fail (job : Nat) (e : Ipc.Error)
  /-- The client's reader leaves its loop: the connection is closed or broken. -/
  | leave
  /-- The loop looks at the event channel, then at the outcomes, then at the terminal. -/
  | poll
  | outcome
  | key (key : KeyEvent)

def publish (s : Console) (events : List Event) : Console :=
  { s with session := run Session.step s.session (events.map .publish) }

/-- A task gets an answer, or learns that there will be none. -/
def settle (s : Console) (i : Nat) (todo : List Call) (call : Call)
    (answer : Except String Value) : Console :=
  { s with
    jobs := s.jobs.set i (.spawn todo)
    outcomes := s.outcomes ++ (call.report answer).toList }

def spawn (s : Console) (todo : List Call) : Console := { s with jobs := s.jobs ++ [.spawn todo] }

def perform (s : Console) : Action → Console
  | .quit => { s with tui := { s.tui with quit := true } }
  | .pair deviceId =>
    let hash := shortHash deviceId
    { s with tui := s.tui.setFlash s!"pairing {hash}…" }.spawn
      [.order (.devicePair deviceId) Request.noConfusion
        (some s!"pair requested for {deviceId}") fun error => s!"pair failed: {error}",
       refreshDevices]
  | .unpair deviceId =>
    let hash := shortHash deviceId
    { s with tui := s.tui.setFlash s!"unpairing {hash}…" }.spawn
      [.order (.deviceUnpair deviceId) Request.noConfusion (some s!"unpaired {deviceId}")
        fun error => s!"unpair failed: {error}",
       refreshDevices]
  | .loadPlugins deviceId =>
    s.spawn [.plugins deviceId fun error => some s!"plugin list failed: {error}"]
  | .togglePlugin deviceId plugin enabled =>
    let verb := if enabled then "enabling" else "disabling"
    let tui := (s.tui.applyOptimisticToggle plugin enabled).setFlash s!"{verb} {plugin}…"
    { s with tui }.spawn
      [.order (.pluginSetEnabled deviceId plugin enabled) Request.noConfusion none
        fun error => s!"toggle failed: {error}",
       .plugins deviceId fun _ => none]
  | .replyToNotification _ _ =>
    { s with outcomes := s.outcomes ++ [.flash "notification replies arrive in Phase 3"] }

def step (s : Console) : Move → Console
  | .command env c =>
    let (manager, effects) := s.manager.handle env c
    { s with manager }.publish (published effects)
  -- of devices only the manager speaks
  | .publish ev => if newsOf ev = none then s.publish [ev] else s
  | .list =>
    if s.session.phase = .handling .deviceList ∧ s.rows.isNone then
      { s with rows := some s.manager.snapshot }
    else s
  | .respond resp =>
    match s.session.phase with
    | .handling r =>
      if r = .deviceList then
        -- the handler waits for the manager
        match s.rows with
        | some rows =>
          { s with session := s.session.step (.respond (.ok (.array rows))), rows := none }
        | none => s
      else { s with session := s.session.step (.respond resp) }
    | _ => s
  | .link a => if a.carries then { s with session := s.session.step a } else s
  | .skip => { s with session := { s.session with backlog := s.session.backlog.tail } }
  | .ask i =>
    match s.jobs[i]?, s.dead, s.session.writing with
    -- a dead client answers at once
    | some ⟨call :: todo, none⟩, true, _ =>
      s.settle i todo call (.error (ipcText .closed))
    -- one request is written at a time
    | some ⟨call :: todo, none⟩, false, none =>
      { s with
        jobs := s.jobs.set i { todo, waiting := some (call, s.session.requests.length) }
        session := s.session.step (.enqueue call.request) }
    | _, _, _ => s
  | .report i =>
    match s.jobs[i]? with
    | some ⟨todo, some (call, n)⟩ =>
      match s.session.answered.lookup n with
      | some resp => s.settle i todo call (expectOk resp)
      | none =>
        -- the waiter is gone from the queue without an answer
        if s.dead ∧ n ∉ s.session.pending then
          s.settle i todo call (.error (ipcText .closed))
        else s
    | _ => s
  | .fail i e =>
    match s.jobs[i]? with
    | some ⟨todo, some (call, n)⟩ =>
      if (s.session.answered.lookup n).isNone then
        -- the connection is unusable, and everything queued fails with it
        { s with
          dead := true
          session := { s.session with pending := [] } }.settle i todo call
            (.error (ipcText e))
      else s
    | _ => s
  | .leave =>
    { s with
      dead := true
      session := { s.session with readerAlive := false, pending := [] } }
  | .poll =>
    if s.tui.quit then s
    else
      match s.session.events[s.taken]? with
      | some e =>
        { s with tui := s.tui.applyEvent e, taken := s.taken + 1, polled := false }
      | none =>
        -- the end of the channel is told once
        if s.session.readerAlive = false ∧ s.gone = false then
          { s with tui := s.tui.setFlash "daemon disconnected", gone := true }
        else { s with polled := true }
  | .outcome =>
    match s.tui.quit, s.polled, s.outcomes with
    | false, true, outcome :: rest =>
      { s with tui := s.tui.applyOutcome outcome, outcomes := rest, polled := false }
    | _, _, _ => s
  | .key key =>
    if s.tui.quit ∨ s.polled = false then s
    else
      -- outcomes may be waiting: the loop has looked at them before they came
      let (tui, action) := s.tui.handleKey key
      let s := { s with tui, polled := false }
      action.elim s s.perform

def start (m : Manager) : Console where
  manager := m
  session := .start
  rows := none
  jobs := [bootstrap]
  outcomes := []
  tui := .new
  taken := 0
  polled := false
  dead := false
  gone := false

/-! ## What a move does -/

variable {s s' : Console}

/-- What a key press does, with its action: the devices stay, and it spawns a task or says
    something. -/
inductive Acts (s : Console) : Console → Prop
  | shows {tui : State} (hdevices : tui.devices = s.tui.devices) :
      Acts s { s with tui, polled := false }
  | spawns {tui : State} {todo : List Call} (hdevices : tui.devices = s.tui.devices) :
      Acts s ({ s with tui, polled := false }.spawn todo)
  | tells {tui : State} {text : String} (hdevices : tui.devices = s.tui.devices) :
      Acts s { s with tui, outcomes := s.outcomes ++ [.flash text], polled := false }

/-- The effective moves while the connection is up, with what they need. -/
inductive Moves (s : Console) : Move → Console → Prop
  | command (env : Env) (c : Command) :
      Moves s (.command env c)
        ({ s with manager := (s.manager.handle env c).1 }.publish
          (published (s.manager.handle env c).2))
  | publish {ev : Event} (hev : newsOf ev = none) : Moves s (.publish ev) (s.publish [ev])
  | list (hphase : s.session.phase = .handling .deviceList) (hrows : s.rows = none) :
      Moves s .list { s with rows := some s.manager.snapshot }
  | respondList {rows : List Value} {resp : Ipc.Response}
      (hphase : s.session.phase = .handling .deviceList) (hrows : s.rows = some rows) :
      Moves s (.respond resp)
        { s with session := s.session.step (.respond (.ok (.array rows))), rows := none }
  | respond {r : Request} {resp : Ipc.Response} (hphase : s.session.phase = .handling r)
      (hr : r ≠ .deviceList) :
      Moves s (.respond resp) { s with session := s.session.step (.respond resp) }
  | link {a : Session.Move} (ha : a.carries = true) :
      Moves s (.link a) { s with session := s.session.step a }
  | skip : Moves s .skip { s with session := { s.session with backlog := s.session.backlog.tail } }
  | ask {i : Nat} {call : Call} {todo : List Call} (hjob : s.jobs[i]? = some ⟨call :: todo, none⟩)
      (hwriting : s.session.writing = none) :
      Moves s (.ask i)
        { s with
          jobs := s.jobs.set i { todo, waiting := some (call, s.session.requests.length) }
          session := s.session.step (.enqueue call.request) }
  | report {i n : Nat} {todo : List Call} {call : Call} {resp : Ipc.Response}
      (hjob : s.jobs[i]? = some ⟨todo, some (call, n)⟩)
      (hanswer : s.session.answered.lookup n = some resp) :
      Moves s (.report i) (s.settle i todo call (expectOk resp))
  | event {e : ServerEvent} (he : s.session.events[s.taken]? = some e) :
      Moves s .poll { s with tui := s.tui.applyEvent e, taken := s.taken + 1, polled := false }
  | empty : Moves s .poll { s with polled := true }
  | outcome {outcome : Outcome} {rest : List Outcome} (hquit : s.tui.quit = false)
      (hpolled : s.polled = true) (houtcomes : s.outcomes = outcome :: rest) :
      Moves s .outcome
        { s with tui := s.tui.applyOutcome outcome, outcomes := rest, polled := false }
  | key {key : KeyEvent} {s' : Console} (hacts : Acts s s') : Moves s (.key key) s'

def Up (s : Console) : Prop := s.dead = false ∧ s.session.readerAlive = true

/-- The move takes the connection down. -/
def Cuts : Move → Prop
  | .fail _ _ | .leave => True
  | _ => False

theorem handleKey_devices (tui : State) (key : KeyEvent) :
    (tui.handleKey key).1.devices = tui.devices := by
  have hpressed := State.handleKey_pressed tui key
  generalize (tui.handleKey key).1 = tui', (tui.handleKey key).2 = action at hpressed
  cases hpressed <;> rfl

theorem perform_acts {tui : State} (hdevices : tui.devices = s.tui.devices)
    (action : Option Action) :
    let t := { s with tui, polled := false }
    Acts s (action.elim t t.perform) := by
  cases action with
  | none => exact .shows hdevices
  | some action =>
    cases action with
    | quit => exact .shows hdevices
    | pair deviceId | unpair deviceId | loadPlugins deviceId => exact .spawns hdevices
    | togglePlugin deviceId plugin enabled =>
      have htoggle : (tui.applyOptimisticToggle plugin enabled).devices = tui.devices := by
        unfold State.applyOptimisticToggle
        split <;> rfl
      exact .spawns (htoggle.trans hdevices)
    | replyToNotification id text => exact .tells hdevices

/-- **Inversion.** -/
theorem step_moves (h : s.Up) {a : Move} (ha : ¬ Cuts a) : s.step a = s ∨ Moves s a (s.step a) := by
  obtain ⟨hdead, halive⟩ := h
  cases a with
  | fail i e | leave => exact absurd trivial ha
  | command env c => exact .inr (.command env c)
  | publish ev =>
    simp only [step]
    split
    · exact .inr (.publish ‹_›)
    · exact .inl rfl
  | list =>
    simp only [step, Option.isNone_iff_eq_none]
    split
    · rename_i hlist
      exact .inr (.list hlist.1 hlist.2)
    · exact .inl rfl
  | respond resp =>
    simp only [step]
    split
    · rename_i r hphase
      split
      · rename_i hr
        rw [hr] at hphase
        split
        · exact .inr (.respondList hphase ‹_›)
        · exact .inl rfl
      · exact .inr (.respond hphase ‹_›)
    · exact .inl rfl
  | link a =>
    simp only [step]
    split
    · exact .inr (.link ‹_›)
    · exact .inl rfl
  | skip => exact .inr .skip
  | ask i =>
    simp only [step]
    split
    · rename_i hjob hd
      -- the connection is up, so no call fails at once
      rw [hdead] at hd
      cases hd
    · exact .inr (.ask ‹_› ‹_›)
    · exact .inl rfl
  | report i =>
    simp only [step]
    split
    · split
      · exact .inr (.report ‹_› ‹_›)
      -- no answer yet, and the connection is up: the job waits on
      · exact .inl (if_neg (by simp [hdead]))
    · exact .inl rfl
  | poll =>
    simp only [step, halive]
    split
    · exact .inl rfl
    · split
      · exact .inr (.event ‹_›)
      · right
        rw [if_neg (by simp)]
        exact .empty
  | outcome =>
    simp only [step]
    split
    · exact .inr (.outcome ‹_› ‹_› ‹_›)
    · exact .inl rfl
  | key key =>
    simp only [step]
    split
    · exact .inl rfl
    · exact .inr (.key (perform_acts (handleKey_devices s.tui key) _))

/-! ## Requests, tasks and answers -/

/-- The numbers a move brings in are in range; that is all serde needs. -/
def Fits (s : Console) : Move → Prop
  | .command env c => ∀ ev ∈ published (s.manager.handle env c).2, (ServerEvent.ofEvent ev).Fits
  | .publish ev => (ServerEvent.ofEvent ev).Fits
  | .respond resp => resp.Fits
  | _ => True

def queued (s : Console) : List ServerEvent := s.session.stream.filterMap Outbound.event?

/-- What holds of requests, tasks and answers while the connection is up. -/
structure Wired (s : Console) : Prop where
  alive : s.dead = false
  sound : s.session.Sound
  phase : s.session.phase ≠ .closed
  taken : s.taken ≤ s.queued.length
  /-- The manager has answered a list request, and the handler has not. -/
  rows : s.rows ≠ none → s.session.phase = .handling .deviceList
  /-- A task waits for the answer to its own request. -/
  asked : ∀ job ∈ s.jobs, ∀ call n, job.waiting = some (call, n) →
    s.session.requests[n]? = some call.request
  /-- Before the connection is registered the bootstrap's list is still to come. -/
  starting : s.session.phase = .accepted →
    s.session.served = [] ∧ ∃ job ∈ s.jobs, job.Lists

theorem start_wired (m : Manager) : (start m).Wired where
  alive := rfl
  sound := Session.sound_start
  phase := ConnPhase.noConfusion
  taken := Nat.le_refl 0
  rows h := absurd rfl h
  asked job hjob call n hwaiting := by
    rw [List.mem_singleton.mp hjob] at hwaiting
    cases hwaiting
  starting _ := ⟨rfl, bootstrap, List.mem_singleton_self _, .inl ⟨_, List.mem_cons_self, rfl⟩⟩

/-- Exchanging one element of a list, what some element has another still has, unless it was
    the old one. -/
theorem exists_mem_set {α : Type} {P : α → Prop} {xs : List α} {i : Nat} {old : α} (new : α)
    (hold : xs[i]? = some old) (h : ∃ x ∈ xs, P x) : (∃ x ∈ xs.set i new, P x) ∨ P old := by
  obtain ⟨x, hx, hP⟩ := h
  obtain ⟨k, hk⟩ := List.mem_iff_getElem?.mp hx
  by_cases hki : k = i
  · subst hki
    rw [hold, Option.some_inj] at hk
    exact .inr (hk ▸ hP)
  · refine .inl ⟨x, List.mem_iff_getElem?.mpr ⟨k, ?_⟩, hP⟩
    rw [List.getElem?_set_ne (Ne.symm hki), hk]

theorem mem_set_self {α : Type} {xs : List α} {i : Nat} {old : α} (new : α)
    (hold : xs[i]? = some old) : new ∈ xs.set i new :=
  List.mem_set (List.getElem?_eq_some_iff.mp hold).1 new

section

variable (h : s.Wired) {resp : Ipc.Response} {r : Request}
include h

theorem Wired.publish {events : List Event}
    (hfits : ∀ ev ∈ events, (ServerEvent.ofEvent ev).Fits) : (s.publish events).Wired := by
  have hsound := h.sound.run_publish hfits
  obtain ⟨later, hsession⟩ := Session.run_publish s.session events
  simp only [Console.publish, hsession] at hsound ⊢
  exact ⟨h.alive, hsound, h.phase, h.taken, h.rows, h.asked, h.starting⟩

theorem Wired.respond (hphase : s.session.phase = .handling r) (hfits : resp.Fits) :
    { s with session := s.session.step (.respond resp), rows := none }.Wired := by
  have hsound := h.sound.step (Session.Move.Fits.roundTrips (a := .respond resp) hfits)
  rw [Session.respond_eq hphase] at hsound ⊢
  refine ⟨h.alive, hsound, ConnPhase.noConfusion, ?_, absurd rfl, h.asked, ConnPhase.noConfusion⟩
  simp only [queued, Session.queue, List.filterMap_append]
  exact Nat.le_trans h.taken (List.prefix_append _ _).length_le

/-- The rows are held only while a device list is being answered. -/
theorem Wired.rows_phase {rows : List Value} (hrows : s.rows = some rows) :
    s.session.phase = .handling .deviceList :=
  h.rows (hrows ▸ Option.some_ne_none rows)

theorem Wired.rows_eq_none (hphase : s.session.phase = .handling r)
    (hr : r ≠ .deviceList) : s.rows = none := by
  by_contra hrows
  rw [h.rows hrows] at hphase
  cases hphase
  exact hr rfl

theorem Wired.link {a : Session.Move} (ha : a.carries = true) :
    { s with session := s.session.step a }.Wired := by
  have hcarries := h.sound.carries ha
  obtain ⟨hserved, hrequests⟩ := Session.step_carries_work (s := s.session) ha
  have hsound := h.sound.step (Session.carries_roundTrips ha)
  generalize s.session.step a = session at hcarries hserved hrequests hsound ⊢
  have htaken : s.taken ≤ (session.stream.filterMap Outbound.event?).length :=
    Nat.le_trans h.taken (hcarries.stream.filterMap _).length_le
  have hasked : ∀ job ∈ s.jobs, ∀ call n, job.waiting = some (call, n) →
      session.requests[n]? = some call.request := by
    rw [hrequests]
    exact h.asked
  -- rows wait in one phase, which these moves neither enter with rows nor leave
  cases hcarries with
  | passes _ _ hphase | relays _ _ hphase | misses _ _ hphase _ =>
    refine ⟨h.alive, hsound, ?_, htaken, fun hrows => ?_, hasked, fun hstart => ?_⟩
    · rw [hphase]
      exact h.phase
    · rw [hphase]
      exact h.rows hrows
    · rw [hphase] at hstart
      rw [hserved]
      exact h.starting hstart
  | registers _ _ hphase hbefore | greets _ _ hphase hbefore | serves _ _ hphase hbefore =>
    refine ⟨h.alive, hsound, ?_, htaken, fun hrows => ?_, hasked, fun hstart => ?_⟩
    · rw [hphase]
      exact ConnPhase.noConfusion
    · have hlisting := h.rows hrows
      rw [hbefore] at hlisting
      cases hlisting
    · rw [hphase] at hstart
      cases hstart

/-- So does one that makes its next request. -/
theorem Wired.ask {i : Nat} {call : Call} {todo : List Call}
    (hjob : s.jobs[i]? = some ⟨call :: todo, none⟩) (hwriting : s.session.writing = none) :
    { s with
      jobs := s.jobs.set i { todo, waiting := some (call, s.session.requests.length) }
      session := s.session.step (.enqueue call.request) }.Wired := by
  have hsound := h.sound.step (a := .enqueue call.request) trivial
  rw [Session.enqueue_eq hwriting] at hsound ⊢
  refine ⟨h.alive, hsound, h.phase, h.taken, h.rows, ?_, fun hstart => ?_⟩
  · -- the new request has the number behind all others
    intro job hmem call' n hwaiting
    rcases List.mem_or_eq_of_mem_set hmem with hold | rfl
    · have hn := h.asked job hold call' n hwaiting
      have hlt := (List.getElem?_eq_some_iff.mp hn).1
      rw [List.getElem?_append_left hlt, hn]
    · simp only [Option.some_inj, Prod.mk.injEq] at hwaiting
      obtain ⟨rfl, rfl⟩ := hwaiting
      exact List.getElem?_concat_length
  · obtain ⟨hserved, hlists⟩ := h.starting hstart
    refine ⟨hserved, ?_⟩
    rcases exists_mem_set _ hjob hlists with hother | hold
    · exact hother
    · refine ⟨_, mem_set_self _ hjob, ?_⟩
      rcases hold with ⟨call', hcall', hrequest⟩ | ⟨_, _, hwaiting, _⟩
      · rcases List.mem_cons.mp hcall' with rfl | hlater
        · exact .inr ⟨_, _, rfl, hrequest⟩
        · exact .inl ⟨call', hlater, hrequest⟩
      · cases hwaiting

/-- A job that takes its answer keeps the wiring. -/
theorem Wired.settle {n : Nat} (hanswer : s.session.answered.lookup n = some resp) (i : Nat)
    (todo : List Call) (call : Call)
    (answer : Except String Value) : (s.settle i todo call answer).Wired := by
  refine { h with asked := fun job hmem call' n' hwaiting => ?_, starting := fun hstart => ?_ }
  · rcases List.mem_or_eq_of_mem_set hmem with hold | rfl
    · exact h.asked job hold call' n' hwaiting
    · cases hwaiting
  · -- before the connection is registered nothing is answered
    obtain ⟨r, hserved, -⟩ := h.sound.answered_served hanswer
    rw [(h.starting hstart).1] at hserved
    cases hserved

theorem Wired.acts (hacts : Acts s s') : s'.Wired := by
  cases hacts with
  | shows _ | tells _ => exact { h with }
  | @spawns _ todo _ =>
    refine { h with asked := fun job hmem call n hwaiting => ?_, starting := fun hstart => ?_ }
    · rcases List.mem_append.mp hmem with hold | hnew
      · exact h.asked job hold call n hwaiting
      · rw [List.mem_singleton.mp hnew] at hwaiting
        cases hwaiting
    · obtain ⟨hserved, job, hmem, hlists⟩ := h.starting hstart
      exact ⟨hserved, job, List.mem_append_left _ hmem, hlists⟩

theorem Wired.event {e : ServerEvent} (he : s.session.events[s.taken]? = some e) :
    s.queued[s.taken]? = some e := by
  rw [queued, ← h.sound.delivers.events]
  rw [List.getElem?_append_left (List.getElem?_eq_some_iff.mp he).1, he]

/-- While nothing is cut, requests, tasks and answers stay in line. -/
theorem Wired.step {a : Move} (ha : ¬ Cuts a) (hfits : s.Fits a) : (s.step a).Wired := by
  rcases step_moves ⟨h.alive, h.sound.alive⟩ ha with hsame | hmoves
  · rwa [hsame]
  · generalize s.step a = s' at hmoves ⊢
    cases hmoves with
    | command env c =>
      have hmanager : { s with manager := (s.manager.handle env c).1 }.Wired := { h with }
      exact hmanager.publish hfits
    | publish _ => exact h.publish fun ev hev => List.mem_singleton.mp hev ▸ hfits
    | list hphase _ => exact { h with rows := fun _ => hphase }
    | respondList hphase hrows => exact h.respond hphase trivial
    | respond hphase hr =>
      have hrows := h.rows_eq_none hphase hr
      have hrespond := h.respond hphase hfits
      rw [← hrows] at hrespond
      exact hrespond
    | link hcarries => exact h.link hcarries
    -- a lagging session drops an event, not a response
    | skip =>
      have hsound : Session.Sound { s.session with backlog := s.session.backlog.tail } :=
        { h.sound with backlog := fun e he => h.sound.backlog e (List.mem_of_mem_tail he) }
      exact { h with sound := hsound }
    | ask hjob hwriting => exact h.ask hjob hwriting
    | report _ hanswer => exact h.settle hanswer ..
    | event he =>
      have hlt := (List.getElem?_eq_some_iff.mp (h.event he)).1
      exact { h with taken := hlt }
    | empty | outcome _ _ _ => exact { h with }
    | key hacts => exact h.acts hacts

end

end Console

end Handfast.Ui.Tui
