/-
  Handfast.Ipc.Session

  One client connection of the daemon's socket from both ends
  (`crates/ipc/src/{server,client}.rs`): the connection's setup and read loop,
  the writer task, the relay of broadcast events, and the client's reader.

  All of them run concurrently; a `Move` is one atomic action of one of them.
  The outbound queue is the meeting point: the relay and the read loop append
  to it, the writer alone takes from it.  JSON texts stand as the values they
  encode, and the socket as the lists of frames that were written and not yet
  read (`Ipc.Codec` reads them back from bytes).  Writes do not fail and the
  client stays connected, so teardown is left out.

  `Moves` says once what a move can do.  The invariant `Orderly` follows the
  messages: what was ever queued is what the client has taken, then what is on
  the wire, then what is still queued.
-/
import Handfast.Ipc.Proto
import Handfast.Lib.Trace

namespace Handfast.Ipc

open Handfast.Lib Handfast.Protocol

/-! ## Messages to the client -/

/-- Anything queued toward one client. -/
inductive Outbound where
  | response (r : Response)
  | event (e : ServerEvent)

namespace Outbound

/-- The untagged encoding: that of the message itself. -/
def toValue : Outbound → Value
  | response r => r.toValue
  | event e => e.toValue

def response? : Outbound → Option Response
  | response r => some r
  | event _ => none

def event? : Outbound → Option ServerEvent
  | response _ => none
  | event e => some e

section

variable {r : Response} {e : ServerEvent} {ms : List Outbound}

@[simp] theorem responses_response :
    (response r :: ms).filterMap response? = r :: ms.filterMap response? := rfl

@[simp] theorem responses_event :
    (event e :: ms).filterMap response? = ms.filterMap response? := rfl

@[simp] theorem events_response :
    (response r :: ms).filterMap event? = ms.filterMap event? := rfl

@[simp] theorem events_event :
    (event e :: ms).filterMap event? = e :: ms.filterMap event? := rfl

end

/-- What is assumed of serde: the message's own type reads its encoding back. -/
def RoundTrips : Outbound → Prop
  | response r => Response.fromValue r.toValue = some r
  | event e => ServerEvent.fromValue e.toValue = some e

end Outbound

/-- What the client's reader makes of a frame: it tries the event type first. -/
def route (v : Value) : Option Outbound :=
  match ServerEvent.fromValue v with
  | some e => some (.event e)
  | none => (Response.fromValue v).map .response

/-- **Demultiplexing.** A message is taken for what it is. -/
theorem route_toValue {m : Outbound} (h : m.RoundTrips) : route m.toValue = some m := by
  cases m with
  | event e =>
    have hread : ServerEvent.fromValue e.toValue = some e := h
    rw [route, Outbound.toValue, hread]
  | response r =>
    have hread : Response.fromValue r.toValue = some r := h
    rw [route, Outbound.toValue, ServerEvent.fromValue_response, hread]
    rfl

/-! ## The connection -/

def ipcVersion : UInt32 := 1
def appName : String := "handfast"

/-- The handshake event of a daemon with the given process id. -/
def helloEvent (pid : UInt32) : ServerEvent := .hello ipcVersion appName pid

/-- Where `handle_connection` stands. -/
inductive ConnPhase where
  /-- The writer task runs; the sink is not registered yet. -/
  | accepted
  /-- Registered for broadcasts; Hello is not queued yet. -/
  | registered
  /-- In the read loop, waiting for a frame. -/
  | reading
  /-- In the read loop, waiting for the handler. -/
  | handling (r : Request)
  /-- The read loop has ended. -/
  | closed
  deriving DecidableEq

namespace ConnPhase

/-- The connection's sink is in the relay's list. -/
def listed : ConnPhase → Bool
  | accepted | closed => false
  | registered | reading | handling _ => true

def request? : ConnPhase → Option Request
  | handling r => some r
  | _ => none

end ConnPhase

structure Session where
  /-- Broadcast events the relay has not taken yet. -/
  backlog : List ServerEvent
  phase : ConnPhase
  /-- The connection's outbound queue. -/
  outbound : List Outbound
  /-- Frames written by one end and not yet read by the other. -/
  toServer : List Value
  toClient : List Value
  /-- The caller that holds the client's write lock and has queued its waiter. -/
  writing : Option Request
  /-- The waiters, by the number of their request. -/
  pending : List Nat
  /-- The client's reader has not left its loop. -/
  readerAlive : Bool
  /-- What the reader has handed to waiters and to the event channel. -/
  answered : List (Nat × Response)
  events : List ServerEvent
  -- history
  /-- All requests, in the order of their waiters. -/
  requests : List Request
  /-- The handler's answers. -/
  served : List (Request × Response)
  /-- All messages ever queued. -/
  stream : List Outbound
  /-- All frames the reader has taken. -/
  received : List Value
  /-- When Hello was queued: the events queued until then and the backlog. -/
  mark : Option (List ServerEvent)
  /-- The events broadcast since. -/
  later : List ServerEvent

namespace Session

def start : Session where
  backlog := []
  phase := .accepted
  outbound := []
  toServer := []
  toClient := []
  writing := none
  pending := []
  readerAlive := true
  answered := []
  events := []
  requests := []
  served := []
  stream := []
  received := []
  mark := none
  later := []

inductive Move where
  /-- An event goes into the broadcast channel. -/
  | publish (ev : Core.Event)
  /-- The relay takes one event from it. -/
  | relay
  /-- The connection task: register the sink, queue Hello, take a request frame,
      queue the handler's response. -/
  | register
  | hello (pid : UInt32)
  | serve
  | respond (r : Response)
  /-- The writer task sends one message. -/
  | flush
  /-- A client's caller queues its waiter under the write lock, then writes. -/
  | enqueue (r : Request)
  | write
  /-- The client's reader takes one frame. -/
  | read

def queue (s : Session) (m : Outbound) : Session :=
  { s with outbound := s.outbound ++ [m], stream := s.stream ++ [m] }

/-- The client's reader has the frame `v`. -/
def take (s : Session) (v : Value) : Session :=
  match route v with
  | some (.event e) => { s with events := s.events ++ [e] }
  | some (.response r) =>
    match s.pending with
    | waiter :: rest => { s with pending := rest, answered := s.answered ++ [(waiter, r)] }
    -- a response with no pending request: the reader leaves its loop
    | [] => { s with readerAlive := false }
  -- an undecodable frame: so too
  | none => { s with readerAlive := false }

def step (s : Session) : Move → Session
  | .publish ev =>
    { s with
      backlog := s.backlog ++ [.ofEvent ev]
      later := if s.mark.isSome then s.later ++ [.ofEvent ev] else s.later }
  | .relay =>
    match s.backlog with
    | [] => s
    | e :: rest =>
      if s.phase.listed then { s with backlog := rest }.queue (.event e)
      else { s with backlog := rest }
  | .register => if s.phase = .accepted then { s with phase := .registered } else s
  | .hello pid =>
    if s.phase = .registered then
      let s' := { s with phase := .reading }.queue (.event (helloEvent pid))
      { s' with mark := some (s'.stream.filterMap Outbound.event? ++ s'.backlog) }
    else s
  | .serve =>
    match s.phase, s.toServer with
    | .reading, v :: rest =>
      match Request.fromValue v with
      | some r => { s with phase := .handling r, toServer := rest }
      | none => { s with phase := .closed, toServer := rest }
    | _, _ => s
  | .respond resp =>
    match s.phase with
    | .handling r =>
      { s with phase := .reading, served := s.served ++ [(r, resp)] }.queue (.response resp)
    | _ => s
  | .flush =>
    match s.outbound with
    | [] => s
    | m :: rest => { s with outbound := rest, toClient := s.toClient ++ [m.toValue] }
  | .enqueue r =>
    match s.writing with
    | some _ => s
    | none =>
      { s with
        writing := some r
        pending := s.pending ++ [s.requests.length]
        requests := s.requests ++ [r] }
  | .write =>
    match s.writing with
    | none => s
    | some r => { s with writing := none, toServer := s.toServer ++ [r.toValue] }
  | .read =>
    match s.readerAlive, s.toClient with
    | true, v :: rest => { s with toClient := rest, received := s.received ++ [v] }.take v
    | _, _ => s

/-! ## What a move does -/

variable {s : Session} {a : Move} {e : ServerEvent}

inductive Moves (s : Session) : Move → Session → Prop
  | publish (ev : Core.Event) :
      Moves s (.publish ev)
        { s with
          backlog := s.backlog ++ [.ofEvent ev]
          later := if s.mark.isSome then s.later ++ [.ofEvent ev] else s.later }
  | relay {e : ServerEvent} {rest : List ServerEvent} (hback : s.backlog = e :: rest)
      (hlisted : s.phase.listed = true) :
      Moves s .relay ({ s with backlog := rest }.queue (.event e))
  /-- Nobody is registered. -/
  | miss {e : ServerEvent} {rest : List ServerEvent} (hback : s.backlog = e :: rest)
      (hlisted : s.phase.listed = false) : Moves s .relay { s with backlog := rest }
  | register (hphase : s.phase = .accepted) : Moves s .register { s with phase := .registered }
  | hello {pid : UInt32} {s' : Session} (hphase : s.phase = .registered)
      (hs : s' = { s with phase := .reading }.queue (.event (helloEvent pid))) :
      Moves s (.hello pid)
        { s' with mark := some (s'.stream.filterMap Outbound.event? ++ s'.backlog) }
  | serve {v : Value} {rest : List Value} {r : Request} (hphase : s.phase = .reading)
      (hserver : s.toServer = v :: rest) (hv : Request.fromValue v = some r) :
      Moves s .serve { s with phase := .handling r, toServer := rest }
  /-- A frame that is no request. -/
  | hangUp {v : Value} {rest : List Value} (hphase : s.phase = .reading)
      (hserver : s.toServer = v :: rest) (hv : Request.fromValue v = none) :
      Moves s .serve { s with phase := .closed, toServer := rest }
  | respond {r : Request} {resp : Response} (hphase : s.phase = .handling r) :
      Moves s (.respond resp)
        ({ s with phase := .reading, served := s.served ++ [(r, resp)] }.queue (.response resp))
  | flush {m : Outbound} {rest : List Outbound} (hout : s.outbound = m :: rest) :
      Moves s .flush { s with outbound := rest, toClient := s.toClient ++ [m.toValue] }
  | enqueue {r : Request} (hwriting : s.writing = none) :
      Moves s (.enqueue r)
        { s with
          writing := some r
          pending := s.pending ++ [s.requests.length]
          requests := s.requests ++ [r] }
  | write {r : Request} (hwriting : s.writing = some r) :
      Moves s .write { s with writing := none, toServer := s.toServer ++ [r.toValue] }
  | read {v : Value} {rest : List Value} (hclient : s.toClient = v :: rest) :
      Moves s .read ({ s with toClient := rest, received := s.received ++ [v] }.take v)

/-- The one inversion of `step`. -/
theorem step_moves (s : Session) (a : Move) : s.step a = s ∨ Moves s a (s.step a) := by
  cases a with
  | publish ev => exact .inr (.publish ev)
  | relay =>
    cases hback : s.backlog with
    | nil => exact .inl (by simp only [step, hback])
    | cons e rest =>
      right
      simp only [step, hback]
      split
      · exact .relay hback ‹_›
      · exact .miss hback (Bool.eq_false_of_not_eq_true ‹_›)
  | register =>
    simp only [step]
    split
    · exact .inr (.register ‹_›)
    · exact .inl rfl
  | hello pid =>
    simp only [step]
    split
    · exact .inr (.hello ‹_› rfl)
    · exact .inl rfl
  | serve =>
    simp only [step]
    split
    · rename_i hphase hserver
      right
      -- a frame that is no request ends the connection
      split
      · exact .serve hphase hserver ‹_›
      · exact .hangUp hphase hserver ‹_›
    · exact .inl rfl
  | respond resp =>
    simp only [step]
    split
    · exact .inr (.respond ‹_›)
    · exact .inl rfl
  | flush =>
    simp only [step]
    split
    · exact .inl rfl
    · exact .inr (.flush ‹_›)
  | enqueue r =>
    simp only [step]
    split
    · exact .inl rfl
    · exact .inr (.enqueue ‹_›)
  | write =>
    simp only [step]
    split
    · exact .inl rfl
    · exact .inr (.write ‹_›)
  | read =>
    simp only [step]
    split
    · exact .inr (.read ‹_›)
    · exact .inl rfl

/-- What every effective move keeps, every step keeps. -/
theorem step_of_moves {I : Session → Prop} (h : I s)
    (hmoves : ∀ {s'}, Moves s a s' → I s') : I (s.step a) := by
  rcases step_moves s a with hsame | hmove
  · rwa [hsame]
  · exact hmoves hmove

/-! ## Order -/

/-- The assumption on serde, for the messages a move brings in. -/
def Move.RoundTrips : Move → Prop
  | publish ev => Outbound.RoundTrips (.event (.ofEvent ev))
  | respond r => Outbound.RoundTrips (.response r)
  | _ => True

/-- Every message is where its place in the order says. -/
structure Orderly (s : Session) : Prop where
  alive : s.readerAlive = true
  faithful : ∀ m ∈ s.stream, m.RoundTrips
  /-- What was queued: taken by the client, on the wire, still queued. -/
  split : ∃ taken wire, s.stream = taken ++ (wire ++ s.outbound) ∧
    s.received = taken.map Outbound.toValue ∧ s.toClient = wire.map Outbound.toValue ∧
    s.events = taken.filterMap Outbound.event? ∧
    s.answered.map Prod.snd = taken.filterMap Outbound.response?
  /-- The responses queued are the handler's. -/
  responses : s.stream.filterMap Outbound.response? = s.served.map Prod.snd
  /-- Waiters are answered in order. -/
  waiters : s.answered.map Prod.fst ++ s.pending = List.range s.requests.length
  /-- Requests: answered, with the handler, on the wire, being written. -/
  line : ∃ inFlight : List Request, s.toServer = inFlight.map Request.toValue ∧
    s.served.map Prod.fst ++ (s.phase.request?.toList ++ (inFlight ++ s.writing.toList)) =
      s.requests

theorem orderly_start : Orderly start where
  alive := rfl
  faithful := nofun
  split := ⟨[], [], rfl, rfl, rfl, rfl, rfl⟩
  responses := rfl
  waiters := rfl
  line := ⟨[], rfl, rfl⟩

theorem Orderly.queue_event (h : Orderly s)
    (he : Outbound.RoundTrips (.event e)) : Orderly (s.queue (.event e)) := by
  obtain ⟨taken, wire, hstream, htaken⟩ := h.split
  refine { h with faithful := fun m hm => ?_, split := ?_, responses := ?_ }
  · rcases List.mem_append.mp hm with hold | hnew
    · exact h.faithful m hold
    · rw [List.mem_singleton.mp hnew]
      exact he
  · exact ⟨taken, wire, by simp [queue, hstream], htaken⟩
  · simpa [queue] using h.responses

theorem Orderly.queue_response (h : Orderly s) {resp : Response} {r : Request}
    (hphase : s.phase = .handling r) (hr : Outbound.RoundTrips (.response resp)) :
    Orderly ({ s with phase := .reading, served := s.served ++ [(r, resp)] }.queue
      (.response resp)) := by
  obtain ⟨taken, wire, hstream, htaken⟩ := h.split
  obtain ⟨inFlight, hserver, hline⟩ := h.line
  refine { h with faithful := fun m hm => ?_, split := ?_, responses := ?_, line := ?_ }
  · rcases List.mem_append.mp hm with hold | hnew
    · exact h.faithful m hold
    · rw [List.mem_singleton.mp hnew]
      exact hr
  · exact ⟨taken, wire, by simp [queue, hstream], htaken⟩
  · simp [queue, h.responses]
  · refine ⟨inFlight, hserver, ?_⟩
    simpa [queue, hphase, ConnPhase.request?] using hline

/-- A response on the wire has a waiter: fewer were answered than served, and no
    more served than asked. -/
theorem Orderly.waiting (h : Orderly s) {taken rest : List Outbound} {r : Response}
    (hstream : s.stream = taken ++ .response r :: rest)
    (hanswered : s.answered.map Prod.snd = taken.filterMap Outbound.response?) :
    ∃ waiter more, s.pending = waiter :: more := by
  have hqueued : s.answered.length < s.served.length := by
    have hlen := congrArg List.length hanswered
    have htotal := congrArg List.length h.responses
    rw [hstream] at htotal
    simp only [List.filterMap_append, Outbound.responses_response, List.length_append,
      List.length_cons, List.length_map] at hlen htotal
    omega
  obtain ⟨inFlight, -, hline⟩ := h.line
  have hserved : s.served.length ≤ s.requests.length := by
    have hlen := congrArg List.length hline
    rw [List.length_append, List.length_map] at hlen
    omega
  have hwaiters := congrArg List.length h.waiters
  rw [List.length_append, List.length_map, List.length_range] at hwaiters
  cases hpending : s.pending with
  | nil =>
    rw [hpending, List.length_nil] at hwaiters
    omega
  | cons waiter more => exact ⟨waiter, more, rfl⟩

/-- The reader takes the first frame on the wire for the message it encodes. -/
theorem Orderly.read (h : Orderly s) {v : Value} {rest : List Value}
    (hframe : s.toClient = v :: rest) :
    Orderly ({ s with toClient := rest, received := s.received ++ [v] }.take v) := by
  obtain ⟨taken, wire, hstream, hreceived, hclient, hevents, hanswered⟩ := h.split
  rw [hframe] at hclient
  obtain ⟨m, wire, rfl, rfl, rfl⟩ := List.map_eq_cons_iff.mp hclient.symm
  have hroute := route_toValue (h.faithful m (by simp [hstream]))
  have hnext : s.stream = (taken ++ [m]) ++ (wire ++ s.outbound) := by simp [hstream]
  have hframes : s.received ++ [m.toValue] = (taken ++ [m]).map Outbound.toValue := by
    simp [hreceived]
  rw [take, hroute]
  cases m with
  | event e =>
    refine { h with split := ⟨taken ++ [.event e], wire, hnext, hframes, rfl, ?_, ?_⟩ }
    · simp [hevents]
    · simpa using hanswered
  | response r =>
    obtain ⟨waiter, more, hpending⟩ := h.waiting hstream hanswered
    simp only [hpending]
    refine { h with
      split := ⟨taken ++ [.response r], wire, hnext, hframes, rfl, ?_, ?_⟩
      waiters := ?_ }
    · simpa using hevents
    · simp [hanswered]
    · simpa [hpending] using h.waiters

/-- The order, and that everything broadcast can be read back. -/
structure Sound (s : Session) : Prop extends Orderly s where
  backlog : ∀ e ∈ s.backlog, Outbound.RoundTrips (.event e)

theorem sound_start : Sound start where
  toOrderly := orderly_start
  backlog := nofun

/-- The reader keeps to its own side: nothing of the daemon's, and no frame, changes. -/
@[simp] theorem take_keeps (s : Session) (v : Value) :
    (s.take v).backlog = s.backlog ∧ (s.take v).phase = s.phase ∧
      (s.take v).outbound = s.outbound ∧ (s.take v).toClient = s.toClient ∧
      (s.take v).received = s.received ∧ (s.take v).served = s.served ∧
      (s.take v).stream = s.stream ∧ (s.take v).mark = s.mark ∧ (s.take v).later = s.later ∧
      (s.take v).requests = s.requests := by
  unfold take
  split
  · simp
  · split <;> simp
  · simp

/-- Only a publication adds to the backlog. -/
theorem mem_backlog_step (h : e ∈ (s.step a).backlog) :
    e ∈ s.backlog ∨ ∃ ev, a = .publish ev ∧ e = .ofEvent ev := by
  rcases step_moves s a with hsame | hmoves
  · rw [hsame] at h
    exact .inl h
  · generalize s.step a = s' at h hmoves
    cases hmoves with
    | publish ev =>
      rcases List.mem_append.mp h with hold | hnew
      · exact .inl hold
      · exact .inr ⟨ev, rfl, List.mem_singleton.mp hnew⟩
    | relay hback _ | miss hback _ =>
      left
      rw [hback]
      exact List.mem_cons_of_mem _ h
    | hello _ hs =>
      subst hs
      exact .inl h
    | read _ => exact .inl (by simpa using h)
    | register _ | serve _ _ _ | hangUp _ _ _ | respond _ | flush _ | enqueue _ | write _ =>
      exact .inl h

/-- What is on the wire are requests, so the read loop goes on. -/
theorem Orderly.head_request (h : Orderly s) {v : Value} {rest : List Value}
    (hframe : s.toServer = v :: rest) :
    ∃ r inFlight, Request.fromValue v = some r ∧ rest = inFlight.map Request.toValue ∧
      s.served.map Prod.fst ++ (s.phase.request?.toList ++ (r :: inFlight ++ s.writing.toList)) =
        s.requests := by
  obtain ⟨inFlight, hserver, hline⟩ := h.line
  rw [hframe] at hserver
  obtain ⟨r, inFlight, rfl, rfl, rfl⟩ := List.map_eq_cons_iff.mp hserver.symm
  exact ⟨r, inFlight, Request.fromValue_toValue r, rfl, hline⟩

theorem Sound.orderly_moves (h : Sound s) (ha : a.RoundTrips) {s' : Session}
    (hmoves : Moves s a s') : Orderly s' := by
  have horder := h.toOrderly
  obtain ⟨taken, wire, hstream, hreceived, hclient, hother⟩ := h.split
  obtain ⟨inFlight, hserver, hline⟩ := h.line
  cases hmoves with
  | publish ev => exact { horder with }
  | @relay e rest hback _ =>
    have hrest : Orderly { s with backlog := rest } := { horder with }
    exact hrest.queue_event (h.backlog e (by simp [hback]))
  | miss _ _ => exact { horder with }
  | register hphase =>
    refine { horder with line := ⟨inFlight, hserver, ?_⟩ }
    simpa [hphase, ConnPhase.request?] using hline
  | @hello pid s' hphase hs =>
    have hreading : Orderly { s with phase := .reading } := by
      refine { horder with line := ⟨inFlight, hserver, ?_⟩ }
      simpa [hphase, ConnPhase.request?] using hline
    have hfits : (helloEvent pid).Fits := trivial
    have hqueued := hreading.queue_event (ServerEvent.fromValue_toValue hfits)
    exact hs ▸ { hqueued with }
  | serve hphase hframe hv =>
    obtain ⟨r, inFlight, hr, rfl, hline⟩ := horder.head_request hframe
    rw [hv] at hr
    cases hr
    refine { horder with line := ⟨inFlight, rfl, ?_⟩ }
    simpa [hphase, ConnPhase.request?] using hline
  | hangUp _ hframe hv =>
    -- it cannot: the client writes nothing but requests
    obtain ⟨r, _, hr, -⟩ := horder.head_request hframe
    rw [hv] at hr
    cases hr
  | respond hphase => exact horder.queue_response hphase ha
  | @flush m _ hout =>
    -- the message moves from the queue to the wire
    refine { horder with split := ⟨taken, wire ++ [m], ?_, hreceived, ?_, hother⟩ }
    · simp [hstream, hout]
    · simp [hclient]
  | enqueue hwriting =>
    refine { horder with waiters := ?_, line := ⟨inFlight, hserver, ?_⟩ }
    · rw [← List.append_assoc, h.waiters, List.length_append, List.length_singleton,
        List.range_succ]
    · rw [← hline, hwriting]
      simp
  | @write r hwriting =>
    refine { horder with line := ⟨inFlight ++ [r], by simp [hserver], ?_⟩ }
    rw [← hline, hwriting]
    simp
  | read hframe => exact horder.read hframe

theorem Sound.step (h : Sound s) (ha : a.RoundTrips) : Sound (s.step a) where
  toOrderly := step_of_moves h.toOrderly (h.orderly_moves ha)
  backlog := by
    intro e he
    rcases mem_backlog_step he with hold | ⟨ev, rfl, rfl⟩
    · exact h.backlog e hold
    · exact ha

/-! ## What the client gets -/

/-- The response, or the event, that the reader sees in a frame. -/
def responseIn (v : Value) : Option Response := (route v).bind Outbound.response?
def eventIn (v : Value) : Option ServerEvent := (route v).bind Outbound.event?

/-- What the client has got so far, and what is under way to it. -/
structure Delivers (s : Session) : Prop where
  reading : s.readerAlive = true
  /-- Nothing queued is taken for the other kind. -/
  apart : ∀ m ∈ s.stream, route m.toValue = some m
  /-- The waiters are answered in the order of their requests, each once. -/
  waiters : s.answered.map Prod.fst = List.range s.answered.length
  /-- They get the handler's responses; what is missing is under way. -/
  responses : s.answered.map Prod.snd ++ (s.toClient.filterMap responseIn ++
    s.outbound.filterMap Outbound.response?) = s.served.map Prod.snd
  /-- The handler was given the requests in order. -/
  requests : s.served.map Prod.fst <+: s.requests
  /-- The event channel gets the queued events; what is missing is under way. -/
  events : s.events ++ (s.toClient.filterMap eventIn ++ s.outbound.filterMap Outbound.event?) =
    s.stream.filterMap Outbound.event?

theorem filterMap_wire {α : Type} {pick : Outbound → Option α} {ms : List Outbound}
    (h : ∀ m ∈ ms, m.RoundTrips) :
    (ms.map Outbound.toValue).filterMap (fun v => (route v).bind pick) = ms.filterMap pick := by
  rw [List.filterMap_map]
  refine List.filterMap_congr fun m hm => ?_
  simp [route_toValue (h m hm)]

/-- The promise follows from the order. -/
theorem Orderly.delivers (h : Orderly s) : Delivers s := by
  obtain ⟨taken, wire, hstream, -, hclient, hevents, hanswered⟩ := h.split
  have hwire : ∀ m ∈ wire, m.RoundTrips := fun m hm => h.faithful m (by simp [hstream, hm])
  have hresponses : s.toClient.filterMap responseIn = wire.filterMap Outbound.response? := by
    rw [hclient]
    exact filterMap_wire hwire
  have hother : s.toClient.filterMap eventIn = wire.filterMap Outbound.event? := by
    rw [hclient]
    exact filterMap_wire hwire
  refine ⟨h.alive, fun m hm => route_toValue (h.faithful m hm), ?_, ?_, ?_, ?_⟩
  · -- the answered waiters are the first of all waiters
    have htake := congrArg (List.take s.answered.length) h.waiters
    rw [List.take_left' (by simp), List.take_range] at htake
    have hlen := congrArg List.length h.waiters
    rw [List.length_append, List.length_map, List.length_range] at hlen
    rw [htake, Nat.min_eq_left (by omega)]
  · rw [← h.responses, hstream, hresponses, hanswered, List.filterMap_append,
      List.filterMap_append]
  · obtain ⟨inFlight, -, hline⟩ := h.line
    exact ⟨_, hline⟩
  · rw [hstream, hother, hevents, List.filterMap_append, List.filterMap_append]

/-! ### Nothing stays behind -/

/-- Let the writer and the reader run until the queue and the wire are empty. -/
def drain (s : Session) : List Move :=
  List.replicate s.outbound.length .flush ++
    List.replicate (s.toClient.length + s.outbound.length) .read

/-- Nothing is answered or queued between the two states. -/
structure SameWork (s s' : Session) : Prop where
  served : s'.served = s.served
  stream : s'.stream = s.stream

theorem SameWork.trans {s₁ s₂ s₃ : Session} (h : SameWork s₁ s₂) (h' : SameWork s₂ s₃) :
    SameWork s₁ s₃ :=
  ⟨h'.served.trans h.served, h'.stream.trans h.stream⟩

/-- The writer alone: the queue moves to the wire. -/
theorem run_flush (s : Session) (n : Nat) :
    (run step s (List.replicate n .flush)).outbound = s.outbound.drop n ∧
      (run step s (List.replicate n .flush)).toClient =
        s.toClient ++ (s.outbound.take n).map Outbound.toValue ∧
      SameWork s (run step s (List.replicate n .flush)) := by
  induction n generalizing s with
  | zero => exact ⟨rfl, by simp, rfl, rfl⟩
  | succ n ih =>
    rw [List.replicate_succ, run_cons]
    obtain ⟨hout, hclient, hwork⟩ := ih (s.step .flush)
    cases hs : s.outbound with
    | nil =>
      have hstep : s.step .flush = s := by simp [step, hs]
      rw [hstep] at hout hclient hwork ⊢
      rw [hs] at hout hclient
      exact ⟨by simpa using hout, by simpa using hclient, hwork⟩
    | cons m rest =>
      have hstep : s.step .flush =
          { s with outbound := rest, toClient := s.toClient ++ [m.toValue] } := by
        simp [step, hs]
      rw [hstep] at hout hclient hwork ⊢
      exact ⟨hout, by simp [hclient], ⟨hwork.served, hwork.stream⟩⟩

/-- The reader alone: the wire moves to the client. -/
theorem run_read (h : Sound s) (n : Nat) :
    (run step s (List.replicate n .read)).toClient = s.toClient.drop n ∧
      (run step s (List.replicate n .read)).outbound = s.outbound ∧
      SameWork s (run step s (List.replicate n .read)) ∧
      Sound (run step s (List.replicate n .read)) := by
  induction n generalizing s with
  | zero => exact ⟨rfl, rfl, ⟨rfl, rfl⟩, h⟩
  | succ n ih =>
    rw [List.replicate_succ, run_cons]
    obtain ⟨hclient, hout, hwork, hsound⟩ := ih (h.step (a := .read) trivial)
    cases hs : s.toClient with
    | nil =>
      have hstep : s.step .read = s := by simp [step, hs]
      rw [hstep] at hclient hout hwork hsound ⊢
      exact ⟨by simpa [hs] using hclient, hout, hwork, hsound⟩
    | cons v rest =>
      have hstep : s.step .read =
          { s with toClient := rest, received := s.received ++ [v] }.take v := by
        simp [step, h.alive, hs]
      rw [hstep] at hclient hout hwork hsound ⊢
      exact ⟨by simpa using hclient, by simpa using hout,
        ⟨by simpa using hwork.served, by simpa using hwork.stream⟩, hsound⟩

/-- After `drain` the client has all responses and all queued events. -/
def Drains (s : Session) : Prop :=
  (run step s s.drain).answered.map Prod.snd = s.served.map Prod.snd ∧
    (run step s s.drain).events = s.stream.filterMap Outbound.event?

theorem Sound.run_flush (h : Sound s) (n : Nat) :
    Sound (run Session.step s (List.replicate n .flush)) := by
  induction n generalizing s with
  | zero => exact h
  | succ n ih =>
    rw [List.replicate_succ, run_cons]
    exact ih (h.step (a := .flush) trivial)

theorem Sound.drains (h : Sound s) : Drains s := by
  unfold Drains drain
  rw [run_append]
  obtain ⟨hout, hclient, hwork⟩ := Session.run_flush s s.outbound.length
  obtain ⟨hempty, hqueue, hwork', hsound⟩ :=
    run_read (h.run_flush s.outbound.length) (s.toClient.length + s.outbound.length)
  generalize run Session.step (run Session.step s (List.replicate s.outbound.length Move.flush))
    (List.replicate (s.toClient.length + s.outbound.length) Move.read) = s'
    at hempty hqueue hwork' hsound ⊢
  rw [hout, List.drop_length] at hqueue
  rw [hclient, List.take_length, List.drop_eq_nil_of_le (by simp)] at hempty
  have hboth := hwork.trans hwork'
  have hdelivers := hsound.toOrderly.delivers
  have hresponses := hdelivers.responses
  have hevents := hdelivers.events
  rw [hempty, hqueue] at hresponses hevents
  rw [hboth.served] at hresponses
  rw [hboth.stream] at hevents
  exact ⟨by simpa using hresponses, by simpa using hevents⟩

/-- **Order and demultiplexing.** In every run of a connection, whatever is
    broadcast and however the tasks interleave: the client's reader has handed
    to the waiters and to the event channel the handler's responses and the
    queued events, in order, up to what is still under way; and that arrives
    when the writer and the reader go on. -/
theorem session_delivers (moves : List Move) (h : ∀ a ∈ moves, a.RoundTrips) :
    AllStates step (fun s => Delivers s ∧ Drains s) start moves := by
  have hsound : AllStates step Sound start moves :=
    allStates_of_invariant sound_start (fun _ _ hs ha => hs.step ha) (allSteps_of_forall_mem h)
  exact hsound.mono fun s hs => ⟨hs.toOrderly.delivers, hs.drains⟩

/-- Numbers in range are all that serde needs. -/
def Move.Fits : Move → Prop
  | publish ev => (ServerEvent.ofEvent ev).Fits
  | respond r => r.Fits
  | _ => True

instance (a : Move) : Decidable a.Fits :=
  match a with
  | .publish ev => inferInstanceAs (Decidable (ServerEvent.ofEvent ev).Fits)
  | .respond r => inferInstanceAs (Decidable r.Fits)
  | .relay | .register | .hello _ | .serve | .flush | .enqueue _ | .write | .read => .isTrue trivial

theorem Move.Fits.roundTrips (h : a.Fits) : a.RoundTrips := by
  cases a with
  | publish ev => exact ServerEvent.fromValue_toValue h
  | respond r => exact Response.fromValue_toValue h
  | relay | register | hello _ | serve | flush | enqueue _ | write | read => trivial

/-- A ping pipelined behind a device query, with an event between the answers. -/
def twoRequests : List Move :=
  [.register, .hello 7, .enqueue .deviceList, .write, .enqueue .ping, .serve, .write, .flush,
    .respond (.ok (.array [])), .publish .daemonShutdown, .relay, .serve, .respond (.err 3 "busy"),
    .read, .flush, .flush, .read, .flush, .read, .read]

theorem session_delivers_two :
    AllStates step (fun s => Delivers s ∧ Drains s) start twoRequests := by
  have hfits : ∀ a ∈ twoRequests, a.Fits := by decide
  exact session_delivers twoRequests fun a ha => (hfits a ha).roundTrips

end Session

end Handfast.Ipc
