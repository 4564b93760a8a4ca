/-
  Handfast.Ipc.Hello

  The greeting of a new client connection.  `handle_connection` registers its
  sink with the relay and then queues Hello; these are two actions, and the
  relay may run between them.

  Frames reach the client in the order in which messages were queued
  (`frames_eq`), so the first frame is the first message ever queued.  A good
  state stays good in every step but one: an event relayed while the connection
  is registered and Hello is not queued (`EarlyRelay`).  What is broadcast after
  Hello was queued passes through the backlog and the queue once.
-/
import Handfast.Ipc.Session

namespace Handfast.Ipc.Session

open Handfast.Lib Handfast.Protocol

variable {s s' : Session} {a : Move}

/-- The frames the client has received, then those it will receive. -/
def frames (s : Session) : List Value :=
  s.received ++ (s.toClient ++ s.outbound.map Outbound.toValue)

/-- The first frame the client gets is Hello. -/
def HelloFirst (s : Session) : Prop :=
  ∀ v, s.frames.head? = some v → ∃ pid, v = (helloEvent pid).toValue

/-- The relay delivers an event between registration and Hello. -/
def EarlyRelay (s : Session) (a : Move) : Prop :=
  match a with
  | .relay => s.phase = .registered ∧ s.backlog ≠ []
  | _ => False

/-! ## What a step queues -/

/-- The message a step puts into the outbound queue. -/
inductive Queues (s : Session) : Move → Outbound → Prop
  | relay {e : ServerEvent} {rest : List ServerEvent} (hback : s.backlog = e :: rest)
      (hlisted : s.phase.listed = true) : Queues s .relay (.event e)
  | hello {pid : UInt32} (hphase : s.phase = .registered) :
      Queues s (.hello pid) (.event (helloEvent pid))
  | respond {r : Request} {resp : Response} (hphase : s.phase = .handling r) :
      Queues s (.respond resp) (.response resp)

theorem Moves.stream (h : Moves s a s') :
    s'.stream = s.stream ∨ ∃ m, Queues s a m ∧ s'.stream = s.stream ++ [m] := by
  cases h with
  | relay hback hlisted => exact .inr ⟨_, .relay hback hlisted, rfl⟩
  | hello hphase hs =>
    subst hs
    exact .inr ⟨_, .hello hphase, rfl⟩
  | respond hphase => exact .inr ⟨_, .respond hphase, rfl⟩
  | read _ => exact .inl (by simp)
  | publish _ | miss _ _ | register _ | serve _ _ _ | hangUp _ _ _ | flush _ | enqueue _
  | write _ =>
    exact .inl rfl

/-- A step adds at most one message to the stream. -/
theorem stream_step (s : Session) (a : Move) :
    (s.step a).stream = s.stream ∨
      ∃ m, Queues s a m ∧ (s.step a).stream = s.stream ++ [m] := by
  rcases step_moves s a with hsame | hmoves
  · exact .inl (by rw [hsame])
  · exact hmoves.stream

/-- Frames are the encodings of the messages, wherever they are. -/
theorem Moves.frames (hmoves : Moves s a s') (h : s.frames = s.stream.map Outbound.toValue) :
    s'.frames = s'.stream.map Outbound.toValue := by
  simp only [Session.frames] at h
  cases hmoves with
  | relay _ _ | respond _ => simp [Session.frames, queue, ← h]
  | hello _ hs =>
    subst hs
    simp [Session.frames, queue, ← h]
  | flush hout =>
    rw [hout] at h
    simp [Session.frames, ← h]
  | read hclient =>
    rw [hclient] at h
    simp [Session.frames, ← h]
  | publish _ | miss _ _ | register _ | serve _ _ _ | hangUp _ _ _ | enqueue _ | write _ => exact h

/-! ## The first frame -/

/-- No broadcast event looks like the handshake. -/
theorem ofEvent_ne_hello (ev : Core.Event) (pid : UInt32) :
    (ServerEvent.ofEvent ev).toValue ≠ (helloEvent pid).toValue := by
  intro h
  have hnames := congrArg (readAdjacent "event" "data") h
  rw [ServerEvent.toValue, ServerEvent.toValue, readAdjacent_adjacent (by decide),
    readAdjacent_adjacent (by decide)] at hnames
  have hname : (ServerEvent.ofEvent ev).parts.1 = "hello" := by
    injection hnames with hpair
    exact congrArg Prod.fst hpair
  cases ev <;> (revert hname; simp [ServerEvent.ofEvent, ServerEvent.parts])

/-- Before Hello is queued only relayed events can be; after it there is a first
    message. -/
structure Greeting (s : Session) : Prop where
  frames : s.frames = s.stream.map Outbound.toValue
  backlog : ∀ e ∈ s.backlog, ∃ ev, e = .ofEvent ev
  accepted : s.phase = .accepted → s.stream = []
  registered : s.phase = .registered → ∀ m ∈ s.stream, ∃ ev, m = .event (.ofEvent ev)
  greeted : s.phase ≠ .accepted → s.phase ≠ .registered → s.stream ≠ []

theorem greeting_start : Greeting start where
  frames := rfl
  backlog := nofun
  accepted _ := rfl
  registered := nofun
  greeted h := absurd rfl h

/-- Before the handshake event only relayed events are queued. -/
theorem Moves.greeting (hmoves : Moves s a s') (h : Greeting s) : Greeting s' := by
  have hframes := hmoves.frames h.frames
  cases hmoves with
  | publish ev =>
    refine { h with frames := hframes, backlog := fun e he => ?_ }
    rcases List.mem_append.mp he with hold | hnew
    · exact h.backlog e hold
    · exact ⟨ev, List.mem_singleton.mp hnew⟩
  | relay hback hlisted =>
    refine { frames := hframes, backlog := ?_, accepted := ?_, registered := ?_, greeted := ?_ }
    · exact fun e he => h.backlog e (hback ▸ List.mem_cons_of_mem _ he)
    · -- a connection that is not registered gets nothing
      intro hphase
      rw [show s.phase = .accepted from hphase] at hlisted
      cases hlisted
    · intro hphase m hm
      rcases List.mem_append.mp hm with hold | hnew
      · exact h.registered hphase m hold
      · obtain ⟨ev, rfl⟩ := h.backlog _ (hback ▸ List.mem_cons_self)
        exact ⟨ev, List.mem_singleton.mp hnew⟩
    · exact fun _ _ => List.append_ne_nil_of_right_ne_nil _ (List.cons_ne_nil _ _)
  | miss hback _ =>
    exact { h with
      frames := hframes
      backlog := fun e he => h.backlog e (hback ▸ List.mem_cons_of_mem _ he) }
  | register hphase =>
    refine { h with
      frames := hframes, accepted := ?_, registered := fun _ m hm => ?_, greeted := ?_ }
    · exact nofun
    · rw [show s.stream = [] from h.accepted hphase] at hm
      cases hm
    · exact fun _ hnot => absurd rfl hnot
  | hello hphase hs =>
    subst hs
    exact { h with
      frames := hframes
      accepted := nofun
      registered := nofun
      greeted := fun _ _ => List.append_ne_nil_of_right_ne_nil _ (List.cons_ne_nil _ _) }
  | serve hphase _ _ | hangUp hphase _ _ =>
    exact { h with
      frames := hframes
      accepted := nofun
      registered := nofun
      greeted := fun _ _ => h.greeted (by simp [hphase]) (by simp [hphase]) }
  | respond hphase =>
    exact { h with
      frames := hframes
      accepted := nofun
      registered := nofun
      greeted := fun _ _ => List.append_ne_nil_of_right_ne_nil _ (List.cons_ne_nil _ _) }
  | flush _ | enqueue _ | write _ => exact { h with frames := hframes }
  | read _ =>
    exact {
      frames := hframes
      backlog := by simpa using h.backlog
      accepted := by simpa using h.accepted
      registered := by simpa using h.registered
      greeted := by simpa using h.greeted }

theorem Greeting.step (h : Greeting s) (a : Move) : Greeting (s.step a) :=
  step_of_moves h fun hmoves => hmoves.greeting h

theorem Greeting.helloFirst_iff (h : Greeting s) :
    HelloFirst s ↔ ∀ m, s.stream.head? = some m → ∃ pid, m.toValue = (helloEvent pid).toValue := by
  rw [HelloFirst, h.frames, List.head?_map]
  constructor
  · intro hfirst m hm
    exact hfirst m.toValue (by rw [hm]; rfl)
  · intro hfirst v hv
    obtain ⟨m, hm, rfl⟩ := Option.map_eq_some_iff.mp hv
    exact hfirst m hm

theorem Greeting.helloFirst_step (h : Greeting s) (hne : s.stream ≠ []) (hfirst : HelloFirst s)
    (a : Move) : HelloFirst (s.step a) := by
  rw [(h.step a).helloFirst_iff]
  rw [h.helloFirst_iff] at hfirst
  rcases stream_step s a with hsame | ⟨m, -, hadd⟩
  · rwa [hsame]
  · rw [hadd, List.head?_append_of_ne_nil _ hne]
    exact hfirst

/-- While only registered, a good state has nothing queued yet. -/
theorem Greeting.stream_nil (h : Greeting s) (hphase : s.phase = .registered)
    (hfirst : HelloFirst s) : s.stream = [] := by
  cases hstream : s.stream with
  | nil => rfl
  | cons m rest =>
    rw [h.helloFirst_iff] at hfirst
    obtain ⟨pid, hhello⟩ := hfirst m (by rw [hstream]; rfl)
    obtain ⟨ev, rfl⟩ := h.registered hphase m (by rw [hstream]; exact List.mem_cons_self)
    exact absurd hhello (ofEvent_ne_hello ev pid)

/-- A good state stays good in exactly the steps that relay nothing early. -/
theorem Greeting.step_iff (h : Greeting s) (hfirst : HelloFirst s) :
    HelloFirst (s.step a) ↔ ¬ EarlyRelay s a := by
  by_cases hne : s.stream = []
  · have hgood : (s.step a).stream = [] → HelloFirst (s.step a) := by
      intro hnil
      rw [(h.step a).helloFirst_iff, hnil]
      exact nofun
    rcases stream_step s a with hsame | ⟨m, hqueues, hadd⟩
    · -- nothing is queued, so nothing was relayed early
      refine iff_of_true (hgood (hsame.trans hne)) ?_
      cases a with
      | relay =>
        rintro ⟨hphase, hback⟩
        obtain ⟨e, rest, hcons⟩ := List.exists_cons_of_ne_nil hback
        have hqueued : (s.step .relay).stream = s.stream ++ [.event e] := by
          simp [Session.step, hcons, hphase, ConnPhase.listed, queue]
        rw [hqueued] at hsame
        simp at hsame
      | publish _ | register | hello _ | serve | respond _ | flush | enqueue _ | write | read =>
        exact not_false
    · rw [hne, List.nil_append] at hadd
      cases hqueues with
      | relay hback hlisted =>
        -- with nothing queued the connection is still before its Hello
        have hreg : s.phase = .registered := by
          by_contra hreg
          refine h.greeted ?_ hreg hne
          intro hacc
          rw [hacc] at hlisted
          cases hlisted
        obtain ⟨ev, rfl⟩ := h.backlog _ (by rw [hback]; exact List.mem_cons_self)
        refine iff_of_false ?_ (not_not.mpr ⟨hreg, by simp [hback]⟩)
        rw [(h.step .relay).helloFirst_iff, hadd]
        intro hbad
        obtain ⟨pid, hhello⟩ := hbad _ rfl
        exact ofEvent_ne_hello ev pid hhello
      | hello hphase =>
        refine iff_of_true ?_ not_false
        rw [(h.step _).helloFirst_iff, hadd]
        intro m hm
        cases hm
        exact ⟨_, rfl⟩
      | respond hphase => exact absurd hne (h.greeted (by simp [hphase]) (by simp [hphase]))
  · refine iff_of_true (h.helloFirst_step hne hfirst a) ?_
    cases a with
    | relay => exact fun hearly => hne (h.stream_nil hearly.1 hfirst)
    | publish _ | register | hello _ | serve | respond _ | flush | enqueue _ | write | read =>
      exact not_false

/-! ## Events after Hello -/

/-- While the connection is up, the events queued and the backlog are those of
    the moment Hello was queued, followed by what was broadcast since. -/
structure Counted (s : Session) : Prop where
  unmarked : s.mark = none → s.later = []
  early : s.phase = .accepted ∨ s.phase = .registered → s.mark = none
  counted : ∀ marked, s.mark = some marked → s.phase ≠ .closed →
    s.stream.filterMap Outbound.event? ++ s.backlog = marked ++ s.later

theorem counted_start : Counted start where
  unmarked _ := rfl
  early _ := rfl
  counted := nofun

/-- A connection that has queued Hello is in the relay's list. -/
theorem Counted.listed (h : Counted s) {marked : List ServerEvent} (hmark : s.mark = some marked)
    (hopen : s.phase ≠ .closed) : s.phase.listed = true := by
  cases hp : s.phase with
  | accepted =>
    rw [h.early (.inl hp)] at hmark
    cases hmark
  | closed => exact absurd hp hopen
  | registered | reading | handling r => rfl

/-- The count looks at the events, the mark and the phase. -/
theorem Counted.of_same (h : Counted s) (hmark : s'.mark = s.mark) (hlater : s'.later = s.later)
    (hbacklog : s'.backlog = s.backlog)
    (hstream : s'.stream.filterMap Outbound.event? = s.stream.filterMap Outbound.event?)
    (hphase : s'.phase = .accepted ∨ s'.phase = .registered →
      s.phase = .accepted ∨ s.phase = .registered)
    (hclosed : s'.phase ≠ .closed → s.phase ≠ .closed) : Counted s' where
  unmarked hnone := by rw [hlater, h.unmarked (hmark ▸ hnone)]
  early hearly := by rw [hmark, h.early (hphase hearly)]
  counted marked hsome hopen := by
    rw [hstream, hbacklog, hlater]
    exact h.counted marked (hmark ▸ hsome) (hclosed hopen)

/-- An event leaves the backlog; once Hello is queued it goes into the queue. -/
theorem Counted.of_relay (h : Counted s) {e : ServerEvent} {rest : List ServerEvent}
    (hback : s.backlog = e :: rest) (hmark : s'.mark = s.mark) (hlater : s'.later = s.later)
    (hphase : s'.phase = s.phase) (hrest : s'.backlog = rest)
    (hstream : s.phase.listed = true →
      s'.stream.filterMap Outbound.event? = s.stream.filterMap Outbound.event? ++ [e]) :
    Counted s' where
  unmarked hnone := by rw [hlater, h.unmarked (hmark ▸ hnone)]
  early hearly := by rw [hmark, h.early (hphase ▸ hearly)]
  counted marked hsome hopen := by
    rw [hphase] at hopen
    rw [hmark] at hsome
    have hcount := h.counted marked hsome hopen
    rw [hback] at hcount
    rw [hstream (h.listed hsome hopen), hrest, hlater, ← hcount, List.append_assoc]
    rfl

theorem Moves.counted (hmoves : Moves s a s') (h : Counted s) : Counted s' := by
  cases hmoves with
  | publish ev =>
    refine ⟨fun hnone => ?_, h.early, fun marked hsome hopen => ?_⟩
    · have hmark : s.mark = none := hnone
      simp [hmark, h.unmarked hmark]
    · have hmark : s.mark = some marked := hsome
      have hcount := h.counted marked hmark hopen
      simp only [hmark, Option.isSome_some, if_true]
      rw [← List.append_assoc, hcount, List.append_assoc]
  | relay hback _ => exact h.of_relay hback rfl rfl rfl rfl fun _ => by simp [queue]
  | miss hback hlisted =>
    refine h.of_relay hback rfl rfl rfl rfl fun hlisted' => ?_
    rw [hlisted] at hlisted'
    cases hlisted'
  | register hphase =>
    exact h.of_same rfl rfl rfl rfl (fun _ => .inl hphase) (fun _ => by simp [hphase])
  | hello hphase hs =>
    -- the count starts here
    have hlater := h.unmarked (h.early (.inr hphase))
    subst hs
    refine ⟨fun hnone => ?_, ?_, fun marked hsome _ => ?_⟩
    · cases hnone
    · rintro (hp | hp) <;> cases hp
    · cases hsome
      simp [queue, hlater]
  | serve hphase _ _ =>
    exact h.of_same rfl rfl rfl rfl (by rintro (hp | hp) <;> cases hp)
      (fun _ => by simp [hphase])
  | hangUp _ _ _ =>
    exact h.of_same rfl rfl rfl rfl (by rintro (hp | hp) <;> cases hp)
      (fun hopen => absurd rfl hopen)
  | respond hphase =>
    exact h.of_same rfl rfl rfl (by simp [queue]) (by rintro (hp | hp) <;> cases hp)
      (fun _ => by simp [hphase])
  | flush _ | enqueue _ | write _ => exact h.of_same rfl rfl rfl rfl id id
  | read _ => exact h.of_same (by simp) (by simp) (by simp) (by simp) (by simp) (by simp)

theorem Counted.step (h : Counted s) (a : Move) : Counted (s.step a) :=
  step_of_moves h fun hmoves => hmoves.counted h

def catchUp (s : Session) : List Move :=
  List.replicate s.backlog.length .relay ++
    List.replicate (s.outbound.length + s.backlog.length) .flush

/-- After that the client has the events of the moment Hello was queued and then
    each later one, once. -/
def ReachesOnce (s : Session) : Prop :=
  ∀ marked, s.mark = some marked → s.phase ≠ .closed →
    (run step s s.catchUp).received ++ (run step s s.catchUp).toClient =
        (run step s s.catchUp).stream.map Outbound.toValue ∧
      (run step s s.catchUp).stream.filterMap Outbound.event? = marked ++ s.later

theorem run_relay (hlisted : s.phase.listed = true) (n : Nat) :
    (run step s (List.replicate n .relay)).outbound =
        s.outbound ++ (s.backlog.take n).map Outbound.event ∧
      (run step s (List.replicate n .relay)).stream =
        s.stream ++ (s.backlog.take n).map Outbound.event := by
  induction n generalizing s with
  | zero => simp
  | succ n ih =>
    rw [List.replicate_succ, run_cons]
    cases hback : s.backlog with
    | nil =>
      have hstep : s.step .relay = s := by simp [step, hback]
      rw [hstep]
      simpa [hback] using ih hlisted
    | cons e rest =>
      have hstep : s.step .relay = { s with backlog := rest }.queue (.event e) := by
        simp [step, hback, hlisted]
      rw [hstep]
      have hnext := ih (s := { s with backlog := rest }.queue (.event e)) hlisted
      simpa [queue] using hnext

theorem Greeting.run (h : Greeting s) (moves : List Move) :
    Greeting (run Session.step s moves) :=
  (allStates_of_preserved h fun _ a h => h.step a).last

theorem Counted.reachesOnce (h : Counted s) (hgreet : Greeting s) : ReachesOnce s := by
  intro marked hmark hopen
  have hlisted := h.listed hmark hopen
  have hframes := (hgreet.run s.catchUp).frames
  obtain ⟨hout, hstream⟩ := run_relay hlisted s.backlog.length
  have hflush := run_flush (run Session.step s (List.replicate s.backlog.length Move.relay))
    (s.outbound.length + s.backlog.length)
  rw [← run_append] at hflush
  obtain ⟨hempty, -, hwork⟩ := hflush
  rw [hout, List.take_length, List.drop_eq_nil_of_le (by simp)] at hempty
  constructor
  · have hnone : (run Session.step s s.catchUp).outbound = [] := hempty
    rw [← hframes, frames, hnone, List.map_nil, List.append_nil]
  · have hsame : (run Session.step s s.catchUp).stream =
        s.stream ++ s.backlog.map Outbound.event := by
      rw [← List.take_length (l := s.backlog), ← hstream]
      exact hwork.stream
    have hevents : (s.backlog.map Outbound.event).filterMap Outbound.event? = s.backlog := by
      rw [List.filterMap_map]
      exact List.filterMap_some
    rw [hsame, List.filterMap_append, hevents]
    exact h.counted marked hmark hopen

/-- **Hello comes first** exactly in the runs in which nothing is relayed between
    registration and Hello; and in every run the events broadcast after Hello was
    queued reach the client once each. -/
theorem helloFirst_iff_noEarlyRelay (moves : List Move) :
    (AllStates step HelloFirst start moves ↔
      AllSteps step (fun s a => ¬ EarlyRelay s a) start moves) ∧
    AllStates step ReachesOnce start moves := by
  constructor
  · exact allStates_iff_allSteps Greeting greeting_start nofun (fun _ a h => h.step a)
      fun _ _ h hfirst => h.step_iff hfirst
  · have hboth : AllStates step (fun s => Greeting s ∧ Counted s) start moves :=
      allStates_of_preserved ⟨greeting_start, counted_start⟩
        fun _ a h => ⟨h.1.step a, h.2.step a⟩
    exact hboth.mono fun s h => h.2.reachesOnce h.1

/-- An event that is relayed after the registration is the first frame. -/
theorem shutdown_before_hello :
    ¬ AllStates step HelloFirst start [.publish .daemonShutdown, .register, .relay, .hello 7] := by
  intro h
  obtain ⟨pid, hhello⟩ := h.2.2.2.1 _ rfl
  exact ofEvent_ne_hello .daemonShutdown pid hhello

end Handfast.Ipc.Session
