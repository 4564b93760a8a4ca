/-
  Handfast.Daemon.Net

  The actor and its connections.  A handshake hands the actor a new connection;
  if the pinning gate lets it in, a reader task starts and tags everything the
  connection delivers with the device id alone.  Dropping the outbound queue
  of a replaced connection does not stop its reader.

  `Net` follows which readers run, which connection of each device was
  installed last and which one delivered the request now parked.  None of this
  is known to the actor.  A reader that is not running delivers nothing, so
  every list of events is a possible run.
-/
import Handfast.Daemon.LinkRefine
import Handfast.Lib.Trace

namespace Handfast.Daemon

open Handfast.Lib Handfast.Protocol Handfast.Core

/-- A connection that was installed and whose reader runs. -/
structure Reader where
  conn : ConnId
  device : String
  fingerprint : Fingerprint
  deriving DecidableEq

def Effect.reader : Effect → Option Reader
  | .attached d t => some { conn := t.conn, device := d, fingerprint := t.peerFingerprint }
  | _ => none

/-- The command comes from a connection or its handshake. -/
def Command.ofConnection : Command → Bool
  | .connected _ _ | .packetFrom _ _ | .connClosed _ | .sharePayload _ _ _ => true
  | _ => false

/-- What a reader makes of a packet: with an announced payload port it dials the
    data connection first and passes on what came of it. -/
def Reader.command (r : Reader) (packet : Packet) (payload : Except String Transport) : Command :=
  match packet.payloadTransferPort with
  | some _ => .sharePayload r.device packet payload
  | none => .packetFrom r.device packet

inductive NetEvent where
  /-- A handshake ends: the peer claims to be `deviceId`. -/
  | connected (deviceId : String) (fingerprint : Fingerprint) (addr : SocketAddr)
  /-- A packet arrives on a connection. -/
  | received (conn : ConnId) (packet : Packet) (payload : Except String Transport)
  /-- A reader ends. -/
  | closed (conn : ConnId)
  /-- Any command that does not come from a connection. -/
  | command (c : Command)

def NetEvent.ends : NetEvent → ConnId → Bool
  | .closed conn, c => c = conn
  | _, _ => false

structure Net where
  mgr : Manager
  next : ConnId
  readers : List Reader
  /-- The connection of each device that was installed last. -/
  last : Table String Reader
  /-- The connection that delivered the parked request of each device. -/
  parkedBy : Table String Reader

namespace Net

def start (m : Manager) : Net where
  mgr := m
  next := 0
  readers := []
  last := .empty
  parkedBy := .empty

def reader (s : Net) (conn : ConnId) : Option Reader := s.readers.find? fun r => r.conn = conn

def command (s : Net) : NetEvent → Option Command
  | .connected d fingerprint addr =>
    some (.connected d { conn := s.next, peerFingerprint := fingerprint, peerAddr := addr })
  | .received conn packet payload => (s.reader conn).map fun r => r.command packet payload
  | .closed conn => (s.reader conn).map fun r => .connClosed r.device
  | .command c => if c.ofConnection then none else some c

def mgrAfter (s : Net) (env : Env) (e : NetEvent) : Manager :=
  match s.command e with
  | some c => (s.mgr.handle env c).1
  | none => s.mgr

def started (s : Net) (env : Env) (e : NetEvent) : List Reader :=
  match e, s.command e with
  | .connected _ _ _, some c => (s.mgr.handle env c).2.filterMap Effect.reader
  | _, _ => []

/-- Who delivered the request an event parks. -/
def parker (s : Net) (env : Env) : NetEvent → Option Reader
  | .received conn packet payload =>
    (s.reader conn).filter fun r =>
      (s.mgr.link r.device).Parks (s.mgr.linkInput env r.device (r.command packet payload))
  | _ => none

def step (s : Net) (a : Env × NetEvent) : Net where
  mgr := s.mgrAfter a.1 a.2
  next := s.next + 1
  readers := (s.readers.filter fun r => !a.2.ends r.conn) ++ s.started a.1 a.2
  last := s.last.insertAll ((s.started a.1 a.2).map fun r => (r.device, r))
  parkedBy := s.parkedBy.insertAll ((s.parker a.1 a.2).toList.map fun r => (r.device, r))

/-- What an event means for device `d`. -/
def input (s : Net) (env : Env) (e : NetEvent) (d : String) : Link.Input :=
  match s.command e with
  | some c => s.mgr.linkInput env d c
  | none => .idle

variable {s : Net} {env : Env} {e : NetEvent} {d : String} {r : Reader} {conn : ConnId}
  {c : Command} {fingerprint : Fingerprint} {addr : SocketAddr}

theorem mem_of_reader (h : s.reader conn = some r) :
    r ∈ s.readers ∧ r.conn = conn :=
  ⟨List.mem_of_find?_eq_some h, by simpa using List.find?_some h⟩

inductive Issues (s : Net) : NetEvent → Command → Prop where
  | connects {d : String} {fingerprint : Fingerprint} {addr : SocketAddr} :
      Issues s (.connected d fingerprint addr)
        (.connected d { conn := s.next, peerFingerprint := fingerprint, peerAddr := addr })
  | passes {conn : ConnId} {r : Reader} {packet : Packet} {payload : Except String Transport}
      (hr : s.reader conn = some r) :
      Issues s (.received conn packet payload) (.packetFrom r.device packet)
  | dials {conn : ConnId} {r : Reader} {packet : Packet} {payload : Except String Transport}
      (hr : s.reader conn = some r) (hport : packet.payloadTransferPort.isSome = true) :
      Issues s (.received conn packet payload) (.sharePayload r.device packet payload)
  | closes {conn : ConnId} {r : Reader} (hr : s.reader conn = some r) :
      Issues s (.closed conn) (.connClosed r.device)
  | asks {c : Command} (hc : c.ofConnection = false) : Issues s (.command c) c

/-- **Inversion.** -/
theorem command_issues (h : s.command e = some c) : Issues s e c := by
  cases e with
  | connected d fingerprint addr =>
    cases h
    exact .connects
  | received conn packet payload =>
    obtain ⟨r, hr, rfl⟩ := Option.map_eq_some_iff.mp h
    cases hport : packet.payloadTransferPort with
    | none =>
      rw [Reader.command, hport]
      exact .passes hr
    | some port =>
      rw [Reader.command, hport]
      exact .dials hr (by rw [hport]; rfl)
  | closed conn =>
    obtain ⟨r, hr, rfl⟩ := Option.map_eq_some_iff.mp h
    exact .closes hr
  | command c' =>
    rw [command, Option.ite_none_left_eq_some, Option.some.injEq] at h
    obtain ⟨hof, rfl⟩ := h
    exact .asks (by simpa using hof)

/-- Every event is one input of each device's link. -/
theorem step_link (s : Net) (env : Env) (e : NetEvent) (d : String) :
    (s.step (env, e)).mgr.link d = (s.mgr.link d).step (s.input env e d) := by
  show (s.mgrAfter env e).link d = _
  unfold mgrAfter input
  cases s.command e with
  | none => rfl
  | some c => exact s.mgr.handle_link env d c

/-! ## Connections coming up -/

theorem onConnected_reader {m : Manager} {t : Transport} :
    (m.onConnected d t).2.filterMap Effect.reader =
      if Manager.gateRejects (m.link d).pinned (hex t.peerFingerprint) then []
      else [{ conn := t.conn, device := d, fingerprint := t.peerFingerprint }] := by
  have hpin : (m.link d).pinned = (m.devices.get d).bind DeviceState.pinnedFingerprint := rfl
  unfold Manager.onConnected
  rw [hpin]
  cases m.devices.get d with
  | none => rfl
  | some st =>
    by_cases hg : Manager.gateRejects st.pinnedFingerprint (hex t.peerFingerprint) = true
    · simp [hg, Effect.reader]
    · simp [hg, Effect.reader]

theorem started_connected :
    s.started env (.connected d fingerprint addr) =
      if Manager.gateRejects (s.mgr.link d).pinned (hex fingerprint) then []
      else [{ conn := s.next, device := d, fingerprint := fingerprint }] :=
  onConnected_reader

/-- The newest connection of a device is the last that passed the gate. -/
theorem step_last_get :
    (s.step (env, e)).last.get d =
      match e with
      | .connected d' fingerprint _ =>
        if d' = d ∧ Manager.gateRejects (s.mgr.link d).pinned (hex fingerprint) = false then
          some { conn := s.next, device := d, fingerprint := fingerprint }
        else s.last.get d
      | _ => s.last.get d := by
  cases e with
  | connected d' fingerprint addr =>
    simp only [step, started_connected]
    by_cases hd : d' = d
    · subst hd
      cases hg : Manager.gateRejects (s.mgr.link d').pinned (hex fingerprint) <;> simp
    · cases Manager.gateRejects (s.mgr.link d').pinned (hex fingerprint) <;>
        simp [hd, Ne.symm hd]
  | _ => rfl

theorem mem_step_readers :
    r ∈ (s.step (env, e)).readers ↔
      (r ∈ s.readers ∧ e.ends r.conn = false) ∨ r ∈ s.started env e := by
  simp [step]

/-- A reader is started by a connection that passes the gate. -/
theorem mem_started :
    r ∈ s.started env e ↔
      ∃ addr, e = .connected r.device r.fingerprint addr ∧ r.conn = s.next ∧
        Manager.gateRejects (s.mgr.link r.device).pinned (hex r.fingerprint) = false := by
  cases e with
  | connected d fingerprint addr =>
    rw [started_connected]
    cases hg : Manager.gateRejects (s.mgr.link d).pinned (hex fingerprint) with
    | true =>
      simp only [if_true, List.not_mem_nil, false_iff]
      rintro ⟨addr', he, -, hrej⟩
      cases he
      simp [hg] at hrej
    | false =>
      simp only [Bool.false_eq_true, if_false, List.mem_singleton]
      constructor
      · rintro rfl
        exact ⟨addr, rfl, rfl, hg⟩
      · rintro ⟨addr', he, hc, -⟩
        cases he
        cases r
        simp_all
  | received conn packet payload => simp [started]
  | closed conn => simp [started]
  | command c => simp [started]

theorem started_unique {r' : Reader} (hr : r ∈ s.started env e) (hr' : r' ∈ s.started env e) :
    r = r' := by
  obtain ⟨addr, he, hconn, -⟩ := mem_started.mp hr
  obtain ⟨addr', he', hconn', -⟩ := mem_started.mp hr'
  obtain ⟨hdev, hfp, -⟩ := NetEvent.connected.inj (he.symm.trans he')
  cases r
  cases r'
  simp_all

/-! ## What an event attaches -/

theorem input_connected {d' : String} :
    s.input env (.connected d' fingerprint addr) d =
      if d' = d then .attach s.next fingerprint else .idle := by
  simp [input, command, Manager.linkInput, Command.device, Command.linkInput]

theorem input_closed :
    s.input env (.closed conn) d =
      if (s.reader conn).any fun r => r.device = d then .close else .idle := by
  cases h : s.reader conn <;>
    simp [input, command, h, Manager.linkInput, Command.device, Command.linkInput]

/-- Of what a reader hands over, only pair packets concern the pairing. -/
theorem input_received {packet : Packet} {payload : Except String Transport} :
    s.input env (.received conn packet payload) d = .idle ∨
      ∃ r wants, s.reader conn = some r ∧ r.device = d ∧
        r.command packet payload = .packetFrom r.device packet ∧
        packet.ptype = typePair ∧ Manager.wantsPair packet = some wants ∧
        s.input env (.received conn packet payload) d =
          .pair wants (s.mgr.autoAccept env) env.now env.storeWrite.isNone := by
  cases hr : s.reader conn with
  | none => exact .inl (by simp [input, command, hr])
  | some r =>
    have hin : s.input env (.received conn packet payload) d =
        s.mgr.linkInput env d (r.command packet payload) := by simp [input, command, hr]
    rw [hin]
    cases hport : packet.payloadTransferPort with
    | some port =>
      -- with a payload port even a pair packet goes to `SharePayload`
      exact .inl (by simp [Reader.command, hport, Manager.linkInput, Command.linkInput])
    | none =>
      have hcmd : r.command packet payload = .packetFrom r.device packet := by
        simp [Reader.command, hport]
      rw [hcmd]
      rcases s.mgr.linkInput_packetFrom env d r.device packet with
        hi | ⟨wants, hd, hp, hw, hi⟩
      · exact .inl hi
      · exact .inr ⟨r, wants, rfl, hd, hcmd, hp, hw, hi⟩

theorem input_command :
    s.input env (.command c) d =
      if c.ofConnection = false ∧ c.device = some d then c.linkInput (s.mgr.autoAccept env) env
      else .idle := by
  cases hc : c.ofConnection <;> simp [input, command, hc, Manager.linkInput]

/-- The live connection of a device after an event: only handshakes and the end
    of readers change it. -/
theorem step_attachment :
    ((s.step (env, e)).mgr.link d).attachment =
      match e with
      | .connected d' fingerprint _ =>
        if d' = d ∧ Manager.gateRejects (s.mgr.link d).pinned (hex fingerprint) = false then
          (some s.next, some (hex fingerprint))
        else (s.mgr.link d).attachment
      | .closed conn =>
        if (s.reader conn).any fun r => r.device = d then (none, none)
        else (s.mgr.link d).attachment
      | .received _ _ _ | .command _ => (s.mgr.link d).attachment := by
  rw [step_link, Link.step_attachment]
  cases e with
  | connected d' fingerprint addr =>
    rw [input_connected]
    by_cases hd : d' = d
    · cases hg : Manager.gateRejects (s.mgr.link d).pinned (hex fingerprint) <;> simp [hd, hg]
    · simp [hd]
  | closed conn =>
    rw [input_closed]
    by_cases hd : (s.reader conn).any fun r => r.device = d <;> simp [hd]
  | received conn packet payload =>
    -- a packet pairs or revokes; neither touches the connection
    rcases input_received with hi | ⟨r, wants, -, -, -, -, -, hi⟩ <;> rw [hi]
  | command c =>
    rw [input_command]
    by_cases hc : c.ofConnection = false ∧ c.device = some d
    · rw [if_pos hc]
      -- connections come and go through readers only
      cases c with
      | connected d' t | connClosed d' | packetFrom d' p => cases hc.1
      | _ => rfl
    · rw [if_neg hc]

/-! ## Who parks a request -/

theorem step_parkedBy_get :
    (s.step (env, e)).parkedBy.get d =
      match s.parker env e with
      | some r => if d = r.device then some r else s.parkedBy.get d
      | none => s.parkedBy.get d := by
  simp only [step]
  cases s.parker env e <;> simp

/-- A request is parked by a packet, and its reader is noted. -/
theorem parker_of_parks (h : (s.mgr.link d).Parks (s.input env e d)) :
    ∃ r, s.parker env e = some r ∧ r.device = d := by
  cases e with
  | connected d' fingerprint addr =>
    rw [input_connected] at h
    split at h <;> exact h.elim
  | closed conn =>
    rw [input_closed] at h
    split at h <;> exact h.elim
  | command c =>
    rw [input_command] at h
    split at h
    · rename_i hc
      cases c with
      | packetFrom d' p => cases hc.1
      | _ => exact h.elim
    · exact h.elim
  -- only a packet can park, and its reader is the one that parks
  | received conn packet payload =>
    cases hr : s.reader conn with
    | none => simp [input, command, hr, Link.Parks] at h
    | some r =>
      have hin : s.input env (.received conn packet payload) d =
          s.mgr.linkInput env d (r.command packet payload) := by simp [input, command, hr]
      have hd : r.device = d := by
        rcases input_received with hi | ⟨r', wants, hr', hd, -⟩
        · rw [hi] at h
          exact h.elim
        · rw [hr] at hr'
          cases hr'
          exact hd
      subst hd
      rw [hin] at h
      exact ⟨r, by simp [parker, hr, h], rfl⟩

/-! ## The invariant -/

/-- Connections have numbers of their own, the live connection is the one
    installed last, and a parked request has somebody who delivered it. -/
structure Inv (s : Net) : Prop where
  sound : ∀ d, (s.mgr.link d).Sound
  reader_lt : ∀ r ∈ s.readers, r.conn < s.next
  conn_inj : ∀ r ∈ s.readers, ∀ r' ∈ s.readers, r.conn = r'.conn → r = r'
  last_device : ∀ d r, s.last.get d = some r → r.device = d
  live_last : ∀ d, (s.mgr.link d).outbound.isSome →
    ∃ r, s.last.get d = some r ∧ (s.mgr.link d).live = some (hex r.fingerprint)
  parked_by : ∀ d, (s.mgr.link d).parked.isSome → (s.parkedBy.get d).isSome

/-- The live fingerprint is the one of the last connection installed. -/
theorem Inv.live_last_step (h : s.Inv)
    (hout : ((s.step (env, e)).mgr.link d).outbound.isSome) :
    ∃ r, (s.step (env, e)).last.get d = some r ∧
      ((s.step (env, e)).mgr.link d).live = some (hex r.fingerprint) := by
  have hatt : ((s.step (env, e)).mgr.link d).attachment = _ := step_attachment
  -- `last` and the live connection change in the same events
  rw [show ((s.step (env, e)).mgr.link d).outbound = _ from congrArg Prod.fst hatt] at hout
  rw [show ((s.step (env, e)).mgr.link d).live = _ from congrArg Prod.snd hatt, step_last_get]
  cases e with
  | connected d' fingerprint addr =>
    simp only at hout ⊢
    split at hout
    · rename_i hc
      rw [if_pos hc, if_pos hc]
      exact ⟨_, rfl, rfl⟩
    · rename_i hc
      rw [if_neg hc, if_neg hc]
      exact h.live_last d hout
  | closed conn =>
    simp only at hout ⊢
    split at hout
    · cases hout
    · rename_i hc
      rw [if_neg hc]
      exact h.live_last d hout
  | received conn packet payload => exact h.live_last d hout
  | command c => exact h.live_last d hout

/-- A parked request was delivered by some connection. -/
theorem Inv.parked_by_step (h : s.Inv)
    (hp : ((s.step (env, e)).mgr.link d).parked.isSome) :
    ((s.step (env, e)).parkedBy.get d).isSome := by
  rw [step_link] at hp
  rw [step_parkedBy_get]
  -- a request from before keeps its deliverer, or a newer one took its place
  rcases Link.parked_origin hp with hold | hparks
  · have hby := h.parked_by d hold
    cases s.parker env e with
    | none => exact hby
    | some r =>
      simp only
      split
      · rfl
      · exact hby
  · obtain ⟨r, hr, rfl⟩ := parker_of_parks hparks
    simp [hr]

theorem Inv.step (h : s.Inv) (a : Env × NetEvent) : (s.step a).Inv := by
  obtain ⟨env, e⟩ := a
  have hreader : ∀ r ∈ (s.step (env, e)).readers, r ∈ s.readers ∨
      r.conn = s.next ∧ r ∈ s.started env e := by
    intro r hr
    rcases mem_step_readers.mp hr with ⟨hold, -⟩ | hnew
    · exact .inl hold
    · exact .inr ⟨(mem_started.mp hnew).choose_spec.2.1, hnew⟩
  refine ⟨?_, ?_, ?_, ?_, fun d => h.live_last_step, fun d => h.parked_by_step⟩
  · intro d
    rw [step_link]
    exact (h.sound d).step _
  · intro r hr
    show r.conn < s.next + 1
    rcases hreader r hr with hold | ⟨hnew, -⟩
    · exact Nat.lt_succ_of_lt (h.reader_lt r hold)
    · rw [hnew]
      exact Nat.lt_succ_self _
  · intro r hr r' hr' hconn
    -- numbers are handed out in order, so a new one is above all others
    rcases hreader r hr with hr | ⟨hnew, hstarted⟩ <;>
      rcases hreader r' hr' with hr' | ⟨hnew', hstarted'⟩
    · exact h.conn_inj r hr r' hr' hconn
    · exact absurd (hconn.trans hnew') (Nat.ne_of_lt (h.reader_lt r hr))
    · exact absurd (hconn.symm.trans hnew) (Nat.ne_of_lt (h.reader_lt r' hr'))
    · exact started_unique hstarted hstarted'
  · intro d r hr
    rw [step_last_get] at hr
    cases e with
    | connected d' fingerprint addr =>
      simp only at hr
      split at hr
      · cases hr
        rfl
      · exact h.last_device d r hr
    | _ => exact h.last_device d r hr

theorem start_inv (store : Store) (self : String) (identity : Identity) (target : SaveTarget) :
    (start (Manager.new store self identity target).loadPersisted).Inv where
  sound := by
    intro d
    rw [start, Manager.new_link]
    exact Link.restart_sound _ _
  reader_lt := by simp [start]
  conn_inj := by simp [start]
  last_device := by simp [start]
  live_last := by
    intro d h
    rw [start, Manager.new_link] at h
    cases h
  parked_by := by
    intro d h
    rw [start, Manager.new_link] at h
    cases h

end Net
end Handfast.Daemon
