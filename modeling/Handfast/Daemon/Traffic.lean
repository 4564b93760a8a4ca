/-
  Handfast.Daemon.Traffic

  Connections and transfer tasks together: who is at the other end of a data
  connection.

  A file travels on a TLS connection of its own.  Its port is announced in the
  share header, which goes over the control connection of the device.  Both
  ends of a data connection present a certificate, and `Transport::connect` and
  `PayloadListener::accept` compute its fingerprint, but nothing compares it
  with the one of the control connection: whoever completes a handshake first
  is the peer.

  `Traffic` runs `Net` and `Hub` side by side on the same actor.  `Net` knows
  the certificate of each control connection; the tasks of `Hub` carry, as
  history, the one their share header travelled under.
-/
import Handfast.Daemon.Net
import Handfast.Daemon.Hub

namespace Handfast.Daemon

open Handfast.Lib Handfast.Protocol Handfast.Core

def Effect.queuedOn : Effect → Option ConnId
  | .queued _ conn _ => some conn
  | _ => none

structure Traffic where
  net : Net
  hub : Hub
  /-- History: every control connection that was ever installed. -/
  installed : List Reader

inductive TrafficMove where
  /-- Something happens on a control connection, or a command comes in.  If that
      starts a receive, `wire` is what its data connection will deliver. -/
  | event (env : Env) (e : NetEvent) (wire : Wire)
  | receive (id : String) (io : Faults) (tools : Tools)
  | send (id : String) (tick : SendTick)
  | outcome (env : Env) (id : String) (io : Faults)

namespace Traffic

def start (m : Manager) (tempDir : String) (files : LocalFiles) (remote : Files String UInt8) :
    Traffic where
  net := .start m
  hub := .start m tempDir files remote
  installed := []

/-- The control connection a share header comes in on, or goes out on. -/
def headerConn (e : NetEvent) (effects : List Effect) : Option ConnId :=
  match e with
  -- an incoming header arrives on the connection of its reader
  | .received conn _ _ => some conn
  | _ => effects.findSome? Effect.queuedOn

def certificate (t : Traffic) (conn : ConnId) : Option Fingerprint :=
  (t.installed.find? fun r => r.conn = conn).map Reader.fingerprint

/-- The certificate a share header of this event travels under. -/
def control (t : Traffic) (env : Env) (e : NetEvent) (c : Command) : Option Fingerprint :=
  (headerConn e (t.hub.manager.handle env c).2).bind t.certificate

def step (t : Traffic) : TrafficMove → Traffic
  | .event env e wire =>
    match t.net.command e with
    | none => t
    | some c =>
      -- outcomes come from the tasks only
      if c.isOutcome then t
      else
        { net := t.net.step (env, e)
          hub := t.hub.step (.command env c (t.control env e c) wire)
          installed := t.installed ++ t.net.started env e }
  | .receive id io tools => { t with hub := t.hub.step (.receive id io tools) }
  | .send id tick => { t with hub := t.hub.step (.send id tick) }
  | .outcome env id io =>
    match t.hub.reported id with
    | none => t
    | some result =>
      { t with
        net := t.net.step (env, .command (.transferOutcome id result))
        hub := t.hub.step (.outcome env id io) }

/-! ## Trusted bytes -/

/-- The data connection presents the certificate of the control connection. -/
def SameCertificate (data : Option Transport) (control : Option Fingerprint) : Prop :=
  ∃ transport, data = some transport ∧ control = some transport.peerFingerprint

/-- The staging file of transfer `id` gets longer. -/
def Appends (h h' : Hub) (id : String) : Prop :=
  ∃ path old more, h.disk.staging.Stages id path ∧ h.disk.staging.files.read path = some old ∧
    h'.disk.staging.files.read path = some (old ++ more) ∧ more ≠ []

/-- Bytes go to or come from a data connection in this move only if it presents
    the certificate of the control connection. -/
def Trusted (t : Traffic) (a : TrafficMove) : Prop :=
  match a with
  | .send id _ => ∀ r r', t.hub.sends.get id = some r →
      (t.step a).hub.sends.get id = some r' → r'.written ≠ r.written →
        SameCertificate r'.peer r'.control
  | .receive id _ _ => ∀ r, t.hub.receives.get id = some r → Appends t.hub (t.step a).hub r.id →
      SameCertificate r.task.payload r.control
  | _ => True

/-- A data connection established in this move presents the certificate of the
    control connection. -/
def Matches (t : Traffic) : TrafficMove → Prop
  | .event _ (.received conn packet payload) _ => ∀ r transport, t.net.reader conn = some r →
      packet.payloadTransferPort.isSome = true → payload = .ok transport →
        transport.peerFingerprint = r.fingerprint
  | .send id tick => ∀ r transport, t.hub.sends.get id = some r → r.phase = .accept →
      tick.accept = .ok transport → r.control = some transport.peerFingerprint
  | _ => True

end Traffic

/-! ## The tasks and their data connections -/

/-- A data connection, if there is one, presents the certificate the header came
    under, and only a task that has one reads. -/
structure ReceiveRun.Secured (r : ReceiveRun) : Prop where
  same : ∀ transport, r.task.payload = some transport →
    r.control = some transport.peerFingerprint
  reading : ∀ done, r.phase = .check done → r.task.payload.isSome = true
  writing : ∀ done chunk, r.phase = .write done chunk → r.task.payload.isSome = true

namespace ReceiveRun.Secured

variable {r r' : ReceiveRun}

theorem of_task (h : r.Secured) (htask : r'.task = r.task) (hcontrol : r'.control = r.control)
    (hpayload : r.task.payload.isSome = true) : r'.Secured where
  same := by
    rw [htask, hcontrol]
    exact h.same
  reading := fun _ _ => htask ▸ hpayload
  writing := fun _ _ _ => htask ▸ hpayload

/-- Apart from the two phases of the loop nothing is asked of a task. -/
theorem goto (h : r.Secured) {phase : ReceivePhase} (hcheck : ∀ done, phase ≠ .check done)
    (hwrite : ∀ done chunk, phase ≠ .write done chunk) : (r.goto phase).Secured where
  same := h.same
  reading := fun done hp => absurd hp (hcheck done)
  writing := fun done chunk hp => absurd hp (hwrite done chunk)

theorem step (h : r.Secured) {events : List Event} (hgoes : Goes r r' events) : r'.Secured := by
  cases hgoes with
  | fails => exact h.goto nofun nofun
  | begins hp hpayload => exact h.of_task rfl rfl hpayload
  | skips => exact h.goto nofun nofun
  | reads hp =>
    exact h.of_task (r.readNext_task _) (r.readNext_control _) (h.reading _ hp)
  | writes hp =>
    exact h.of_task (r.afterWrite_task _) (r.afterWrite_control _) (h.writing _ _ hp)
  | hands => exact h.goto nofun nofun
  | stores => exact h.goto nofun nofun
  | rests => exact h

end ReceiveRun.Secured

/-- A send that pumps does so to a peer with the certificate its header went out
    under. -/
def SendRun.Secured (r : SendRun) : Prop :=
  r.phase = .pump → Traffic.SameCertificate r.peer r.control

theorem SendRun.Secured.step {r r' : SendRun} {tick : SendTick} (h : r.Secured)
    (hwires : Wires r tick r')
    (hmatch : ∀ transport, r.phase = .accept → tick.accept = .ok transport →
      r.control = some transport.peerFingerprint) : r'.Secured := by
  intro hpump
  cases hwires with
  | accepts hphase haccept => exact ⟨_, rfl, hmatch _ hphase haccept⟩
  | pumps hphase htask hpeer hcontrol =>
    rw [hpeer, hcontrol]
    exact h hphase
  | ends hphase => cases hphase.symm.trans hpump

/-! ## The certificate a header travels under -/

variable {e : NetEvent}

theorem Net.command_sharePayload {s : Net} {d : String} {header : Packet}
    {payload : Except String Transport} (h : s.command e = some (.sharePayload d header payload)) :
    ∃ conn r, e = .received conn header payload ∧ s.reader conn = some r ∧ r.device = d ∧
      header.payloadTransferPort.isSome = true := by
  cases command_issues h with
  | dials hr hport => exact ⟨_, _, rfl, hr, rfl, hport⟩
  | asks hof => cases hof

theorem Net.command_packetFrom {s : Net} {d : String} {packet : Packet}
    (h : s.command e = some (.packetFrom d packet)) :
    ∃ conn r payload, e = .received conn packet payload ∧ s.reader conn = some r ∧
      r.device = d := by
  cases command_issues h with
  | passes hr => exact ⟨_, _, _, rfl, hr, rfl⟩
  | asks hof => cases hof

namespace Traffic

/-- `Net` and `Hub` run the same actor, and the certificates of all connections
    that run are on record. -/
structure Coupled (t : Traffic) : Prop where
  manager : t.hub.manager = t.net.mgr
  readers : ∀ r ∈ t.net.readers, r ∈ t.installed
  live : ∀ d conn, (t.net.mgr.link d).outbound = some conn →
    ∃ r ∈ t.installed, r.conn = conn ∧ r.device = d
  below : ∀ r ∈ t.installed, r.conn < t.net.next
  conn_inj : ∀ r ∈ t.installed, ∀ r' ∈ t.installed, r.conn = r'.conn → r = r'

variable {t : Traffic} {env : Env} {e : NetEvent} {c : Command} {wire : Wire}
  {effects : List Effect} {task : ReceiveTask}

theorem start_coupled (m : Manager) (tempDir : String) (files : LocalFiles)
    (remote : Files String UInt8) (hm : ∀ d, (m.link d).outbound = none) :
    (start m tempDir files remote).Coupled where
  manager := rfl
  readers := nofun
  live := by
    intro d conn hconn
    cases (hm d).symm.trans hconn
  below := nofun
  conn_inj := nofun

/-- An installed connection keeps its certificate on record. -/
theorem Coupled.certificate (h : t.Coupled) {r : Reader} (hr : r ∈ t.installed) :
    t.certificate r.conn = some r.fingerprint := by
  unfold Traffic.certificate
  cases hf : t.installed.find? fun r' => r'.conn = r.conn with
  | none => simpa using List.find?_eq_none.mp hf r hr
  | some r' =>
    have hconn : r'.conn = r.conn := by simpa using List.find?_some hf
    rw [h.conn_inj r' (List.mem_of_find?_eq_some hf) r hr hconn]
    rfl

/-- A step of `Net` together with one of `Hub` that leads to the same actor. -/
theorem Coupled.of_net (h : t.Coupled) (env : Env) (e : NetEvent) {hub : Hub}
    (hmanager : hub.manager = (t.net.step (env, e)).mgr) :
    Coupled ⟨t.net.step (env, e), hub, t.installed ++ t.net.started env e⟩ := by
  have hnew : ∀ r ∈ t.net.started env e, r.conn = t.net.next := fun r hr =>
    (Net.mem_started.mp hr).choose_spec.2.1
  refine ⟨hmanager, ?_, ?_, ?_, ?_⟩
  · intro r hr
    rcases Net.mem_step_readers.mp hr with ⟨hold, -⟩ | hstarted
    · exact List.mem_append_left _ (h.readers r hold)
    · exact List.mem_append_right _ hstarted
  · intro d conn hconn
    have hatt : ((t.net.step (env, e)).mgr.link d).attachment = _ := Net.step_attachment
    have hout := congrArg Prod.fst hatt
    have hold : (t.net.mgr.link d).outbound = some conn →
        ∃ r ∈ t.installed ++ t.net.started env e, r.conn = conn ∧ r.device = d := fun hlive =>
      let ⟨r, hr, hc⟩ := h.live d conn hlive
      ⟨r, List.mem_append_left _ hr, hc⟩
    change ((t.net.step (env, e)).mgr.link d).outbound = _ at hout
    rw [show ((t.net.step (env, e)).mgr.link d).outbound = some conn from hconn] at hout
    cases e with
    | connected d' fingerprint addr =>
      simp only at hout
      split at hout
      · rename_i hinst
        -- the new connection is live and was put on record in the same event
        obtain ⟨rfl, hgate⟩ := hinst
        cases hout
        exact ⟨⟨t.net.next, d', fingerprint⟩, List.mem_append_right _
          (Net.mem_started.mpr ⟨addr, rfl, rfl, hgate⟩), rfl, rfl⟩
      · exact hold hout.symm
    | closed conn' =>
      simp only at hout
      split at hout
      · cases hout
      · exact hold hout.symm
    | received conn' packet payload => exact hold hout.symm
    | command c => exact hold hout.symm
  · intro r hr
    show r.conn < t.net.next + 1
    rcases List.mem_append.mp hr with hr | hr
    · exact Nat.lt_succ_of_lt (h.below r hr)
    · rw [hnew r hr]
      exact Nat.lt_succ_self _
  · intro r hr r' hr' hconn
    -- numbers are handed out in order, so a new one is above all on record
    rcases List.mem_append.mp hr with hr | hr <;> rcases List.mem_append.mp hr' with hr' | hr'
    · exact h.conn_inj r hr r' hr' hconn
    · exact absurd (hconn.trans (hnew r' hr')) (Nat.ne_of_lt (h.below r hr))
    · exact absurd (hconn.symm.trans (hnew r hr)) (Nat.ne_of_lt (h.below r' hr'))
    · exact Net.started_unique hr hr'

/-- An event reaches the net and, as the command it becomes, the hub. -/
theorem step_event (hc : t.net.command e = some c) (hout : c.isOutcome = false) :
    t.step (.event env e wire) =
      ⟨t.net.step (env, e), t.hub.handle env c (t.control env e c) wire .none,
        t.installed ++ t.net.started env e⟩ := by
  simp [step, hc, hout, Hub.step_command hout]

/-- An event does nothing, or brings a command. -/
theorem step_event_cases (t : Traffic) (env : Env) (e : NetEvent) (wire : Wire) :
    t.step (.event env e wire) = t ∨ ∃ c, t.net.command e = some c ∧ c.isOutcome = false := by
  cases hc : t.net.command e with
  | none => exact .inl (by simp [step, hc])
  | some c =>
    cases hout : c.isOutcome with
    | true => exact .inl (by simp [step, hc, hout])
    | false => exact .inr ⟨c, rfl, hout⟩

theorem Coupled.step (h : t.Coupled) (a : TrafficMove) : (t.step a).Coupled := by
  cases a with
  | event env e wire =>
    rcases t.step_event_cases env e wire with hsame | ⟨c, hc, hout⟩
    · rw [hsame]
      exact h
    · rw [step_event hc hout]
      refine h.of_net env e ?_
      -- the net and the hub hand the manager the same command
      simp [Net.step, Net.mgrAfter, hc, h.manager]
  | receive id io tools =>
    have hmanager : (t.hub.step (.receive id io tools)).manager = t.hub.manager := by
      cases hr : t.hub.receives.get id <;> simp [Hub.step, hr]
    exact { h with manager := hmanager.trans h.manager }
  | send id tick =>
    have hmanager : (t.hub.step (.send id tick)).manager = t.hub.manager := by
      cases hr : t.hub.sends.get id <;> simp [Hub.step, hr]
    exact { h with manager := hmanager.trans h.manager }
  | outcome env id io =>
    cases hrep : t.hub.reported id with
    | none => simpa [Traffic.step, hrep] using h
    | some result =>
      have hmanager : (t.hub.step (.outcome env id io)).manager =
          (t.net.step (env, .command (.transferOutcome id result))).mgr := by
        simp [Hub.step, hrep, Net.step, Net.mgrAfter, Net.command, Command.ofConnection,
          h.manager]
      have hnet := h.of_net env (.command (.transferOutcome id result)) hmanager
      simpa [Traffic.step, hrep, Net.started] using hnet

/-- What a packet starts is bound to the certificate of its connection. -/
theorem Coupled.control_received (h : t.Coupled) {conn : ConnId} {packet : Packet}
    {payload : Except String Transport} {r : Reader} (hr : t.net.reader conn = some r) :
    t.control env (.received conn packet payload) c = some r.fingerprint := by
  obtain ⟨hmem, rfl⟩ := Net.mem_of_reader hr
  exact h.certificate (h.readers r hmem)

/-- A receive that an event starts has its header from a connection that runs for its
    device, with the certificate of that connection on record. -/
def HeaderIn (t : Traffic) (task : ReceiveTask) (control : Option Fingerprint) (e : NetEvent) :
    Prop :=
  ∃ q header payload, e = .received q.conn header payload ∧ t.net.reader q.conn = some q ∧
    q.device = task.deviceId ∧ control = some q.fingerprint

/-- A receive is started by a header that came in on its own connection. -/
theorem Coupled.header_in (h : t.Coupled) (hc : t.net.command e = some c)
    (hs : t.hub.manager.Starts c effects (.receive task)) :
    t.HeaderIn task (t.control env e c) e := by
  have hread : ∀ {conn : ConnId} {packet : Packet} {payload : Except String Transport}
      {q : Reader}, e = .received conn packet payload → t.net.reader conn = some q →
      q.device = task.deviceId → t.HeaderIn task (t.control env e c) e := by
    rintro conn packet payload q rfl hq hd
    obtain ⟨-, rfl⟩ := Net.mem_of_reader hq
    exact ⟨q, packet, payload, rfl, hq, hd, h.control_received hq⟩
  cases hs with
  | empty hpayload =>
    obtain ⟨conn, q, payload, he, hq, hd⟩ := Net.command_packetFrom hc
    exact hread he hq hd
  | dialed hpayload =>
    obtain ⟨conn, q, he, hq, hd, -⟩ := Net.command_sharePayload hc
    exact hread he hq hd

/-- A send that a command starts has its header queued on the live connection of its
    device, with the certificate of that connection on record. -/
def HeaderOut (t : Traffic) (task : SendTask) (control : Option Fingerprint)
    (effects : List Effect) : Prop :=
  ∃ q ∈ t.installed, (t.net.mgr.link task.deviceId).outbound = some q.conn ∧
    (∃ header, .queued task.deviceId q.conn header ∈ effects) ∧
    q.device = task.deviceId ∧ control = some q.fingerprint

/-- A send goes with a header that is queued to its device. -/
theorem Coupled.header_out (h : t.Coupled) {task : SendTask} (hc : t.net.command e = some c)
    (hs : t.hub.manager.Starts c (t.hub.manager.handle env c).2 (.send task)) :
    t.HeaderOut task (t.control env e c) (t.hub.manager.handle env c).2 := by
  have hcontrol : t.control env e c =
      (headerConn e (t.hub.manager.handle env c).2).bind t.certificate := rfl
  generalize (t.hub.manager.handle env c).2 = effects at hs hcontrol ⊢
  cases hs with
  | @send _ path reply s conn header rest hstate hconn =>
    rw [h.manager] at hstate
    have hlive : (t.net.mgr.link task.deviceId).outbound = some conn := by
      simp [Manager.link, Link.of, hstate, hconn]
    -- the header goes out on the live connection, which is on record
    obtain ⟨q, hq, rfl, hd⟩ := h.live _ _ hlive
    -- a reader brings no `SendFile`
    have hheader : headerConn e (.queued task.deviceId q.conn header :: rest) = some q.conn := by
      cases Net.command_issues hc with
      | asks => rfl
    rw [hcontrol, hheader]
    exact ⟨q, hq, hlive, ⟨header, List.mem_cons_self⟩, hd, h.certificate hq⟩

/-! ## The hub's part -/

/-- The move of the hub in a move of the whole. -/
inductive HubPart (t : Traffic) : TrafficMove → HubMove → Prop where
  | event {env : Env} {e : NetEvent} {wire : Wire} {c : Command} (hc : t.net.command e = some c) :
      HubPart t (.event env e wire) (.command env c (t.control env e c) wire)
  | receive {id : String} {io : Faults} {tools : Tools} :
      HubPart t (.receive id io tools) (.receive id io tools)
  | send {id : String} {tick : SendTick} : HubPart t (.send id tick) (.send id tick)
  | outcome {env : Env} {id : String} {io : Faults} :
      HubPart t (.outcome env id io) (.outcome env id io)

/-- A move of the traffic is at most one move of the hub. -/
theorem step_hub (t : Traffic) (a : TrafficMove) :
    (t.step a).hub = t.hub ∨ ∃ b, HubPart t a b ∧ (t.step a).hub = t.hub.step b := by
  cases a with
  | event env e wire =>
    rcases t.step_event_cases env e wire with hsame | ⟨c, hc, hout⟩
    · exact .inl (by rw [hsame])
    · exact .inr ⟨_, .event hc, by simp [step, hc, hout]⟩
  | receive id io tools => exact .inr ⟨_, .receive, rfl⟩
  | send id tick => exact .inr ⟨_, .send, rfl⟩
  | outcome env id io =>
    cases hrep : t.hub.reported id with
    | none => exact .inl (by simp [step, hrep])
    | some result => exact .inr ⟨_, .outcome, by simp [step, hrep]⟩

variable {a : TrafficMove} {id : String}

/-! ## Runs -/

/-- Every task after a move was there before, for the same transfer and with the same
    certificate on record, or the move is the event that its header came with. -/
structure Announced (t : Traffic) (a : TrafficMove) : Prop where
  receives : ∀ id r, (t.step a).hub.receives.get id = some r →
    (∃ r₀, t.hub.receives.get id = some r₀ ∧ r.task = r₀.task ∧ r.control = r₀.control) ∨
      ∃ env e wire, a = .event env e wire ∧ t.HeaderIn r.task r.control e
  sends : ∀ id r, (t.step a).hub.sends.get id = some r →
    (∃ r₀, t.hub.sends.get id = some r₀ ∧ r.task = r₀.task ∧ r.control = r₀.control) ∨
      ∃ env e wire c, a = .event env e wire ∧ t.net.command e = some c ∧
        t.HeaderOut r.task r.control (t.hub.manager.handle env c).2

theorem Coupled.announced (h : t.Coupled) (a : TrafficMove) : t.Announced a where
  receives id r hr := by
    rcases t.step_hub a with hsame | ⟨b, hpart, hstep⟩
    · exact .inl ⟨r, hsame ▸ hr, rfl, rfl⟩
    · rw [hstep] at hr
      cases Hub.step_receives hr with
      | kept hr => exact .inl ⟨r, hr, rfl, rfl⟩
      | started hs =>
        cases hpart with
        | event hc => exact .inr ⟨_, _, _, rfl, h.header_in hc hs⟩
      | @stepped io tools _ r₀ hr₀ =>
        have hgoes := r₀.step_goes (t.hub.cancelled r₀.id) io tools t.hub.disk
        exact .inl ⟨r₀, hr₀, hgoes.task, hgoes.control⟩
  sends id r hr := by
    rcases t.step_hub a with hsame | ⟨b, hpart, hstep⟩
    · exact .inl ⟨r, hsame ▸ hr, rfl, rfl⟩
    · rw [hstep] at hr
      cases Hub.step_sends hr with
      | kept hr => exact .inl ⟨r, hr, rfl, rfl⟩
      | started hs =>
        cases hpart with
        | event hc => exact .inr ⟨_, _, _, _, rfl, hc, h.header_out hc hs⟩
      | @stepped tick _ r₀ hr₀ =>
        have hwires := r₀.step_wires (t.hub.cancelled r₀.id) tick
        exact .inl ⟨r₀, hr₀, hwires.task, hwires.control⟩

/-- A daemon that has just come up on what it persisted. -/
def boot (store : Store) (self : String) (identity : Identity) (target : SaveTarget)
    (tempDir : String) (files : LocalFiles) (remote : Files String UInt8) : Traffic :=
  start (Manager.new store self identity target).loadPersisted tempDir files remote

section Runs

variable (store : Store) (self : String) (identity : Identity) (target : SaveTarget)
  (tempDir : String) (files : LocalFiles) (remote : Files String UInt8)

theorem boot_coupled : (boot store self identity target tempDir files remote).Coupled :=
  start_coupled _ tempDir files remote fun d => by
    rw [Manager.new_link]
    rfl

theorem boot_receives (P : ReceiveRun → Prop) (id : String) (r : ReceiveRun)
    (hr : (boot store self identity target tempDir files remote).hub.receives.get id = some r) :
    P r := by
  rw [boot, start, Hub.start, Table.get_empty] at hr
  cases hr

theorem boot_sends (P : SendRun → Prop) (id : String) (r : SendRun)
    (hr : (boot store self identity target tempDir files remote).hub.sends.get id = some r) :
    P r := by
  rw [boot, start, Hub.start, Table.get_empty] at hr
  cases hr

end Runs

/-- Every task that can move bytes has a data connection with the certificate on
    record. -/
structure Secured (t : Traffic) : Prop extends t.Coupled where
  receives : ∀ id r, t.hub.receives.get id = some r → r.Secured
  sends : ∀ id r, t.hub.sends.get id = some r → r.Secured

/-- A receive is started with the data connection of the packet it came with. -/
theorem Coupled.secured_new (h : t.Coupled) {wire' : Wire} (hmatch : t.Matches (.event env e wire'))
    (hc : t.net.command e = some c) (hs : t.hub.manager.Starts c effects (.receive task)) :
    (ReceiveRun.new task wire (t.control env e c)).Secured := by
  refine ⟨fun transport hpayload => ?_, nofun, nofun⟩
  cases hs with
  | empty hnone => cases hnone.symm.trans hpayload
  | @dialed _ header transport' _ hsome =>
    obtain rfl : transport' = transport := Option.some.inj (hsome.symm.trans hpayload)
    obtain ⟨conn, q, rfl, hq, -, hport⟩ := Net.command_sharePayload hc
    have hcontrol : t.control env (.received conn header (.ok transport'))
        (.sharePayload task.deviceId header (.ok transport')) = some q.fingerprint :=
      h.control_received hq
    -- the dialed connection presents the certificate of the header's connection
    rw [hmatch q transport' hq hport rfl]
    exact hcontrol

/-- Tasks stay with data connections that present the device's certificate. -/
theorem Secured.step (h : t.Secured) (hmatch : t.Matches a) : (t.step a).Secured := by
  rcases t.step_hub a with hsame | ⟨b, hpart, hstep⟩
  · exact ⟨h.toCoupled.step a, hsame.symm ▸ h.receives, hsame.symm ▸ h.sends⟩
  · refine ⟨h.toCoupled.step a, fun id r hr => ?_, fun id r hr => ?_⟩
    · rw [hstep] at hr
      cases Hub.step_receives hr with
      | kept hr => exact h.receives id r hr
      | started hs =>
        cases hpart with
        | event hc => exact h.secured_new hmatch hc hs
      | @stepped io tools _ r₀ hr₀ =>
        exact (h.receives id r₀ hr₀).step
          (r₀.step_goes (t.hub.cancelled r₀.id) io tools t.hub.disk)
    · rw [hstep] at hr
      cases Hub.step_sends hr with
      | kept hr => exact h.sends id r hr
      | started => exact fun hpump => by cases hpump  -- a new send waits for its peer
      | @stepped tick _ r₀ hr₀ =>
        cases hpart with
        | send =>
          exact (h.sends id r₀ hr₀).step (r₀.step_wires _ tick) fun transport =>
            hmatch r₀ transport hr₀

/-- Bytes move only over data connections with the device's certificate. -/
theorem Secured.trusted (h : t.Secured) (a : TrafficMove) : t.Trusted a := by
  cases a with
  | event env e wire => trivial
  | outcome env id io => trivial
  | send id tick =>
    intro r r' hr hr' hwritten
    cases Hub.step_sends hr' with
    | kept hr₀ =>
      obtain rfl := Option.some.inj (hr₀.symm.trans hr)
      exact absurd rfl hwritten
    | @stepped _ _ r₀ hr₀ =>
      obtain rfl : r₀ = r := Option.some.inj (hr₀.symm.trans hr)
      -- bytes go out in the pump only, and it keeps its peer
      have hsecured := h.sends id r₀ hr₀
      generalize hstep : (r₀.step (t.hub.cancelled r₀.id) tick).1 = r' at hwritten ⊢
      cases hstep ▸ r₀.step_wires (t.hub.cancelled r₀.id) tick with
      | accepts => exact absurd rfl hwritten
      | pumps hphase htask hpeer hcontrol =>
        rw [hpeer, hcontrol]
        exact hsecured hphase
      | ends hphase htask hsame => exact absurd hsame hwritten
  | receive id io tools =>
    rintro r hr ⟨path, old, more, hstages, hold, hnew, hmore⟩
    have hstep : (t.step (.receive id io tools)).hub.disk = (t.hub.receive r io tools).2.1 := by
      rw [Traffic.step, Hub.step_receive hr]
    rw [hstep] at hnew
    -- the file grows by a chunk only, and whoever reads chunks is secured
    obtain ⟨done, chunk, hphase⟩ := ReceiveRun.step_grows hstages hold hnew hmore
    have hsecured := h.receives id r hr
    obtain ⟨transport, hpayload⟩ :=
      Option.isSome_iff_exists.mp (hsecured.writing done chunk hphase)
    exact ⟨transport, hpayload, hsecured.same transport hpayload⟩

/-- **Payload channels.** Bytes move on trusted data connections only, in every
    run in which whoever completes the handshake of a data connection presents
    the certificate of the control connection. -/
theorem payload_trusted (store : Store) (self : String) (identity : Identity)
    (target : SaveTarget) (tempDir : String) (files : LocalFiles) (remote : Files String UInt8)
    (moves : List TrafficMove)
    (h : AllSteps step Matches (boot store self identity target tempDir files remote) moves) :
    AllSteps step Trusted (boot store self identity target tempDir files remote) moves := by
  have hinit : (boot store self identity target tempDir files remote).Secured :=
    ⟨boot_coupled store self identity target tempDir files remote,
      boot_receives store self identity target tempDir files remote _,
      boot_sends store self identity target tempDir files remote _⟩
  exact allSteps_of_invariant hinit (fun t a hs hmatch => hs.step hmatch)
    (fun t a hs _ => hs.trusted a) h

def desk : Traffic := boot .empty "desk" default (.dir "/d") "/tmp" .empty .empty

def threeBytes : Env :=
  { Env.nominal 0 with
    metadata := fun _ => .ok { isFile := true, len := 3, modifiedMs := 0 } }

/-- What a send of three bytes meets: the certificate that comes first, and the
    file. -/
def threeBytesTo (byte : UInt8) : SendTick where
  accept := .ok (.uniform 1 byte)
  openFile := none
  read := .ok ⟨[1, 2, 3], by decide⟩
  write := none

def phoneConnects : TrafficMove :=
  .event (.nominal 0) (.connected "phone" (Vector.replicate 32 7) { ip := .v4 0, port := 1716 }) []

/-- A file is sent to the phone; `byte` is the certificate of whoever dials the
    announced port. -/
def sendsTo (byte : UInt8) : List TrafficMove :=
  [phoneConnects, .event threeBytes (.command (.sendFile "phone" "/home/a" 0)) [],
   .send "t1" (threeBytesTo byte), .send "t1" (threeBytesTo byte)]

/-- The phone offers a file; `byte` is the certificate on the port it names. -/
def receivesFrom (byte : UInt8) : List TrafficMove :=
  [phoneConnects,
   .event (.nominal 0) (.received 0 (Hub.oneByteHeader "a") (.ok (.uniform 1 byte))) [.bytes [1]],
   .receive "t1" .none .none,
   .receive "t1" .none .none,
   .receive "t1" .none .none]

theorem not_sameCertificate {transport : Transport} {f : Fingerprint}
    (h : f ≠ transport.peerFingerprint) : ¬ SameCertificate (some transport) (some f) := by
  rintro ⟨transport', hdata, hcontrol⟩
  cases hdata
  exact h (Option.some.inj hcontrol)

/-- A stranger with certificate 6 gets the file, and another one delivers one. -/
theorem stranger_not_trusted :
    ¬ AllSteps step Trusted desk (sendsTo 6) ∧ ¬ AllSteps step Trusted desk (receivesFrom 6) := by
  constructor
  · intro h
    have hwrites := h.2.2.2.1 _ _ rfl rfl (by decide)
    exact not_sameCertificate (by decide) hwrites
  · intro h
    have happends := h.2.2.2.2.1 _ rfl
      ⟨"/d/a.handfast-part", [], [1], ⟨_, rfl, rfl⟩, rfl, rfl, by decide⟩
    exact not_sameCertificate (by decide) happends

theorem payload_trusted_phone :
    (AllSteps step Matches desk (sendsTo 7) ∧ AllSteps step Trusted desk (sendsTo 7)) ∧
      AllSteps step Matches desk (receivesFrom 7) ∧
        AllSteps step Trusted desk (receivesFrom 7) := by
  have hsend : AllSteps step Matches desk (sendsTo 7) := by
    refine ⟨trivial, trivial, ?_, ?_, trivial⟩
    · intro r transport hr _ haccept
      cases haccept
      obtain rfl := Option.some.inj hr
      decide
    · intro r transport hr hphase
      obtain rfl := Option.some.inj hr
      cases hphase
  have hreceive : AllSteps step Matches desk (receivesFrom 7) := by
    refine ⟨trivial, ?_, trivial, trivial, trivial, trivial⟩
    intro r transport hr _ hpayload
    cases hpayload
    obtain rfl := Option.some.inj hr
    decide
  exact ⟨⟨hsend, payload_trusted .empty "desk" default (.dir "/d") "/tmp" .empty .empty _ hsend⟩,
    hreceive, payload_trusted .empty "desk" default (.dir "/d") "/tmp" .empty .empty _ hreceive⟩

end Traffic
end Handfast.Daemon
