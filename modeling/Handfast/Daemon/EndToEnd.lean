/-
  Handfast.Daemon.EndToEnd

  A file sent from one daemon to another: `send_file` and `stream_outgoing` on
  the one side, the reader of the control connection, `on_share_payload` and
  `receive_stream` on the other (`crates/daemon/src/device.rs`).

  The sides meet in two places.  The share header goes over the control
  connection as one packet among others; `Announces` is what the receiver needs
  of it.  The bytes go over the data connection, in pieces that neither side
  chooses.  What the sender reads comes from a file that does not change while it
  is sent (`ReadsFile`).

  Either everything arrives or nothing is reported as received: the bytes on the
  wire are always a first part of the file, the sender reports success only if they
  are all of it (`Wrote`), and the receiver asks for exactly as many as were announced.
-/
import Handfast.Daemon.Receiving
import Handfast.Daemon.Routing
import Handfast.Daemon.Sending
import Handfast.Protocol.Framing

namespace Handfast.Daemon

open Handfast.Lib Handfast.Protocol Handfast.Core

/-! ## The header -/

/-- The packet announces the payload of a send task. -/
structure Announces (header : Packet) (task : SendTask) : Prop where
  file : announcesFile header = true
  size : header.payloadSize = some (asI64 task.size)
  port : header.payloadTransferPort = some task.port

section Header

variable {m : Manager} {env : Env} {d : String} {task : SendTask} {header : Packet}

theorem payloadHeader_port (env : Env) (fileName : String) (modifiedMs : Int) (size : Nat)
    (port : UInt16) :
    (Manager.payloadHeader env fileName modifiedMs size port).payloadTransferPort = some port := by
  have hsmall : port.toUInt64.toNat < 2 ^ 16 := by
    rw [UInt16.toNat_toUInt64]
    exact port.toNat_lt
  simp only [Manager.payloadHeader, Packet.withPayload, Packet.payloadTransferPort,
    Option.bind_some, List.lookup_cons_self, Value.asU64]
  rw [if_pos hsmall, UInt16.toUInt16_toUInt64]

/-- The header says where to connect and how many bytes will come. -/
theorem payloadHeader_announces (fileName : String) (modifiedMs : Int) {size : Nat}
    {port : UInt16} (hsize : task.size = size) (hport : task.port = port) :
    Announces (Manager.payloadHeader env fileName modifiedMs size port) task where
  file := by
    rw [announcesFile_iff]
    exact ⟨rfl, rfl⟩
  size := by rw [hsize]; rfl
  port := by rw [hport, payloadHeader_port]

/-- Every send task has its header in the outbound queue of the device. -/
theorem sendFile_announces {path : String} (h : .send task ∈ (m.sendFile env d path).2.1) :
    ∃ conn header, .queued d conn header ∈ (m.sendFile env d path).2.1 ∧
      Announces header task := by
  have hsends : Manager.Sends m env d (m.sendFile env d path) := Manager.sendFile_sends path
  generalize m.sendFile env d path = out at h hsends ⊢
  cases hsends with
  | refused cleanup err => cases cleanup <;> simp [Manager.cleanupEffects] at h
  | empty hs fileName modifiedMs =>
    -- an empty file needs no task
    unfold Manager.sendEmpty at h
    split at h
    · cases h
    · simp [Manager.registerTransfer] at h
  | payload hs fileName src file =>
    unfold Manager.sendPayload at h ⊢
    split at h
    · cases h
    · split at h
      · cases hcleanup : src.cleanup <;> simp [Manager.cleanupEffects, hcleanup] at h
      · rename_i port hport _ conn hconn
        simp only [Manager.registerTransfer, List.cons_append, List.nil_append, List.mem_cons,
          List.not_mem_nil, or_false, reduceCtorEq, false_or, Effect.send.injEq] at h
        subst h
        exact ⟨conn, _, List.mem_cons_self, payloadHeader_announces _ _ rfl rfl⟩

/-- A file shorter than `2^63` bytes is announced with its size. -/
theorem size_announced (h : Announces header task) (hsize : task.size < 2 ^ 63) :
    header.payloadSize.getD 0 = (task.size : Int) := by
  rw [h.size, Option.getD_some, asI64, if_pos hsize]

/-- The header of a known device starts a receive of the announced size. -/
theorem header_starts_receive (h : Announces header task) (hsize : task.size < 2 ^ 63) (r : Reader)
    (hknown : (m.devices.get r.device).isSome = true) (transport : Transport) (env : Env) :
    ∃ receive, .receive receive ∈ (m.handle env (r.command header (.ok transport))).2 ∧
      receive.size = task.size ∧ receive.payload = some transport ∧
        receive.saveTarget = m.saveTarget := by
  obtain ⟨s, hs⟩ := Option.isSome_iff_exists.mp hknown
  have hannounced := size_announced h hsize
  have hnonneg : ¬ (task.size : Int) < 0 := by omega
  have hcommand : r.command header (.ok transport) =
      .sharePayload r.device header (.ok transport) := by
    rw [Reader.command, h.port]
  rw [hcommand]
  simp only [Manager.handle, Manager.onSharePayload, Manager.spawnReceive, hs, hannounced,
    if_neg hnonneg]
  exact ⟨_, List.mem_append_right _ List.mem_cons_self, rfl, rfl, rfl⟩

end Header

/-! ## The control connection -/

/-- A control connection: the JSON codec, the packets that are written on it, and the
    reads that its bytes arrive in. -/
structure ControlLine where
  toVec : Packet → Except String (List UInt8)
  fromSlice : List UInt8 → Except String Packet
  packets : List Packet
  chunks : List (Chunk UInt8)

/-- The writer takes every packet, the codec reads back what it wrote, and the bytes
    arrive, with others behind them. -/
structure ControlLine.Carries (line : ControlLine) : Prop where
  codec : ∀ p ∈ line.packets, Framing.RoundTrips line.toVec line.fromSlice p
  accepted : ∀ p ∈ line.packets, (Framing.encodeInto line.toVec p []).1 = .ok ()
  bytes : Framing.encoded line.toVec line.packets <+: unread line.chunks

/-- What the call number `k` of the reader returns. -/
def ControlLine.read (line : ControlLine) (k : Nat) : Option (Option (Framing.Result Packet)) :=
  (calls (Framing.readFrom line.fromSlice true) (line.packets.length + 1) line.chunks)[k]?

/-- The packets are read one after the other, whatever the reads are. -/
theorem ControlLine.Carries.read_eq {line : ControlLine} (h : line.Carries) {k : Nat}
    {packet : Packet} (hk : line.packets[k]? = some packet) :
    line.read k = some (some (.ok packet)) := by
  obtain ⟨rest, hrest⟩ := h.bytes
  obtain ⟨cs, -, hcalls⟩ :=
    Framing.calls_encoded_packets h.codec h.accepted hrest.symm true
  have hlt : k < line.packets.length := (List.getElem?_eq_some_iff.mp hk).1
  rw [read, hcalls, List.getElem?_append_left (by simpa using hlt), List.getElem?_map, hk]
  rfl

/-! ## The bytes that go out -/

namespace SendRun

variable {r : SendRun} {inputs : List Input} {content : Bytes}

/-- The reads come from a file whose contents from here on are `rest`: each brings
    the next bytes, or fails, and only at the end of the file it brings nothing. -/
def ReadsFile : Bytes → List Input → Prop
  | _, [] => True
  | rest, a :: inputs =>
    ∃ more, rest = a.2.bytes ++ more ∧
      (a.2.bytes = [] → more = [] ∨ ∃ msg, a.2.read = .error msg) ∧ ReadsFile more inputs

/-- What a task has written in a run, compared with the file. -/
structure Wrote (content : Bytes) (r : SendRun) : Prop where
  /-- It is a first part of the file. -/
  part : r.written <+: content
  /-- If the task reports success, it is all of it. -/
  all : r.phase = .ended (.ok ()) → r.written = content

theorem wrote_of_error {e : Error} (herr : r.phase = .ended (.error e))
    (hpart : r.written <+: content) : Wrote content (run next r inputs) := by
  rw [run_ended herr]
  exact ⟨hpart, fun hok => by rw [herr] at hok; cases hok⟩

/-- **The loop.** A task that has written the file up to `rest` writes a first part of
    it, and reports success only at the end. -/
theorem pump_wrote {rest : Bytes} (hsize : r.task.size = (r.written ++ rest).length)
    (hphase : r.phase = .pump) (hdone : r.done = r.written.length)
    (hreads : ReadsFile rest inputs) : Wrote (r.written ++ rest) (run next r inputs) := by
  induction inputs generalizing r rest with
  | nil =>
    refine ⟨List.prefix_append .., fun hok => ?_⟩
    rw [run_nil, hphase] at hok
    cases hok
  | cons a inputs ih =>
    obtain ⟨more, rfl, hmore, hreads⟩ := hreads
    have hstep : r.Pumps a.2 (r.next a) := next_pumps hphase a.1 a.2
    rw [run_cons]
    generalize r.next a = r' at hstep ⊢
    cases hstep with
    | fails herr hwritten hpart =>
      refine wrote_of_error herr ?_
      rw [hwritten]
      exact (List.prefix_append_right_inj _).mpr (hpart.trans (List.prefix_append ..))
    | ends hok hwritten hread hend =>
      -- at the end of the file, or at the announced size, which is that of the file
      obtain rfl : more = [] := by
        rcases hend with hnone | hge
        · exact (hmore hnone).resolve_right (by simpa using hread)
        · rw [hsize, hdone] at hge
          simp only [List.length_append] at hge
          exact List.length_eq_zero_iff.mp (by omega)
      rw [run_ended hok, List.append_nil, ← hwritten]
      exact ⟨List.prefix_rfl, fun _ => rfl⟩
    | wrote hne hless =>
      rw [← List.append_assoc] at hsize ⊢
      exact ih (r := r.wrote a.2.bytes) hsize hphase (by simp [wrote, hdone]) hreads

theorem new_wrote (task : SendTask) (control : Option Fingerprint)
    (hsize : task.size = content.length) (a : Input) (hreads : ReadsFile content inputs) :
    Wrote content (run next (new task control) (a :: inputs)) := by
  obtain ⟨cancelled, tick⟩ := a
  rw [run_cons]
  cases haccept : tick.accept with
  | error msg =>
    rw [next_accept_error rfl haccept]
    exact wrote_of_error (close_phase _) List.nil_prefix
  | ok transport =>
    cases hopen : tick.openFile with
    | some msg =>
      rw [next_accept_openError rfl haccept hopen]
      exact wrote_of_error (close_phase _) List.nil_prefix
    | none =>
      rw [next_accept_ok rfl haccept hopen]
      exact pump_wrote (r := { new task control with peer := some transport, phase := .pump })
        hsize rfl rfl hreads

end SendRun

/-! ## The bytes that arrive -/

/-- Whatever part of what the sender wrote arrives, and in whatever pieces: what the
    receive stores is the file; and it stores it if the sender reports success and
    nothing is lost on the way. -/
def Arrives (content : Bytes) (sender : SendRun) (task : ReceiveTask) (dir : String) : Prop :=
  ∀ (wire : Wire) (files : LocalFiles) (remote : Files String UInt8) (moves : List SharedMove),
    wire.stream <+: sender.written →
    AllSteps Shared.step Shared.Fair (.start task wire dir files remote) moves →
    AllSteps Shared.step Shared.Roomy (.start task wire dir files remote) moves →
    (∀ path, (run Shared.step (.start task wire dir files remote) moves).recv.phase =
        .ended (.ok path) →
      (run Shared.step (.start task wire dir files remote) moves).disk.staging.files.read path =
        some content) ∧
    (sender.phase = .ended (.ok ()) → wire.stream = sender.written →
      2 * content.length + 4 ≤ moves.countP Shared.isOwn →
      ∃ path, (run Shared.step (.start task wire dir files remote) moves).recv.phase =
        .ended (.ok path))

/-- What was written to the data connection is what the other side stores. -/
theorem arrives_of_wrote {content : Bytes} {sender : SendRun} {task : ReceiveTask} {dir : String}
    (hwrote : sender.Wrote content) (hsize : task.size = content.length)
    (hfits : content.length < 2 ^ 63) (hpayload : task.payload.isSome = true)
    (hdir : task.saveTarget = .dir dir) : Arrives content sender task dir := by
  intro wire files remote moves hwire hfair hroom
  have hinv : AllStates Shared.step (Shared.Inv task wire) (.start task wire dir files remote)
      moves := by
    refine allStates_of_invariant (Shared.start_inv dir files remote) ?_ (hfair.and hroom)
    intro s a hs ha
    cases a with
    | own => exact hs.own_step hpayload hdir ha.1 ha.2
    | other c => exact hs.other_step ha.1 ha.2
  have hlast := hinv.last
  have hfuel := Shared.fuel_run (.start task wire dir files remote) moves
  generalize run Shared.step (.start task wire dir files remote) moves = s at hlast hfuel ⊢
  -- the announced size is below the mark for an unknown one
  have hknown : s.recv.task.size ≠ unknownSize := by
    rw [hlast.task, hsize, unknownSize]
    omega
  have hpart : wire.stream <+: content := hwire.trans hwrote.part
  have hcorrect := hlast.correct
  constructor
  · intro path hpath
    -- stored only if as many bytes arrived as were announced: then all of them
    have henough : s.recv.task.size ≤ wire.stream.length :=
      (hcorrect.known hknown _ hpath).mp ⟨path, rfl⟩
    rw [hlast.task, hsize] at henough
    have hall : wire.stream = content := hpart.eq_of_length_le henough
    rw [hcorrect.stored_known hknown path hpath, hlast.task, hsize, hall, List.take_length]
  · intro hok hwhole hsteps
    have hall : wire.stream = content := hwhole.trans (hwrote.all hok)
    obtain ⟨result, hended⟩ : ∃ result, s.recv.phase = .ended result := by
      apply ReceiveRun.ended_of_fuel
      have hstart : (Shared.start task wire dir files remote).recv.fuel =
          2 * wire.stream.length + 4 := rfl
      rw [hall] at hstart
      omega
    obtain ⟨path, rfl⟩ := (hcorrect.known hknown result hended).mpr
      (by rw [hlast.task, hsize, hall])
    exact ⟨path, hended⟩

/-- Read from any control connection that carries it, the header makes the daemon start
    a receive at which the file arrives, whatever the task of the sender meets. -/
def Reaches (content : Bytes) (task : SendTask) (header : Packet) (m : Manager) (env : Env)
    (r : Reader) (transport : Transport) (dir : String) : Prop :=
  ∀ (line : ControlLine) (k : Nat), line.Carries → line.packets[k]? = some header →
    ∃ packet receive, line.read k = some (some (.ok packet)) ∧
      .receive receive ∈ (m.handle env (r.command packet (.ok transport))).2 ∧
      ∀ (control : Option Fingerprint) (a : SendRun.Input) (inputs : List SendRun.Input),
        SendRun.ReadsFile content inputs →
          Arrives content (run SendRun.next (.new task control) (a :: inputs)) receive dir

/-- **A file arrives as it was sent.** When a daemon sends a file that does not change
    meanwhile, its header, read from the control connection among any other packets,
    makes the other daemon start a receive; and whatever happens to the data
    connection, that receive stores the file or reports an error.  It stores the file
    if the sender reports success and nothing is lost on the way. -/
theorem file_arrives {m m' : Manager} {env : Env} {d path dir : String} {task : SendTask}
    (content : Bytes) (r : Reader) (transport : Transport) (env' : Env)
    (hsend : .send task ∈ (m.sendFile env d path).2.1) (hsize : task.size = content.length)
    (hfits : content.length < 2 ^ 63) (hknown : (m'.devices.get r.device).isSome = true)
    (hdir : m'.saveTarget = .dir dir) :
    ∃ conn header, .queued d conn header ∈ (m.sendFile env d path).2.1 ∧
      Reaches content task header m' env' r transport dir := by
  obtain ⟨conn, header, hqueued, hann⟩ := sendFile_announces hsend
  refine ⟨conn, header, hqueued, fun line k hline hk => ?_⟩
  obtain ⟨receive, hreceive, hrsize, hpayload, hsave⟩ :=
    header_starts_receive hann (by rwa [hsize]) r hknown transport env'
  refine ⟨header, receive, hline.read_eq hk, hreceive, fun control a inputs hreads => ?_⟩
  exact arrives_of_wrote (SendRun.new_wrote task control hsize a hreads) (hrsize.trans hsize) hfits
    (by rw [hpayload]; rfl) (hsave.trans hdir)

/-- A daemon that saves into `/d`, with another one connected. -/
def connectedTo (self peer : String) : Manager :=
  (Manager.new .empty self default (.dir "/d")).step (.nominal 0, .connected peer (.uniform 0 7))

def threeByteFiles : Env :=
  { Env.nominal 0 with metadata := fun _ => .ok { isFile := true, len := 3, modifiedMs := 0 } }

def deskReader : Reader where
  conn := 0
  device := "desk"
  fingerprint := .replicate 32 7

/-- The header of `/home/user/a`, and its JSON text. -/
def shareHeader : Packet := Manager.payloadHeader threeByteFiles "a" 0 3 1739

def shareText : List Char :=
  ("\x7b\"id\":1,\"type\":\"kdeconnect.share.request\",\"body\":\x7b\"creationTime\":0," ++
    "\"filename\":\"a\",\"lastModified\":0,\"numberOfFiles\":1,\"totalPayloadSize\":3\x7d," ++
    "\"payloadSize\":3,\"payloadTransferInfo\":\x7b\"port\":1739\x7d\x7d").toList

def shareTexts : List (Packet × List Char) :=
  [(.new 2 typePing .null, Framing.pingText), (shareHeader, shareText)]

theorem shareTexts_known : Framing.Known shareTexts := by
  constructor <;> decide +kernel

theorem take_pingText_ne_nil : (Framing.asciiBytes Framing.pingText).take 20 ≠ [] := by
  decide +kernel

/-- A ping and the header, with a cut in the ping and one in front of the last newline. -/
def shareLine : ControlLine where
  toVec := Framing.writeKnown shareTexts
  fromSlice := Framing.parseKnown shareTexts
  packets := shareTexts.map Prod.fst
  chunks :=
    [⟨(Framing.asciiBytes Framing.pingText).take 20, take_pingText_ne_nil⟩,
     ⟨(Framing.asciiBytes Framing.pingText).drop 20 ++
       Framing.newline :: Framing.asciiBytes shareText,
       List.append_ne_nil_of_right_ne_nil _ (List.cons_ne_nil _ _)⟩,
     ⟨[Framing.newline], List.cons_ne_nil _ _⟩]

/-- The line of the witness carries its packets: serde reads them back. -/
theorem shareLine_carries : shareLine.Carries where
  codec p hp := by
    obtain ⟨row, hrow, rfl⟩ := List.mem_map.mp hp
    exact shareTexts_known.roundTrips hrow
  accepted := by decide +kernel
  bytes := by decide +kernel

theorem threeBytes_fit : ([1, 2, 3] : List UInt8).length ≤ payloadChunkSize := by decide

/-- The receiver connects, and the sender reads the three bytes in one piece. -/
def threeByteTick : SendTick where
  accept := .ok (.uniform 1 7)
  openFile := none
  read := .ok ⟨[1, 2, 3], threeBytes_fit⟩
  write := none

def sentTask : SendTask := ⟨"t1", "phone", "/home/user/a", none, 3, 1739⟩

def receivedTask : ReceiveTask := ⟨"t1", "desk", "a", 3, some (.uniform 1 7), .dir "/d"⟩

/-- The phone reads the header behind a ping, and stores the three bytes, which arrive in
    two pieces. -/
theorem file_arrives_three :
    .send sentTask ∈
        ((connectedTo "desk" "phone").sendFile threeByteFiles "phone" "/home/user/a").2.1 ∧
      shareLine.read 1 = some (some (.ok shareHeader)) ∧
      .receive receivedTask ∈ ((connectedTo "phone" "desk").handle (.nominal 1)
        (deskReader.command shareHeader (.ok (.uniform 1 7)))).2 ∧
      let s := run Shared.step
        (.start receivedTask [.bytes [1], .bytes [2, 3]] "/d" .empty .empty)
        (List.replicate 10 .own)
      ∃ path, s.recv.phase = .ended (.ok path) ∧
        s.disk.staging.files.read path = some [1, 2, 3] := by
  have hsend : .send sentTask ∈
      ((connectedTo "desk" "phone").sendFile threeByteFiles "phone" "/home/user/a").2.1 :=
    List.mem_cons_of_mem _ (List.mem_cons_of_mem _ List.mem_cons_self)
  have hknown : ((connectedTo "phone" "desk").devices.get deskReader.device).isSome = true := rfl
  obtain ⟨conn, header, hqueued, hreaches⟩ := file_arrives [1, 2, 3] deskReader (.uniform 1 7)
    (.nominal 1) hsend rfl (by decide) hknown rfl
  -- the header is the only packet that is queued
  obtain rfl : header = shareHeader := by
    rcases List.mem_cons.mp hqueued with heq | hrest
    · cases heq
      rfl
    · rcases List.mem_cons.mp hrest with heq | hrest
      · cases heq
      · cases List.mem_singleton.mp hrest
  obtain ⟨packet, receive, hread, hreceive, harrives⟩ :=
    hreaches shareLine 1 shareLine_carries rfl
  have hheader : shareLine.read 1 = some (some (.ok shareHeader)) := shareLine_carries.read_eq rfl
  obtain rfl : packet = shareHeader := by
    rw [hheader] at hread
    cases hread
    rfl
  obtain rfl : receive = receivedTask := by
    rcases List.mem_cons.mp hreceive with heq | hrest
    · cases heq
    · cases List.mem_singleton.mp hrest
      rfl
  obtain ⟨hstored, hends⟩ := harrives none (false, threeByteTick) [(false, threeByteTick)]
    ⟨[], rfl, fun _ => .inl rfl, trivial⟩ [.bytes [1], .bytes [2, 3]] .empty .empty
    (List.replicate 10 .own) (by decide) (by decide) (by decide)
  obtain ⟨path, hpath⟩ := hends rfl rfl (by decide)
  exact ⟨hsend, hread, hreceive, path, hpath, hstored path hpath⟩

end Handfast.Daemon
