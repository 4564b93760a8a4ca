/-
  Handfast.Daemon.Streams

  The two transfer tasks of the manager (`receive_stream` and `stream_outgoing`
  in `crates/daemon/src/device.rs`) and `move_into_uri`
  (`crates/daemon/src/backends.rs`), as machines that take one step at a time.

  A task's place in its code is its phase.  A step of a receive is what happens
  between two points where another task can come in between: one engine call
  under the lock, or the cancel check with the read after it, which concern
  nobody else.  A step of a send is one turn of its loop; it shares nothing
  with other tasks but its cancel flag, which it reads once a turn.

  What the peer does on the data connection of a receive is a `Wire`, the list
  of what arrives.  Once the list is used up nothing more arrives, and a read
  times out.
-/
import Handfast.Daemon.Manager
import Handfast.Daemon.Staging

namespace Handfast.Daemon

open Handfast.Lib Handfast.Protocol Handfast.Core

def payloadChunkSize : Nat := 4096

def cancelledError : Error := .other "transfer cancelled"

def readTimedOut : Error := .other "payload read timed out"

/-! ## The data connection of a receive -/

/-- Something that arrives on a data connection. -/
inductive Arrival where
  | bytes (data : Bytes)
  /-- The stream ends with a TLS `close_notify`. -/
  | closed
  /-- The stream ends without one. -/
  | cut
  | failed (msg : String)
  deriving DecidableEq, Repr

abbrev Wire := List Arrival

namespace Wire

/-- `read_exact` under the read timeout. -/
def readBytes : Wire → Nat → Result Bytes × Wire
  | w, 0 => (.ok [], w)
  | [], _ + 1 => (.error readTimedOut, [])
  | .bytes data :: w, want + 1 =>
    if want + 1 ≤ data.length then
      (.ok (data.take (want + 1)), .bytes (data.drop (want + 1)) :: w)
    else
      let (more, w) := readBytes w (want + 1 - data.length)
      (more.map fun rest => data ++ rest, w)
  | .closed :: w, _ + 1 | .cut :: w, _ + 1 => (.error (.io "early eof"), w)
  | .failed msg :: w, _ + 1 => (.error (.io msg), w)

/-- `read_some` under the read timeout: a missing `close_notify` counts as the
    end of the stream. -/
def readSome : Wire → Nat → Result Bytes × Wire
  | [], _ => (.error readTimedOut, [])
  | .bytes [] :: w, max => readSome w max
  | .bytes (b :: data) :: w, max =>
    (.ok ((b :: data).take max), .bytes ((b :: data).drop max) :: w)
  | .closed :: w, _ | .cut :: w, _ => (.ok [], w)
  | .failed msg :: w, _ => (.error (.io msg), w)

end Wire

/-! ## Copying into a URI -/

/-- The files of the machine and those behind the save URI. -/
structure Disk where
  staging : Staging
  remote : Files String UInt8

/-- How running a copy tool goes. -/
inductive ToolRun where
  | absent
  | broken (msg : String)
  | failed (status : String)
  | copied
  deriving DecidableEq, Repr

/-- The two copy tools, in the order they are tried. -/
structure Tools where
  gio : ToolRun
  kioclient5 : ToolRun

/-- Neither is installed; a local save target needs none. -/
def Tools.none : Tools where
  gio := .absent
  kioclient5 := .absent

/-- `uri.trim_end_matches('/')`. -/
def trimSlashes (uri : String) : String := String.ofList (uri.toList.rdropWhile fun c => c = '/')

namespace Disk

def removeLocal (d : Disk) (io : Faults) (path : String) : Disk :=
  match io.remove with
  | some _ => d
  | none => { d with staging := { d.staging with files := d.staging.files.remove path } }

/-- A tool that reports success has copied the file, over one that was there. -/
def copyOut (d : Disk) (path destination : String) : Disk :=
  match d.staging.files.read path with
  | some bytes => { d with remote := d.remote.put destination bytes }
  | none => d

def uriDestination (uri fileName : String) : String := trimSlashes uri ++ "/" ++ fileName

/-- Copy a finished local file into a GVFS/KIO URI destination, then remove the
    local copy. -/
def moveIntoUri (d : Disk) (io : Faults) (tools : Tools) (path uri : String) :
    Result Unit × Disk :=
  match Manager.pathFileName path with
  | none => (.error (.other "local staging file has no name"), d)
  | some fileName =>
    let moved := (d.copyOut path (uriDestination uri fileName)).removeLocal io path
    let unavailable (lastErr : Option String) : Result Unit × Disk :=
      (.error (.other (s!"could not copy received file into '{uri}': " ++
        lastErr.getD "gio/kioclient5 unavailable")), d)
    let kio (lastErr : Option String) : Result Unit × Disk :=
      match tools.kioclient5 with
      | .absent => unavailable lastErr
      | .broken msg => (.error (.io msg), d)
      | .failed status => unavailable (some s!"kioclient5 copy failed with {status}")
      | .copied => (.ok (), moved)
    match tools.gio with
    | .absent => kio none
    | .broken msg => (.error (.io msg), d)
    -- gio may not know this URI: fall through to the KDE backend
    | .failed status => kio (some s!"gio copy failed with {status}")
    | .copied => (.ok (), moved)

@[simp] theorem removeLocal_remote (d : Disk) (io : Faults) (path : String) :
    (d.removeLocal io path).remote = d.remote := by
  unfold removeLocal
  cases io.remove <;> rfl

theorem removeLocal_staging {d : Disk} {io : Faults} {path : String} (h : io.remove = none) :
    (d.removeLocal io path).staging = { d.staging with files := d.staging.files.remove path } := by
  rw [removeLocal, h]

@[simp] theorem copyOut_staging (d : Disk) (path destination : String) :
    (d.copyOut path destination).staging = d.staging := by
  unfold copyOut
  cases d.staging.files.read path <;> rfl

theorem copyOut_remote_of_ne (d : Disk) (path : String) {destination other : String}
    (h : other ≠ destination) :
    (d.copyOut path destination).remote.read other = d.remote.read other := by
  unfold copyOut
  cases d.staging.files.read path <;> simp [h]

/-- A copy fails and changes nothing, or copies the file out and removes it here. -/
theorem moveIntoUri_cases (d : Disk) (io : Faults) (tools : Tools) (path uri : String) :
    (∃ e, d.moveIntoUri io tools path uri = (.error e, d)) ∨
      ∃ name, Manager.pathFileName path = some name ∧
        d.moveIntoUri io tools path uri =
          (.ok (), (d.copyOut path (uriDestination uri name)).removeLocal io path) := by
  unfold moveIntoUri
  cases Manager.pathFileName path with
  | none => exact .inl ⟨_, rfl⟩
  | some name =>
    cases tools.gio with
    | broken msg => exact .inl ⟨_, rfl⟩
    | copied => exact .inr ⟨name, rfl, rfl⟩
    | absent =>
      cases tools.kioclient5 with
      | copied => exact .inr ⟨name, rfl, rfl⟩
      | _ => exact .inl ⟨_, rfl⟩
    | failed status =>
      cases tools.kioclient5 with
      | copied => exact .inr ⟨name, rfl, rfl⟩
      | _ => exact .inl ⟨_, rfl⟩

end Disk

/-! ## Receiving -/

/-- Where a receive is in `receive_stream`. -/
inductive ReceivePhase where
  | start
  /-- At the head of the loop, with the bytes handed over so far. -/
  | check (done : Nat)
  /-- A chunk was read and goes to the engine next. -/
  | write (done : Nat) (chunk : Bytes)
  | finish
  /-- The file is complete at `path` and is copied into the URI next. -/
  | copy (path : String)
  | ended (result : Result String)
  deriving DecidableEq

structure ReceiveRun where
  task : ReceiveTask
  /-- What the data connection still delivers. -/
  wire : Wire
  phase : ReceivePhase
  /-- History: the certificate on the connection the share header came in on. -/
  control : Option Fingerprint

namespace ReceiveRun

def new (task : ReceiveTask) (wire : Wire) (control : Option Fingerprint) : ReceiveRun where
  task := task
  wire := wire
  phase := .start
  control := control

def id (r : ReceiveRun) : String := r.task.transferId

def info (r : ReceiveRun) : TransferMeta where
  transferId := r.task.transferId
  deviceId := r.task.deviceId
  fileName := r.task.fileName
  fileSize := r.task.size

/-- What the task reports to the actor, once it has ended. -/
def result (r : ReceiveRun) : Option (Except String Unit) :=
  match r.phase with
  | .ended (.ok _) => some (.ok ())
  | .ended (.error e) => some (.error e.text)
  | _ => none

def goto (r : ReceiveRun) (phase : ReceivePhase) : ReceiveRun := { r with phase }

/-- The head of the loop: the cancel flag was clear; read the next chunk. -/
def readNext (r : ReceiveRun) (done : Nat) : ReceiveRun :=
  if r.task.size = unknownSize then
    match r.wire.readSome chunkSize with
    | (.error e, wire) => { r with wire, phase := .ended (.error e) }
    -- clean end of an unknown-size stream
    | (.ok [], wire) => { r with wire, phase := .finish }
    | (.ok chunk, wire) => { r with wire, phase := .write done chunk }
  else
    let want := min chunkSize (r.task.size - done)
    if want = 0 then r.goto .finish
    else
      match r.wire.readBytes want with
      | (.error e, wire) => { r with wire, phase := .ended (.error e) }
      | (.ok chunk, wire) => { r with wire, phase := .write done chunk }

/-- The loop goes on until the declared size is reached. -/
def afterWrite (r : ReceiveRun) (done : Nat) : ReceiveRun :=
  if r.task.size ≠ unknownSize ∧ done ≥ r.task.size then r.goto .finish else r.goto (.check done)

def sharePath (r : ReceiveRun) (finalPath : String) : String :=
  match r.task.saveTarget with
  | .uri uri => Disk.uriDestination uri r.task.fileName
  | .dir _ => finalPath

def shareReceived (r : ReceiveRun) (finalPath : String) : List Event :=
  [.shareReceived (r.sharePath finalPath) r.task.deviceId]

def step (r : ReceiveRun) (cancelled : Bool) (io : Faults) (tools : Tools) (d : Disk) :
    ReceiveRun × Disk × List Event :=
  match r.phase with
  | .start =>
    match d.staging.startReceive io r.info with
    | (.error e, staging) => (r.goto (.ended (.error e)), { d with staging }, [])
    | (.ok (), staging) =>
      -- without a data connection there is nothing to read
      (r.goto (if r.task.payload.isSome then .check 0 else .finish), { d with staging }, [])
  | .check done =>
    -- the task aborts by itself; the actor will try again on its outcome
    if cancelled then
      (r.goto (.ended (.error cancelledError)),
       { d with staging := (d.staging.abort io r.id).2 }, [])
    else (r.readNext done, d, [])
  | .write done chunk =>
    match d.staging.writeChunk io r.id chunk with
    | (.error e, staging) => (r.goto (.ended (.error e)), { d with staging }, [])
    | (.ok _, staging) =>
      (r.afterWrite (done + chunk.length), { d with staging },
       [.transferProgress r.id (done + chunk.length) r.task.size])
  | .finish =>
    match d.staging.finishReceive io r.id with
    | (.error e, staging) => (r.goto (.ended (.error e)), { d with staging }, [])
    | (.ok path, staging) =>
      match r.task.saveTarget with
      | .uri _ => (r.goto (.copy path), { d with staging }, [])
      | .dir _ => (r.goto (.ended (.ok path)), { d with staging }, r.shareReceived path)
  | .copy path =>
    match r.task.saveTarget with
    | .dir _ => (r.goto (.ended (.ok path)), d, r.shareReceived path)
    | .uri uri =>
      match d.moveIntoUri io tools path uri with
      -- the local copy is deleted even though nothing was copied
      | (.error e, d) => (r.goto (.ended (.error e)), d.removeLocal io path, [])
      | (.ok (), d) => (r.goto (.ended (.ok path)), d, r.shareReceived path)
  | .ended _ => (r, d, [])

/-! ### What a step can do -/

/-- The next state of a receive and the events it publishes, whatever the files,
    the peer and the copy tools do. -/
inductive Goes (r : ReceiveRun) : ReceiveRun → List Event → Prop where
  | fails {e : Error} (h : ∀ result, r.phase ≠ .ended result) :
      Goes r (r.goto (.ended (.error e))) []
  | begins (h : r.phase = .start) (hpayload : r.task.payload.isSome = true) :
      Goes r (r.goto (.check 0)) []
  | skips (h : r.phase = .start) : Goes r (r.goto .finish) []
  | reads {done : Nat} (h : r.phase = .check done) : Goes r (r.readNext done) []
  | writes {done : Nat} {chunk : Bytes} (h : r.phase = .write done chunk) :
      Goes r (r.afterWrite (done + chunk.length))
        [.transferProgress r.id (done + chunk.length) r.task.size]
  | hands {path uri : String} (h : r.phase = .finish) (huri : r.task.saveTarget = .uri uri) :
      Goes r (r.goto (.copy path)) []
  | stores {path : String} (h : r.phase = .finish ∨ r.phase = .copy path) :
      Goes r (r.goto (.ended (.ok path))) (r.shareReceived path)
  | rests {result : Result String} (h : r.phase = .ended result) : Goes r r []

/-- The one inversion of a receive's turn, as to its phase and events. -/
theorem step_goes (r : ReceiveRun) (cancelled : Bool) (io : Faults) (tools : Tools) (d : Disk) :
    Goes r (r.step cancelled io tools d).1 (r.step cancelled io tools d).2.2 := by
  unfold step
  cases hp : r.phase with
  | start =>
    simp only []
    split
    · exact .fails (by simp [hp])
    · split
      · exact .begins hp ‹_›
      · exact .skips hp
  | check done =>
    cases cancelled with
    | true => exact .fails (by simp [hp])
    | false => exact .reads hp
  | write done chunk =>
    simp only []
    split
    · exact .fails (by simp [hp])
    · exact .writes hp
  | finish =>
    simp only []
    split
    · exact .fails (by simp [hp])
    · split
      · exact .hands hp ‹_›
      · exact .stores (.inl hp)
  | copy path =>
    simp only []
    split
    · exact .stores (.inr hp)
    · split
      · exact .fails (by simp [hp])
      · exact .stores (.inr hp)
  | ended result => exact .rests hp

/-- After a read the receive has failed, is complete or has a chunk to write. -/
theorem readNext_phase (r : ReceiveRun) (done : Nat) :
    (∃ e, (r.readNext done).phase = .ended (.error e)) ∨ (r.readNext done).phase = .finish ∨
      ∃ chunk, (r.readNext done).phase = .write done chunk := by
  unfold readNext
  split
  · split
    · exact .inl ⟨_, rfl⟩
    · exact .inr (.inl rfl)
    · exact .inr (.inr ⟨_, rfl⟩)
  · simp only []
    split
    · exact .inr (.inl rfl)
    · split
      · exact .inl ⟨_, rfl⟩
      · exact .inr (.inr ⟨_, rfl⟩)

@[simp] theorem readNext_task (r : ReceiveRun) (done : Nat) : (r.readNext done).task = r.task := by
  unfold readNext
  split
  · split <;> rfl
  · simp only []
    split
    · rfl
    · split <;> rfl

@[simp] theorem readNext_control (r : ReceiveRun) (done : Nat) :
    (r.readNext done).control = r.control := by
  unfold readNext
  split
  · split <;> rfl
  · simp only []
    split
    · rfl
    · split <;> rfl

@[simp] theorem afterWrite_control (r : ReceiveRun) (done : Nat) :
    (r.afterWrite done).control = r.control := by
  unfold afterWrite
  split <;> rfl

@[simp] theorem afterWrite_task (r : ReceiveRun) (done : Nat) :
    (r.afterWrite done).task = r.task := by
  unfold afterWrite
  split <;> rfl

/-- After a write it is complete or reads on. -/
theorem afterWrite_phase (r : ReceiveRun) (done : Nat) :
    (r.afterWrite done).phase = .finish ∨ (r.afterWrite done).phase = .check done := by
  unfold afterWrite
  split
  · exact .inl rfl
  · exact .inr rfl

variable {r r' : ReceiveRun} {events : List Event} {cancelled : Bool} {id path : String}
  {io : Faults} {tools : Tools}

theorem Goes.task (h : Goes r r' events) :
    r'.task = r.task := by
  cases h with
  | reads hp => exact r.readNext_task _
  | writes hp => exact r.afterWrite_task _
  | _ => rfl

theorem Goes.control (h : Goes r r' events) :
    r'.control = r.control := by
  cases h with
  | reads hp => exact r.readNext_control _
  | writes hp => exact r.afterWrite_control _
  | _ => rfl

/-- The call of the engine a step makes, if it makes one. -/
def engineCall (r : ReceiveRun) (cancelled : Bool) : Option EngineCall :=
  match r.phase with
  | .start => some (.startReceive r.info)
  | .check _ => if cancelled then some (.abort r.id) else none
  | .write _ chunk => some (.writeChunk r.id chunk)
  | .finish => some (.finishReceive r.id)
  | .copy _ | .ended _ => none

theorem engineCall_id {c : EngineCall} (h : r.engineCall cancelled = some c) : c.id = r.id := by
  unfold engineCall at h
  split at h
  · cases h; rfl
  · split at h
    · cases h; rfl
    · cases h
  · cases h; rfl
  · cases h; rfl
  · cases h
  · cases h

theorem engineCall_start {info : TransferMeta}
    (h : r.engineCall cancelled = some (.startReceive info)) : info = r.info := by
  unfold engineCall at h
  split at h
  · cases h; rfl
  · split at h <;> cases h
  · cases h
  · cases h
  · cases h
  · cases h

theorem engineCall_finish
    (h : r.engineCall cancelled = some (.finishReceive id)) : r.phase = .finish := by
  unfold engineCall at h
  split at h
  · cases h
  · split at h <;> cases h
  · cases h
  · assumption
  · cases h
  · cases h

/-- Only a write turn writes. -/
theorem engineCall_write {data : Bytes} (h : r.engineCall cancelled = some (.writeChunk id data)) :
    ∃ done chunk, r.phase = .write done chunk := by
  unfold engineCall at h
  split at h
  · cases h
  · split at h <;> cases h
  · exact ⟨_, _, ‹_›⟩
  · cases h
  · cases h
  · cases h

def afterCall (s : Staging) (io : Faults) : Option EngineCall → Staging
  | some c => (s.call io c).2
  | none => s

/-- Apart from the copy into a URI, a step changes the files through its call of
    the engine only. -/
theorem step_disk {d : Disk} (hcopy : ∀ path, r.phase ≠ .copy path) :
    (r.step cancelled io tools d).2.1 =
      { d with staging := afterCall d.staging io (r.engineCall cancelled) } := by
  unfold step engineCall
  cases hp : r.phase with
  | start =>
    simp only [afterCall, Staging.call]
    cases hcall : d.staging.startReceive io r.info with
    | mk result staging => cases result <;> rfl
  | check done => cases cancelled <;> rfl
  | write done chunk =>
    simp only [afterCall, Staging.call]
    cases hcall : d.staging.writeChunk io r.id chunk with
    | mk result staging => cases result <;> rfl
  | finish =>
    simp only [afterCall, Staging.call]
    cases hcall : d.staging.finishReceive io r.id with
    | mk result staging =>
      cases result with
      | error e => rfl
      | ok path => cases r.task.saveTarget <;> rfl
  | copy path => exact absurd hp (hcopy path)
  | ended result => rfl

/-- The copy into a URI ends with the local file removed. -/
theorem step_copy {uri : String} (cancelled : Bool) (io : Faults) (tools : Tools) (d : Disk)
    (hphase : r.phase = .copy path) (huri : r.task.saveTarget = .uri uri) :
    (r.step cancelled io tools d).2.1 = d.removeLocal io path ∨
      ∃ name, Manager.pathFileName path = some name ∧ (r.step cancelled io tools d).2.1 =
        (d.copyOut path (Disk.uriDestination uri name)).removeLocal io path := by
  unfold step
  simp only [hphase, huri]
  rcases d.moveIntoUri_cases io tools path uri with ⟨e, he⟩ | ⟨name, hname, hok⟩
  · rw [he]
    exact .inl rfl
  · rw [hok]
    exact .inr ⟨name, hname, rfl⟩

/-- A step makes the staging file of its transfer longer only with a chunk read
    from the data connection. -/
theorem step_grows {d : Disk} {old more : Bytes} (hstages : d.staging.Stages r.id path)
    (hold : d.staging.files.read path = some old)
    (hnew : (r.step cancelled io tools d).2.1.staging.files.read path = some (old ++ more))
    (hmore : more ≠ []) : ∃ done chunk, r.phase = .write done chunk := by
  -- a file that is as before did not get longer
  have hsame : d.staging.files.read path ≠ some (old ++ more) := fun h =>
    hmore (List.append_right_eq_self.mp (Option.some.inj (h.symm.trans hold)))
  by_cases hcopy : ∃ path', r.phase = .copy path'
  · obtain ⟨path', hphase⟩ := hcopy
    -- a copy removes files only
    have hremoved : ∀ d' : Disk, d'.staging = d.staging →
        (d'.removeLocal io path').staging.files.read path ≠ some (old ++ more) := by
      intro d' hd'
      unfold Disk.removeLocal
      cases io.remove with
      | some msg =>
        rw [hd']
        exact hsame
      | none =>
        rw [hd', Files.read_remove]
        split
        · exact nofun
        · exact hsame
    cases htarget : r.task.saveTarget with
    | dir dir =>
      rw [step, hphase] at hnew
      simp only [htarget] at hnew
      exact absurd hnew hsame
    | uri uri =>
      rcases step_copy cancelled io tools d hphase htarget with heq | ⟨name, -, heq⟩
      · rw [heq] at hnew
        exact absurd hnew (hremoved d rfl)
      · rw [heq] at hnew
        exact absurd hnew (hremoved _ (d.copyOut_staging _ _))
  · rw [step_disk fun path' hp => hcopy ⟨path', hp⟩] at hnew
    cases hc : r.engineCall cancelled with
    | none =>
      rw [hc] at hnew
      exact absurd hnew hsame
    | some c =>
      rw [hc] at hnew
      rw [← engineCall_id hc] at hstages
      obtain ⟨data, hdata⟩ := (d.staging.call_did io c).grows hstages hold hnew hmore
      rw [hdata] at hc
      exact engineCall_write hc

end ReceiveRun

/-! ## Sending -/

/-- Where a send is in `stream_outgoing`. -/
inductive SendPhase where
  | accept
  | pump
  | ended (result : Result Unit)

structure SendTick where
  /-- `listener.accept()`: whoever completes the handshake first. -/
  accept : Except String Transport
  /-- The message of a failing `File::open`. -/
  openFile : Option String
  /-- What the next `read` into the buffer returns. -/
  read : Except String { bytes : Bytes // bytes.length ≤ payloadChunkSize }
  /-- A failing write, with how much of the data went out before. -/
  write : Option (Nat × String)

structure SendRun where
  task : SendTask
  phase : SendPhase
  done : Nat
  /-- The other end of the data connection. -/
  peer : Option Transport
  /-- History: the bytes that went out on the data connection. -/
  written : Bytes
  /-- History: the certificate on the connection the share header went out on. -/
  control : Option Fingerprint

namespace SendRun

def new (task : SendTask) (control : Option Fingerprint) : SendRun where
  task := task
  phase := .accept
  done := 0
  peer := none
  written := []
  control := control

def id (r : SendRun) : String := r.task.transferId

/-- What the task reports to the actor, once it has ended: a failure is prefixed
    with the device. -/
def result (r : SendRun) : Option (Except String Unit) :=
  match r.phase with
  | .ended (.ok ()) => some (.ok ())
  | .ended (.error e) => some (.error s!"{r.task.deviceId}: {e.text}")
  | _ => none

/-- The task ends; its temporary source goes with it. -/
def close (r : SendRun) (result : Result Unit) : SendRun × List Effect :=
  ({ r with phase := .ended result }, Manager.cleanupEffects r.task.cleanup)

def wrote (r : SendRun) (chunk : Bytes) : SendRun :=
  { r with done := r.done + chunk.length, written := r.written ++ chunk }

def progress (r : SendRun) : Effect := .publish (.transferProgress r.id r.done r.task.size)

def step (r : SendRun) (cancelled : Bool) (tick : SendTick) : SendRun × List Effect :=
  match r.phase with
  | .accept =>
    match tick.accept with
    | .error msg => r.close (.error (.other msg))
    | .ok transport =>
      let r := { r with peer := some transport }
      match tick.openFile with
      | some msg => r.close (.error (.io msg))
      | none => ({ r with phase := .pump }, [])
  | .pump =>
    if cancelled then r.close (.error cancelledError)
    else
      match tick.read with
      | .error msg => r.close (.error (.io msg))
      | .ok ⟨[], _⟩ => r.close (.ok ())
      | .ok ⟨chunk, _⟩ =>
        match tick.write with
        -- part of the chunk may be out when the write fails
        | some (sent, msg) =>
          { r with written := r.written ++ chunk.take sent }.close (.error (.io msg))
        | none =>
          let r := r.wrote chunk
          -- the announced size was reached; a file that grew meanwhile is not sent to its end
          if r.done ≥ r.task.size then
            ((r.close (.ok ())).1, r.progress :: (r.close (.ok ())).2)
          else (r, [r.progress])
  | .ended _ => (r, [])

/-! ### What a step can do -/

/-- Where a step of a send leaves its data connection. -/
inductive Wires (r : SendRun) (tick : SendTick) : SendRun → Prop where
  | accepts {transport : Transport} (hphase : r.phase = .accept)
      (haccept : tick.accept = .ok transport) :
      Wires r tick { r with peer := some transport, phase := .pump }
  | pumps {r' : SendRun} (hphase : r.phase = .pump) (htask : r'.task = r.task)
      (hpeer : r'.peer = r.peer) (hcontrol : r'.control = r.control) : Wires r tick r'
  /-- The task has ended, before or now, without a byte written in this step. -/
  | ends {r' : SendRun} {result : Result Unit} (hphase : r'.phase = .ended result)
      (htask : r'.task = r.task) (hwritten : r'.written = r.written)
      (hcontrol : r'.control = r.control) : Wires r tick r'

/-- The same for a send, as to its connection. -/
theorem step_wires (r : SendRun) (cancelled : Bool) (tick : SendTick) :
    Wires r tick (r.step cancelled tick).1 := by
  unfold step
  cases hp : r.phase with
  | accept =>
    cases haccept : tick.accept with
    | error msg => exact .ends rfl rfl rfl rfl
    | ok transport =>
      cases hopen : tick.openFile with
      | some msg => exact .ends rfl rfl rfl rfl
      | none => exact .accepts hp haccept
  | pump =>
    -- the loop keeps its peer, however this turn ends
    dsimp only
    split
    · exact .pumps hp rfl rfl rfl
    · split
      · exact .pumps hp rfl rfl rfl
      · exact .pumps hp rfl rfl rfl
      · split
        · exact .pumps hp rfl rfl rfl
        · split <;> exact .pumps hp rfl rfl rfl
  | ended result => exact .ends hp rfl rfl rfl

variable {tick : SendTick} {r r' : SendRun}

theorem Wires.task (h : Wires r tick r') :
    r'.task = r.task := by
  cases h with
  | accepts => rfl
  | pumps hphase htask => exact htask
  | ends hphase htask => exact htask

theorem Wires.control (h : Wires r tick r') :
    r'.control = r.control := by
  cases h with
  | accepts => rfl
  | pumps hphase htask hpeer hcontrol => exact hcontrol
  | ends hphase htask hwritten hcontrol => exact hcontrol

end SendRun

end Handfast.Daemon
