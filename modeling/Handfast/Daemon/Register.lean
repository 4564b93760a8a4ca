/-
  Handfast.Daemon.Register

  What the commands do to the transfer registry.  Most leave it alone and say
  nothing about transfers; a cancel flips one flag; a share or a send takes the
  next transfer id, registers it, and starts a task or settles the record on the
  spot; an outcome settles one record (`Booking`, `handle_books`).  Later proofs
  about transfers start from these cases.
-/
import Handfast.Daemon.Frame

namespace Handfast.Daemon

open Handfast.Lib Handfast.Protocol Handfast.Plugins Handfast.Core

def transferOf : Event → Option String
  | .transferProgress id _ _ | .transferAdded id _ _ _ _ | .transferFinished id
  | .transferFailed id _ => some id
  | _ => none

/-- The command reports the end of a transfer task. -/
def Command.isOutcome : Command → Bool
  | .transferOutcome _ _ => true
  | _ => false

def Effect.ofTransfer : Effect → Bool
  | .publish ev => (transferOf ev).isSome
  | .receive _ | .send _ | .abort _ => true
  | _ => false

/-- The size of a receive as records and events show it. -/
def shownSize (size : Nat) : Nat := if size = unknownSize then 0 else size

def ofTransfers (effects : List Effect) : List Effect := effects.filter Effect.ofTransfer

@[simp] theorem ofTransfers_append (xs ys : List Effect) :
    ofTransfers (xs ++ ys) = ofTransfers xs ++ ofTransfers ys := List.filter_append xs ys

@[simp] theorem ofTransfers_cleanup (cleanup : Option String) :
    ofTransfers (Manager.cleanupEffects cleanup) = [] := by cases cleanup <;> rfl

theorem DeviceState.sendOut_ok {s : DeviceState} {env : Env} {k : Nat} {conn : ConnId}
    (h : s.sendOut env k = .ok conn) : s.outbound = some conn := by
  unfold sendOut at h
  split at h
  · cases h
  · split at h
    · cases h
      assumption
    · cases h

namespace Manager

variable {m m' m'' : Manager} {env : Env} {d fileName id : String}
  {reason : Option String → Option String} {state : TransferState} {s : DeviceState}
  {modifiedMs : Int} {src : Materialized} {file : Metadata} {c : Command} {effects : List Effect}

/-- Handlers that are not about transfers leave the registry alone. -/
theorem Local.silent {out : Manager × List Effect} (h : Local d m out) :
    ofTransfers out.2 = [] := by
  refine List.filter_eq_nil_iff.mpr fun e he => ?_
  have hlocal : e.localTo d = true := h.effects e he
  cases e with
  | publish ev => cases ev <;> simp_all [Effect.ofTransfer, transferOf]
  | _ => simp_all [Effect.ofTransfer]

def freshId (m : Manager) : String := s!"t{m.nextTransferSeq + 1}"

/-- The commands that start a task, with what the task takes from them.  A send
    goes out on the live connection of its device, header first. -/
inductive Starts (m : Manager) : Command → List Effect → Effect → Prop where
  | empty {task : ReceiveTask} {header : Packet} {effects : List Effect}
      (hpayload : task.payload = none) :
      Starts m (.packetFrom task.deviceId header) effects (.receive task)
  | dialed {task : ReceiveTask} {header : Packet} {transport : Transport} {effects : List Effect}
      (hpayload : task.payload = some transport) :
      Starts m (.sharePayload task.deviceId header (.ok transport)) effects (.receive task)
  | send {task : SendTask} {path : String} {reply : ReplyTo} {state : DeviceState} {conn : ConnId}
      {header : Packet} {rest : List Effect} (hstate : m.devices.get task.deviceId = some state)
      (hconn : state.outbound = some conn) :
      Starts m (.sendFile task.deviceId path reply)
        (.queued task.deviceId conn header :: rest) (.send task)

/-- How the transfer registered next goes on in the same command: a task starts,
    or the record is settled at once. -/
inductive Opening (m : Manager) (c : Command) (effects : List Effect) (total : Nat) :
    TransferState → List Effect → Prop where
  | receive (task : ReceiveTask) (h : task.transferId = m.freshId)
      (htarget : task.saveTarget = m.saveTarget) (htotal : total = shownSize task.size)
      (hstarts : Starts m c effects (.receive task)) :
      Opening m c effects total .active [.receive task]
  | send (task : SendTask) (h : task.transferId = m.freshId) (htotal : total = task.size)
      (hsize : 0 < task.size) (hstarts : Starts m c effects (.send task)) :
      Opening m c effects total .active [.send task]
  | finished : Opening m c effects total .finished [.publish (.transferFinished m.freshId)]
  | failed (reason : String) :
      Opening m c effects total .failed [.publish (.transferFailed m.freshId reason)]

/-- The registries differ in the record of `id` only. -/
def Sets (m m' : Manager) (id : String) (record : TransferRecord) : Prop :=
  ∀ id', m'.transfers.get id' = if id' = id then some record else m.transfers.get id'

/-- What a command does to the registry, with those of its `effects` that are about
    transfers. -/
inductive Booking (m : Manager) (c : Command) (effects : List Effect) :
    Manager → List Effect → Prop where
  | aside {m' : Manager} (h : SameTransfers m m') : Booking m c effects m' []
  | cancel {m' : Manager} {id : String} {record : TransferRecord}
      (hget : m.transfers.get id = some record)
      (hset : Sets m m' id { record with cancel := true })
      (hseq : m'.nextTransferSeq = m.nextTransferSeq)
      (htarget : m'.saveTarget = m.saveTarget) : Booking m c effects m' []
  | opens {m' : Manager} {record : TransferRecord} {deviceId direction fileName : String}
      {rest : List Effect} (hset : Sets m m' m.freshId record)
      (hseq : m'.nextTransferSeq = m.nextTransferSeq + 1)
      (htarget : m'.saveTarget = m.saveTarget)
      (hrest : Opening m c effects record.total record.state rest) (hdone : record.done = 0) :
      Booking m c effects m'
        (.publish (.transferAdded m.freshId deviceId direction fileName record.total) :: rest)

theorem Local.books {out : Manager × List Effect} (h : Local d m out) :
    Booking m c effects out.1 (ofTransfers out.2) := by
  rw [h.silent]
  exact .aside h.same

/-- A registration sets the record of its transfer and no other. -/
theorem registerTransfer_sets {deviceId : String} {direction : Direction} {total : Nat} :
    Sets m (m.newTransferId.1.registerTransfer id deviceId direction fileName total).1 id
      { deviceId, direction, fileName, total, state := .active, done := 0, reason := none
        cancel := false } := by
  intro id'
  simp [registerTransfer, newTransferId]

theorem settle_sets {record : TransferRecord} (h : Sets m m' id record) :
    Sets m (m'.settle id state reason) id
      { record with state, reason := reason record.reason } := by
  have hget : m'.transfers.get id = some record := by rw [h id, if_pos rfl]
  intro id'
  simp only [settle, hget, Table.get_insert]
  split
  · rfl
  · -- the other records are as they were before `id` was set
    rename_i hne
    rw [h id', if_neg hne]

theorem settle_seq :
    (m.settle id state reason).nextTransferSeq = m.nextTransferSeq := by
  unfold settle
  cases m.transfers.get id <;> rfl

theorem settle_target :
    (m.settle id state reason).saveTarget = m.saveTarget := by
  unfold settle
  cases m.transfers.get id <;> rfl

/-- The task of a receive takes its device and its data connection from the command. -/
theorem spawnReceive_books (header : Packet) (payload : Option Transport)
    (hstarts : ∀ task : ReceiveTask, task.deviceId = d → task.payload = payload →
      Starts m c effects (.receive task)) :
    Booking m c effects (m.spawnReceive d header payload).1
      (ofTransfers (m.spawnReceive d header payload).2) := by
  unfold spawnReceive
  cases m.devices.get d with
  | none => exact .aside (.refl m)
  | some s =>
    exact .opens registerTransfer_sets rfl rfl (.receive _ rfl rfl rfl (hstarts _ rfl rfl)) rfl

theorem onSharePayload_books (header : Packet) (payload : Except String Transport) :
    Booking m (.sharePayload d header payload) effects (m.onSharePayload d header payload).1
      (ofTransfers (m.onSharePayload d header payload).2) := by
  cases payload with
  | ok t => exact spawnReceive_books header (some t) fun _ hd hpayload => hd ▸ .dialed hpayload
  | error reason =>
    -- the record is opened and settled in the same command
    have hset : Sets m (m.onSharePayload d header (.error reason)).1 m.freshId _ :=
      settle_sets registerTransfer_sets
    exact .opens hset settle_seq settle_target (.failed reason) rfl

theorem sendEmpty_books :
    Booking m c effects (m.sendEmpty env d fileName modifiedMs s).1
      (ofTransfers (m.sendEmpty env d fileName modifiedMs s).2.1) := by
  unfold sendEmpty
  cases s.sendOut env 0 with
  | error err => exact .aside (.refl m)
  | ok conn =>
    exact .opens (settle_sets registerTransfer_sets) settle_seq settle_target .finished rfl

/-- A refused send removes its temporary source at most. -/
theorem cleanup_books {cleanup : Option String} :
    Booking m c effects m (ofTransfers (cleanupEffects cleanup)) := by
  rw [ofTransfers_cleanup]
  exact .aside (.refl m)

theorem sendPayload_books {path : String} {reply : ReplyTo} (last : Effect)
    (hs : m.devices.get d = some s) (hlen : file.len ≠ 0) :
    Booking m (.sendFile d path reply) ((m.sendPayload env d fileName src file s).2.1 ++ [last])
      (m.sendPayload env d fileName src file s).1
      (ofTransfers (m.sendPayload env d fileName src file s).2.1) := by
  have hsize : 0 < file.len.toNat :=
    Nat.pos_of_ne_zero fun hzero => hlen (UInt64.toNat_inj.mp hzero)
  unfold sendPayload
  cases env.bindPort with
  | error err => exact .aside (.refl m)
  | ok port =>
    cases hout : s.sendOut env 0 with
    | error err => exact cleanup_books
    | ok conn =>
      refine .opens registerTransfer_sets rfl rfl (.send _ rfl rfl hsize ?_) rfl
      exact @Starts.send m ⟨_, d, _, _, _, _⟩ _ _ _ _ _ _ hs (s.sendOut_ok hout)

/-- The reply to the caller comes last. -/
theorem sendFile_books (path : String) (reply : ReplyTo) :
    Booking m (.sendFile d path reply) (m.handle env (.sendFile d path reply)).2
      (m.sendFile env d path).1 (ofTransfers (m.sendFile env d path).2.1) := by
  have h : Sends m env d (m.sendFile env d path) := sendFile_sends path
  rw [handle]
  generalize m.sendFile env d path = out at h ⊢
  cases h with
  | refused cleanup err => exact cleanup_books
  | empty => exact sendEmpty_books
  | payload hs _ _ _ hlen => exact sendPayload_books _ hs hlen

/-- A cancel raises a flag and nothing else. -/
theorem cancelTransfer_books (id : String) : Booking m c effects (m.cancelTransfer id).1 [] := by
  unfold cancelTransfer
  cases hget : m.transfers.get id with
  | none => exact .aside (.refl m)
  | some record =>
    dsimp only
    split
    · exact .aside (.refl m)
    · exact .cancel hget (fun id' => by simp) rfl rfl

/-- A packet books at most the receive it announces. -/
theorem onPacket_books (packet : Packet) :
    Booking m (.packetFrom d packet) effects (m.onPacket env d packet).1
      (ofTransfers (m.onPacket env d packet).2) := by
  have h : Receives m env d packet (m.onPacket env d packet) := onPacket_receives packet
  generalize m.onPacket env d packet = out at h ⊢
  cases h with
  | identity => exact .aside (modifyDevice_keeps (f := fun _ => ()) fun _ => rfl).here.same
  | malformed => exact .aside (.refl m)
  | pair => exact onPairPacket_local.books
  | file => exact spawnReceive_books packet none fun _ hd hpayload => hd ▸ .empty hpayload
  | plugins => exact routePacket_local.books

theorem ofTransfers_sendFile (d path : String) (reply : ReplyTo) :
    ofTransfers (m.handle env (.sendFile d path reply)).2 =
      ofTransfers (m.sendFile env d path).2.1 := by
  rw [handle, ofTransfers_append]
  exact List.append_nil _

/-- **The registry.** What a command does to it, outcomes of tasks apart. -/
theorem handle_books (hc : c.isOutcome = false) :
    Booking m c (m.handle env c).2 (m.handle env c).1 (ofTransfers (m.handle env c).2) := by
  cases c with
  | packetFrom d packet => exact onPacket_books packet
  | sendFile d path reply =>
    rw [ofTransfers_sendFile]
    exact sendFile_books path reply
  | cancelTransfer id reply => exact cancelTransfer_books id
  | sharePayload d header payload => exact onSharePayload_books header payload
  | transferOutcome id result => cases hc
  | listDevices reply | listTransfers reply => exact .aside (.refl m)
  | _ => exact (handle_local rfl rfl).books

end Manager
end Handfast.Daemon
