/-
  Handfast.Daemon.Outbox

  What the actor sends to one device: the packets its effects put into the
  outbound queue of that device, in order, each seen through a function of the
  reader's choice (the whole packet, or the packet without its id).
-/
import Handfast.Daemon.Frame

namespace Handfast.Daemon

open Handfast.Lib Handfast.Protocol Handfast.Plugins Handfast.Core

variable {β : Type} {view : Packet → β}

/-- The packet an effect queues to `d`. -/
def Effect.sentTo (view : Packet → β) (d : String) : Effect → Option (ConnId × β)
  | .queued e conn packet => if e = d then some (conn, view packet) else none
  | _ => none

/-- The packets queued to `d`, in order. -/
def sentTo (view : Packet → β) (d : String) (effects : List Effect) : List (ConnId × β) :=
  effects.filterMap (Effect.sentTo view d)

section Sent

variable {d e : String} {env : Env}

@[simp] theorem sentTo_nil : sentTo view d [] = [] := rfl

@[simp] theorem sentTo_append (xs ys : List Effect) :
    sentTo view d (xs ++ ys) = sentTo view d xs ++ sentTo view d ys := List.filterMap_append

@[simp] theorem sentTo_queued (conn : ConnId) (packet : Packet) (rest : List Effect) :
    sentTo view d (.queued e conn packet :: rest) =
      if e = d then (conn, view packet) :: sentTo view d rest else sentTo view d rest := by
  by_cases h : e = d <;> simp [sentTo, Effect.sentTo, h]

@[simp] theorem sentTo_publish (ev : Event) (rest : List Effect) :
    sentTo view d (.publish ev :: rest) = sentTo view d rest := rfl

@[simp] theorem sentTo_replied (reply : ReplyTo) (answer : Reply) (rest : List Effect) :
    sentTo view d (.replied reply answer :: rest) = sentTo view d rest := rfl

@[simp] theorem sentTo_pairTimer (deviceId : String) (rest : List Effect) :
    sentTo view d (.pairTimer deviceId :: rest) = sentTo view d rest := rfl

@[simp] theorem sentTo_send (task : SendTask) (rest : List Effect) :
    sentTo view d (.send task :: rest) = sentTo view d rest := rfl

@[simp] theorem sentTo_dropped (reply : Option ReplyTo) :
    sentTo view d (reply.map Effect.dropped).toList = [] := by cases reply <;> rfl

@[simp] theorem sentTo_cleanup (cleanup : Option String) :
    sentTo view d (Manager.cleanupEffects cleanup) = [] := by cases cleanup <;> rfl

/-- What a `send_out` whose failure is ignored queues. -/
def DeviceState.sent (s : DeviceState) (trySend : Nat → Option String) (k : Nat)
    (packet : β) : List (ConnId × β) :=
  match s.outbound, trySend k with
  | some conn, none => [(conn, packet)]
  | _, _ => []

theorem sentTo_sendIgnored (s : DeviceState) (k : Nat) (packet : Packet) :
    sentTo view d (s.sendIgnored env k e packet) =
      if e = d then s.sent env.trySend k (view packet) else [] := by
  unfold DeviceState.sendIgnored DeviceState.sendOut DeviceState.sent
  cases s.outbound with
  | none => simp
  | some conn => cases env.trySend k <;> simp

end Sent

namespace Manager

variable {m m' : Manager} {env env' : Env} {d : String} {packet : Packet}

/-- A packet reaches the device it is for, if that is known. -/
theorem sentTo_sendTo {e : String} :
    sentTo view d (m.sendTo env e packet) =
      if e = d then
        ((m.devices.get d).map fun s => s.sent env.trySend 0 (view packet)).getD []
      else [] := by
  unfold sendTo
  by_cases he : e = d
  · subst he
    cases m.devices.get e <;> simp [sentTo_sendIgnored]
  · cases m.devices.get e <;> simp [sentTo_sendIgnored, he]

@[simp] theorem sentTo_persistTrust {e : String} {paired : Bool} :
    sentTo view d (m.persistTrust env e paired).2 = [] := by
  unfold persistTrust
  cases m.devices.get e <;> rfl

/-- The replies that reach a device, as far as its queue takes them. -/
theorem sentTo_sendReplies {replies : List Packet} :
    sentTo view d (m.sendReplies env d replies) =
      ((m.devices.get d).map fun s =>
        (replies.map view).zipIdx.flatMap fun rk => s.sent env.trySend rk.2 rk.1).getD [] := by
  unfold sendReplies
  cases m.devices.get d with
  | none => rfl
  | some s =>
    simp only [Option.map_some, Option.getD_some, List.zipIdx_map, List.flatMap_map, sentTo,
      List.filterMap_flatMap]
    refine List.flatMap_congr fun rk _ => ?_
    have h : sentTo view d (s.sendIgnored env rk.2 d rk.1) =
        if d = d then s.sent env.trySend rk.2 (view rk.1) else [] :=
      sentTo_sendIgnored s rk.2 rk.1
    simpa [sentTo] using h

end Manager
end Handfast.Daemon
