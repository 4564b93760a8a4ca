/-
  Handfast.Daemon.Routing

  Where a packet goes.  The decision is made in two places.  The reader of a
  connection looks at the payload envelope only: a packet that announces a port
  is passed on as `SharePayload`, whatever its type.  The actor looks at the
  type, but only of packets that come as `PacketFrom`.  So a notification with
  an icon, or any other packet that announces a payload, is received as a file.

  `Routed` is what should happen, by type alone, and `Plain` are the packets for
  which it does.
-/
import Handfast.Daemon.Net
import Handfast.Daemon.Register

namespace Handfast.Daemon

open Handfast.Lib Handfast.Protocol Handfast.Plugins Handfast.Core

/-! ## What happens to a packet -/

def Effect.addsIncoming : Effect → Bool
  | .publish (.transferAdded _ _ direction _ _) => direction = Direction.incoming.label
  | _ => false

/-- How many receives are started.  One whose data connection could not be dialed
    counts: it is registered and fails at once. -/
def receivesStarted (effects : List Effect) : Nat := effects.countP Effect.addsIncoming

/-- The packet is handed to the plugins: each one that lists its type handles it
    once, and the others see nothing of it. -/
def Handed (packet : Packet) : List Plugin → List Plugin → Prop :=
  List.Forall₂ fun p p' =>
    if p.takes packet.ptype then ∃ amb, p' = (p.handle amb packet).1 else p' = p

def announcesFile (packet : Packet) : Bool :=
  packet.ptype = typeShare ∧ (packet.body.get "filename").isSome

theorem announcesFile_iff {packet : Packet} : announcesFile packet = true ↔
    packet.ptype = typeShare ∧ (packet.body.get "filename").isSome = true := decide_eq_true_iff

/-- The actor with the identity in the packet, if there is one, as that of the
    device. -/
def identified (m : Manager) (d : String) (packet : Packet) : Manager :=
  match Identity.fromValue packet.body with
  | some identity => m.modifyDevice d fun s => { s with identity }
  | none => m

/-- A packet from device `d`, handled in state `m` with outcome `out`, was routed
    by its type. -/
structure Routed (m : Manager) (env : Env) (d : String) (packet : Packet)
    (out : Manager × List Effect) : Prop where
  identity : packet.ptype = typeIdentity → out = (identified m d packet, [])
  pair : packet.ptype = typePair → out = m.onPairPacket env d packet
  file : announcesFile packet = true → receivesStarted out.2 = 1 ∧ Manager.SameDevices m out.1
  other : packet.ptype ≠ typeIdentity → packet.ptype ≠ typePair → announcesFile packet = false →
    receivesStarted out.2 = 0 ∧
      ∃ s plugins, m.devices.get d = some s ∧ Handed packet s.plugins plugins ∧
        out.1 = m.setDevice d { s with plugins }

/-- The packet announces no payload, or a file. -/
def PlainPacket (packet : Packet) : Prop :=
  packet.payloadTransferPort = none ∨ announcesFile packet = true

/-! ## One packet -/

theorem receivesStarted_of_silent {effects : List Effect} (h : ofTransfers effects = []) :
    receivesStarted effects = 0 := by
  refine List.countP_eq_zero.mpr fun e he hadds => ?_
  have hof : e.ofTransfer = true := by
    cases e with
    | publish ev => cases ev <;> first | rfl | cases hadds
    | _ => cases hadds
  exact List.filter_eq_nil_iff.mp h e he hof

theorem dispatch_handed (amb : Ambient) (packet : Packet) (ps : List Plugin) :
    Handed packet ps (dispatch amb packet ps).1 := by
  induction ps generalizing amb with
  | nil => exact .nil
  | cons p rest ih =>
    cases ht : p.takes packet.ptype with
    | true =>
      rw [dispatch_cons_of_takes ht]
      exact .cons (by rw [if_pos ht]; exact ⟨amb, rfl⟩) (ih _)
    | false =>
      rw [dispatch_cons_of_not_takes ht]
      exact .cons (by rw [if_neg (by simp [ht])]) (ih _)

section Packet

variable {m : Manager} {env : Env} {d : String} {packet : Packet}

/-- A known device's file starts one receive. -/
theorem spawnReceive_started (hknown : (m.devices.get d).isSome = true)
    (payload : Option Transport) :
    receivesStarted (m.spawnReceive d packet payload).2 = 1 := by
  obtain ⟨s, hs⟩ := Option.isSome_iff_exists.mp hknown
  simp only [Manager.spawnReceive, hs]
  rfl

theorem onSharePayload_started (hknown : (m.devices.get d).isSome = true)
    (payload : Except String Transport) :
    receivesStarted (m.onSharePayload d packet payload).2 = 1 := by
  cases payload with
  | ok transport => exact spawnReceive_started hknown (some transport)
  | error reason => rfl

/-- What comes as `PacketFrom` is routed by its type. -/
theorem onPacket_routed (hknown : (m.devices.get d).isSome = true) :
    Routed m env d packet (m.onPacket env d packet) where
  identity := by
    intro ht
    rw [Manager.onPacket, if_pos ht, identified]
    cases Identity.fromValue packet.body <;> rfl
  pair := by
    intro ht
    rw [Manager.onPacket, if_neg (by rw [ht]; decide), if_pos ht]
  file := by
    intro hfile
    have hf := announcesFile_iff.mp hfile
    rw [Manager.onPacket, if_neg (by rw [hf.1]; decide), if_neg (by rw [hf.1]; decide), if_pos hf]
    exact ⟨spawnReceive_started hknown none, Manager.spawnReceive_same⟩
  other := by
    intro hidentity hpair hfile
    have hf : ¬ (packet.ptype = typeShare ∧ (packet.body.get "filename").isSome = true) := by
      rw [← announcesFile_iff, hfile]
      exact nofun
    rw [Manager.onPacket, if_neg hidentity, if_neg hpair, if_neg hf]
    obtain ⟨s, hs⟩ := Option.isSome_iff_exists.mp hknown
    refine ⟨receivesStarted_of_silent Manager.routePacket_local.silent, s,
      (dispatch env.ambient packet s.plugins).1, hs, dispatch_handed _ _ _, ?_⟩
    simp [Manager.routePacket, Manager.dispatchToPlugins, hs]

/-- Whatever comes as `SharePayload` is taken for a file. -/
theorem onSharePayload_routed_iff (hknown : (m.devices.get d).isSome = true)
    (payload : Except String Transport) :
    Routed m env d packet (m.onSharePayload d packet payload) ↔ announcesFile packet = true := by
  have hstarted : receivesStarted (m.onSharePayload d packet payload).2 = 1 :=
    onSharePayload_started hknown payload
  constructor
  · intro h
    by_contra hfile
    rw [Bool.not_eq_true] at hfile
    -- a receive was started, but every clause about such a packet denies it
    have hnone : receivesStarted (m.onSharePayload d packet payload).2 = 0 := by
      by_cases hidentity : packet.ptype = typeIdentity
      · rw [h.identity hidentity]
        rfl
      · by_cases hpair : packet.ptype = typePair
        · rw [h.pair hpair]
          exact receivesStarted_of_silent Manager.onPairPacket_local.silent
        · exact (h.other hidentity hpair hfile).1
    rw [hstarted] at hnone
    cases hnone
  · intro hfile
    have ht : packet.ptype = typeShare := (announcesFile_iff.mp hfile).1
    refine ⟨fun h => ?_, fun h => ?_, fun _ => ⟨hstarted, Manager.onSharePayload_same⟩,
      fun _ _ h => ?_⟩
    · exact absurd (ht.symm.trans h) (by decide)
    · exact absurd (ht.symm.trans h) (by decide)
    · rw [hfile] at h
      cases h

/-- What the reader and the actor make of a packet together. -/
theorem command_routed_iff (r : Reader) (hknown : (m.devices.get r.device).isSome = true)
    (payload : Except String Transport) :
    Routed m env r.device packet (m.handle env (r.command packet payload)) ↔
      PlainPacket packet := by
  unfold Reader.command PlainPacket
  cases hport : packet.payloadTransferPort with
  | none => exact iff_of_true (onPacket_routed hknown) (.inl rfl)
  | some port =>
    -- with a port the type is not looked at any more
    have hplain : (some port = none ∨ announcesFile packet = true) ↔
        announcesFile packet = true := or_iff_right nofun
    rw [hplain]
    exact onSharePayload_routed_iff hknown payload

end Packet

/-! ## Sequences of packets -/

/-- A turn of the actor loop, seen from one connection: the reader passes on a
    packet, or the actor handles something else. -/
inductive Reader.Turn where
  | packet (env : Env) (packet : Packet) (payload : Except String Transport)
  | other (env : Env) (c : Command)

namespace Reader

def turn (r : Reader) (m : Manager) : Turn → Manager
  | .packet env packet payload => m.step (env, r.command packet payload)
  | .other env c => m.step (env, c)

def RoutesByType (r : Reader) (m : Manager) : Turn → Prop
  | .packet env packet payload =>
    Routed m env r.device packet (m.handle env (r.command packet payload))
  | .other _ _ => True

/-- No packet but those with a file announces a payload. -/
def PlainTurn (_ : Manager) : Turn → Prop
  | .packet _ packet _ => PlainPacket packet
  | .other _ _ => True

theorem turn_known (r : Reader) {m : Manager} {d : String}
    (hknown : (m.devices.get d).isSome = true) (t : Turn) :
    ((r.turn m t).devices.get d).isSome = true := by
  have hstep : ∀ env c, ((m.handle env c).1.devices.get d).isSome = true := fun env c => by
    -- being known is part of the link, and links never forget
    have hlink := congrArg Link.known (m.handle_link env d c)
    exact hlink.trans (Link.step_known hknown _)
  cases t with
  | packet env packet payload => exact hstep env _
  | other env c => exact hstep env c

/-- **Routing.** In every sequence of turns, the packets of a connection of a known
    device are routed by their type exactly if those that announce a payload are
    share packets with a file name. -/
theorem routesByType_iff_plain (r : Reader) (m : Manager) (turns : List Reader.Turn)
    (hknown : (m.devices.get r.device).isSome = true) :
    AllSteps r.turn r.RoutesByType m turns ↔ AllSteps r.turn PlainTurn m turns := by
  refine allSteps_congr (fun m => (m.devices.get r.device).isSome = true) hknown
    (fun m t h _ => r.turn_known h t) (fun m t h => ?_)
  cases t with
  | packet env packet payload => exact command_routed_iff r h payload
  | other env c => exact Iff.rfl

def phone : Reader := { conn := 0, device := "phone", fingerprint := Vector.replicate 32 7 }

def withPhone : Manager :=
  (Manager.new .empty "desk" default (.dir "/d")).step
    (.nominal 0, .connected "phone" (.uniform 0 7))

def notificationWithIcon : Packet :=
  (Packet.new 0 typeNotification (.object [("id", .string "1")])).withPayload 1 1739

/-- The icon is received as a file, and no plugin sees the notification. -/
theorem icon_not_routed :
    ¬ AllSteps phone.turn phone.RoutesByType withPhone
      [.packet (.nominal 0) notificationWithIcon (.ok (.uniform 1 7))] := by
  intro h
  have hstarted := (h.1.other (by decide) (by decide) (by decide)).1
  revert hstarted
  decide

def notificationAndFile : List Reader.Turn :=
  [.packet (.nominal 0) (.new 0 typeNotification (.object [("id", .string "1")])) (.error ""),
   .packet (.nominal 0)
     ((Packet.new 0 typeShare (.object [("filename", .string "a")])).withPayload 1 1739)
     (.ok (.uniform 1 7))]

theorem routesByType_notificationAndFile :
    (withPhone.devices.get phone.device).isSome = true ∧
      AllSteps phone.turn phone.RoutesByType withPhone notificationAndFile :=
  ⟨by decide, (routesByType_iff_plain phone withPhone notificationAndFile (by decide)).mpr
    ⟨.inl (by decide), .inr (by decide), trivial⟩⟩

end Reader
end Handfast.Daemon
