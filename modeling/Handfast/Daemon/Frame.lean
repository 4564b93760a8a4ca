/-
  Handfast.Daemon.Frame

  What the handlers leave alone.  The part of the actor that belongs to one
  device is its `Entry`: the table entry and the parked pairing request.  The
  lemmas say which entries, and which of the store, a handler can change; later
  proofs use them instead of unfolding the handlers again.
-/
import Handfast.Daemon.Manager

namespace Handfast.Daemon

open Handfast.Lib Handfast.Protocol Handfast.Plugins Handfast.Core

def Command.usesTransfers : Command → Bool
  | .packetFrom _ _ | .sendFile _ _ _ | .cancelTransfer _ _ | .sharePayload _ _ _
  | .transferOutcome _ _ => true
  | _ => false

namespace Effect

variable {d : String}

/-- No packet to another device than `d`. -/
@[simp] def reaches (d : String) : Effect → Bool
  | .queued e _ _ => e = d
  | _ => true

/-- Not about a transfer, and no packet to another device than `d`. -/
@[simp] def localTo (d : String) : Effect → Bool
  | .queued e _ _ => e = d
  | .publish (.transferProgress _ _ _) | .publish (.transferAdded _ _ _ _ _)
  | .publish (.transferFinished _) | .publish (.transferFailed _ _) | .receive _ | .send _
  | .abort _ => false
  | _ => true

/-- What is done for a transfer with `d`. -/
@[simp] def serves (d : String) : Effect → Bool
  | .queued e _ _ => e = d
  | .publish (.transferAdded _ _ _ _ _) | .publish (.transferFinished _)
  | .publish (.transferFailed _ _) | .receive _ | .send _ | .removeFile _ => true
  | _ => false

theorem reaches_of_localTo (e : Effect) (h : e.localTo d = true) : e.reaches d = true := by
  cases e <;> first | rfl | exact h

theorem reaches_of_serves (e : Effect) (h : e.serves d = true) : e.reaches d = true := by
  cases e <;> first | rfl | exact h

end Effect

/-- The part of the actor's state that belongs to one device. -/
@[ext] structure Entry where
  state : Option DeviceState
  parked : Option Nat

namespace Manager

variable {m m' m'' : Manager} {env : Env} {d d' id fileName : String} {header packet : Packet}
  {s : DeviceState} {a : PeerAnnouncement} {t : Transport} {reply : ReplyTo} {c : Command}

def entry (m : Manager) (d : String) : Entry where
  state := m.devices.get d
  parked := m.incomingPairs.get d

/-! ## Small updates -/

@[simp] theorem setDevice_devices_get (s : DeviceState) :
    (m.setDevice d s).devices.get d' = if d' = d then some s else m.devices.get d' := by
  simp [setDevice]

@[simp] theorem setDevice_incomingPairs (s : DeviceState) :
    (m.setDevice d s).incomingPairs = m.incomingPairs := rfl

@[simp] theorem setDevice_store (s : DeviceState) : (m.setDevice d s).store = m.store := rfl

@[simp] theorem modifyDevice_devices_get (f : DeviceState → DeviceState) :
    (m.modifyDevice d f).devices.get d' =
      if d' = d then (m.devices.get d).map f else m.devices.get d' := by
  unfold modifyDevice
  by_cases hd : d' = d
  · subst hd
    cases h : m.devices.get d' <;> simp [h]
  · cases h : m.devices.get d <;> simp [hd]

@[simp] theorem modifyDevice_incomingPairs (f : DeviceState → DeviceState) :
    (m.modifyDevice d f).incomingPairs = m.incomingPairs := by
  unfold modifyDevice
  cases m.devices.get d <;> rfl

@[simp] theorem modifyDevice_store (f : DeviceState → DeviceState) :
    (m.modifyDevice d f).store = m.store := by
  unfold modifyDevice
  cases m.devices.get d <;> rfl

@[simp] theorem unpark_devices : (m.unpark d).devices = m.devices := rfl

@[simp] theorem unpark_store : (m.unpark d).store = m.store := rfl

@[simp] theorem unpark_incomingPairs_get :
    (m.unpark d).incomingPairs.get d' = if d' = d then none else m.incomingPairs.get d' := by
  simp [unpark]

/-! ## Handlers that only touch the transfer registry -/

/-- Two actors that differ in the transfer registry at most. -/
structure SameDevices (m m' : Manager) : Prop where
  devices : m'.devices = m.devices
  incomingPairs : m'.incomingPairs = m.incomingPairs
  store : m'.store = m.store
  selfDeviceId : m'.selfDeviceId = m.selfDeviceId

theorem SameDevices.refl (m : Manager) : SameDevices m m := ⟨rfl, rfl, rfl, rfl⟩

theorem SameDevices.trans (h : SameDevices m m') (h' : SameDevices m' m'') : SameDevices m m'' :=
  ⟨h'.devices.trans h.devices, h'.incomingPairs.trans h.incomingPairs,
    h'.store.trans h.store, h'.selfDeviceId.trans h.selfDeviceId⟩

theorem SameDevices.entry_eq (h : SameDevices m m') :
    m'.entry d = m.entry d := by
  simp [entry, h.devices, h.incomingPairs]

theorem newTransferId_same : SameDevices m m.newTransferId.1 := ⟨rfl, rfl, rfl, rfl⟩

/-- A registration leaves the devices alone. -/
theorem registerTransfer_same {deviceId : String} {direction : Direction} {total : Nat} :
    SameDevices m (m.registerTransfer id deviceId direction fileName total).1 :=
  ⟨rfl, rfl, rfl, rfl⟩

theorem settle_same {state : TransferState}
    {reason : Option String → Option String} : SameDevices m (m.settle id state reason) := by
  unfold settle
  cases m.transfers.get id <;> exact ⟨rfl, rfl, rfl, rfl⟩

theorem cancelTransfer_same : SameDevices m (m.cancelTransfer id).1 := by
  unfold cancelTransfer
  cases m.transfers.get id with
  | none => exact .refl m
  | some record =>
    simp only
    split
    · exact .refl m
    · exact ⟨rfl, rfl, rfl, rfl⟩

theorem onTransferOutcome_same {result : Except String Unit} :
    SameDevices m (m.onTransferOutcome id result).1 := by
  cases result with
  | ok u =>
    simp only [onTransferOutcome]
    exact settle_same
  | error reason =>
    simp only [onTransferOutcome]
    exact settle_same

theorem spawnReceive_same {payload : Option Transport} :
    SameDevices m (m.spawnReceive d header payload).1 := by
  unfold spawnReceive
  cases m.devices.get d with
  | none => exact .refl m
  | some s => exact ⟨rfl, rfl, rfl, rfl⟩

theorem onSharePayload_same {payload : Except String Transport} :
    SameDevices m (m.onSharePayload d header payload).1 := by
  cases payload with
  | ok t => exact spawnReceive_same
  | error reason =>
    simp only [onSharePayload]
    exact (newTransferId_same.trans registerTransfer_same).trans settle_same

theorem sendEmpty_same {modifiedMs : Int} :
    SameDevices m (m.sendEmpty env d fileName modifiedMs s).1 := by
  unfold sendEmpty
  cases s.sendOut env 0 with
  | error err => exact .refl m
  | ok conn => exact (newTransferId_same.trans registerTransfer_same).trans settle_same

theorem sendPayload_same {src : Materialized}
    {file : Metadata} : SameDevices m (m.sendPayload env d fileName src file s).1 := by
  unfold sendPayload
  cases env.bindPort with
  | error err => exact .refl m
  | ok port =>
    cases s.sendOut env 0 with
    | error err => exact .refl m
    | ok conn => exact newTransferId_same.trans registerTransfer_same

/-- How `sendFile` can go: it is refused, or the device is known and an empty file
    or a payload is announced to it. -/
inductive Sends (m : Manager) (env : Env) (d : String) :
    Manager × List Effect × Result String → Prop where
  | refused (cleanup : Option String) (err : Error) :
      Sends m env d (m, cleanupEffects cleanup, .error err)
  | empty {s : DeviceState} (hs : m.devices.get d = some s) (fileName : String)
      (modifiedMs : Int) : Sends m env d (m.sendEmpty env d fileName modifiedMs s)
  | payload {s : DeviceState} (hs : m.devices.get d = some s) (fileName : String)
      (src : Materialized) (file : Metadata) (hlen : file.len ≠ 0) :
      Sends m env d (m.sendPayload env d fileName src file s)

/-- The one inversion of `sendFile`; later proofs go by its cases. -/
theorem sendFile_sends (path : String) : Sends m env d (m.sendFile env d path) := by
  unfold sendFile
  cases env.source path with
  | error err => exact .refused none err
  | ok src =>
    dsimp only
    cases env.metadata src.localPath with
    | error err => exact .refused src.cleanup _
    | ok file =>
      dsimp only
      split
      · exact .refused src.cleanup _
      · cases hs : m.devices.get d with
        | none => exact .refused src.cleanup _
        | some s =>
          dsimp only
          split
          · exact .refused src.cleanup _
          · split
            · exact .empty hs _ _
            · exact .payload hs _ _ _ ‹_›

theorem sendFile_same {path : String} : SameDevices m (m.sendFile env d path).1 := by
  have h : Sends m env d (m.sendFile env d path) := sendFile_sends path
  generalize m.sendFile env d path = out at h ⊢
  cases h with
  | refused cleanup err => exact .refl m
  | empty => exact sendEmpty_same
  | payload => exact sendPayload_same

/-! ## Effects of a send or a receive -/

theorem spawnReceive_serves {payload : Option Transport} :
    ∀ e ∈ (m.spawnReceive d header payload).2, e.serves d = true := by
  unfold spawnReceive
  cases m.devices.get d <;> simp [registerTransfer]

theorem onSharePayload_serves {payload : Except String Transport} :
    ∀ e ∈ (m.onSharePayload d header payload).2, e.serves d = true := by
  cases payload with
  | ok t => exact spawnReceive_serves
  | error reason => simp [onSharePayload, registerTransfer]

theorem sendFile_serves {path : String} :
    ∀ e ∈ (m.sendFile env d path).2.1, e.serves d = true := by
  have h : Sends m env d (m.sendFile env d path) := sendFile_sends path
  generalize m.sendFile env d path = out at h ⊢
  cases h with
  | refused cleanup err => cases cleanup <;> simp [cleanupEffects]
  | empty =>
    unfold sendEmpty
    split <;> simp [registerTransfer]
  | payload =>
    unfold sendPayload
    split
    · simp
    · rename_i src _ _ _ _ _
      cases src.cleanup <;> split <;>
        simp [cleanupEffects, registerTransfer]

/-! ## Announcements and connections -/

theorem onAnnounce_fst :
    (m.onAnnounce a).1 = (m.entryForAnnouncement a).1 := by
  unfold onAnnounce
  simp only
  split
  · rfl
  · split <;> rfl

/-- An announcement renews identity and address of its device. -/
theorem onAnnounce_devices_get :
    (m.onAnnounce a).1.devices.get d =
      if d = a.identity.deviceId then
        some { (m.devices.get d).getD (DeviceState.new a.identity) with
          identity := a.identity
          addr := some { ip := a.ip, port := a.identity.tcpSourcePort } }
      else m.devices.get d := by
  rw [onAnnounce_fst]
  unfold entryForAnnouncement
  by_cases hd : d = a.identity.deviceId
  · subst hd
    cases h : m.devices.get a.identity.deviceId <;> simp [h, DeviceState.new]
  · cases h : m.devices.get a.identity.deviceId <;> simp [h, hd]

theorem onAnnounce_incomingPairs :
    (m.onAnnounce a).1.incomingPairs = m.incomingPairs ∧
      (m.onAnnounce a).1.store = m.store := by
  rw [onAnnounce_fst]
  unfold entryForAnnouncement
  simp only
  split <;> exact ⟨rfl, rfl⟩

@[simp] theorem gateRejects_none {f : String} : gateRejects none f = false := rfl

/-- A device passes the gate if it is unpaired or presents its pin. -/
theorem gateRejects_eq_false {pinned : Option String} {f : String} :
    gateRejects pinned f = false ↔ ∀ p, pinned = some p → p = f := by
  cases pinned <;> simp [gateRejects]

/-- A new connection attaches to its device's entry, unless the gate turns it away. -/
theorem onConnected_devices_get :
    (m.onConnected d t).1.devices.get d' =
      if d' = d then
        some
          (if gateRejects ((m.devices.get d).bind DeviceState.pinnedFingerprint)
              (hex t.peerFingerprint) then
            (m.devices.get d).getD (shellEntry d)
          else attach ((m.devices.get d).getD (shellEntry d)) t)
      else m.devices.get d' := by
  unfold onConnected
  by_cases hd : d' = d
  · subst hd
    cases h : m.devices.get d' with
    | none => simp
    | some s =>
      by_cases hg : gateRejects s.pinnedFingerprint (hex t.peerFingerprint) = true
      · simp [hg, h]
      · simp [hg]
  · cases h : m.devices.get d with
    | none => simp [hd]
    | some s =>
      by_cases hg : gateRejects s.pinnedFingerprint (hex t.peerFingerprint) = true
      · simp [hg, hd]
      · simp [hg, hd]

/-! ## Pairing -/

/-- An entry after `persist_trust`. -/
def trusted (paired : Bool) (s : DeviceState) : DeviceState :=
  { s with pinnedFingerprint := if paired then some (trustFingerprint s) else none }

/-- The row `persist_trust` writes. -/
def trustRow (env : Env) (d : String) (paired : Bool) (s : DeviceState) : DeviceRow where
  deviceId := d
  name := s.identity.name
  deviceType := s.identity.deviceType
  certFingerprint := if paired then trustFingerprint s else ""
  paired := paired
  lastSeen := some env.unixNow

@[simp] theorem persistTrust_devices_get (paired : Bool) :
    (m.persistTrust env d paired).1.devices.get d' =
      if d' = d then (m.devices.get d).map (trusted paired) else m.devices.get d' := by
  unfold persistTrust trusted
  by_cases hd : d' = d
  · subst hd
    cases h : m.devices.get d' with
    | none => simp [h]
    | some s => cases paired <;> simp
  · cases h : m.devices.get d <;> simp [hd]

@[simp] theorem persistTrust_incomingPairs (paired : Bool) :
    (m.persistTrust env d paired).1.incomingPairs = m.incomingPairs := by
  unfold persistTrust
  cases m.devices.get d <;> rfl

/-- A trust decision writes one row, if the device has an entry. -/
theorem persistTrust_store (paired : Bool) :
    (m.persistTrust env d paired).1.store =
      match m.devices.get d with
      | some s => (m.store.upsertDevice env.storeWrite (trustRow env d paired s)).2
      | none => m.store := by
  unfold persistTrust
  cases m.devices.get d <;> rfl

/-! ## Packets -/

@[simp] theorem routePacket_devices_get :
    (m.routePacket env d packet).1.devices.get d' =
      if d' = d then
        (m.devices.get d).map fun s =>
          { s with plugins := (dispatch env.ambient packet s.plugins).1 }
      else m.devices.get d' := by
  unfold routePacket dispatchToPlugins
  by_cases hd : d' = d
  · subst hd
    cases h : m.devices.get d' <;> simp [h]
  · cases h : m.devices.get d <;> simp [hd]

@[simp] theorem routePacket_incomingPairs :
    (m.routePacket env d packet).1.incomingPairs = m.incomingPairs := by
  unfold routePacket dispatchToPlugins
  cases m.devices.get d <;> rfl

@[simp] theorem routePacket_store :
    (m.routePacket env d packet).1.store = m.store := by
  unfold routePacket dispatchToPlugins
  cases m.devices.get d <;> rfl

/-! ## What is sent and shown -/

theorem mem_sendIgnored {k : Nat} {e : Effect} (h : e ∈ s.sendIgnored env k d packet) :
    ∃ conn, e = .queued d conn packet := by
  unfold DeviceState.sendIgnored at h
  split at h
  · exact ⟨_, List.mem_singleton.mp h⟩
  · cases h

/-- `sendTo` queues its packet or nothing. -/
theorem mem_sendTo {e : Effect} (h : e ∈ m.sendTo env d packet) :
    ∃ conn, e = .queued d conn packet := by
  unfold sendTo at h
  split at h
  · exact mem_sendIgnored h
  · cases h

theorem mem_sendReplies {replies : List Packet} {e : Effect}
    (h : e ∈ m.sendReplies env d replies) : ∃ conn p, e = .queued d conn p := by
  unfold sendReplies at h
  split at h
  · cases h
  · obtain ⟨rk, -, he⟩ := List.mem_flatMap.mp h
    obtain ⟨conn, rfl⟩ := mem_sendIgnored he
    exact ⟨conn, rk.1, rfl⟩

/-- The side events of a packet are notifications and clipboard updates. -/
theorem mem_emitSideEvents {e : Effect} (h : e ∈ emitSideEvents packet) :
    (∃ id app title text, e = .publish (.notificationReceived id app title text)) ∨
      ∃ text, e = .publish (.clipboardUpdated text) := by
  unfold emitSideEvents at h
  simp only at h
  split at h
  · exact .inl ⟨_, _, _, _, List.mem_singleton.mp h⟩
  · split at h
    · split at h
      · exact .inr ⟨_, List.mem_singleton.mp h⟩
      · cases h
    · cases h

/-! ## A handler touches its own device only -/

/-- Nothing but what belongs to `d` has changed: the settings, and the entry and
    the row of every other device, are as before. -/
structure OnlyTouches (d : String) (m m' : Manager) : Prop where
  kv : m'.store.kv = m.store.kv
  selfDeviceId : m'.selfDeviceId = m.selfDeviceId
  entry : ∀ d' ≠ d, m'.entry d' = m.entry d'
  row : ∀ d' ≠ d, m'.store.devices.get d' = m.store.devices.get d'

theorem OnlyTouches.refl (d : String) (m : Manager) : OnlyTouches d m m :=
  ⟨rfl, rfl, fun _ _ => rfl, fun _ _ => rfl⟩

theorem OnlyTouches.trans (h : OnlyTouches d m m')
    (h' : OnlyTouches d m' m'') : OnlyTouches d m m'' where
  kv := h'.kv.trans h.kv
  selfDeviceId := h'.selfDeviceId.trans h.selfDeviceId
  entry := fun e he => (h'.entry e he).trans (h.entry e he)
  row := fun e he => (h'.row e he).trans (h.row e he)

theorem SameDevices.onlyTouches (h : SameDevices m m') :
    OnlyTouches d m m' where
  kv := by rw [h.store]
  selfDeviceId := h.selfDeviceId
  entry := fun _ _ => h.entry_eq
  row := fun _ _ => by rw [h.store]

/-- Two actors with the same transfer registry and save target. -/
structure SameTransfers (m m' : Manager) : Prop where
  transfers : m'.transfers = m.transfers
  seq : m'.nextTransferSeq = m.nextTransferSeq
  target : m'.saveTarget = m.saveTarget

theorem SameTransfers.refl (m : Manager) : SameTransfers m m := ⟨rfl, rfl, rfl⟩

/-- What a handler that is not about transfers does for `d`: it touches no other device
    and no transfer, and sends to no other device. -/
structure Local (d : String) (m : Manager) (out : Manager × List Effect) : Prop where
  only : OnlyTouches d m out.1
  same : SameTransfers m out.1
  effects : ∀ e ∈ out.2, e.localTo d = true

theorem Local.trans {xs ys : List Effect} (h : Local d m (m', xs))
    (h' : Local d m' (m'', ys)) : Local d m (m'', xs ++ ys) where
  only := h.only.trans h'.only
  same := ⟨h'.same.transfers.trans h.same.transfers, h'.same.seq.trans h.same.seq,
    h'.same.target.trans h.same.target⟩
  effects := List.forall_mem_append.mpr ⟨h.effects, h'.effects⟩

/-- What is local to `d` changes no other entry and reaches no other device. -/
theorem Local.reaches {out : Manager × List Effect} (h : Local d m out) :
    OnlyTouches d m out.1 ∧ ∀ e ∈ out.2, e.reaches d = true :=
  ⟨h.only, fun e he => e.reaches_of_localTo (h.effects e he)⟩

theorem setDevice_local {effects : List Effect} (h : ∀ e ∈ effects, e.localTo d = true) :
    Local d m (m.setDevice d s, effects) :=
  ⟨⟨rfl, rfl, fun e he => by simp [entry, he], fun _ _ => rfl⟩, ⟨rfl, rfl, rfl⟩, h⟩

theorem onAnnounce_local : Local a.identity.deviceId m (m.onAnnounce a) := by
  unfold onAnnounce entryForAnnouncement
  cases m.devices.get a.identity.deviceId <;> simp only <;> repeat' split
  all_goals exact setDevice_local (by simp)

theorem onConnected_local : Local d m (m.onConnected d t) := by
  unfold onConnected
  cases m.devices.get d with
  | none => exact setDevice_local (by simp)
  | some s =>
    simp only
    split
    · exact ⟨.refl d m, .refl m, by simp⟩
    · exact setDevice_local (by simp)

theorem routePacket_local : Local d m (m.routePacket env d packet) := by
  -- the desktop events and the replies of plugins
  have heffects : ∀ (m : Manager) (replies : List Packet),
      ∀ e ∈ emitSideEvents packet ++ m.sendReplies env d replies, e.localTo d = true := by
    intro m replies e he
    rcases List.mem_append.mp he with he | he
    · rcases mem_emitSideEvents he with ⟨_, _, _, _, rfl⟩ | ⟨_, rfl⟩ <;> rfl
    · obtain ⟨conn, p, rfl⟩ := mem_sendReplies he
      simp
  unfold routePacket dispatchToPlugins
  cases m.devices.get d with
  | none => exact ⟨.refl d m, .refl m, heffects m []⟩
  | some s => exact setDevice_local (heffects _ _)

/-! ## Pairing handlers retain the rest of an entry -/

section Keeps

variable {α : Type} {f : DeviceState → α} {effects : List Effect}

/-- Every entry was there before, with the same `f`. -/
def Retains (f : DeviceState → α) (m m' : Manager) : Prop :=
  ∀ d s', m'.devices.get d = some s' → ∃ s, m.devices.get d = some s ∧ f s' = f s

theorem retains_of_devices (h : m'.devices = m.devices) : Retains f m m' := by
  intro d s' hs'
  rw [h] at hs'
  exact ⟨s', hs', rfl⟩

/-- Only the entry of `d` changes, and not in what `f` looks at. -/
theorem retains_of_map {g : DeviceState → DeviceState}
    (hget : ∀ d', m'.devices.get d' =
      if d' = d then (m.devices.get d).map g else m.devices.get d')
    (hg : ∀ s, f (g s) = f s) : Retains f m m' := by
  intro d' s' hs'
  rw [hget] at hs'
  split at hs'
  · rename_i hd
    obtain ⟨s, hs, rfl⟩ := Option.map_eq_some_iff.mp hs'
    exact ⟨s, hd ▸ hs, hg s⟩
  · exact ⟨s', hs', rfl⟩

/-- `f` looks neither at the connection of an entry nor at its pairing. -/
structure Aloof (f : DeviceState → α) : Prop where
  closed : ∀ s : DeviceState,
    f { s with outbound := none, liveFingerprint := none, pendingPairReply := none } = f s
  reply : ∀ (s : DeviceState) (r : Option ReplyTo), f { s with pendingPairReply := r } = f s
  pinned : ∀ (s : DeviceState) (p : Option String), f { s with pinnedFingerprint := p } = f s

theorem Aloof.trivial : Aloof fun _ : DeviceState => () :=
  ⟨fun _ => rfl, fun _ _ => rfl, fun _ _ => rfl⟩

/-- A handler about pairing does its work for `d` and leaves what `f` looks at alone. -/
structure Keeps (f : DeviceState → α) (d : String) (m : Manager) (out : Manager × List Effect) :
    Prop where
  here : Local d m out
  retains : Retains f m out.1

theorem Keeps.emits (h : ∀ e ∈ effects, e.localTo d = true) : Keeps f d m (m, effects) :=
  ⟨⟨.refl d m, .refl m, h⟩, retains_of_devices rfl⟩

/-- Handlers are sequences of small changes, each of which keeps `f`. -/
theorem Keeps.trans {xs ys : List Effect} (h : Keeps f d m (m', xs))
    (h' : Keeps f d m' (m'', ys)) : Keeps f d m (m'', xs ++ ys) := by
  refine ⟨h.here.trans h'.here, fun d s'' hs'' => ?_⟩
  obtain ⟨s', hs', heq'⟩ := h'.retains d s'' hs''
  obtain ⟨s, hs, heq⟩ := h.retains d s' hs'
  exact ⟨s, hs, heq'.trans heq⟩

theorem setDevice_keeps {s' : DeviceState} (hs : m.devices.get d = some s) (hf : f s' = f s)
    (h : ∀ e ∈ effects, e.localTo d = true) : Keeps f d m (m.setDevice d s', effects) := by
  refine ⟨setDevice_local h, fun d' s'' hs'' => ?_⟩
  rw [setDevice_devices_get] at hs''
  split at hs''
  · rename_i hd
    cases hs''
    exact ⟨s, hd ▸ hs, hf⟩
  · exact ⟨s'', hs'', rfl⟩

/-- A change of the entry that `f` does not see. -/
theorem modifyDevice_keeps {g : DeviceState → DeviceState} (hg : ∀ s, f (g s) = f s) :
    Keeps f d m (m.modifyDevice d g, []) := by
  unfold modifyDevice
  cases hs : m.devices.get d with
  | none => exact .emits (by simp)
  | some s => exact setDevice_keeps hs (hg s) (by simp)

theorem unpark_keeps : Keeps f d m (m.unpark d, []) :=
  ⟨⟨⟨rfl, rfl, fun e he => by simp [entry, he], fun _ _ => rfl⟩, ⟨rfl, rfl, rfl⟩, by simp⟩,
    retains_of_devices rfl⟩

theorem sendTo_keeps : Keeps f d m (m, m.sendTo env d packet) := by
  refine .emits fun e he => ?_
  obtain ⟨conn, rfl⟩ := mem_sendTo he
  exact decide_eq_true rfl

/-- Trust is recorded in the fields that an aloof `f` does not read. -/
theorem persistTrust_keeps (hf : Aloof f) {paired : Bool} :
    Keeps f d m (m.persistTrust env d paired) := by
  refine ⟨?_, retains_of_map (fun _ => persistTrust_devices_get paired) fun s => hf.pinned s _⟩
  unfold persistTrust
  cases m.devices.get d with
  | none => exact ⟨.refl d m, .refl m, by simp⟩
  | some s =>
    -- a failing write leaves every row, a successful one all but that of `d`
    refine ⟨⟨by simp, rfl, fun e he => by simp [entry, he, setDevice], fun e he => ?_⟩,
      ⟨rfl, rfl, rfl⟩, by simp⟩
    cases h : env.storeWrite <;> simp [Store.upsertDevice, he]

theorem onClosed_keeps (hf : Aloof f) : Keeps f d m (m.onClosed d) := by
  unfold onClosed
  cases hs : m.devices.get d with
  | none =>
    simp only [unpark_devices, hs]
    exact unpark_keeps.trans (.emits (by simp))
  | some s =>
    simp only [unpark_devices, hs]
    exact unpark_keeps.trans (setDevice_keeps hs (hf.closed s) (by simp [or_imp, forall_and]))

theorem beginPairing_keeps (hf : Aloof f) : Keeps f d m (m.beginPairing env d reply) := by
  unfold beginPairing
  cases hs : m.devices.get d with
  | none => exact .emits (by simp)
  | some s =>
    simp only
    split
    · exact .emits (by simp)
    · split
      · exact .emits (by simp)
      · split <;> exact setDevice_keeps hs (hf.reply s _) (by simp [or_imp, forall_and])

theorem onPairRequest_keeps (hf : Aloof f) : Keeps f d m (m.onPairRequest env d) := by
  unfold onPairRequest
  simp only
  split
  · exact (persistTrust_keeps hf).trans sendTo_keeps
  · split
    · exact sendTo_keeps
    · exact ⟨⟨⟨rfl, rfl, fun e he => by simp [entry, he], fun _ _ => rfl⟩, ⟨rfl, rfl, rfl⟩,
        by simp⟩, retains_of_devices rfl⟩

theorem onPairPacket_keeps (hf : Aloof f) : Keeps f d m (m.onPairPacket env d packet) := by
  unfold onPairPacket
  split
  · exact .emits (by simp)
  · split
    · -- our own request is answered: the reply slot is cleared first
      have hclear := modifyDevice_keeps (m := m) (d := d) fun s => hf.reply s none
      simp only
      split
      · show Keeps f d m (_, [] ++ [_] ++ _)
        exact (hclear.trans (.emits (by simp))).trans (persistTrust_keeps hf)
      · exact hclear.trans (.emits (by simp))
    · split
      · exact onPairRequest_keeps hf
      · exact (unpark_keeps.trans (persistTrust_keeps hf)).trans (.emits (by simp))

theorem answerIncomingPairing_keeps (hf : Aloof f) {accept : Bool} :
    Keeps f d m ((m.answerIncomingPairing env d accept).1,
      (m.answerIncomingPairing env d accept).2.1) := by
  unfold answerIncomingPairing
  split
  · exact .emits (by simp)
  · simp only
    split
    · exact unpark_keeps
    · cases accept with
      | true =>
        exact ((unpark_keeps.trans (persistTrust_keeps hf)).trans sendTo_keeps).trans
          (.emits (by simp))
      | false => exact (unpark_keeps.trans sendTo_keeps).trans (.emits (by simp))

theorem onPairingTimeout_keeps : Keeps f d m (m.onPairingTimeout env d) := by
  unfold onPairingTimeout
  split
  · exact .emits (by simp)
  · exact unpark_keeps.trans sendTo_keeps

/-- What the commands about connections and pairing keep. -/
theorem handle_keeps (hf : Aloof f) (hc : c.device = some d) (ht : c.usesTransfers = false)
    (hannounce : ∀ a, c ≠ .announce a) (hconnect : ∀ e t, c ≠ .connected e t) :
    Keeps f d m (m.handle env c) := by
  cases c with
  | announce a => exact absurd rfl (hannounce a)
  | connected e t => exact absurd rfl (hconnect e t)
  | connClosed e => cases hc; exact onClosed_keeps hf
  | startPairing e reply => cases hc; exact beginPairing_keeps hf
  | unpair e reply =>
    cases hc
    exact (sendTo_keeps.trans (persistTrust_keeps hf)).trans (.emits (by simp))
  | pairingAnswer e accept reply =>
    cases hc
    exact (answerIncomingPairing_keeps hf).trans (.emits (by simp))
  | pairingTimeout e => cases hc; exact onPairingTimeout_keeps
  | listDevices reply | listTransfers reply | cancelTransfer id reply => cases hc
  | packetFrom e p | sendFile e path reply | sharePayload e header payload
  | transferOutcome id result => cases ht

/-- Only announcements, connections and packets bring anything else into the table. -/
theorem handle_retains (hf : Aloof f) {c : Command} (hannounce : ∀ a, c ≠ .announce a)
    (hconnect : ∀ e t, c ≠ .connected e t) (hpacket : ∀ e p, c ≠ .packetFrom e p) :
    Retains f m (m.handle env c).1 := by
  cases c with
  | packetFrom e p => exact absurd rfl (hpacket e p)
  | listDevices reply | listTransfers reply => exact retains_of_devices rfl
  | sendFile e path reply => exact retains_of_devices sendFile_same.devices
  | cancelTransfer id reply => exact retains_of_devices cancelTransfer_same.devices
  | sharePayload e header payload => exact retains_of_devices onSharePayload_same.devices
  | transferOutcome id result => exact retains_of_devices onTransferOutcome_same.devices
  | _ => exact (handle_keeps hf rfl rfl hannounce hconnect).retains

end Keeps

/-- A command that is not about transfers stays with its device. -/
theorem handle_local (hc : c.device = some d) (ht : c.usesTransfers = false) :
    Local d m (m.handle env c) := by
  cases c with
  | announce a => cases hc; exact onAnnounce_local
  | connected e t => cases hc; exact onConnected_local
  | _ => exact (handle_keeps .trivial hc ht (by simp) (by simp)).here

/-- Where `onPacket` takes a packet. -/
inductive Receives (m : Manager) (env : Env) (d : String) (packet : Packet) :
    Manager × List Effect → Prop where
  | identity (identity : Identity) (hother : packet.ptype ≠ typePair)
      (htype : packet.ptype = typeIdentity)
      (hread : Identity.fromValue packet.body = some identity) :
      Receives m env d packet (m.modifyDevice d fun s => { s with identity }, [])
  /-- An identity that cannot be read. -/
  | malformed (hother : packet.ptype ≠ typePair) : Receives m env d packet (m, [])
  | pair (hpair : packet.ptype = typePair) :
      Receives m env d packet (m.onPairPacket env d packet)
  /-- A file without a data connection. -/
  | file (hother : packet.ptype ≠ typePair) :
      Receives m env d packet (m.spawnReceive d packet none)
  | plugins (hother : packet.ptype ≠ typePair) :
      Receives m env d packet (m.routePacket env d packet)

/-- The one inversion of `onPacket`; later proofs go by its cases. -/
theorem onPacket_receives (packet : Packet) :
    Receives m env d packet (m.onPacket env d packet) := by
  unfold onPacket
  split
  · rename_i hid
    have hother : packet.ptype ≠ typePair := by rw [hid]; decide
    split
    · exact .identity _ hother hid ‹_›
    · exact .malformed hother
  · split
    · exact .pair ‹_›
    · split
      · exact .file ‹_›
      · exact .plugins ‹_›

/-- Pairing stays with the device whose packet it is. -/
theorem onPairPacket_local : Local d m (m.onPairPacket env d packet) :=
  (onPairPacket_keeps .trivial).here

/-- A command about `d` touches `d` only, and sends to no other device. -/
theorem handle_only (hc : c.device = some d) :
    OnlyTouches d m (m.handle env c).1 ∧ ∀ e ∈ (m.handle env c).2, e.reaches d = true := by
  cases c with
  | packetFrom e p =>
    cases hc
    have h : Receives m env d p (m.onPacket env d p) := onPacket_receives p
    rw [handle]
    generalize m.onPacket env d p = out at h ⊢
    cases h with
    | identity =>
      exact ⟨(modifyDevice_keeps (f := fun _ => ()) fun _ => rfl).here.only, by simp⟩
    | malformed => exact ⟨.refl d m, by simp⟩
    | pair => exact onPairPacket_local.reaches
    | file =>
      exact ⟨spawnReceive_same.onlyTouches, fun e he => e.reaches_of_serves
        (spawnReceive_serves e he)⟩
    | plugins => exact routePacket_local.reaches
  -- the transfers also change the table of records
  | sendFile e path reply =>
    cases hc
    exact ⟨sendFile_same.onlyTouches, List.forall_mem_append.mpr
      ⟨fun e he => e.reaches_of_serves (sendFile_serves e he), by simp⟩⟩
  | sharePayload e header payload =>
    cases hc
    exact ⟨onSharePayload_same.onlyTouches, fun e he => e.reaches_of_serves
      (onSharePayload_serves e he)⟩
  | cancelTransfer id reply | transferOutcome id result => cases hc
  | _ => exact (handle_local hc rfl).reaches

/-- A command about no device changes nothing but the transfer registry. -/
theorem handle_same (h : c.device = none) :
    SameDevices m (m.handle env c).1 := by
  cases c with
  | listDevices reply => exact .refl m
  | listTransfers reply => exact .refl m
  | cancelTransfer id reply => exact cancelTransfer_same
  | transferOutcome id result => exact onTransferOutcome_same
  | _ => cases h

/-- The settings and our own id are not for handlers to change. -/
theorem handle_settings :
    (m.handle env c).1.store.kv = m.store.kv ∧
      (m.handle env c).1.selfDeviceId = m.selfDeviceId := by
  cases h : c.device with
  | none =>
    have hs : SameDevices m (m.handle env c).1 := handle_same h
    exact ⟨by rw [hs.store], hs.selfDeviceId⟩
  | some e =>
    have hs : OnlyTouches e m (m.handle env c).1 := (handle_only h).1
    exact ⟨hs.kv, hs.selfDeviceId⟩

/-- A command that is not about `d` leaves the entry and the row of `d` alone. -/
theorem handle_other (h : c.device ≠ some d) :
    (m.handle env c).1.entry d = m.entry d ∧
      (m.handle env c).1.store.devices.get d = m.store.devices.get d := by
  cases hc : c.device with
  | none =>
    have hs : SameDevices m (m.handle env c).1 := handle_same hc
    exact ⟨hs.entry_eq, by rw [hs.store]⟩
  | some e =>
    have hne : d ≠ e := fun hde => h (hde ▸ hc)
    have hs : OnlyTouches e m (m.handle env c).1 := (handle_only hc).1
    exact ⟨hs.entry d hne, hs.row d hne⟩

/-- Nothing is sent to a device but by commands about it. -/
theorem not_queued_other (h : c.device ≠ some d) (conn : ConnId) (p : Packet) :
    .queued d conn p ∉ (m.handle env c).2 := by
  intro hmem
  cases hc : c.device with
  | none =>
    cases c with
    | transferOutcome id result =>
      cases result <;> simp [handle, onTransferOutcome] at hmem
    | listDevices reply | listTransfers reply | cancelTransfer id reply => simp [handle] at hmem
    | _ => cases hc
  | some e =>
    have hreach : e = d := (by simpa using (handle_only hc).2 _ hmem : d = e).symm
    exact h (hreach ▸ hc)

theorem autoAccept_eq_false (h : m.store.kv.get "pairing.auto_accept" ≠ some "1")
    (env : Env) : m.autoAccept env = false := by
  unfold autoAccept Store.kvGet
  cases env.storeRead with
  | some msg => rfl
  | none =>
    cases hv : m.store.kv.get "pairing.auto_accept" with
    | none => rfl
    | some v =>
      -- only the exact text `1` switches it on
      simp only [decide_eq_false_iff_not]
      rintro rfl
      exact h hv

end Manager
end Handfast.Daemon
