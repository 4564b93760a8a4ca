/-
  Handfast.Daemon.Binding

  Which identity the device table holds for a key.  Identities enter it from
  four places: persisted rows, announcements, connections without a prior
  announcement, and identity packets sent over a connection.  The first three
  are stored under the id they carry.  The fourth is not looked at: `on_packet`
  stores whatever identity the packet holds under the id of the connection.

  `Bindings` is the actor with a record of what was vouched for: the identity
  the last admitted handshake of a device verified, and the one it announced
  last.  Peers choose all identities freely; the handshakes only let through
  what `cross_check`, respectively the dialling task, accepts.
-/
import Handfast.Daemon.Control
import Handfast.Daemon.TrustGate

namespace Handfast.Daemon

open Handfast.Lib Handfast.Protocol Handfast.Core

structure Bindings where
  manager : Manager
  /-- The identity the last admitted handshake verified. -/
  verified : Table String Identity
  /-- The identity announced last. -/
  announced : Table String Identity

inductive BindingMove where
  | announce (env : Env) (a : PeerAnnouncement)
  /-- An inbound handshake, with both identities the peer sent. -/
  | accepted (env : Env) (plain secure : Identity) (transport : Transport)
  /-- A dial of `target`, with the identity the peer sent. -/
  | dialed (env : Env) (target : String) (secure : Identity) (transport : Transport)
  /-- Any command but `Announce` and `Connected`. -/
  | command (env : Env) (c : Command)

namespace Bindings

/-- The pinning gate lets the connection in. -/
def admits (s : Bindings) (deviceId : String) (transport : Transport) : Bool :=
  ¬ Manager.gateRejects ((s.manager.devices.get deviceId).bind DeviceState.pinnedFingerprint)
    (hex transport.peerFingerprint)

/-- A handshake has ended with `secure`. -/
def connect (s : Bindings) (env : Env) (secure : Identity) (transport : Transport) : Bindings :=
  { s with
    manager := (s.manager.handle env (.connected secure.deviceId transport)).1
    verified :=
      if s.admits secure.deviceId transport then s.verified.insert secure.deviceId secure
      else s.verified }

def step (s : Bindings) : BindingMove → Bindings
  | .announce env a =>
    { s with
      manager := (s.manager.handle env (.announce a)).1
      announced := s.announced.insert a.identity.deviceId a.identity }
  | .accepted env plain secure transport =>
    if secure.deviceId ≠ "" ∧ (crossCheck plain secure).isOk then s.connect env secure transport
    else s
  | .dialed env target secure transport =>
    if secure.deviceId ≠ "" ∧ secure.deviceId = target then s.connect env secure transport
    else s
  | .command env c =>
    match c with
    | .announce _ | .connected _ _ => s
    | c => { s with manager := (s.manager.handle env c).1 }

def start (m : Manager) : Bindings where
  manager := m
  verified := .empty
  announced := .empty

/-- Every entry holds an identity with the id it is stored under. -/
def Bound (s : Bindings) : Prop :=
  ∀ k state, s.manager.devices.get k = some state → state.identity.deviceId = k

/-- Id and protocol version are those the handshake verified for the key, or those
    it announced last. -/
def Vouched (s : Bindings) (k : String) (identity : Identity) : Prop :=
  ∃ v, (s.verified.get k = some v ∨ s.announced.get k = some v) ∧
    identity.deviceId = v.deviceId ∧ identity.protocolVersion = v.protocolVersion

/-- A packet changes no identity, except to one that was vouched for. -/
def PacketKeeps (s : Bindings) (a : BindingMove) : Prop :=
  ∀ env c, a = .command env c → c.carried.isSome = true →
    ∀ k state state', s.manager.devices.get k = some state →
      (s.step a).manager.devices.get k = some state' →
        state'.identity = state.identity ∨ s.Vouched k state'.identity

/-- A device that is known sends another identity than the one stored for it, and
    not one that was vouched for. -/
def Rebinds (s : Bindings) : BindingMove → Prop
  | .command _ (.packetFrom d packet) =>
    packet.ptype = typeIdentity ∧ ∃ identity state,
      Identity.fromValue packet.body = some identity ∧ s.manager.devices.get d = some state ∧
        identity ≠ state.identity ∧ ¬ s.Vouched d identity
  | _ => False

/-! ## What a packet does to identities -/

variable {s : Bindings} {m : Manager} {env : Env} {d : String} {packet : Packet}

theorem identity_aloof : Manager.Aloof DeviceState.identity :=
  ⟨fun _ => rfl, fun _ _ => rfl, fun _ _ => rfl⟩

/-- Of all packets an identity packet alone replaces the stored identity. -/
theorem onPacket_identities (m : Manager) (env : Env) (d : String) (packet : Packet) :
    (∃ identity, packet.ptype = typeIdentity ∧ Identity.fromValue packet.body = some identity ∧
      (m.onPacket env d packet).1 = m.modifyDevice d fun state => { state with identity }) ∨
    m.Retains DeviceState.identity (m.onPacket env d packet).1 := by
  have hreceives : m.Receives env d packet (m.onPacket env d packet) :=
    Manager.onPacket_receives packet
  generalize m.onPacket env d packet = out at hreceives ⊢
  cases hreceives with
  | identity identity _ htype hread => exact .inl ⟨identity, htype, hread, rfl⟩
  | malformed => exact .inr (Manager.retains_of_devices rfl)
  | pair => exact .inr (Manager.onPairPacket_keeps identity_aloof).retains
  | file => exact .inr (Manager.retains_of_devices Manager.spawnReceive_same.devices)
  | plugins =>
    exact .inr (Manager.retains_of_map (fun _ => Manager.routePacket_devices_get) fun _ => rfl)

/-- A packet keeps the identities exactly if it does not rebind. -/
theorem packetKeeps_iff (s : Bindings) (a : BindingMove) : s.PacketKeeps a ↔ ¬ s.Rebinds a := by
  constructor
  · intro hkeeps hrebinds
    cases a with
    | command env c =>
      cases c with
      | packetFrom d packet =>
        obtain ⟨htype, identity, state, hread, hstate, hne, hnot⟩ := hrebinds
        have hafter : (s.manager.onPacket env d packet).1.devices.get d =
            some { state with identity } := by
          simp [Manager.onPacket, htype, hread, hstate]
        rcases hkeeps env _ rfl rfl d state _ hstate hafter with hsame | hvouched
        · exact hne hsame
        · exact hnot hvouched
      | _ => exact hrebinds
    | _ => exact hrebinds
  · intro hnot env c ha hcarried k state state' hstate hstate'
    subst ha
    -- entries that are retained have the identity they had
    have hretained : s.manager.Retains DeviceState.identity (s.step (.command env c)).manager →
        state'.identity = state.identity ∨ s.Vouched k state'.identity := by
      intro h
      obtain ⟨before, hbefore, heq⟩ := h k state' hstate'
      obtain rfl : state = before := Option.some.inj (hstate.symm.trans hbefore)
      exact .inl heq
    cases c with
    | packetFrom d packet =>
      rcases onPacket_identities s.manager env d packet with ⟨identity, htype, hread, hout⟩ | h
      · have hget : (s.manager.modifyDevice d
            fun state => { state with identity }).devices.get k = some state' := hout ▸ hstate'
        rw [Manager.modifyDevice_devices_get] at hget
        split at hget
        · rename_i hk
          subst hk
          rw [hstate] at hget
          obtain rfl := Option.some.inj hget
          by_contra hcon
          rw [not_or] at hcon
          exact hnot ⟨htype, identity, state, hread, hstate, hcon.1, hcon.2⟩
        · rw [hstate] at hget
          obtain rfl := Option.some.inj hget
          exact .inl rfl
      · exact hretained h
    | sharePayload d header payload =>
      exact hretained (Manager.retains_of_devices Manager.onSharePayload_same.devices)
    | _ => cases hcarried

/-! ## Keys -/

structure Keyed (s : Bindings) : Prop where
  bound : s.Bound
  verified : ∀ k v, s.verified.get k = some v → v.deviceId = k
  announced : ∀ k v, s.announced.get k = some v → v.deviceId = k

/-- An identity stored under its own id keeps the table keyed. -/
theorem keyed_insert {t : Table String Identity} {identity : Identity}
    (h : ∀ k v, t.get k = some v → v.deviceId = k) :
    ∀ k v, (t.insert identity.deviceId identity).get k = some v → v.deviceId = k := by
  intro k v hv
  rw [Table.get_insert] at hv
  split at hv
  · rename_i hk
    obtain rfl := Option.some.inj hv
    exact hk.symm
  · exact h k v hv

theorem Bound.retained {m' : Manager} (h : s.Bound)
    (hm : s.manager.Retains DeviceState.identity m') :
    ∀ k state, m'.devices.get k = some state → state.identity.deviceId = k := by
  intro k state hstate
  obtain ⟨before, hbefore, heq⟩ := hm k state hstate
  rw [heq]
  exact h k before hbefore

theorem Keyed.connect (h : Keyed s) (env : Env) (secure : Identity) (transport : Transport) :
    Keyed (s.connect env secure transport) where
  bound := by
    intro k state hstate
    have hget : (s.manager.onConnected secure.deviceId transport).1.devices.get k = some state :=
      hstate
    rw [Manager.onConnected_devices_get] at hget
    split at hget
    · rename_i hk
      subst hk
      -- the entry that was there, or the shell made of the id
      have hentry : ((s.manager.devices.get secure.deviceId).getD
          (Manager.shellEntry secure.deviceId)).identity.deviceId = secure.deviceId := by
        cases hbefore : s.manager.devices.get secure.deviceId with
        | none => rfl
        | some before => exact h.bound _ before hbefore
      obtain rfl := Option.some.inj hget
      split
      · exact hentry
      · exact hentry
    · exact h.bound k state hget
  verified := by
    unfold Bindings.connect
    dsimp only
    split
    · exact keyed_insert h.verified
    · exact h.verified
  announced := h.announced

theorem Keyed.announce (h : Keyed s) (env : Env) (a : PeerAnnouncement) :
    Keyed (s.step (.announce env a)) where
  bound := by
    intro k state hstate
    have hget : (s.manager.onAnnounce a).1.devices.get k = some state := hstate
    rw [Manager.onAnnounce_devices_get] at hget
    split at hget
    · rename_i hk
      obtain rfl := Option.some.inj hget
      exact hk.symm
    · exact h.bound k state hget
  verified := h.verified
  announced := keyed_insert h.announced

/-- A command that does not rebind keeps the bindings. -/
theorem Keyed.command (h : Keyed s) (env : Env) (c : Command)
    (hnot : ¬ s.Rebinds (.command env c)) : Keyed (s.step (.command env c)) := by
  cases c with
  | announce a => exact h
  | connected d t => exact h
  | packetFrom d packet =>
    refine ⟨?_, h.verified, h.announced⟩
    intro k state' hstate'
    have hkeeps := (packetKeeps_iff s (.command env (.packetFrom d packet))).mpr hnot
    rcases onPacket_identities s.manager env d packet with ⟨identity, -, -, hout⟩ | hretains
    · cases hstate : s.manager.devices.get k with
      | none =>
        -- a packet adds no entry
        have hget : (s.manager.modifyDevice d fun state =>
            { state with identity }).devices.get k = some state' := hout ▸ hstate'
        rw [Manager.modifyDevice_devices_get] at hget
        split at hget
        · rename_i hk
          rw [← hk, hstate] at hget
          cases hget
        · rw [hstate] at hget
          cases hget
      | some state =>
        rcases hkeeps env _ rfl rfl k state state' hstate hstate' with hsame | hvouched
        · rw [hsame]
          exact h.bound k state hstate
        · obtain ⟨v, hv | hv, hid, -⟩ := hvouched
          · exact hid.trans (h.verified k v hv)
          · exact hid.trans (h.announced k v hv)
    · exact h.bound.retained hretains k state' hstate'
  | _ =>
    refine ⟨?_, h.verified, h.announced⟩
    exact h.bound.retained
      (Manager.handle_retains identity_aloof (by simp) (by simp) (by simp))

theorem Keyed.step (h : Keyed s) (a : BindingMove) (hnot : ¬ s.Rebinds a) : Keyed (s.step a) := by
  cases a with
  | announce env a => exact h.announce env a
  | accepted env plain secure transport =>
    simp only [Bindings.step]
    split
    · exact h.connect env secure transport
    · exact h
  | dialed env target secure transport =>
    simp only [Bindings.step]
    split
    · exact h.connect env secure transport
    · exact h
  | command env c => exact h.command env c hnot

/-- What is loaded from disk is keyed by id. -/
theorem start_keyed (store : Store) (self : String) (identity : Identity) (target : SaveTarget) :
    Keyed (start (Manager.new store self identity target).loadPersisted) where
  bound := by
    intro k state hstate
    have hget : (Manager.new store self identity target).loadPersisted.devices.get k =
        some state := hstate
    rw [Manager.loadPersisted_devices_get rfl] at hget
    split at hget
    · cases hget
    · obtain ⟨row, hrow, rfl⟩ := Option.map_eq_some_iff.mp hget
      exact store.keyed k row hrow
  verified := fun k v hv => by cases hv
  announced := fun k v hv => by cases hv

/-- **Identity binding.** In every run, every entry keeps the id it is stored under
    and no packet changes an identity to one nobody vouched for, exactly as long as
    no device sends such an identity over its connection. -/
theorem identities_bound_iff (store : Store) (self : String) (identity : Identity)
    (target : SaveTarget) (moves : List BindingMove) :
    let s := start (Manager.new store self identity target).loadPersisted
    AllStates step Bound s moves ∧ AllSteps step PacketKeeps s moves ↔
      AllSteps step (fun s a => ¬ s.Rebinds a) s moves := by
  intro s
  have hkeeps : AllSteps step PacketKeeps s moves ↔
      AllSteps step (fun s a => ¬ s.Rebinds a) s moves :=
    allSteps_congr (fun _ => True) trivial (fun _ _ _ _ => trivial)
      fun s a _ => packetKeeps_iff s a
  constructor
  · exact fun h => hkeeps.mp h.2
  · intro h
    have hkeyed : AllStates step Keyed s moves :=
      allStates_of_invariant (start_keyed store self identity target)
        (fun s a hk hnot => hk.step a hnot) h
    exact ⟨hkeyed.mono fun _ hk => hk.bound, hkeeps.mpr h⟩

def phone : Identity where
  deviceId := "phone"
  name := "Phone"
  deviceType := "phone"
  protocolVersion := 8
  incoming := []
  outgoing := []
  tcpSourcePort := 1716

/-- The phone connects and then sends the identity of a television. -/
def renamed : Bindings :=
  run step (start (Manager.new .empty "desk" default (.dir "/d")).loadPersisted)
    [.accepted (.nominal 0) phone phone (.uniform 0 7),
     .command (.nominal 1) (.packetFrom "phone"
       (.identity 1 { phone with deviceId := "tv", protocolVersion := 7 }))]

/-- The handshake verified `phone` and version 8; the table now holds `tv` and
    version 7 under `phone`. -/
theorem session_identity_rebinds :
    (renamed.verified.get "phone").map (fun v => (v.deviceId, v.protocolVersion)) =
        some ("phone", 8) ∧
      (renamed.manager.devices.get "phone").map
        (fun state => (state.identity.deviceId, state.identity.protocolVersion)) =
          some ("tv", 7) := by
  decide

end Bindings
end Handfast.Daemon
