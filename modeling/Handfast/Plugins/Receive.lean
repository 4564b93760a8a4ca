/-
  Handfast.Plugins.Receive

  What the whole roster does with a packet.  `Roster.receive` says it per packet
  type: which plugin reacts, how its state changes and what it answers.  The
  dispatch loop over the registry computes exactly this
  (`dispatch_plugins`), and a packet has at most one answer
  (`receive_replies_length_le`).
-/
import Handfast.Plugins.Registry

namespace Handfast.Plugins

open Handfast.Lib Handfast.Protocol

/-! ## Dispatch to a single plugin -/

def Plugin.Ignores (p : Plugin) (pkt : Packet) : Prop :=
  p.takes pkt.ptype = true → ∀ amb, p.handle amb pkt = (p, [])

variable {ps pre : List Plugin} {pkt : Packet} {amb : Ambient}

theorem ignores_of_not_takes
    (h : (ps.all fun p => !p.takes pkt.ptype) = true) : ∀ p ∈ ps, p.Ignores pkt := by
  intro p hp ht
  have := List.all_eq_true.mp h p hp
  simp [ht] at this

/-- The plugins before one that ignore the packet are passed over. -/
theorem dispatch_append_of_ignores (h : ∀ p ∈ pre, p.Ignores pkt) :
    dispatch amb pkt (pre ++ ps) = (pre ++ (dispatch amb pkt ps).1, (dispatch amb pkt ps).2) := by
  induction pre with
  | nil => rfl
  | cons p pre ih =>
    have ih' := ih fun q hq => h q (List.mem_cons_of_mem p hq)
    cases ht : p.takes pkt.ptype with
    | false => rw [List.cons_append, dispatch_cons_of_not_takes ht, ih', List.cons_append]
    | true =>
      rw [List.cons_append, dispatch_cons_of_takes ht, h p List.mem_cons_self ht amb]
      simp only [List.length_nil, List.nil_append, List.cons_append]
      rw [show amb.after 0 = amb by simp [Ambient.after], ih']

/-- If all others ignore the packet, one plugin handles it. -/
theorem dispatch_single {post : List Plugin} {p : Plugin} (hpre : ∀ q ∈ pre, q.Ignores pkt)
    (hpost : ∀ q ∈ post, q.Ignores pkt) (ht : p.takes pkt.ptype = true) :
    dispatch amb pkt (pre ++ p :: post) =
      (pre ++ (p.handle amb pkt).1 :: post, (p.handle amb pkt).2) := by
  have hrest : ∀ amb, dispatch amb pkt post = (post, []) := fun amb =>
    dispatch_of_ignored hpost
  rw [dispatch_append_of_ignores hpre, dispatch_cons_of_takes ht, hrest, List.append_nil]

/-! ## The roster's reaction -/

/-- The packet types some plugin reacts to. -/
inductive PacketKind where
  | battery | findMyPhone | mprisRequest | notification | notificationRequest | ping
  | runCommand | runCommandRequest | share | systemVolume | telephony
  deriving DecidableEq

namespace PacketKind

def wire : PacketKind → String
  | battery => typeBattery
  | findMyPhone => typeFindmyphone
  | mprisRequest => typeMprisRequest
  | notification => typeNotification
  | notificationRequest => typeNotificationRequest
  | ping => typePing
  | runCommand => typeRuncommand
  | runCommandRequest => typeRuncommandRequest
  | share => typeShare
  | systemVolume => typeSystemvolume
  | telephony => typeTelephony

def all : List PacketKind :=
  [battery, findMyPhone, mprisRequest, notification, notificationRequest, ping, runCommand,
   runCommandRequest, share, systemVolume, telephony]

/-- The kind of a packet type, if some plugin reacts to it. -/
def of (ptype : String) : Option PacketKind := all.find? fun k => k.wire = ptype

@[simp] theorem of_wire (k : PacketKind) : of k.wire = some k := by
  cases k <;> decide

variable {ptype : String}

theorem of_eq_some {k : PacketKind} : of ptype = some k ↔ ptype = k.wire := by
  constructor
  · intro h
    have hk := List.find?_some h
    exact (of_decide_eq_true hk).symm
  · rintro rfl
    exact of_wire k

theorem of_eq_none : of ptype = none ↔ ∀ k : PacketKind, ptype ≠ k.wire := by
  constructor
  · rintro h k rfl
    rw [of_wire] at h
    cases h
  · intro h
    cases hk : of ptype with
    | none => rfl
    | some k => exact absurd (of_eq_some.mp hk) (h k)

end PacketKind

namespace Roster

def receive (r : Roster) (amb : Ambient) (pkt : Packet) : Roster × List Packet :=
  match PacketKind.of pkt.ptype with
  | some .battery => ({ r with battery := r.battery.recordRemote amb pkt }, [])
  | some .findMyPhone =>
    let (plugin, echo) := r.findMyPhone.applyAction amb pkt.body
    ({ r with findMyPhone := plugin }, echo.toList)
  | some .mprisRequest =>
    let (plugin, replies) := r.mpris.handleRequest amb pkt.body
    ({ r with mpris := plugin }, replies)
  | some .notification =>
    let (plugin, replies) := r.notifications.relay amb pkt.body
    ({ r with notifications := plugin }, replies)
  | some .notificationRequest =>
    ({ r with notifications := r.notifications.act pkt.body }, [])
  | some .ping =>
    ({ r with ping := { lastPingAt := some amb.clock } },
     [.new amb.freshId typePing (.object [])])
  | some .runCommand => ({ r with runCommands := r.runCommands.handleSync pkt }, [])
  | some .runCommandRequest => (r, r.runCommands.handleRequest amb pkt)
  | some .share => ({ r with share := (r.share.handle pkt).1 }, [])
  | some .systemVolume => ({ r with systemVolume := r.systemVolume.observe pkt.body }, [])
  | some .telephony =>
    let (plugin, replies) := r.telephony.record amb pkt
    ({ r with telephony := plugin }, replies)
  | none => (r, [])

variable {r : Roster} {amb : Ambient} {pkt : Packet} {body : Value}

/-- The `n`-th plugin takes the packet and the others ignore it. -/
theorem dispatch_at (n : Nat) {p p' : Plugin} {replies : List Packet}
    (hp : r.plugins = r.plugins.take n ++ p :: r.plugins.drop (n + 1))
    (ht : p.takes pkt.ptype = true)
    (hpre : ∀ q ∈ r.plugins.take n, q.Ignores pkt)
    (hpost : ∀ q ∈ r.plugins.drop (n + 1), q.Ignores pkt)
    (hh : p.handle amb pkt = (p', replies)) :
    dispatch amb pkt r.plugins =
      (r.plugins.take n ++ p' :: r.plugins.drop (n + 1), replies) := by
  conv_lhs => rw [hp]
  rw [dispatch_single hpre hpost ht, hh]

/-- The `n`-th plugin alone takes the packet's type `w`. -/
theorem dispatch_alone (n : Nat) {p p' : Plugin} {replies : List Packet} {w : String}
    (h : pkt.ptype = w) (hp : r.plugins = r.plugins.take n ++ p :: r.plugins.drop (n + 1))
    (ht : p.takes w = true)
    (hpre : ((r.plugins.take n).all fun q => !q.takes w) = true)
    (hpost : ((r.plugins.drop (n + 1)).all fun q => !q.takes w) = true)
    (hh : p.handle amb pkt = (p', replies)) :
    dispatch amb pkt r.plugins =
      (r.plugins.take n ++ p' :: r.plugins.drop (n + 1), replies) := by
  subst h
  exact dispatch_at n hp ht (ignores_of_not_takes hpre) (ignores_of_not_takes hpost) hh

section Handles

/- What each plugin does with the types the registry hands it. -/

theorem handle_battery {p : BatteryPlugin} (h : pkt.ptype = typeBattery) :
    (Plugin.battery p).handle amb pkt = (.battery (p.recordRemote amb pkt), []) := by
  rw [Plugin.handle, BatteryPlugin.handle, if_neg (by rw [h]; decide), if_pos h]
  rfl

theorem handle_findMyPhone {p : FindMyPhonePlugin} (h : pkt.ptype = typeFindmyphone) :
    (Plugin.findMyPhone p).handle amb pkt =
      (.findMyPhone (p.applyAction amb pkt.body).1, (p.applyAction amb pkt.body).2.toList) := by
  rw [Plugin.handle, FindMyPhonePlugin.handle, if_pos h]
  rfl

theorem handle_mpris {p : MprisPlugin} (h : pkt.ptype = typeMprisRequest) :
    (Plugin.mpris p).handle amb pkt =
      (.mpris (p.handleRequest amb pkt.body).1, (p.handleRequest amb pkt.body).2) := by
  rw [Plugin.handle, MprisPlugin.handle, if_pos h]
  rfl

variable {p : NotificationsPlugin}

theorem handle_notifications_relay (h : pkt.ptype = typeNotification) :
    (Plugin.notifications p).handle amb pkt =
      (.notifications (p.relay amb pkt.body).1, (p.relay amb pkt.body).2) := by
  rw [Plugin.handle, NotificationsPlugin.handle, if_pos h]
  rfl

theorem handle_notifications_act (h : pkt.ptype = typeNotificationRequest) :
    (Plugin.notifications p).handle amb pkt = (.notifications (p.act pkt.body), []) := by
  rw [Plugin.handle, NotificationsPlugin.handle, if_neg (by rw [h]; decide), if_pos h]
  rfl

theorem handle_ping {p : PingPlugin} (h : pkt.ptype = typePing) :
    (Plugin.ping p).handle amb pkt =
      (.ping { lastPingAt := some amb.clock }, [.new amb.freshId typePing (.object [])]) := by
  rw [Plugin.handle, PingPlugin.handle, if_pos h]
  rfl

theorem handle_runCommands_sync {p : RunCommandsPlugin} (h : pkt.ptype = typeRuncommand) :
    (Plugin.runCommands p).handle amb pkt = (.runCommands (p.handleSync pkt), []) := by
  rw [Plugin.handle, RunCommandsPlugin.handle, if_neg (by rw [h]; decide), if_pos h]
  rfl

theorem handle_runCommands_request {p : RunCommandsPlugin}
    (h : pkt.ptype = typeRuncommandRequest) :
    (Plugin.runCommands p).handle amb pkt = (.runCommands p, p.handleRequest amb pkt) := by
  rw [Plugin.handle, RunCommandsPlugin.handle, if_pos h]
  rfl

theorem handle_share {p : SharePlugin} (h : pkt.ptype = typeShare) :
    (Plugin.share p).handle amb pkt = (.share (p.handle pkt).1, []) := by
  rw [Plugin.handle, SharePlugin.handle, if_pos h]
  cases SharePlugin.classify pkt.body <;> rfl

theorem handle_systemVolume {p : SystemVolumePlugin} (h : pkt.ptype = typeSystemvolume) :
    (Plugin.systemVolume p).handle amb pkt = (.systemVolume (p.observe pkt.body), []) := by
  rw [Plugin.handle, SystemVolumePlugin.handle, if_pos h]
  rfl

theorem handle_telephony {p : TelephonyPlugin} (h : pkt.ptype = typeTelephony) :
    (Plugin.telephony p).handle amb pkt =
      (.telephony (p.record amb pkt).1, (p.record amb pkt).2) := by
  rw [Plugin.handle, TelephonyPlugin.handle, if_pos h]
  rfl

end Handles

/-- The pause-music plugin is handed telephony packets only, and ignores them. -/
theorem pauseMusic_ignores {p : PauseMusicPlugin} : (Plugin.pauseMusic p).Ignores pkt := by
  intro ht amb
  have htype : pkt.ptype = typeTelephony := by
    simpa [Plugin.takes, Plugin.metadata, PluginMeta.pauseMusic] using ht
  rw [Plugin.handle, PauseMusicPlugin.handle, if_neg (by rw [htype]; decide)]
  rfl

theorem ignores_of_no_kind (h : PacketKind.of pkt.ptype = none) :
    ∀ p ∈ r.plugins, p.Ignores pkt := by
  have hne := PacketKind.of_eq_none.mp h
  have hfind : ¬ pkt.ptype = typeFindmyphone := hne .findMyPhone
  have hmpris : ¬ pkt.ptype = typeMprisRequest := hne .mprisRequest
  have hnote : ¬ pkt.ptype = typeNotification := hne .notification
  have hact : ¬ pkt.ptype = typeNotificationRequest := hne .notificationRequest
  have hping : ¬ pkt.ptype = typePing := hne .ping
  have hrun : ¬ pkt.ptype = typeRuncommandRequest := hne .runCommandRequest
  have hsync : ¬ pkt.ptype = typeRuncommand := hne .runCommand
  have hshare : ¬ pkt.ptype = typeShare := hne .share
  have hvolume : ¬ pkt.ptype = typeSystemvolume := hne .systemVolume
  have hcall : ¬ pkt.ptype = typeTelephony := hne .telephony
  intro p hp
  simp only [plugins, List.mem_cons, List.not_mem_nil, or_false] at hp
  rcases hp with rfl | rfl | rfl | rfl | rfl | rfl | rfl | rfl | rfl | rfl | rfl | rfl | rfl |
    rfl | rfl | rfl | rfl
  · -- the battery plugin answers requests it is never handed
    intro ht
    have htype : pkt.ptype = typeBattery := by
      simpa [Plugin.takes, Plugin.metadata, PluginMeta.battery] using ht
    exact absurd htype (hne .battery)
  case inr.inr.inr.inr.inr.inr.inr.inr.inl => exact pauseMusic_ignores
  all_goals intro ht amb
  all_goals simp [Plugin.handle, FindMyPhonePlugin.handle, MprisPlugin.handle,
    NotificationsPlugin.handle, PingPlugin.handle, RunCommandsPlugin.handle, SharePlugin.handle,
    SystemVolumePlugin.handle, TelephonyPlugin.handle, hfind, hmpris, hnote, hact, hping, hrun,
    hsync, hshare, hvolume, hcall]

/-- **Dispatch.** The loop over the registry computes `receive`. -/
theorem dispatch_plugins (r : Roster) (amb : Ambient) (pkt : Packet) :
    dispatch amb pkt r.plugins = ((r.receive amb pkt).1.plugins, (r.receive amb pkt).2) := by
  unfold receive
  cases hk : PacketKind.of pkt.ptype with
  | none => exact dispatch_of_ignored fun p hp ht => ignores_of_no_kind hk p hp ht
  | some k =>
    have h := PacketKind.of_eq_some.mp hk
    cases k with
    | battery => exact dispatch_alone 0 h rfl rfl rfl rfl (handle_battery h)
    | findMyPhone => exact dispatch_alone 4 h rfl rfl rfl rfl (handle_findMyPhone h)
    | mprisRequest => exact dispatch_alone 6 h rfl rfl rfl rfl (handle_mpris h)
    | notification => exact dispatch_alone 7 h rfl rfl rfl rfl (handle_notifications_relay h)
    | notificationRequest => exact dispatch_alone 7 h rfl rfl rfl rfl (handle_notifications_act h)
    | ping => exact dispatch_alone 9 h rfl rfl rfl rfl (handle_ping h)
    | runCommand => exact dispatch_alone 10 h rfl rfl rfl rfl (handle_runCommands_sync h)
    | runCommandRequest => exact dispatch_alone 10 h rfl rfl rfl rfl (handle_runCommands_request h)
    | share => exact dispatch_alone 12 h rfl rfl rfl rfl (handle_share h)
    | systemVolume => exact dispatch_alone 14 h rfl rfl rfl rfl (handle_systemVolume h)
    | telephony =>
      -- the pause-music plugin takes the packet too, and ignores it
      have hpre : ∀ q ∈ r.plugins.take 15, q.Ignores pkt := by
        intro q hq
        have hq' : q ∈ r.plugins.take 8 ++
            .pauseMusic r.pauseMusic :: (r.plugins.drop 9).take 6 := hq
        rcases List.mem_append.mp hq' with hq | hq
        · exact ignores_of_not_takes (by rw [h]; rfl) q hq
        · rcases List.mem_cons.mp hq with rfl | hq
          · exact pauseMusic_ignores
          · exact ignores_of_not_takes (by rw [h]; rfl) q hq
      exact dispatch_at 15 rfl (by rw [h]; rfl) hpre (ignores_of_not_takes (by rw [h]; rfl))
        (handle_telephony h)

/-! ## At most one answer -/

theorem applyAction_length {p : FindMyPhonePlugin} :
    (p.applyAction amb body).2.toList.length ≤ 1 := by
  cases (p.applyAction amb body).2 <;> simp

theorem handleRequest_length {p : MprisPlugin} :
    (p.handleRequest amb body).2.length ≤ 1 := by
  unfold MprisPlugin.handleRequest
  repeat' split
  all_goals simp

theorem relay_length {p : NotificationsPlugin} :
    (p.relay amb body).2.length ≤ 1 := by
  unfold NotificationsPlugin.relay
  simp only
  split <;> simp

theorem runRequest_length {p : RunCommandsPlugin} : (p.handleRequest amb pkt).length ≤ 1 := by
  unfold RunCommandsPlugin.handleRequest
  repeat' split
  all_goals simp

theorem record_length {p : TelephonyPlugin} : (p.record amb pkt).2.length ≤ 1 := by
  unfold TelephonyPlugin.record
  split
  · simp
  · simp only
    split <;> simp

/-- A packet gets at most one answer. -/
theorem receive_replies_length_le (r : Roster) (amb : Ambient) (pkt : Packet) :
    (r.receive amb pkt).2.length ≤ 1 := by
  unfold receive
  split
  · simp
  · exact applyAction_length
  · exact handleRequest_length
  · exact relay_length
  · simp
  · simp
  · simp
  · exact runRequest_length
  · simp
  · simp
  · exact record_length
  · simp

end Roster
end Handfast.Plugins
