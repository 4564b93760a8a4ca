/-
  Handfast.Plugins.Advertise

  What the plugins declare against what they do.  The metadata of a plugin lists
  the packet types it takes and those it may send; dispatch hands it no other
  packets, and the daemon advertises the union of the lists in its identity
  (`build_self_identity` of `crates/daemon/src/main.rs`).

  `Plugin.handled` and `Plugin.sends` list the types a handler really reacts to
  and answers with (`handle_foreign`, `handle_replies`).  For all plugins but two
  they are among the declared ones.  The battery plugin has its two types the
  wrong way round: it answers battery requests, which it does not declare, with
  reports, which it does not declare either.  The pause-music plugin declares
  the telephony packets it ignores and not the media packets it learns from.
-/
import Handfast.Plugins.Receive
import Handfast.Plugins.PauseMusic

namespace Handfast.Plugins

open Handfast.Lib Handfast.Protocol

/-- Advertised identity: capabilities aggregated from every registered plugin. -/
def buildSelfIdentity (deviceId name : String) (tcpPort : UInt16) : Identity where
  deviceId := deviceId
  name := name
  deviceType := "desktop"
  protocolVersion := protoVersion
  -- a sorted set of strings
  incoming := (registry.flatMap fun p => p.metadata.incoming).dedup.mergeSort
  outgoing := (registry.flatMap fun p => p.metadata.outgoing).dedup.mergeSort
  tcpSourcePort := tcpPort

namespace Plugin

variable {p : Plugin} {amb : Ambient} {pkt : Packet}

/-! ## What the handlers do -/

/-- The types a handler reacts to. -/
def handled : Plugin → List String
  | battery _ => [typeBatteryRequest, typeBattery]
  | stub _ => []
  | findMyPhone _ => [typeFindmyphone]
  | mpris _ => [typeMprisRequest]
  | notifications _ => [typeNotification, typeNotificationRequest]
  | pauseMusic _ => [typeMpris]
  | ping _ => [typePing]
  | runCommands _ => [typeRuncommandRequest, typeRuncommand]
  | share _ => [typeShare]
  | systemVolume _ => [typeSystemvolume]
  | telephony _ => [typeTelephony]

def sends : Plugin → List String
  | battery _ => [typeBattery]
  | findMyPhone _ => [typeFindmyphone]
  | mpris _ => [typeMprisRequest]
  | notifications _ => [typeNotification]
  | ping _ => [typePing]
  | runCommands _ => [typeRuncommandRequest]
  | telephony p => if p.pauseMusicOnRing then [typeMprisRequest] else []
  | stub _ | pauseMusic _ | share _ | systemVolume _ => []

/-- A handler ignores packets of other types. -/
theorem handle_foreign (h : pkt.ptype ∉ p.handled) : p.handle amb pkt = (p, []) := by
  cases p with
  | stub m => rfl
  | battery p =>
    simp only [handled, List.mem_cons, List.not_mem_nil, or_false, not_or] at h
    simp [handle, BatteryPlugin.handle, h]
  | notifications p =>
    simp only [handled, List.mem_cons, List.not_mem_nil, or_false, not_or] at h
    simp [handle, NotificationsPlugin.handle, h]
  | runCommands p =>
    simp only [handled, List.mem_cons, List.not_mem_nil, or_false, not_or] at h
    simp [handle, RunCommandsPlugin.handle, h]
  -- the others handle one type each
  | findMyPhone p =>
    rw [handled, List.mem_singleton] at h
    simp [handle, FindMyPhonePlugin.handle, h]
  | mpris p =>
    rw [handled, List.mem_singleton] at h
    simp [handle, MprisPlugin.handle, h]
  | pauseMusic p =>
    rw [handled, List.mem_singleton] at h
    simp [handle, PauseMusicPlugin.handle, h]
  | ping p =>
    rw [handled, List.mem_singleton] at h
    simp [handle, PingPlugin.handle, h]
  | share p =>
    rw [handled, List.mem_singleton] at h
    simp [handle, SharePlugin.handle, h]
  | systemVolume p =>
    rw [handled, List.mem_singleton] at h
    simp [handle, SystemVolumePlugin.handle, h]
  | telephony p =>
    rw [handled, List.mem_singleton] at h
    simp [handle, TelephonyPlugin.handle, h]

/-- Every reply has a type on the plugin's list. -/
theorem handle_replies {reply : Packet} (h : reply ∈ (p.handle amb pkt).2) :
    reply.ptype ∈ p.sends := by
  cases p with
  | stub m => cases h
  | battery p =>
    simp only [handle, BatteryPlugin.handle] at h
    split at h
    · simp [List.mem_singleton.mp h, sends, buildReport, Packet.new]
    · split at h <;> cases h
  | findMyPhone p =>
    -- only `start` and `stop` are answered
    simp only [handle, FindMyPhonePlugin.handle, FindMyPhonePlugin.applyAction] at h
    split at h
    · split at h
      · split at h
        · simp [List.mem_singleton.mp h, sends, Packet.new]
        · split at h
          · simp [List.mem_singleton.mp h, sends, Packet.new]
          · cases h
      · cases h
    · cases h
  | mpris p =>
    simp only [handle, MprisPlugin.handle, MprisPlugin.handleRequest] at h
    split at h
    · split at h
      · split at h
        · cases h
        · split at h
          · cases h
          · simp [List.mem_singleton.mp h, sends, Packet.new]
      · cases h
    · cases h
  | notifications p =>
    simp only [handle, NotificationsPlugin.handle, NotificationsPlugin.relay] at h
    split at h
    · split at h
      · cases h
      · simp [List.mem_singleton.mp h, sends, Packet.new]
    · split at h <;> cases h
  | pauseMusic p =>
    simp only [handle, PauseMusicPlugin.handle] at h
    split at h <;> cases h
  | ping p =>
    simp only [handle, PingPlugin.handle] at h
    split at h
    · simp [List.mem_singleton.mp h, sends, Packet.new]
    · cases h
  | runCommands p =>
    simp only [handle, RunCommandsPlugin.handle, RunCommandsPlugin.handleRequest] at h
    split at h
    · split at h
      · cases h
      · split at h
        · cases h
        · simp [List.mem_singleton.mp h, sends, Packet.new]
    · split at h <;> cases h
  | share p =>
    -- a share is taken without an answer
    simp only [handle, SharePlugin.handle] at h
    split at h
    · split at h <;> cases h
    · cases h
  | systemVolume p =>
    simp only [handle, SystemVolumePlugin.handle] at h
    split at h <;> cases h
  | telephony p =>
    simp only [handle, TelephonyPlugin.handle, TelephonyPlugin.record] at h
    split at h
    · split at h
      · cases h
      · simp only [Prod.map, id] at h
        split at h
        -- music is paused only with the option on, as `sends` has it
        · rename_i hring
          simp [List.mem_singleton.mp h, sends, hring.2, Packet.new]
        · cases h
    · cases h

/-! ## Declared and real types -/

structure Declared (q : Plugin) (amb : Ambient) (pkt : Packet) : Prop where
  /-- It reacts to types it takes. -/
  incoming : q.handle amb pkt ≠ (q, []) → pkt.ptype ∈ q.metadata.incoming
  outgoing : ∀ reply ∈ (q.handle amb pkt).2, reply.ptype ∈ q.metadata.outgoing
  /-- Dispatch lets it react. -/
  dispatched : dispatch amb pkt [q] = ([(q.handle amb pkt).1], (q.handle amb pkt).2)
  /-- Peers are told of its answers. -/
  advertised : ∀ deviceId name tcpPort, ∀ reply ∈ (q.handle amb pkt).2,
    reply.ptype ∈ (buildSelfIdentity deviceId name tcpPort).outgoing

def Undeclared (pkt : Packet) : Plugin → Prop
  | battery _ => pkt.ptype = typeBatteryRequest
  | pauseMusic p => pkt.ptype = typeMpris ∧
      ∃ name ∈ playersIn pkt.body, name ≠ "" ∧ name ∉ p.knownPlayers
  | _ => False

/-- No music is paused by the telephony plugin: nothing turns that on. -/
def NoPause : Plugin → Prop
  | telephony p => p.pauseMusicOnRing = false
  | _ => True

theorem NoPause.handle (h : p.NoPause) (amb : Ambient) (pkt : Packet) :
    (p.handle amb pkt).1.NoPause := by
  cases p with
  | telephony p =>
    simp only [Plugin.handle, TelephonyPlugin.handle, TelephonyPlugin.record]
    split
    · split
      · exact h
      · exact h
    · exact h
  | _ => trivial

theorem registry_noPause : ∀ p ∈ registry, p.NoPause := by
  simp [registry, Roster.plugins, Roster.fresh, NoPause, TelephonyPlugin.new]

theorem registered (p : Plugin) : p.sends = [] ∨ ∃ q ∈ registry, q.metadata = p.metadata := by
  cases p with
  | stub m => exact .inl rfl
  | battery p => exact .inr ⟨.battery .new, by simp [registry, Roster.plugins, Roster.fresh], rfl⟩
  | findMyPhone p =>
    exact .inr ⟨.findMyPhone .new, by simp [registry, Roster.plugins, Roster.fresh], rfl⟩
  | mpris p => exact .inr ⟨.mpris .new, by simp [registry, Roster.plugins, Roster.fresh], rfl⟩
  | notifications p =>
    exact .inr ⟨.notifications .new, by simp [registry, Roster.plugins, Roster.fresh], rfl⟩
  | pauseMusic p => exact .inl rfl
  | ping p => exact .inr ⟨.ping .new, by simp [registry, Roster.plugins, Roster.fresh], rfl⟩
  | runCommands p =>
    exact .inr ⟨.runCommands .new, by simp [registry, Roster.plugins, Roster.fresh], rfl⟩
  | share p => exact .inl rfl
  | systemVolume p => exact .inl rfl
  | telephony p =>
    exact .inr ⟨.telephony .new, by simp [registry, Roster.plugins, Roster.fresh], rfl⟩

/-- A type it answers with and declares is advertised. -/
theorem mem_advertised {deviceId name : String} {tcpPort : UInt16} {ptype : String}
    (hsends : ptype ∈ p.sends) (hout : ptype ∈ p.metadata.outgoing) :
    ptype ∈ (buildSelfIdentity deviceId name tcpPort).outgoing := by
  rw [buildSelfIdentity, List.mem_mergeSort, List.mem_dedup, List.mem_flatMap]
  rcases p.registered with hnone | ⟨q, hq, hmeta⟩
  · rw [hnone] at hsends
    cases hsends
  · exact ⟨q, hq, hmeta ▸ hout⟩

theorem Declared.of_lists (hin : p.handle amb pkt ≠ (p, []) → pkt.ptype ∈ p.metadata.incoming)
    (hout : ∀ reply ∈ (p.handle amb pkt).2, reply.ptype ∈ p.metadata.outgoing) :
    Declared p amb pkt where
  incoming := hin
  outgoing := hout
  dispatched := by
    cases htakes : p.takes pkt.ptype with
    | true =>
      rw [dispatch_cons_of_takes htakes]
      simp [dispatch]
    | false =>
      have hidle : p.handle amb pkt = (p, []) := by
        by_contra hreacts
        have htaken : p.takes pkt.ptype = true := by simpa [takes] using hin hreacts
        rw [htakes] at htaken
        cases htaken
      rw [dispatch_cons_of_not_takes htakes, hidle]
      rfl
  advertised _ _ _ reply hreply := mem_advertised (handle_replies hreply) (hout reply hreply)

/-- A plugin whose metadata covers what it handles and sends. -/
theorem Declared.of_handled (hin : ∀ ptype ∈ p.handled, ptype ∈ p.metadata.incoming)
    (hout : ∀ ptype ∈ p.sends, ptype ∈ p.metadata.outgoing) : Declared p amb pkt := by
  refine .of_lists (fun hreacts => hin _ ?_) fun reply hreply => hout _ (handle_replies hreply)
  by_contra hforeign
  exact hreacts (handle_foreign hforeign)

theorem declared_battery {p : BatteryPlugin} :
    Declared (battery p) amb pkt ↔ pkt.ptype ≠ typeBatteryRequest := by
  constructor
  · intro hdeclared hrequest
    have hreacts : (battery p).handle amb pkt ≠ (battery p, []) := by
      simp [handle, BatteryPlugin.handle, hrequest]
    have hin : pkt.ptype ∈ PluginMeta.battery.incoming := hdeclared.incoming hreacts
    rw [hrequest] at hin
    exact absurd hin (by decide)
  · intro hother
    -- nothing is sent, and reports are declared
    have hquiet : ((battery p).handle amb pkt).2 = [] := by
      simp only [handle, BatteryPlugin.handle, if_neg hother]
      split <;> rfl
    refine .of_lists (fun hreacts => ?_) (by simp [hquiet])
    by_contra hreport
    have hforeign : pkt.ptype ∉ (battery p).handled := by
      simpa [handled, metadata, PluginMeta.battery, hother] using hreport
    exact hreacts (handle_foreign hforeign)

theorem declared_pauseMusic {p : PauseMusicPlugin} :
    Declared (pauseMusic p) amb pkt ↔
      ¬ (pkt.ptype = typeMpris ∧
        ∃ name ∈ playersIn pkt.body, name ≠ "" ∧ name ∉ p.knownPlayers) := by
  have hidle : (pauseMusic p).handle amb pkt = (pauseMusic p, []) ↔
      ¬ (pkt.ptype = typeMpris ∧
        ∃ name ∈ playersIn pkt.body, name ≠ "" ∧ name ∉ p.knownPlayers) := by
    by_cases htype : pkt.ptype = typeMpris
    · have hlearn : p.learnPlayers pkt.body = p ↔
          ∀ name ∈ playersIn pkt.body, name ≠ "" → name ∈ p.knownPlayers := learnPlayers_eq_self
      simp [handle, PauseMusicPlugin.handle, htype, hlearn]
    · simp [handle, PauseMusicPlugin.handle, htype]
  rw [← hidle]
  constructor
  · intro hdeclared
    by_contra hreacts
    have hin : pkt.ptype ∈ PluginMeta.pauseMusic.incoming := hdeclared.incoming hreacts
    -- it reacts to media packets only, and declares telephony packets
    have htype : pkt.ptype = typeMpris := by
      by_contra hother
      exact hreacts (handle_foreign (by simpa [handled] using hother))
    rw [htype] at hin
    exact absurd hin (by decide)
  · intro hsame
    refine .of_lists (fun hreacts => absurd hsame hreacts) ?_
    rw [hsame]
    exact List.forall_mem_nil _

theorem declared_iff (h : p.NoPause) : Declared p amb pkt ↔ ¬ Undeclared pkt p := by
  cases p with
  | battery p => exact declared_battery
  | pauseMusic p => exact declared_pauseMusic
  | stub m =>
    exact iff_of_true (.of_lists (fun hreacts => absurd rfl hreacts) (List.forall_mem_nil _)) id
  | telephony p =>
    have hnone : (telephony p).sends = [] := if_neg (by simpa [NoPause] using h)
    exact iff_of_true (.of_handled (by simp [handled, metadata, PluginMeta.telephony])
      (by rw [hnone]; exact List.forall_mem_nil _)) id
  | findMyPhone p | mpris p | notifications p | ping p | runCommands p | share p
  | systemVolume p =>
    refine iff_of_true (.of_handled ?_ ?_) id
    · simp [handled, metadata, PluginMeta.findmyphone, PluginMeta.mpris,
        PluginMeta.notifications, PluginMeta.ping, PluginMeta.runCommands, PluginMeta.share,
        PluginMeta.systemVolume]
    · simp [sends, metadata, PluginMeta.findmyphone, PluginMeta.mpris,
        PluginMeta.notifications, PluginMeta.ping, PluginMeta.runCommands]

/-- **Declared capabilities.** Every plugin of the registry, after any packets, does with every
    packet what it declares, unless the packet is a battery request for the battery plugin or
    names a new player to the pause-music plugin. -/
theorem declared_capabilities_iff (history : List (Ambient × Packet)) (amb : Ambient)
    (pkt : Packet) :
    ∀ p ∈ registry,
      let q := run (fun p x => (p.handle x.1 x.2).1) p history
      Declared q amb pkt ↔ ¬ Undeclared pkt q := by
  intro p hp q
  exact declared_iff
    (allStates_of_preserved (registry_noPause p hp) fun p x h => h.handle x.1 x.2).last

/-- A ping is answered as declared by the first ping plugin. -/
theorem declared_capabilities_iff_ping :
    Declared (ping .new) ⟨0, none, 0⟩ (.new 1 typePing (.object [])) :=
  (declared_capabilities_iff [] ⟨0, none, 0⟩ (.new 1 typePing (.object [])) (ping .new)
    (by simp [registry, Roster.plugins, Roster.fresh])).mpr id

/-- A fresh battery plugin answers a request it does not declare. -/
theorem battery_request_undeclared :
    battery .new ∈ registry ∧
      ¬ Declared (battery .new) ⟨0, none, 0⟩ (.new 1 typeBatteryRequest .null) := by
  refine ⟨by simp [registry, Roster.plugins, Roster.fresh], fun hdeclared => ?_⟩
  exact declared_battery.mp hdeclared rfl

end Plugin

end Handfast.Plugins
