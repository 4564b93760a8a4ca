/-
  Handfast.Plugins.Registry

  The plugin interface, the roster of factories and packet dispatch
  (`crates/plugins/src/{lib,stubs}.rs` and `Manager::dispatch_to_plugins`).

  `Plugin` is the closed sum of the plugins the registry builds.  A stub
  carries its metadata and ignores every packet.  Dispatch hands a packet to
  each plugin whose `incoming` list names its type, in roster order, and
  concatenates the replies.
-/
import Handfast.Plugins.Handlers

namespace Handfast.Plugins

open Handfast.Lib Handfast.Protocol

inductive Plugin where
  | battery (p : BatteryPlugin)
  | stub (m : PluginMeta)
  | findMyPhone (p : FindMyPhonePlugin)
  | mpris (p : MprisPlugin)
  | notifications (p : NotificationsPlugin)
  | pauseMusic (p : PauseMusicPlugin)
  | ping (p : PingPlugin)
  | runCommands (p : RunCommandsPlugin)
  | share (p : SharePlugin)
  | systemVolume (p : SystemVolumePlugin)
  | telephony (p : TelephonyPlugin)

namespace Plugin

def metadata : Plugin → PluginMeta
  | battery _ => .battery
  | stub m => m
  | findMyPhone _ => .findmyphone
  | mpris _ => .mpris
  | notifications _ => .notifications
  | pauseMusic _ => .pauseMusic
  | ping _ => .ping
  | runCommands _ => .runCommands
  | share _ => .share
  | systemVolume _ => .systemVolume
  | telephony _ => .telephony

def handle (p : Plugin) (amb : Ambient) (pkt : Packet) : Plugin × List Packet :=
  match p with
  | battery p => (p.handle amb pkt).map .battery id
  | stub m => (stub m, [])
  | findMyPhone p => (p.handle amb pkt).map .findMyPhone id
  | mpris p => (p.handle amb pkt).map .mpris id
  | notifications p => (p.handle amb pkt).map .notifications id
  | pauseMusic p => (p.handle pkt).map .pauseMusic id
  | ping p => (p.handle amb pkt).map .ping id
  | runCommands p => (p.handle amb pkt).map .runCommands id
  | share p => (p.handle pkt).map .share id
  | systemVolume p => (p.handle pkt).map .systemVolume id
  | telephony p => (p.handle amb pkt).map .telephony id

/-- Whether dispatch hands packets of this type to the plugin. -/
def takes (p : Plugin) (ptype : String) : Bool := p.metadata.incoming.contains ptype

end Plugin

/-- Hand a packet to every plugin that takes its type; a reply's id is drawn
    after those of the earlier plugins' replies. -/
def dispatch (amb : Ambient) (pkt : Packet) : List Plugin → List Plugin × List Packet
  | [] => ([], [])
  | p :: rest =>
    if p.takes pkt.ptype then
      let (p', produced) := p.handle amb pkt
      let (rest', replies) := dispatch (amb.after produced.length) pkt rest
      (p' :: rest', produced ++ replies)
    else
      let (rest', replies) := dispatch amb pkt rest
      (p :: rest', replies)

/-! ## The roster -/

/-- The states of one device's plugins; the stubs have none. -/
structure Roster where
  battery : BatteryPlugin
  findMyPhone : FindMyPhonePlugin
  mpris : MprisPlugin
  notifications : NotificationsPlugin
  pauseMusic : PauseMusicPlugin
  ping : PingPlugin
  runCommands : RunCommandsPlugin
  share : SharePlugin
  systemVolume : SystemVolumePlugin
  telephony : TelephonyPlugin

namespace Roster

def plugins (r : Roster) : List Plugin :=
  [.battery r.battery, .stub .clipboard, .stub .connectivityReport, .stub .contacts,
   .findMyPhone r.findMyPhone, .stub .mousepad, .mpris r.mpris,
   .notifications r.notifications, .pauseMusic r.pauseMusic, .ping r.ping,
   .runCommands r.runCommands, .stub .remoteFilesystem, .share r.share, .stub .sms,
   .systemVolume r.systemVolume, .telephony r.telephony, .stub .virtualInput]

def fresh : Roster where
  battery := .new
  findMyPhone := .new
  mpris := .new
  notifications := .new
  pauseMusic := .new
  ping := .new
  runCommands := .new
  share := .new
  systemVolume := .new
  telephony := .new

end Roster

/-- The instances every factory of the registry creates, in order. -/
def registry : List Plugin := Roster.fresh.plugins

/-! ## Frame lemmas of dispatch -/

variable {rest : List Plugin} {amb : Ambient} {pkt : Packet}

theorem dispatch_cons_of_takes {p : Plugin} (h : p.takes pkt.ptype = true) :
    dispatch amb pkt (p :: rest) =
      ((p.handle amb pkt).1 ::
          (dispatch (amb.after (p.handle amb pkt).2.length) pkt rest).1,
        (p.handle amb pkt).2 ++
          (dispatch (amb.after (p.handle amb pkt).2.length) pkt rest).2) := by
  rw [dispatch, if_pos h]

theorem dispatch_cons_of_not_takes {p : Plugin} (h : p.takes pkt.ptype = false) :
    dispatch amb pkt (p :: rest) =
      (p :: (dispatch amb pkt rest).1, (dispatch amb pkt rest).2) := by
  rw [dispatch, if_neg (by simp [h])]

/-- A packet that no plugin reacts to passes through dispatch without a trace. -/
theorem dispatch_of_ignored {ps : List Plugin}
    (h : ∀ p ∈ ps, p.takes pkt.ptype = true → ∀ amb, p.handle amb pkt = (p, [])) :
    dispatch amb pkt ps = (ps, []) := by
  induction ps generalizing amb with
  | nil => rfl
  | cons p rest ih =>
    have ih' : ∀ amb, dispatch amb pkt rest = (rest, []) :=
      fun _ => ih fun q hq => h q (List.mem_cons_of_mem _ hq)
    cases ht : p.takes pkt.ptype with
    | true =>
      rw [dispatch_cons_of_takes ht, h p List.mem_cons_self ht amb]
      simp [ih']
    | false =>
      rw [dispatch_cons_of_not_takes ht]
      simp [ih']

end Handfast.Plugins
