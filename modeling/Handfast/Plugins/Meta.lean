/-
  Handfast.Plugins.Meta

  Compile-time plugin metadata (`crates/plugins/src/meta.rs`): the packet types
  each plugin of the roster takes and may send, and its flags.

  The notifications relay does not use its entry of that file; it carries a
  constant of its own, with a shorter list of types, and that one is given here.
-/
import Handfast.Protocol.Packet

namespace Handfast.Plugins

open Handfast.Protocol

structure PluginMeta where
  name : String
  title : String
  /-- Packet types this plugin handles when inbound. -/
  incoming : List String
  /-- Packet types this plugin may emit outbound. -/
  outgoing : List String
  defaultEnabled : Bool
  requiresWayland : Bool
  requiresDbus : Bool
  deriving DecidableEq, Repr, Inhabited

namespace PluginMeta

def battery : PluginMeta where
  name := "battery"
  title := "Battery report"
  incoming := ["kdeconnect.battery"]
  outgoing := ["kdeconnect.battery.request"]
  defaultEnabled := true
  requiresWayland := false
  requiresDbus := false

def clipboard : PluginMeta where
  name := "clipboard"
  title := "Clipboard sync"
  incoming := ["kdeconnect.clipboard"]
  outgoing := ["kdeconnect.clipboard", "kdeconnect.clipboard.connect"]
  defaultEnabled := true
  requiresWayland := true
  requiresDbus := false

def connectivityReport : PluginMeta where
  name := "connectivity_report"
  title := "Connectivity report"
  incoming := ["kdeconnect.connectivity_report"]
  outgoing := ["kdeconnect.connectivity_report.request"]
  defaultEnabled := true
  requiresWayland := false
  requiresDbus := false

def contacts : PluginMeta where
  name := "contacts"
  title := "Contacts"
  incoming :=
    ["kdeconnect.contacts.response_uids_timestamps",
     "kdeconnect.contacts.response_vcards"]
  outgoing :=
    ["kdeconnect.contacts.request_all_uids",
     "kdeconnect.contacts.request_uids_by_timestamp",
     "kdeconnect.contacts.request_vcards_by_uid"]
  defaultEnabled := true
  requiresWayland := false
  requiresDbus := false

def findmyphone : PluginMeta where
  name := "findmyphone"
  title := "Find my phone"
  incoming := ["kdeconnect.findmyphone.request"]
  outgoing := ["kdeconnect.findmyphone.request"]
  defaultEnabled := true
  requiresWayland := false
  requiresDbus := false

def mousepad : PluginMeta where
  name := "mousepad"
  title := "Remote input"
  incoming := ["kdeconnect.mousepad.request", "kdeconnect.mousepad.keyboardstate"]
  outgoing := ["kdeconnect.mousepad.echo", "kdeconnect.mousepad.keyboardstate"]
  defaultEnabled := true
  requiresWayland := true
  requiresDbus := false

def mpris : PluginMeta where
  name := "mpris"
  title := "Media player control"
  incoming := ["kdeconnect.mpris", "kdeconnect.mpris.request"]
  outgoing := ["kdeconnect.mpris", "kdeconnect.mpris.request"]
  defaultEnabled := true
  requiresWayland := false
  requiresDbus := true

def pauseMusic : PluginMeta where
  name := "pause_music"
  title := "Pause music on call"
  incoming := ["kdeconnect.telephony"]
  outgoing := ["kdeconnect.mpris.request"]
  defaultEnabled := false
  requiresWayland := false
  requiresDbus := true

def ping : PluginMeta where
  name := "ping"
  title := "Ping"
  incoming := ["kdeconnect.ping"]
  outgoing := ["kdeconnect.ping"]
  defaultEnabled := true
  requiresWayland := false
  requiresDbus := false

def runCommands : PluginMeta where
  name := "run_commands"
  title := "Run commands"
  incoming := ["kdeconnect.runcommand", "kdeconnect.runcommand.request"]
  outgoing := ["kdeconnect.runcommand", "kdeconnect.runcommand.request"]
  defaultEnabled := true
  requiresWayland := false
  requiresDbus := false

def remoteFilesystem : PluginMeta where
  name := "remote_filesystem"
  title := "Remote filesystem"
  incoming := ["kdeconnect.sftp"]
  outgoing := ["kdeconnect.sftp"]
  defaultEnabled := false
  requiresWayland := false
  requiresDbus := false

def share : PluginMeta where
  name := "share"
  title := "Share"
  incoming := ["kdeconnect.share.request"]
  outgoing := ["kdeconnect.share.request"]
  defaultEnabled := true
  requiresWayland := false
  requiresDbus := false

def sms : PluginMeta where
  name := "sms"
  title := "SMS messages"
  incoming := ["kdeconnect.sms.messages", "kdeconnect.sms.request"]
  outgoing := ["kdeconnect.sms.messages", "kdeconnect.sms.request"]
  defaultEnabled := true
  requiresWayland := false
  requiresDbus := false

def systemVolume : PluginMeta where
  name := "system_volume"
  title := "System volume"
  incoming := ["kdeconnect.systemvolume", "kdeconnect.systemvolume.request"]
  outgoing := ["kdeconnect.systemvolume", "kdeconnect.systemvolume.request"]
  defaultEnabled := true
  requiresWayland := false
  requiresDbus := false

def telephony : PluginMeta where
  name := "telephony"
  title := "Telephony"
  incoming := ["kdeconnect.telephony"]
  outgoing := []
  defaultEnabled := true
  requiresWayland := false
  requiresDbus := true

def virtualInput : PluginMeta where
  name := "virtual_input"
  title := "Virtual input"
  incoming := ["kdeconnect.virtualinput"]
  outgoing := ["kdeconnect.virtualinput"]
  defaultEnabled := true
  requiresWayland := true
  requiresDbus := false

/-- Metadata of the implemented notifications relay
    (`crates/plugins/src/notifications.rs`). -/
def notifications : PluginMeta where
  name := "notifications"
  title := "Notification sync"
  incoming := [typeNotification, typeNotificationRequest]
  outgoing := [typeNotification]
  defaultEnabled := true
  requiresWayland := false
  requiresDbus := true

end PluginMeta
end Handfast.Plugins
