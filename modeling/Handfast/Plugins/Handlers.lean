/-
  Handfast.Plugins.Handlers

  The plugins' states and their packet handlers
  (`crates/plugins/src/*.rs`).  A handler takes the plugin's state and one
  packet and gives the next state with the reply packets.

  What a handler reads beside these two is an argument (`Ambient`): the wall
  clock, the local power supply, and the process-wide packet counter its
  replies draw their ids from.
-/
import Handfast.Lib.Table
import Handfast.Plugins.Meta
import Mathlib.Data.Finset.Sort
import Mathlib.Data.String.Basic

namespace Handfast.Plugins

open Handfast.Lib Handfast.Protocol

/-! ## Battery -/

/-- Charge percentage reported when no usable local power supply is found. -/
def fallbackLevel : Nat := 50

/-- Latest known charge state of one device. -/
structure BatteryState where
  level : Nat
  charging : Bool
  reportedAt : Nat
  deriving DecidableEq, Repr

/-- What a packet handler reads from its surroundings. -/
structure Ambient where
  /-- `SystemTime::now()`. -/
  clock : Nat
  /-- `read_local_battery()`. -/
  localBattery : Option BatteryState
  /-- The process-wide packet counter. -/
  packetId : Int

def Ambient.freshId (amb : Ambient) : Int := amb.packetId + 1

/-- The surroundings after `n` packets have been created. -/
def Ambient.after (amb : Ambient) (n : Nat) : Ambient :=
  { amb with packetId := amb.packetId + n }

/-- The `kdeconnect.battery` report packet. -/
def buildReport (id : Int) (level : Nat) (charging : Bool) : Packet :=
  .new id typeBattery (.object
    [("currentCharge", .number (.posInt (min level 100).toUInt64)),
     ("isCharging", .bool charging),
     ("thresholdEvent", .number (.posInt 0))])

/-- Neutral report used when local hardware probing fails entirely. -/
def fallbackState (amb : Ambient) : BatteryState :=
  { level := fallbackLevel, charging := false, reportedAt := amb.clock }

/-- Answers battery requests and stores battery reports. -/
structure BatteryPlugin where
  last : Option BatteryState
  deriving DecidableEq

namespace BatteryPlugin

def new : BatteryPlugin := { last := none }

/-- Validate and record an inbound `kdeconnect.battery` body. -/
def recordRemote (self : BatteryPlugin) (amb : Ambient) (pkt : Packet) : BatteryPlugin :=
  match (pkt.body.get "currentCharge").bind Value.asU64 with
  | none => self
  | some rawLevel =>
    { self with
      last := some
        { level := min rawLevel.toNat 100
          charging := ((pkt.body.get "isCharging").bind Value.asBool).getD false
          reportedAt := amb.clock } }

def handle (self : BatteryPlugin) (amb : Ambient) (pkt : Packet) :
    BatteryPlugin × List Packet :=
  if pkt.ptype = typeBatteryRequest then
    let state := amb.localBattery.getD (fallbackState amb)
    (self, [buildReport amb.freshId state.level state.charging])
  else if pkt.ptype = typeBattery then
    (self.recordRemote amb pkt, [])
  else (self, [])

end BatteryPlugin

/-! ## Find my phone -/

structure FindMyPhonePlugin where
  ringing : Bool
  deriving DecidableEq

namespace FindMyPhonePlugin

def new : FindMyPhonePlugin := { ringing := false }

/-- The echo for a recognized action, with the new ringing state. -/
def applyAction (self : FindMyPhonePlugin) (amb : Ambient) (body : Value) :
    FindMyPhonePlugin × Option Packet :=
  match body.getStr "action" with
  | some action =>
    if action = "start" then
      ({ ringing := true }, some (.new amb.freshId typeFindmyphone body))
    else if action = "stop" then
      ({ ringing := false }, some (.new amb.freshId typeFindmyphone body))
    else (self, none)
  | none => (self, none)

def handle (self : FindMyPhonePlugin) (amb : Ambient) (pkt : Packet) :
    FindMyPhonePlugin × List Packet :=
  if pkt.ptype = typeFindmyphone then
    let (self', echo) := self.applyAction amb pkt.body
    (self', echo.toList)
  else (self, [])

end FindMyPhonePlugin

/-! ## Media players -/

inductive MprisAction where
  | play | pause | playPause | stop | next | previous
  deriving DecidableEq, Repr

namespace MprisAction

/-- Canonical wire-format name of an action. -/
def asStr : MprisAction → String
  | play => "Play"
  | pause => "Pause"
  | playPause => "PlayPause"
  | stop => "Stop"
  | next => "Next"
  | previous => "Previous"

def parse (s : String) : Option MprisAction :=
  if s = "Play" then some play
  else if s = "Pause" then some pause
  else if s = "PlayPause" then some playPause
  else if s = "Stop" then some stop
  else if s = "Next" then some next
  else if s = "Previous" then some previous
  else none

@[simp] theorem parse_asStr (a : MprisAction) : parse a.asStr = some a := by
  cases a <;> decide

end MprisAction

/-- Pseudo-player resolved through the last player seen. -/
abbrev autoPlayer : String := "auto"

/-- Answers validated `kdeconnect.mpris.request` transport commands. -/
structure MprisPlugin where
  lastKnownPlayer : Option String
  deriving DecidableEq

namespace MprisPlugin

def new : MprisPlugin := { lastKnownPlayer := none }

/-- The player a request is about, once `"auto"` is resolved. -/
def resolve (self : MprisPlugin) (player : String) : Option String :=
  if player = autoPlayer then self.lastKnownPlayer else some player

def handleRequest (self : MprisPlugin) (amb : Ambient) (body : Value) :
    MprisPlugin × List Packet :=
  match body.getStr "player", body.getStr "action" with
  | some player, some rawAction =>
    match MprisAction.parse rawAction with
    | none => (self, [])
    | some action =>
      match self.resolve player with
      | none => (self, [])
      | some resolved =>
        ({ lastKnownPlayer := some resolved },
         [.new amb.freshId typeMprisRequest (.object
            [("player", .string resolved),
             ("action", .string action.asStr),
             ("ack", .bool true)])])
  | _, _ => (self, [])

def handle (self : MprisPlugin) (amb : Ambient) (pkt : Packet) :
    MprisPlugin × List Packet :=
  if pkt.ptype = typeMprisRequest then self.handleRequest amb pkt.body else (self, [])

end MprisPlugin

/-! ## Notifications -/

/-- Relays notification packets between desktop and phone. -/
structure NotificationsPlugin where
  /-- Maps our notification id to the phone's id. -/
  idMap : Table String String

namespace NotificationsPlugin

def new : NotificationsPlugin := { idMap := .empty }

/-- A string field of a body, `""` when absent. -/
def field (body : Value) (key : String) : String := (body.getStr key).getD ""

def relay (self : NotificationsPlugin) (amb : Ambient) (body : Value) :
    NotificationsPlugin × List Packet :=
  let appName := field body "appName"
  let title := field body "title"
  let text := field body "text"
  let id := field body "id"
  if title = "" ∧ text = "" then (self, [])
  else
    ({ idMap := if id = "" then self.idMap else self.idMap.insert id id },
     [.new amb.freshId typeNotification (.object
        [("id", .string id), ("appName", .string appName),
         ("title", .string title), ("text", .string text)])])

/-- Act on a notification: only a dismissal has an effect, a reply is logged. -/
def act (self : NotificationsPlugin) (body : Value) : NotificationsPlugin :=
  let action := field body "action"
  let key := field body "key"
  if action = "dismiss" ∧ key ≠ "" then { idMap := self.idMap.remove key } else self

def handle (self : NotificationsPlugin) (amb : Ambient) (pkt : Packet) :
    NotificationsPlugin × List Packet :=
  if pkt.ptype = typeNotification then self.relay amb pkt.body
  else if pkt.ptype = typeNotificationRequest then (self.act pkt.body, [])
  else (self, [])

end NotificationsPlugin

/-! ## Pause music -/

/-- Remembers players seen on the wire and which ones we paused. -/
structure PauseMusicPlugin where
  knownPlayers : Finset String
  pausedPlayers : Finset String

namespace PauseMusicPlugin

def new : PauseMusicPlugin := { knownPlayers := ∅, pausedPlayers := ∅ }

/-- The names of a set, sorted (`sort_unstable`). -/
def sortedNames (names : Finset String) : List String := names.sort

/-- One `kdeconnect.mpris.request` transport command packet. -/
def transportRequest (id : Int) (player action : String) : Packet :=
  .new id typeMprisRequest (.object [("player", .string player), ("action", .string action)])

/-- One command for each of the players, with ids in the order of the packets. -/
def transportRequests (amb : Ambient) (players : List String) (action : String) : List Packet :=
  players.mapIdx fun i player => transportRequest (amb.after i).freshId player action

/-- Pause every known player and remember it for `resumeAll`. -/
def pauseAll (self : PauseMusicPlugin) (amb : Ambient) : PauseMusicPlugin × List Packet :=
  let targets := sortedNames self.knownPlayers
  let paused := targets.foldl (fun paused name => insert name paused) self.pausedPlayers
  ({ self with pausedPlayers := paused }, transportRequests amb targets "Pause")

/-- Resume the paused players and forget them. -/
def resumeAll (self : PauseMusicPlugin) (amb : Ambient) : PauseMusicPlugin × List Packet :=
  let targets := sortedNames self.pausedPlayers
  ({ self with pausedPlayers := ∅ }, transportRequests amb targets "Play")

def rememberPlayer (self : PauseMusicPlugin) (name : String) : PauseMusicPlugin :=
  if name = "" then self
  else { self with knownPlayers := insert name self.knownPlayers }

def learnPlayers (self : PauseMusicPlugin) (body : Value) : PauseMusicPlugin :=
  let listed := ((body.get "playerList").bind Value.asArray).getD []
  let self' := listed.foldl (fun s entry =>
    match entry.getStr "name" with
    | some name => s.rememberPlayer name
    | none => s) self
  match body.getStr "player" with
  | some name => self'.rememberPlayer name
  | none => self'

def handle (self : PauseMusicPlugin) (pkt : Packet) : PauseMusicPlugin × List Packet :=
  if pkt.ptype = typeMpris then (self.learnPlayers pkt.body, []) else (self, [])

end PauseMusicPlugin

/-! ## Ping -/

/-- Echoes `kdeconnect.ping` packets back to the sender. -/
structure PingPlugin where
  lastPingAt : Option Nat
  deriving DecidableEq

namespace PingPlugin

def new : PingPlugin := { lastPingAt := none }

def handle (self : PingPlugin) (amb : Ambient) (pkt : Packet) : PingPlugin × List Packet :=
  if pkt.ptype = typePing then
    ({ lastPingAt := some amb.clock }, [.new amb.freshId typePing (.object [])])
  else (self, [])

end PingPlugin

/-! ## Run commands -/

/-- Resolves `kdeconnect.runcommand.request` names against a command table. -/
structure RunCommandsPlugin where
  commands : Table String String

namespace RunCommandsPlugin

def new : RunCommandsPlugin := { commands := .empty }

/-- Replace the table by a list of pairs; later entries win. -/
def setCommands (_self : RunCommandsPlugin) (commands : List (String × String)) :
    RunCommandsPlugin :=
  { commands := Table.empty.insertAll commands }

def usableField (v : Value) (key : String) : Option String :=
  (v.getStr key).filter fun s => s ≠ ""

/-- A usable `(name, command)` pair of one `commandList` entry. -/
def parseEntry (entry : Value) : Option (String × String) := do
  let name ← usableField entry "name"
  let command ← usableField entry "command"
  return (name, command)

def handleRequest (self : RunCommandsPlugin) (amb : Ambient) (pkt : Packet) : List Packet :=
  match usableField pkt.body "name" with
  | none => []
  | some name =>
    match self.commands.get name with
    | none => []
    | some command =>
      [.new amb.freshId typeRuncommandRequest (.object
        [("name", .string name), ("command", .string command)])]

/-- Replace the table by the usable entries of a sync; a sync that has entries
    but no usable one is ignored. -/
def handleSync (self : RunCommandsPlugin) (pkt : Packet) : RunCommandsPlugin :=
  match (pkt.body.get "commandList").bind Value.asArray with
  | none => self
  | some entries =>
    let usable := entries.filterMap parseEntry
    if entries.isEmpty = false ∧ usable.isEmpty then self
    else { commands := Table.empty.insertAll usable }

def handle (self : RunCommandsPlugin) (amb : Ambient) (pkt : Packet) :
    RunCommandsPlugin × List Packet :=
  if pkt.ptype = typeRuncommandRequest then (self, self.handleRequest amb pkt)
  else if pkt.ptype = typeRuncommand then (self.handleSync pkt, [])
  else (self, [])

end RunCommandsPlugin

/-! ## Share -/

/-- One queued inbound share, classified by body shape. -/
inductive ShareItem where
  | url (url : String)
  | text (text : String)
  | fileMeta (name : String) (size : UInt64)
  deriving DecidableEq, Repr

/-- Queues inbound `kdeconnect.share.request` payloads for the daemon. -/
structure SharePlugin where
  pendingShares : List ShareItem
  deriving DecidableEq

namespace SharePlugin

def new : SharePlugin := { pendingShares := [] }

/-- A non-empty string field of a body object. -/
def strField (obj : Fields) (key : String) : Option String :=
  ((obj.lookup key).bind Value.asStr).filter fun s => s ≠ ""

/-- Classify one request body: `url`, then `text`, then file metadata. -/
def classify (body : Value) : Option ShareItem :=
  match body.asObject with
  | none => none
  | some obj =>
    match strField obj "url", strField obj "text" with
    | some url, _ => some (.url url)
    | none, some text => some (.text text)
    | none, none => do
        let name ← strField obj "filename"
        let size ← (obj.lookup "fileSize").bind Value.asU64
        return .fileMeta name size

def handle (self : SharePlugin) (pkt : Packet) : SharePlugin × List Packet :=
  if pkt.ptype = typeShare then
    match classify pkt.body with
    | some item => ({ pendingShares := self.pendingShares ++ [item] }, [])
    | none => (self, [])
  else (self, [])

end SharePlugin

/-! ## System volume -/

/-- Most recently observed sink volume state. -/
structure VolumeState where
  sinkDescription : Option String
  volume : Nat
  muted : Bool
  deriving DecidableEq, Repr

structure SystemVolumePlugin where
  state : Option VolumeState
  deriving DecidableEq

namespace SystemVolumePlugin

def new : SystemVolumePlugin := { state := none }

/-- `clamp(0.0, 100.0).round() as u8`: halves round away from zero. -/
def clampRound (q : Rat) : Nat := (max 0 (min q 100) + 1 / 2).floor.toNat

/-- A coherent state from a report body; `muted` wins over `mute`. -/
def extractState (body : Value) : Option VolumeState := do
  let obj ← body.asObject
  let rawVolume ← (obj.lookup "volume").bind Value.asF64
  let muted := (((obj.lookup "muted").or (obj.lookup "mute")).bind Value.asBool).getD false
  let sinkDescription := (obj.lookup "sink_description").bind Value.asStr
  return { sinkDescription, volume := clampRound rawVolume, muted }

def observe (self : SystemVolumePlugin) (body : Value) : SystemVolumePlugin :=
  match extractState body with
  | none => self
  | some state => { state := some state }

def handle (self : SystemVolumePlugin) (pkt : Packet) : SystemVolumePlugin × List Packet :=
  if pkt.ptype = typeSystemvolume then (self.observe pkt.body, []) else (self, [])

end SystemVolumePlugin

/-! ## Telephony -/

abbrev eventRinging : String := "ringing"

/-- Tracks call and SMS events and may suggest muting music on rings. -/
structure TelephonyPlugin where
  lastCallState : Option String
  lastPhoneNumber : Option String
  pauseMusicOnRing : Bool
  deriving DecidableEq

namespace TelephonyPlugin

def new : TelephonyPlugin :=
  { lastCallState := none, lastPhoneNumber := none, pauseMusicOnRing := false }

/-- Record the event of a packet, with the mute-music suggestion if enabled. -/
def record (self : TelephonyPlugin) (amb : Ambient) (pkt : Packet) :
    TelephonyPlugin × List Packet :=
  match pkt.body.getStr "event" with
  | none => (self, [])
  | some event =>
    let number := (pkt.body.getStr "phoneNumber").getD ""
    ({ self with lastCallState := some event, lastPhoneNumber := some number },
     if event = eventRinging ∧ self.pauseMusicOnRing then
       [.new amb.freshId typeMprisRequest (.object
          [("player", .string ""), ("action", .string "PlayPause")])]
     else [])

def handle (self : TelephonyPlugin) (amb : Ambient) (pkt : Packet) :
    TelephonyPlugin × List Packet :=
  if pkt.ptype = typeTelephony then self.record amb pkt else (self, [])

end TelephonyPlugin

end Handfast.Plugins
