/-
  Handfast.Plugins.Quiet

  Packets that leave no trace in the plugins.  `Roster.Knows` says, per packet
  type, that what the packet reports is on record already; the plugins' states
  stay the same exactly then (`receive_same_iff`).  `Roster.Answers` lists the
  packets some plugin answers (`receive_replies_iff`).

  States are compared as the program can tell them apart: a hash map by its
  lookups, everything else by equality.
-/
import Handfast.Plugins.Receive

namespace Handfast.Plugins

open Handfast.Lib Handfast.Protocol

/-! ## The same states -/

/-- The same state; a table is compared by its lookups. -/
def Plugin.Same : Plugin → Plugin → Prop
  | .notifications p, .notifications q => ∀ id, p.idMap.get id = q.idMap.get id
  | .runCommands p, .runCommands q => ∀ name, p.commands.get name = q.commands.get name
  | p, q => p = q

theorem Plugin.Same.refl (p : Plugin) : p.Same p := by
  cases p <;> simp [Plugin.Same]

namespace Roster

variable {r : Roster} {amb : Ambient} {pkt : Packet}

structure Same (r r' : Roster) : Prop where
  battery : r.battery = r'.battery
  findMyPhone : r.findMyPhone = r'.findMyPhone
  mpris : r.mpris = r'.mpris
  notifications : ∀ id, r.notifications.idMap.get id = r'.notifications.idMap.get id
  pauseMusic : r.pauseMusic = r'.pauseMusic
  ping : r.ping = r'.ping
  runCommands : ∀ name, r.runCommands.commands.get name = r'.runCommands.commands.get name
  share : r.share = r'.share
  systemVolume : r.systemVolume = r'.systemVolume
  telephony : r.telephony = r'.telephony

theorem forall₂_plugins_iff {r' : Roster} :
    List.Forall₂ Plugin.Same r.plugins r'.plugins ↔ r.Same r' := by
  constructor
  · intro h
    simp only [plugins, List.forall₂_cons, Plugin.Same, Plugin.battery.injEq,
      Plugin.findMyPhone.injEq, Plugin.mpris.injEq, Plugin.pauseMusic.injEq, Plugin.ping.injEq,
      Plugin.share.injEq, Plugin.systemVolume.injEq, Plugin.telephony.injEq, true_and,
      List.forall₂_nil_left_iff, and_true] at h
    obtain ⟨h1, h2, h3, h4, h5, h6, h7, h8, h9, h10⟩ := h
    exact ⟨h1, h2, h3, h4, h5, h6, h7, h8, h9, h10⟩
  · intro h
    simp [plugins, Plugin.Same, h.battery, h.findMyPhone, h.mpris, h.notifications,
      h.pauseMusic, h.ping, h.runCommands, h.share, h.systemVolume, h.telephony]

theorem Same.refl (r : Roster) : r.Same r :=
  ⟨rfl, rfl, rfl, fun _ => rfl, rfl, rfl, fun _ => rfl, rfl, rfl, rfl⟩

theorem plugins_injective : Function.Injective plugins := by
  intro r r' h
  cases r
  cases r'
  simpa [plugins] using h

/-! ## What a packet adds -/

/-- What the packet reports is on record already. -/
def Knows (r : Roster) (amb : Ambient) (pkt : Packet) : Prop :=
  match PacketKind.of pkt.ptype with
  | some .battery =>
    ∀ raw, (pkt.body.get "currentCharge").bind Value.asU64 = some raw →
      r.battery.last = some
        { level := min raw.toNat 100
          charging := ((pkt.body.get "isCharging").bind Value.asBool).getD false
          reportedAt := amb.clock }
  | some .findMyPhone =>
    (pkt.body.getStr "action" = some "start" → r.findMyPhone.ringing = true) ∧
      (pkt.body.getStr "action" = some "stop" → r.findMyPhone.ringing = false)
  | some .mprisRequest =>
    ∀ player resolved, pkt.body.getStr "player" = some player →
      ((pkt.body.getStr "action").bind MprisAction.parse).isSome →
        r.mpris.resolve player = some resolved → r.mpris.lastKnownPlayer = some resolved
  | some .notification =>
    NotificationsPlugin.field pkt.body "title" ≠ "" ∨
        NotificationsPlugin.field pkt.body "text" ≠ "" →
      NotificationsPlugin.field pkt.body "id" ≠ "" →
        r.notifications.idMap.get (NotificationsPlugin.field pkt.body "id") =
          some (NotificationsPlugin.field pkt.body "id")
  | some .notificationRequest =>
    NotificationsPlugin.field pkt.body "action" = "dismiss" →
      NotificationsPlugin.field pkt.body "key" ≠ "" →
        r.notifications.idMap.get (NotificationsPlugin.field pkt.body "key") = none
  | some .ping => r.ping.lastPingAt = some amb.clock
  | some .runCommand =>
    ∀ entries, (pkt.body.get "commandList").bind Value.asArray = some entries →
      entries = [] ∨ entries.filterMap RunCommandsPlugin.parseEntry ≠ [] →
        ∀ name, r.runCommands.commands.get name =
          (Table.empty.insertAll (entries.filterMap RunCommandsPlugin.parseEntry)).get name
  | some .share => SharePlugin.classify pkt.body = none
  | some .systemVolume =>
    ∀ state, SystemVolumePlugin.extractState pkt.body = some state →
      r.systemVolume.state = some state
  | some .telephony =>
    ∀ event, pkt.body.getStr "event" = some event →
      r.telephony.lastCallState = some event ∧
        r.telephony.lastPhoneNumber = some ((pkt.body.getStr "phoneNumber").getD "")
  | some .runCommandRequest | none => True

def Answers (r : Roster) (pkt : Packet) : Prop :=
  match PacketKind.of pkt.ptype with
  | some .ping => True
  | some .findMyPhone =>
    pkt.body.getStr "action" = some "start" ∨ pkt.body.getStr "action" = some "stop"
  | some .mprisRequest =>
    ((pkt.body.getStr "action").bind MprisAction.parse).isSome ∧
      ((pkt.body.getStr "player").bind r.mpris.resolve).isSome
  | some .notification =>
    NotificationsPlugin.field pkt.body "title" ≠ "" ∨
      NotificationsPlugin.field pkt.body "text" ≠ ""
  | some .runCommandRequest =>
    ((RunCommandsPlugin.usableField pkt.body "name").bind r.runCommands.commands.get).isSome
  | some .telephony =>
    pkt.body.getStr "event" = some eventRinging ∧ r.telephony.pauseMusicOnRing = true
  | some .battery | some .notificationRequest | some .runCommand | some .share
  | some .systemVolume | none => False

/-! ## The handlers -/

section Unchanged

/- When a handler leaves its own plugin as it is. -/

theorem recordRemote_eq_self {p : BatteryPlugin} :
    p = p.recordRemote amb pkt ↔
      ∀ raw, (pkt.body.get "currentCharge").bind Value.asU64 = some raw →
        p.last = some
          { level := min raw.toNat 100
            charging := ((pkt.body.get "isCharging").bind Value.asBool).getD false
            reportedAt := amb.clock } := by
  unfold BatteryPlugin.recordRemote
  cases (pkt.body.get "currentCharge").bind Value.asU64 with
  | none => simp
  | some raw =>
    constructor
    · intro h raw' hraw
      cases hraw
      exact congrArg BatteryPlugin.last h
    · intro h
      cases p
      simpa using h raw rfl

variable {body : Value} {p : NotificationsPlugin}

/-- Starting what rings, or stopping what does not, changes nothing. -/
theorem applyAction_eq_self {p : FindMyPhonePlugin} :
    p = (p.applyAction amb body).1 ↔
      (body.getStr "action" = some "start" → p.ringing = true) ∧
        (body.getStr "action" = some "stop" → p.ringing = false) := by
  unfold FindMyPhonePlugin.applyAction
  cases body.getStr "action" with
  | none => simp
  | some action =>
    by_cases hstart : action = "start"
    · subst hstart
      cases p
      simp
    · by_cases hstop : action = "stop"
      · subst hstop
        cases p
        simp
      · simp [hstart, hstop]

/-- A request for a player that resolves is remembered and answered. -/
theorem handleRequest_valid {p : MprisPlugin} {player resolved : String} {action : MprisAction}
    (hp : body.getStr "player" = some player)
    (ha : (body.getStr "action").bind MprisAction.parse = some action)
    (hr : p.resolve player = some resolved) :
    p.handleRequest amb body =
      ({ lastKnownPlayer := some resolved },
        [.new amb.freshId typeMprisRequest (.object
          [("player", .string resolved), ("action", .string action.asStr),
           ("ack", .bool true)])]) := by
  obtain ⟨raw, hraw, hparse⟩ := Option.bind_eq_some_iff.mp ha
  simp [MprisPlugin.handleRequest, hp, hraw, hparse, hr]

/-- A request without a known action or a player is dropped. -/
theorem handleRequest_invalid {p : MprisPlugin}
    (h : ¬ (((body.getStr "action").bind MprisAction.parse).isSome ∧
      ((body.getStr "player").bind p.resolve).isSome)) :
    p.handleRequest amb body = (p, []) := by
  unfold MprisPlugin.handleRequest
  split
  · rename_i player raw hp ha
    split
    · rfl
    · rename_i action hparse
      have hr : p.resolve player = none := by
        simpa [hp, ha, hparse] using h
      rw [hr]
  · rfl

/-- Only a valid request for another player changes the state. -/
theorem handleRequest_eq_self {p : MprisPlugin} :
    p = (p.handleRequest amb body).1 ↔
      ∀ player resolved, body.getStr "player" = some player →
        ((body.getStr "action").bind MprisAction.parse).isSome →
          p.resolve player = some resolved → p.lastKnownPlayer = some resolved := by
  by_cases h : ((body.getStr "action").bind MprisAction.parse).isSome ∧
      ((body.getStr "player").bind p.resolve).isSome
  · obtain ⟨action, ha⟩ := Option.isSome_iff_exists.mp h.1
    obtain ⟨resolved, hbind⟩ := Option.isSome_iff_exists.mp h.2
    obtain ⟨player, hp, hr⟩ := Option.bind_eq_some_iff.mp hbind
    rw [handleRequest_valid hp ha hr]
    constructor
    · intro heq player' resolved' hp' _ hr'
      cases hp.symm.trans hp'
      cases hr.symm.trans hr'
      exact congrArg MprisPlugin.lastKnownPlayer heq
    · intro hknown
      cases p
      simpa using hknown player resolved hp h.1 hr
  · rw [handleRequest_invalid h]
    refine iff_of_true rfl fun player resolved hp ha hr => absurd ⟨ha, ?_⟩ h
    simp [hp, hr]

/-- A relay changes the id map only for a notification with text whose id is new. -/
theorem relay_same :
    (∀ id, p.idMap.get id = (p.relay amb body).1.idMap.get id) ↔
      (NotificationsPlugin.field body "title" ≠ "" ∨ NotificationsPlugin.field body "text" ≠ "" →
        NotificationsPlugin.field body "id" ≠ "" →
          p.idMap.get (NotificationsPlugin.field body "id") =
            some (NotificationsPlugin.field body "id")) := by
  unfold NotificationsPlugin.relay
  by_cases hempty : NotificationsPlugin.field body "title" = "" ∧
      NotificationsPlugin.field body "text" = ""
  · simp [hempty]
  · have hsome := not_and_or.mp hempty
    by_cases hid : NotificationsPlugin.field body "id" = ""
    · simp [hempty, hid]
    · simp only [hempty, hid, ↓reduceIte, Table.get_insert, ne_eq, not_false_eq_true,
        forall_const]
      constructor
      · intro h _
        simpa using h (NotificationsPlugin.field body "id")
      · intro h id
        split
        · rename_i heq
          rw [heq]
          exact h hsome
        · rfl

/-- Only the dismissal of a known key changes the id map. -/
theorem act_same :
    (∀ id, p.idMap.get id = (p.act body).idMap.get id) ↔
      (NotificationsPlugin.field body "action" = "dismiss" →
        NotificationsPlugin.field body "key" ≠ "" →
          p.idMap.get (NotificationsPlugin.field body "key") = none) := by
  unfold NotificationsPlugin.act
  by_cases hact : NotificationsPlugin.field body "action" = "dismiss" ∧
      NotificationsPlugin.field body "key" ≠ ""
  · simp only [hact, ne_eq, not_false_eq_true, and_self, ↓reduceIte, Table.get_remove,
      forall_const]
    constructor
    · intro h
      simpa using h (NotificationsPlugin.field body "key")
    · intro h id
      split
      · rename_i heq
        rw [heq, h]
      · rfl
  · simp only [hact, ↓reduceIte, implies_true, true_iff]
    exact fun h1 h2 => absurd ⟨h1, h2⟩ hact

/-- The command table changes only by a usable list that differs from it. -/
theorem handleSync_same {p : RunCommandsPlugin} :
    (∀ name, p.commands.get name = (p.handleSync pkt).commands.get name) ↔
      ∀ entries, (pkt.body.get "commandList").bind Value.asArray = some entries →
        entries = [] ∨ entries.filterMap RunCommandsPlugin.parseEntry ≠ [] →
          ∀ name, p.commands.get name =
            (Table.empty.insertAll (entries.filterMap RunCommandsPlugin.parseEntry)).get name := by
  unfold RunCommandsPlugin.handleSync
  cases (pkt.body.get "commandList").bind Value.asArray with
  | none => simp
  | some entries =>
    simp only [Option.some.injEq, forall_eq']
    by_cases hskip : entries.isEmpty = false ∧
        (entries.filterMap RunCommandsPlugin.parseEntry).isEmpty = true
    · rw [if_pos hskip]
      refine iff_of_true (fun _ => rfl) fun h => ?_
      simp only [List.isEmpty_iff, List.isEmpty_eq_false_iff] at hskip
      exact absurd h (not_or.mpr ⟨hskip.1, not_not_intro hskip.2⟩)
    · rw [if_neg hskip]
      have htaken : entries = [] ∨ entries.filterMap RunCommandsPlugin.parseEntry ≠ [] := by
        simp only [List.isEmpty_iff, List.isEmpty_eq_false_iff] at hskip
        by_cases he : entries = []
        · exact .inl he
        · exact .inr fun hnone => hskip ⟨he, hnone⟩
      exact ⟨fun h _ => h, fun h => h htaken⟩

theorem shareHandle_eq_self {p : SharePlugin} (h : pkt.ptype = typeShare) :
    p = (p.handle pkt).1 ↔ SharePlugin.classify pkt.body = none := by
  unfold SharePlugin.handle
  rw [if_pos h]
  cases SharePlugin.classify pkt.body with
  | none => simp
  | some item =>
    refine iff_of_false (fun heq => ?_) (by simp)
    have := congrArg (fun q : SharePlugin => q.pendingShares.length) heq
    simp at this

theorem observe_eq_self {p : SystemVolumePlugin} :
    p = p.observe body ↔
      ∀ state, SystemVolumePlugin.extractState body = some state → p.state = some state := by
  unfold SystemVolumePlugin.observe
  cases SystemVolumePlugin.extractState body <;> cases p <;> simp

/-- A call event that repeats the last one changes nothing. -/
theorem record_eq_self {p : TelephonyPlugin} :
    p = (p.record amb pkt).1 ↔
      ∀ event, pkt.body.getStr "event" = some event →
        p.lastCallState = some event ∧
          p.lastPhoneNumber = some ((pkt.body.getStr "phoneNumber").getD "") := by
  unfold TelephonyPlugin.record
  cases pkt.body.getStr "event" <;> cases p <;> simp

end Unchanged

/-! ## The roster -/

/-- The roster stays as it is exactly if it knows what the packet reports. -/
theorem receive_same_iff : r.Same (r.receive amb pkt).1 ↔ r.Knows amb pkt := by
  have hrefl := Same.refl r
  unfold receive Knows
  cases hk : PacketKind.of pkt.ptype with
  | none => simpa using hrefl
  | some k =>
    have htype := PacketKind.of_eq_some.mp hk
    -- each kind changes the state of one plugin
    cases k with
    | battery =>
      rw [← recordRemote_eq_self]
      exact ⟨fun h => h.battery, fun h => { hrefl with battery := h }⟩
    | findMyPhone =>
      rw [← applyAction_eq_self]
      exact ⟨fun h => h.findMyPhone, fun h => { hrefl with findMyPhone := h }⟩
    | mprisRequest =>
      rw [← handleRequest_eq_self]
      exact ⟨fun h => h.mpris, fun h => { hrefl with mpris := h }⟩
    | notification =>
      rw [← relay_same]
      exact ⟨fun h => h.notifications, fun h => { hrefl with notifications := h }⟩
    | notificationRequest =>
      rw [← act_same]
      exact ⟨fun h => h.notifications, fun h => { hrefl with notifications := h }⟩
    | ping =>
      have hping : r.ping = { lastPingAt := some amb.clock } ↔
          r.ping.lastPingAt = some amb.clock := by
        cases r.ping
        simp
      rw [← hping]
      exact ⟨fun h => h.ping, fun h => { hrefl with ping := h }⟩
    | runCommand =>
      rw [← handleSync_same]
      exact ⟨fun h => h.runCommands, fun h => { hrefl with runCommands := h }⟩
    | runCommandRequest => simpa using hrefl
    | share =>
      rw [← shareHandle_eq_self htype]
      exact ⟨fun h => h.share, fun h => { hrefl with share := h }⟩
    | systemVolume =>
      rw [← observe_eq_self]
      exact ⟨fun h => h.systemVolume, fun h => { hrefl with systemVolume := h }⟩
    | telephony =>
      rw [← record_eq_self]
      exact ⟨fun h => h.telephony, fun h => { hrefl with telephony := h }⟩

/-- A packet is left unanswered exactly if no plugin answers it. -/
theorem receive_replies_iff : (r.receive amb pkt).2 = [] ↔ ¬ r.Answers pkt := by
  unfold receive Answers
  cases PacketKind.of pkt.ptype with
  | none => simp
  | some k =>
    cases k with
    -- five kinds look at the packet before they answer
    | findMyPhone =>
      simp only [FindMyPhonePlugin.applyAction]
      cases pkt.body.getStr "action" with
      | none => simp
      | some action =>
        by_cases hstart : action = "start"
        · simp [hstart]
        · by_cases hstop : action = "stop" <;> simp [hstart, hstop]
    | mprisRequest =>
      by_cases h : ((pkt.body.getStr "action").bind MprisAction.parse).isSome ∧
          ((pkt.body.getStr "player").bind r.mpris.resolve).isSome
      · obtain ⟨action, ha⟩ := Option.isSome_iff_exists.mp h.1
        obtain ⟨resolved, hbind⟩ := Option.isSome_iff_exists.mp h.2
        obtain ⟨player, hp, hr⟩ := Option.bind_eq_some_iff.mp hbind
        simp only [handleRequest_valid hp ha hr]
        exact iff_of_false (by simp) (not_not_intro h)
      · simp only [handleRequest_invalid h]
        exact iff_of_true trivial h
    | notification =>
      simp only [NotificationsPlugin.relay]
      split
      · rename_i h
        simp [h]
      · rename_i h
        simpa [or_iff_not_imp_left] using h
    | runCommandRequest =>
      simp only [RunCommandsPlugin.handleRequest]
      cases RunCommandsPlugin.usableField pkt.body "name" with
      | none => simp
      | some name => cases h : r.runCommands.commands.get name <;> simp [h]
    | telephony =>
      simp only [TelephonyPlugin.record]
      cases pkt.body.getStr "event" with
      | none => simp
      | some event =>
        by_cases h : event = eventRinging ∧ r.telephony.pauseMusicOnRing = true
        · simp [h]
        · simp [h]
    | ping | battery | notificationRequest | runCommand | share | systemVolume => simp

end Roster
end Handfast.Plugins
