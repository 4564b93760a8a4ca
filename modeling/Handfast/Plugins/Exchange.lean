/-
  Handfast.Plugins.Exchange

  Two daemons answering each other.  A packet is delivered to one side, every
  reply of its dispatch to the other side, and so on.  Several plugins answer a
  packet with one of the same type, so the exchange need not end: a ping is
  echoed for ever.

  `Roster.Loops` lists the packets that keep it going, in terms of the packet and
  the two plugin states.  It is kept by every delivery
  (`Roster.loops_receive`), and any other packet dies out after at most one
  reply (`Roster.dies_out`), so an exchange stops exactly if its first packet
  is not on the list.
-/
import Handfast.Lib.Duplex
import Handfast.Plugins.Quiet

namespace Handfast.Plugins

open Handfast.Lib Handfast.Protocol

/-! ## The exchange -/

/-- The plugins on both sides and the packets on their way, oldest first. -/
structure Exchange where
  plugins : Side → List Plugin
  inFlight : List (Side × Packet)

namespace Exchange

/-- Deliver the oldest packet and put its replies on their way. -/
def step (x : Exchange) (amb : Ambient) : Exchange :=
  match x.inFlight with
  | [] => x
  | (side, pkt) :: rest =>
    let (ps, replies) := dispatch amb pkt (x.plugins side)
    { plugins := Function.update x.plugins side ps
      inFlight := rest ++ replies.map fun reply => (side.other, reply) }

/-- One packet is delivered to a side with roster `here`; the other has `there`. -/
def start (side : Side) (here there : Roster) (pkt : Packet) : Exchange where
  plugins := fun s => if s = side then here.plugins else there.plugins
  inFlight := [(side, pkt)]

/-- The exchange after `n` deliveries, the `k`-th in surroundings `amb k`. -/
def after (x : Exchange) (amb : Nat → Ambient) : Nat → Exchange
  | 0 => x
  | n + 1 => (x.after amb n).step (amb n)

/-- No packet is on its way any more, from some point on. -/
def Stops (x : Exchange) (amb : Nat → Ambient) : Prop := ∃ n, (x.after amb n).inFlight = []

end Exchange

/-! ## Packets that are answered for ever -/

namespace Roster

/-- The packet, received by `here`, starts an exchange with `there` that never
    ends. -/
def Loops (here there : Roster) (pkt : Packet) : Prop :=
  match PacketKind.of pkt.ptype with
  | some .ping => True
  | some .findMyPhone =>
    pkt.body.getStr "action" = some "start" ∨ pkt.body.getStr "action" = some "stop"
  | some .notification =>
    NotificationsPlugin.field pkt.body "title" ≠ "" ∨
      NotificationsPlugin.field pkt.body "text" ≠ ""
  | some .mprisRequest =>
    (∃ action, (pkt.body.getStr "action").bind MprisAction.parse = some action) ∧
      ∃ player, pkt.body.getStr "player" = some player ∧
        (player ≠ autoPlayer ∨ ∃ known, here.mpris.lastKnownPlayer = some known ∧
          (known ≠ autoPlayer ∨ there.mpris.lastKnownPlayer.isSome))
  | some .runCommandRequest =>
    ∃ name, RunCommandsPlugin.usableField pkt.body "name" = some name ∧
      (here.runCommands.commands.get name).isSome ∧
      (there.runCommands.commands.get name).isSome
  | some .telephony =>
    pkt.body.getStr "event" = some eventRinging ∧ here.telephony.pauseMusicOnRing = true
  | some .battery | some .notificationRequest | some .runCommand | some .share
  | some .systemVolume | none => False

variable {here there : Roster} {amb : Ambient} {pkt : Packet}

/-- A request for a named player is answered and keeps going. -/
theorem loops_mprisRequest {id : Int} {player : String} {action : MprisAction}
    {extra : List (String × Value)}
    (h : player ≠ autoPlayer ∨ ∃ known, here.mpris.lastKnownPlayer = some known ∧
      (known ≠ autoPlayer ∨ there.mpris.lastKnownPlayer.isSome)) :
    here.Loops there (.new id typeMprisRequest (.object
      (("player", .string player) :: ("action", .string action.asStr) :: extra))) := by
  have hk : PacketKind.of typeMprisRequest = some .mprisRequest := PacketKind.of_wire .mprisRequest
  simp only [Loops, Packet.new, hk]
  refine ⟨⟨action, ?_⟩, player, ?_, h⟩
  · simp
  · simp

/-- The name in a command answer is the one that was asked for. -/
theorem usableField_answer {body : Value} {name command : String}
    (h : RunCommandsPlugin.usableField body "name" = some name) :
    RunCommandsPlugin.usableField
      (.object [("name", .string name), ("command", .string command)]) "name" = some name := by
  have hne : name ≠ "" := by simpa using (Option.filter_eq_some_iff.mp h).2
  simp [RunCommandsPlugin.usableField, hne]

/-- A looping packet is answered by a looping packet. -/
theorem loops_receive (h : here.Loops there pkt) (amb : Ambient) :
    ∃ reply, (here.receive amb pkt).2 = [reply] ∧ there.Loops (here.receive amb pkt).1 reply := by
  unfold Loops at h
  cases hk : PacketKind.of pkt.ptype with
  | none => simp [hk] at h
  | some k =>
    cases k with
    | ping =>
      refine ⟨.new amb.freshId typePing (.object []), by simp [receive, hk], ?_⟩
      have hping : PacketKind.of typePing = some .ping := PacketKind.of_wire .ping
      simp [Loops, Packet.new, hping]
    | findMyPhone =>
      simp only [hk] at h
      have hfind : PacketKind.of typeFindmyphone = some .findMyPhone :=
        PacketKind.of_wire .findMyPhone
      refine ⟨.new amb.freshId typeFindmyphone pkt.body, ?_, ?_⟩
      · rcases h with h | h <;> simp [receive, hk, FindMyPhonePlugin.applyAction, h]
      · simpa [Loops, Packet.new, hfind] using h
    | notification =>
      simp only [hk] at h
      have hnote : PacketKind.of typeNotification = some .notification :=
        PacketKind.of_wire .notification
      have hrelay : ¬ (NotificationsPlugin.field pkt.body "title" = "" ∧
          NotificationsPlugin.field pkt.body "text" = "") := by
        rintro ⟨h1, h2⟩
        exact h.elim (fun h => h h1) fun h => h h2
      refine ⟨_, by simp [receive, hk, NotificationsPlugin.relay, hrelay]; rfl, ?_⟩
      simp only [Loops, Packet.new, hnote]
      simpa [NotificationsPlugin.field] using h
    | mprisRequest =>
      simp only [hk] at h
      obtain ⟨⟨action, ha⟩, player, hp, hgo⟩ := h
      -- the answer names the player the request was resolved to
      by_cases hauto : player = autoPlayer
      · obtain ⟨known, hknown, hmore⟩ := hgo.resolve_left (not_not_intro hauto)
        have hr : here.mpris.resolve player = some known := by
          simp [MprisPlugin.resolve, hauto, hknown]
        simp only [receive, hk, handleRequest_valid hp ha hr]
        refine ⟨_, rfl, loops_mprisRequest ?_⟩
        by_cases hk' : known = autoPlayer
        · obtain ⟨k', hk'⟩ := Option.isSome_iff_exists.mp
            (hmore.resolve_left (not_not_intro hk'))
          exact .inr ⟨k', hk', .inr rfl⟩
        · exact .inl hk'
      · have hr : here.mpris.resolve player = some player := by
          simp [MprisPlugin.resolve, hauto]
        simp only [receive, hk, handleRequest_valid hp ha hr]
        exact ⟨_, rfl, loops_mprisRequest (.inl hauto)⟩
    | runCommandRequest =>
      simp only [hk] at h
      obtain ⟨name, hname, hhere, hthere⟩ := h
      obtain ⟨command, hcommand⟩ := Option.isSome_iff_exists.mp hhere
      have hrun : PacketKind.of typeRuncommandRequest = some .runCommandRequest :=
        PacketKind.of_wire .runCommandRequest
      refine ⟨_, by
        simp only [receive, hk, RunCommandsPlugin.handleRequest, hname, hcommand]
        rfl, ?_⟩
      -- the answer is itself a request for the same command
      simp only [Loops, Packet.new, hrun]
      exact ⟨name, usableField_answer hname, hthere, by simpa [receive, hk] using hhere⟩
    | telephony =>
      simp only [hk] at h
      obtain ⟨hevent, hpause⟩ := h
      refine ⟨_, by simp only [receive, hk, TelephonyPlugin.record, hevent, hpause]; rfl, ?_⟩
      -- the answer is a request to the player, which the other side answers
      have hgo : there.Loops (here.receive amb pkt).1 (.new amb.freshId typeMprisRequest
          (.object [("player", .string ""),
            ("action", .string MprisAction.playPause.asStr)])) :=
        loops_mprisRequest (.inl (by decide))
      simpa only [receive, hk, TelephonyPlugin.record, hevent, MprisAction.asStr] using hgo
    | battery | notificationRequest | runCommand | share | systemVolume => simp [hk] at h

/-- A media request that does not loop is invalid, or for the last player seen
    with nobody to name one. -/
theorem mpris_dies_out (hk : PacketKind.of pkt.ptype = some .mprisRequest)
    (h : ¬ ((∃ action, (pkt.body.getStr "action").bind MprisAction.parse = some action) ∧
      ∃ player, pkt.body.getStr "player" = some player ∧
        (player ≠ autoPlayer ∨ ∃ known, here.mpris.lastKnownPlayer = some known ∧
          (known ≠ autoPlayer ∨ there.mpris.lastKnownPlayer.isSome)))) (amb amb' : Ambient) :
    (here.receive amb pkt).2 = [] ∨
      ∃ reply, (here.receive amb pkt).2 = [reply] ∧ (there.receive amb' reply).2 = [] := by
  by_cases hans : here.Answers pkt
  · simp only [Answers, hk] at hans
    obtain ⟨action, ha⟩ := Option.isSome_iff_exists.mp hans.1
    obtain ⟨resolved, hbind⟩ := Option.isSome_iff_exists.mp hans.2
    obtain ⟨player, hp, hr⟩ := Option.bind_eq_some_iff.mp hbind
    obtain ⟨hauto, hknown⟩ := not_or.mp fun hgo => h ⟨⟨action, ha⟩, player, hp, hgo⟩
    have hlast : here.mpris.lastKnownPlayer = some resolved := by
      simpa [MprisPlugin.resolve, not_not.mp hauto] using hr
    -- the answer asks for the last player again, and there is none
    obtain ⟨hagain, hthere⟩ := not_or.mp fun hgo => hknown ⟨resolved, hlast, hgo⟩
    have hnone : there.mpris.resolve resolved = none := by
      simpa [MprisPlugin.resolve, not_not.mp hagain] using hthere
    have hreq : PacketKind.of typeMprisRequest = some .mprisRequest :=
      PacketKind.of_wire .mprisRequest
    simp only [receive, hk, handleRequest_valid hp ha hr]
    refine .inr ⟨_, rfl, ?_⟩
    simp [Packet.new, hreq, MprisPlugin.handleRequest, hnone]
  · exact .inl (receive_replies_iff.mpr hans)

/-- A command request that does not loop is unusable, or unknown on one side. -/
theorem runCommand_dies_out (hk : PacketKind.of pkt.ptype = some .runCommandRequest)
    (h : ¬ ∃ name, RunCommandsPlugin.usableField pkt.body "name" = some name ∧
      (here.runCommands.commands.get name).isSome ∧
      (there.runCommands.commands.get name).isSome) (amb amb' : Ambient) :
    (here.receive amb pkt).2 = [] ∨
      ∃ reply, (here.receive amb pkt).2 = [reply] ∧ (there.receive amb' reply).2 = [] := by
  simp only [receive, hk, RunCommandsPlugin.handleRequest]
  cases hname : RunCommandsPlugin.usableField pkt.body "name" with
  | none => exact .inl rfl
  | some name =>
    cases hhere : here.runCommands.commands.get name with
    | none => exact .inl (by simp [hhere])
    | some command =>
      have hthere : there.runCommands.commands.get name = none := by
        by_contra hne
        exact h ⟨name, hname, by simp [hhere], Option.isSome_iff_ne_none.mpr hne⟩
      have hrun : PacketKind.of typeRuncommandRequest = some .runCommandRequest :=
        PacketKind.of_wire .runCommandRequest
      refine .inr ⟨_, by simp only [hhere]; rfl, ?_⟩
      simp only [Packet.new, hrun, usableField_answer hname, hthere]

/-- Any other packet is not answered, or its answer is not. -/
theorem dies_out (h : ¬ here.Loops there pkt) (amb amb' : Ambient) :
    (here.receive amb pkt).2 = [] ∨
      ∃ reply, (here.receive amb pkt).2 = [reply] ∧ (there.receive amb' reply).2 = [] := by
  unfold Loops at h
  cases hk : PacketKind.of pkt.ptype with
  | none => exact .inl (receive_replies_iff.mpr (by simp [Answers, hk]))
  | some k =>
    simp only [hk] at h
    cases k with
    | mprisRequest => exact mpris_dies_out hk h amb amb'
    | runCommandRequest => exact runCommand_dies_out hk h amb amb'
    | _ => exact .inl (receive_replies_iff.mpr (by simpa only [Answers, hk] using h))

end Roster

/-! ## When an exchange stops -/

namespace Exchange

/-- One packet is on its way, to a side with roster `here`. -/
structure Pending (x : Exchange) (side : Side) (here there : Roster) (pkt : Packet) : Prop where
  inFlight : x.inFlight = [(side, pkt)]
  receiver : x.plugins side = here.plugins
  sender : x.plugins side.other = there.plugins

variable {x : Exchange} {side : Side} {here there : Roster} {pkt : Packet}

theorem start_pending (side : Side) (here there : Roster) (pkt : Packet) :
    (start side here there pkt).Pending side here there pkt where
  inFlight := rfl
  receiver := by simp [start]
  sender := by simp [start]

theorem Pending.step_inFlight (h : x.Pending side here there pkt) (amb : Ambient) :
    (x.step amb).inFlight = (here.receive amb pkt).2.map fun reply => (side.other, reply) := by
  simp [step, h.inFlight, h.receiver, Roster.dispatch_plugins]

theorem Pending.step (h : x.Pending side here there pkt) {amb : Ambient} {reply : Packet}
    (hr : (here.receive amb pkt).2 = [reply]) :
    (x.step amb).Pending side.other there (here.receive amb pkt).1 reply where
  inFlight := by rw [h.step_inFlight, hr]; rfl
  receiver := by
    simp [Exchange.step, h.inFlight, h.receiver, h.sender, Roster.dispatch_plugins]
  sender := by
    simp [Exchange.step, h.inFlight, h.receiver, Roster.dispatch_plugins]

/-- An exchange that starts with a looping packet always has one on its way. -/
theorem loops_after (h : here.Loops there pkt) (amb : Nat → Ambient) (n : Nat) :
    ∃ side' here' there' pkt',
      ((start side here there pkt).after amb n).Pending side' here' there' pkt' ∧
        here'.Loops there' pkt' := by
  induction n with
  | zero => exact ⟨side, here, there, pkt, start_pending side here there pkt, h⟩
  | succ n ih =>
    obtain ⟨side', here', there', pkt', hpending, hloops⟩ := ih
    obtain ⟨reply, hreply, hnext⟩ := Roster.loops_receive hloops (amb n)
    exact ⟨side'.other, there', _, reply, hpending.step hreply, hnext⟩

/-- Without a loop everything is said after two packets. -/
theorem over_after_two (h : ¬ here.Loops there pkt) (amb : Nat → Ambient) :
    ((start side here there pkt).after amb 2).inFlight = [] := by
  have hpending := start_pending side here there pkt
  rcases Roster.dies_out h (amb 0) (amb 1) with hnone | ⟨reply, hreply, hnone⟩
  · have hempty : ((start side here there pkt).step (amb 0)).inFlight = [] := by
      rw [hpending.step_inFlight, hnone]
      rfl
    show (((start side here there pkt).step (amb 0)).step (amb 1)).inFlight = []
    rw [step, hempty]
    exact hempty
  · show (((start side here there pkt).step (amb 0)).step (amb 1)).inFlight = []
    rw [(hpending.step hreply).step_inFlight, hnone]
    rfl

/-- **Which exchanges stop.** From any plugin states and in any surroundings, the
    exchange stops exactly if its first packet is not a looping one, and then
    after at most two deliveries. -/
theorem exchange_stops_iff (side : Side) (here there : Roster) (pkt : Packet)
    (amb : Nat → Ambient) :
    ((start side here there pkt).Stops amb ↔ ¬ here.Loops there pkt) ∧
      (¬ here.Loops there pkt → ((start side here there pkt).after amb 2).inFlight = []) := by
  refine ⟨⟨?_, fun h => ⟨2, over_after_two h amb⟩⟩, fun h => over_after_two h amb⟩
  rintro ⟨n, hn⟩ h
  obtain ⟨side', here', there', pkt', hpending, -⟩ := loops_after h amb n
  rw [hpending.inFlight] at hn
  cases hn

/-- A ping between two fresh daemons is echoed for ever. -/
theorem ping_exchange_never_stops :
    ¬ (start .left .fresh .fresh (.new 1 typePing (.object []))).Stops
      fun _ => { clock := 0, localBattery := none, packetId := 1 } := by
  rintro ⟨n, hn⟩
  have hloops : Roster.fresh.Loops .fresh (.new 1 typePing (.object [])) := by
    have hk : PacketKind.of typePing = some .ping := PacketKind.of_wire .ping
    simp [Roster.Loops, Packet.new, hk]
  obtain ⟨side', here', there', pkt', hpending, -⟩ := loops_after hloops _ n
  rw [hpending.inFlight] at hn
  cases hn

end Exchange
end Handfast.Plugins
