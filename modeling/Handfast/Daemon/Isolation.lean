/-
  Handfast.Daemon.Isolation

  Devices do not interfere.  All of them share one actor, its table, its parked
  requests and its packet counter; still, what is kept for one device and what
  is sent to it depend on the commands about that device only.

  The proof is by unwinding.  Two actors are `Alike` for `d` if they keep the
  same for it and have the same settings.  A command about another device
  keeps them alike and sends nothing to `d`; the same command about `d`, in
  surroundings that differ in the packet counter and the data port at most,
  keeps them alike and sends the same, up to packet ids and ports.
-/
import Handfast.Daemon.Outbox
import Handfast.Lib.Trace

namespace Handfast.Plugins

open Handfast.Lib Handfast.Protocol

/-! ## Plugins do not look at the packet counter -/

/-- Surroundings that differ in the packet counter at most. -/
structure Ambient.Alike (amb amb' : Ambient) : Prop where
  clock : amb.clock = amb'.clock
  localBattery : amb.localBattery = amb'.localBattery

variable {amb amb' : Ambient}

theorem Ambient.Alike.after (h : amb.Alike amb') (n n' : Nat) :
    (amb.after n).Alike (amb'.after n') := ⟨h.clock, h.localBattery⟩

@[simp] theorem erase_new (id : Int) (ptype : String) (body : Value) :
    (Packet.new id ptype body).erase = Packet.new 0 ptype body := rfl

/-- The same next state, and the same replies up to their ids. -/
theorem Plugin.handle_alike (h : amb.Alike amb') (p : Plugin) (pkt : Packet) :
    (p.handle amb pkt).1 = (p.handle amb' pkt).1 ∧
      (p.handle amb pkt).2.map Packet.erase = (p.handle amb' pkt).2.map Packet.erase := by
  -- only the packet counter differs, and it goes into the ids alone
  obtain ⟨clock, battery, n⟩ := amb
  obtain ⟨clock', battery', n'⟩ := amb'
  obtain ⟨rfl, rfl⟩ : clock = clock' ∧ battery = battery' := ⟨h.clock, h.localBattery⟩
  cases p with
  | battery p =>
    simp only [Plugin.handle, BatteryPlugin.handle]
    split
    · exact ⟨rfl, rfl⟩
    · split <;> exact ⟨rfl, rfl⟩
  | stub m => exact ⟨rfl, rfl⟩
  | findMyPhone p =>
    simp only [Plugin.handle, FindMyPhonePlugin.handle, FindMyPhonePlugin.applyAction]
    repeat' split
    all_goals simp_all
  | mpris p =>
    simp only [Plugin.handle, MprisPlugin.handle, MprisPlugin.handleRequest]
    repeat' split
    all_goals simp_all
  | notifications p =>
    simp only [Plugin.handle, NotificationsPlugin.handle, NotificationsPlugin.relay]
    repeat' split
    all_goals simp_all
  | pauseMusic p => exact ⟨rfl, rfl⟩
  | ping p =>
    simp only [Plugin.handle, PingPlugin.handle]
    split <;> exact ⟨rfl, rfl⟩
  | runCommands p =>
    simp only [Plugin.handle, RunCommandsPlugin.handle, RunCommandsPlugin.handleRequest]
    repeat' split
    all_goals simp_all
  | share p => exact ⟨rfl, rfl⟩
  | systemVolume p => exact ⟨rfl, rfl⟩
  | telephony p =>
    simp only [Plugin.handle, TelephonyPlugin.handle, TelephonyPlugin.record]
    repeat' split
    all_goals simp_all

/-- Plugins answer alike but for packet ids. -/
theorem dispatch_alike (h : amb.Alike amb') (pkt : Packet) (ps : List Plugin) :
    (dispatch amb pkt ps).1 = (dispatch amb' pkt ps).1 ∧
      (dispatch amb pkt ps).2.map Packet.erase = (dispatch amb' pkt ps).2.map Packet.erase := by
  induction ps generalizing amb amb' with
  | nil => exact ⟨rfl, rfl⟩
  | cons p ps ih =>
    cases ht : p.takes pkt.ptype with
    | false =>
      rw [dispatch_cons_of_not_takes ht, dispatch_cons_of_not_takes ht]
      obtain ⟨hstates, hreplies⟩ := ih h
      exact ⟨by rw [hstates], hreplies⟩
    | true =>
      rw [dispatch_cons_of_takes ht, dispatch_cons_of_takes ht]
      obtain ⟨hstate, hproduced⟩ := p.handle_alike h pkt
      -- the counters have moved on, perhaps not equally far
      obtain ⟨hstates, hreplies⟩ := ih
        (h.after (p.handle amb pkt).2.length (p.handle amb' pkt).2.length)
      exact ⟨by rw [hstate, hstates], by simp only [List.map_append, hproduced, hreplies]⟩

end Handfast.Plugins

namespace Handfast.Daemon

open Handfast.Lib Handfast.Protocol Handfast.Plugins Handfast.Core

namespace Manager

variable {m m' : Manager} {env env' : Env} {d : String} {packet : Packet}

@[simp] theorem sentTo_emitSideEvents : sentTo Packet.erase d (emitSideEvents packet) = [] := by
  unfold emitSideEvents
  split
  · rfl
  · split
    · split <;> rfl
    · rfl

@[simp] theorem sentTo_onAnnounce {a : PeerAnnouncement} :
    sentTo Packet.erase d (m.onAnnounce a).2 = [] := by
  unfold onAnnounce entryForAnnouncement
  cases hs : m.devices.get a.identity.deviceId with
  | none => simp [hs, sentTo, Effect.sentTo]
  | some s => cases hconn : s.isConnected <;> simp [hs, hconn, sentTo, Effect.sentTo]

/-! ## Two actors that are alike for a device -/

/-- The actors keep the same for `d`, under the same settings. -/
structure Alike (d : String) (m m' : Manager) : Prop where
  state : m.devices.get d = m'.devices.get d
  parked : m.incomingPairs.get d = m'.incomingPairs.get d
  kv : m.store.kv = m'.store.kv

theorem Alike.entry_eq (h : Alike d m m') : m.entry d = m'.entry d := by
  simp [entry, h.state, h.parked]

theorem Alike.refl (d : String) (m : Manager) : Alike d m m := ⟨rfl, rfl, rfl⟩

theorem Alike.symm (h : Alike d m m') : Alike d m' m :=
  ⟨h.state.symm, h.parked.symm, h.kv.symm⟩

theorem Alike.setDevice (h : Alike d m m') (s : DeviceState) :
    Alike d (m.setDevice d s) (m'.setDevice d s) :=
  ⟨by simp, h.parked, h.kv⟩

theorem Alike.modifyDevice (h : Alike d m m') (f : DeviceState → DeviceState) :
    Alike d (m.modifyDevice d f) (m'.modifyDevice d f) :=
  ⟨by simp [h.state], by simp [h.parked], by simp [h.kv]⟩

theorem Alike.unpark (h : Alike d m m') : Alike d (m.unpark d) (m'.unpark d) :=
  ⟨h.state, by simp, h.kv⟩

theorem Alike.persistTrust (h : Alike d m m') (paired : Bool) :
    Alike d (m.persistTrust env d paired).1 (m'.persistTrust env' d paired).1 :=
  have hkv : ∀ {m : Manager} {env : Env},
      (m.persistTrust env d paired).1.store.kv = m.store.kv := by
    exact (persistTrust_keeps .trivial).here.only.kv
  ⟨by simp [h.state], by simp [h.parked], hkv.trans (h.kv.trans hkv.symm)⟩

/-- Changes to the transfer registry do not matter. -/
theorem Alike.of_same {n n' : Manager} (h : Alike d m m') (hs : SameDevices m n)
    (hs' : SameDevices m' n') : Alike d n n' :=
  ⟨by rw [hs.devices, hs'.devices, h.state],
    by rw [hs.incomingPairs, hs'.incomingPairs, h.parked], by rw [hs.store, hs'.store, h.kv]⟩

/-- Alike, and the same was sent to `d`. -/
structure SameOutcome (d : String) (r r' : Manager × List Effect) : Prop where
  alike : Alike d r.1 r'.1
  sent : sentTo Packet.erase d r.2 = sentTo Packet.erase d r'.2

end Manager

/-- Surroundings that differ in the packet counter and the data port at most. -/
structure Env.Matches (env env' : Env) : Prop where
  now : env.now = env'.now
  ambient : env.ambient.Alike env'.ambient
  storeRead : env.storeRead.isNone = env'.storeRead.isNone
  trySend : env.trySend = env'.trySend
  source : env.source = env'.source
  metadata : env.metadata = env'.metadata
  bindPort : env.bindPort.isOk = true ∧ env'.bindPort.isOk = true

namespace Manager

variable {m m' : Manager} {env env' : Env} {d e fileName : String} {packet : Packet} {t : Transport}
  {reply : ReplyTo} {payload : Except String Transport} {s : DeviceState} {c : Command}

theorem sentTo_spawnReceive {payload : Option Transport} :
    sentTo Packet.erase d (m.spawnReceive e packet payload).2 = [] := by
  unfold spawnReceive
  cases m.devices.get e <;> rfl

theorem sentTo_onSharePayload :
    sentTo Packet.erase d (m.onSharePayload e packet payload).2 = [] := by
  cases payload with
  | ok t => exact sentTo_spawnReceive
  | error reason => rfl

theorem sentTo_sendEmpty {modifiedMs : Int} :
    sentTo Packet.erase d (m.sendEmpty env e fileName modifiedMs s).2.1 =
      if e = d then s.sent env.trySend 0 (emptyHeader env fileName modifiedMs).erase else [] := by
  unfold sendEmpty DeviceState.sendOut DeviceState.sent
  cases s.outbound with
  | none => simp
  | some conn => cases env.trySend 0 <;> simp [registerTransfer]

/-- A header goes out once a data port is bound. -/
theorem sentTo_sendPayload {src : Materialized} {file : Metadata} :
    sentTo Packet.erase d (m.sendPayload env e fileName src file s).2.1 =
      match env.bindPort with
      | .ok port =>
        if e = d then
          s.sent env.trySend 0
            (payloadHeader env fileName file.modifiedMs file.len.toNat port).erase
        else []
      | .error _ => [] := by
  unfold sendPayload DeviceState.sendOut DeviceState.sent
  cases env.bindPort with
  | error err => simp
  | ok port =>
    cases s.outbound with
    | none => simp
    | some conn =>
      cases env.trySend 0 with
      | none => simp [registerTransfer]
      | some msg => simp

/-! ## The handlers -/

section Handlers

variable (h : Alike d m m')

include h

theorem onAnnounce_alike {a : PeerAnnouncement} :
    SameOutcome d (m.onAnnounce a) (m'.onAnnounce a) := by
  refine ⟨⟨?_, ?_, ?_⟩, by rw [sentTo_onAnnounce, sentTo_onAnnounce]⟩
  · rw [onAnnounce_devices_get, onAnnounce_devices_get, h.state]
  · rw [onAnnounce_incomingPairs.1, onAnnounce_incomingPairs.1, h.parked]
  · rw [onAnnounce_incomingPairs.2, onAnnounce_incomingPairs.2, h.kv]

theorem onConnected_alike : SameOutcome d (m.onConnected d t) (m'.onConnected d t) := by
  unfold onConnected
  rw [h.state]
  cases m'.devices.get d with
  | none => exact ⟨h.setDevice _, rfl⟩
  | some s =>
    simp only
    split
    · exact ⟨h, rfl⟩
    · exact ⟨h.setDevice _, rfl⟩

theorem onClosed_alike : SameOutcome d (m.onClosed d) (m'.onClosed d) := by
  unfold onClosed
  simp only [unpark_devices, h.state]
  cases m'.devices.get d with
  | none => exact ⟨h.unpark, rfl⟩
  | some s => exact ⟨h.unpark.setDevice _, rfl⟩

theorem spawnReceive_alike {payload : Option Transport} :
    SameOutcome d (m.spawnReceive d packet payload) (m'.spawnReceive d packet payload) :=
  ⟨h.of_same spawnReceive_same spawnReceive_same,
    by rw [sentTo_spawnReceive, sentTo_spawnReceive]⟩

theorem onSharePayload_alike :
    SameOutcome d (m.onSharePayload d packet payload) (m'.onSharePayload d packet payload) :=
  ⟨h.of_same onSharePayload_same onSharePayload_same,
    by rw [sentTo_onSharePayload, sentTo_onSharePayload]⟩

variable (he : env.Matches env')

include he

theorem Alike.autoAccept_eq : m.autoAccept env = m'.autoAccept env' := by
  have hread := he.storeRead
  unfold autoAccept Store.kvGet
  rw [h.kv]
  cases hr : env.storeRead <;> cases hr' : env'.storeRead <;> simp_all

/-- A pair packet reaches `d` from both or from none. -/
theorem Alike.sendPair (pair : Bool) :
    sentTo Packet.erase d (m.sendTo env d (pairPacket env pair)) =
      sentTo Packet.erase d (m'.sendTo env' d (pairPacket env' pair)) := by
  have hp : (pairPacket env pair).erase = (pairPacket env' pair).erase := rfl
  simp [sentTo_sendTo, h.state, he.trySend, hp]

theorem onPairRequest_alike : SameOutcome d (m.onPairRequest env d) (m'.onPairRequest env' d) := by
  unfold onPairRequest
  simp only [h.autoAccept_eq he, h.state]
  split
  · have hnext : Alike d (m.persistTrust env d true).1 (m'.persistTrust env' d true).1 :=
      h.persistTrust true
    refine ⟨hnext, ?_⟩
    simp only [sentTo_append, sentTo_persistTrust]
    rw [hnext.sendPair he]
  · split
    · exact ⟨h, h.sendPair he false⟩
    · refine ⟨⟨h.state, by simp [he.now], h.kv⟩, rfl⟩

theorem onPairPacket_alike :
    SameOutcome d (m.onPairPacket env d packet) (m'.onPairPacket env' d packet) := by
  unfold onPairPacket
  cases wantsPair packet with
  | none => exact ⟨h, rfl⟩
  | some wants =>
    simp only [h.state]
    cases (m'.devices.get d).bind DeviceState.pendingPairReply with
    | some reply =>
      have hclear := h.modifyDevice fun s => { s with pendingPairReply := none }
      cases wants with
      | true => exact ⟨hclear.persistTrust true, by simp⟩
      | false => exact ⟨hclear, rfl⟩
    | none =>
      cases wants with
      | true => exact onPairRequest_alike h he
      | false => exact ⟨h.unpark.persistTrust false, by simp [onPairRevoke]⟩

theorem answerIncomingPairing_alike (accept : Bool) :
    Alike d (m.answerIncomingPairing env d accept).1 (m'.answerIncomingPairing env' d accept).1 ∧
      sentTo Packet.erase d (m.answerIncomingPairing env d accept).2.1 =
        sentTo Packet.erase d (m'.answerIncomingPairing env' d accept).2.1 := by
  unfold answerIncomingPairing
  simp only [h.parked, he.now]
  cases m'.incomingPairs.get d with
  | none => exact ⟨h, rfl⟩
  | some deadline =>
    simp only
    split
    · exact ⟨h.unpark, rfl⟩
    · cases accept with
      | true =>
        have hnext : Alike d ((m.unpark d).persistTrust env d true).1
            ((m'.unpark d).persistTrust env' d true).1 := h.unpark.persistTrust true
        refine ⟨hnext, ?_⟩
        simp only [if_true, sentTo_append, sentTo_persistTrust, sentTo_publish]
        rw [hnext.sendPair he]
      | false =>
        refine ⟨h.unpark, ?_⟩
        simp only [Bool.false_eq_true, if_false, sentTo_append, sentTo_nil, sentTo_publish]
        rw [h.unpark.sendPair he]

theorem onPairingTimeout_alike :
    SameOutcome d (m.onPairingTimeout env d) (m'.onPairingTimeout env' d) := by
  unfold onPairingTimeout
  rw [h.parked]
  cases m'.incomingPairs.get d with
  | none => exact ⟨h, rfl⟩
  | some deadline => exact ⟨h.unpark, h.sendPair he false⟩

theorem beginPairing_alike :
    SameOutcome d (m.beginPairing env d reply) (m'.beginPairing env' d reply) := by
  unfold beginPairing DeviceState.sendOut
  rw [h.state, he.trySend]
  cases m'.devices.get d with
  | none => exact ⟨h, rfl⟩
  | some s =>
    simp only
    split
    · exact ⟨h, rfl⟩
    · split
      · exact ⟨h, rfl⟩
      · split
        · exact ⟨h.setDevice _, by simp [pairPacket]⟩
        · exact ⟨h.setDevice _, by simp⟩

theorem unpair_alike : SameOutcome d (m.unpair env d) (m'.unpair env' d) := by
  refine ⟨h.persistTrust false, ?_⟩
  simp only [unpair, sentTo_append, sentTo_persistTrust]
  rw [h.sendPair he]

/-- What the plugins answer depends on their own device only. -/
theorem routePacket_alike :
    SameOutcome d (m.routePacket env d packet) (m'.routePacket env' d packet) := by
  -- what is sent is the erased replies, as far as the queue takes them
  have hsent : ∀ {m : Manager} {env : Env}, sentTo Packet.erase d (m.routePacket env d packet).2 =
      ((m.devices.get d).map fun s =>
        (((dispatch env.ambient packet s.plugins).2.map Packet.erase).zipIdx.flatMap
          fun rk => s.sent env.trySend rk.2 rk.1)).getD [] := by
    intro m env
    simp only [routePacket, sentTo_append, sentTo_emitSideEvents, List.nil_append,
      sentTo_sendReplies]
    cases hs : m.devices.get d <;> simp [dispatchToPlugins, hs, DeviceState.sent]
  have hdispatch := fun ps => dispatch_alike he.ambient packet ps
  refine ⟨⟨?_, ?_, ?_⟩, ?_⟩
  · simp only [routePacket_devices_get, h.state, (hdispatch _).1]
  · simp only [routePacket_incomingPairs, h.parked]
  · simp only [routePacket_store, h.kv]
  · simp only [hsent, h.state, (hdispatch _).2, he.trySend]

theorem onPacket_alike : SameOutcome d (m.onPacket env d packet) (m'.onPacket env' d packet) := by
  unfold onPacket
  split
  · cases Identity.fromValue packet.body with
    | none => exact ⟨h, rfl⟩
    | some identity => exact ⟨h.modifyDevice _, rfl⟩
  · split
    · exact onPairPacket_alike h he
    · split
      · exact spawnReceive_alike h
      · exact routePacket_alike h he

theorem sendFile_alike (path : String) :
    Alike d (m.sendFile env d path).1 (m'.sendFile env' d path).1 ∧
      sentTo Packet.erase d (m.sendFile env d path).2.1 =
        sentTo Packet.erase d (m'.sendFile env' d path).2.1 := by
  refine ⟨h.of_same sendFile_same sendFile_same, ?_⟩
  unfold sendFile
  rw [he.source, he.metadata, h.state]
  cases env'.source path with
  | error err => rfl
  | ok src =>
    simp only
    cases env'.metadata src.localPath with
    | error err => simp
    | ok file =>
      simp only
      split
      · simp
      · cases m'.devices.get d with
        | none => simp
        | some s =>
          simp only
          split
          · simp
          · split
            · rw [sentTo_sendEmpty, sentTo_sendEmpty, he.trySend]
              rfl
            · -- the ports may differ, and are erased
              obtain ⟨hport, hport'⟩ := he.bindPort
              rw [sentTo_sendPayload, sentTo_sendPayload, he.trySend]
              cases hp : env.bindPort <;> cases hp' : env'.bindPort <;>
                simp_all [Except.isOk, Except.toBool]
              rfl

/-- The same command about `d` keeps two actors alike and sends the same. -/
theorem handle_alike (hc : c.device = some d) :
    SameOutcome d (m.handle env c) (m'.handle env' c) := by
  cases c with
  | announce a => exact onAnnounce_alike h
  | connected e t => cases hc; exact onConnected_alike h
  | packetFrom e p => cases hc; exact onPacket_alike h he
  | connClosed e => cases hc; exact onClosed_alike h
  | startPairing e reply => cases hc; exact beginPairing_alike h he
  | unpair e reply =>
    cases hc
    have hout := unpair_alike h he
    exact ⟨hout.alike, by simp [handle, hout.sent]⟩
  | pairingAnswer e accept reply =>
    cases hc
    obtain ⟨hnext, hsent⟩ := answerIncomingPairing_alike h he accept
    exact ⟨hnext, by simp [handle, hsent]⟩
  | pairingTimeout e => cases hc; exact onPairingTimeout_alike h he
  | sendFile e path reply =>
    cases hc
    obtain ⟨hnext, hsent⟩ := sendFile_alike h he path
    exact ⟨hnext, by simp [handle, hsent]⟩
  | sharePayload e header payload => cases hc; exact onSharePayload_alike h
  -- these concern no device
  | listDevices reply => cases hc
  | listTransfers reply => cases hc
  | cancelTransfer id reply => cases hc
  | transferOutcome id result => cases hc

end Handlers

/-! ## Commands about other devices -/

/-- A command about another device sends this one nothing. -/
theorem sentTo_handle_other (h : c.device ≠ some d) :
    sentTo Packet.erase d (m.handle env c).2 = [] := by
  refine List.filterMap_eq_nil_iff.mpr fun e he => ?_
  cases e with
  | queued e conn p =>
    have hne : e ≠ d := fun heq => not_queued_other h conn p (heq ▸ he)
    exact if_neg hne
  | _ => rfl

/-- A command about another device keeps two actors alike. -/
theorem Alike.step_other (h : Alike d m m') {a : Env × Command} (hc : a.2.device ≠ some d) :
    Alike d (m.step a) m' := by
  have hentry : (m.step a).entry d = m.entry d := (handle_other hc).1
  exact ⟨(congrArg Entry.state hentry).trans h.state,
    (congrArg Entry.parked hentry).trans h.parked, handle_settings.1.trans h.kv⟩

/-! ## Isolation -/

/-- Whether a command is about `d`. -/
def isAbout (d : String) (a : Env × Command) : Bool := a.2.device = some d

/-- The packets queued to `d` in a run, without ids and data ports. -/
def sentInRun (d : String) (m : Manager) (as : List (Env × Command)) : List (ConnId × Packet) :=
  outputs step (fun m a => sentTo Packet.erase d (m.handle a.1 a.2).2) m as

/-- **Isolation.** Two runs from one state with the same commands about `d`, each
    in surroundings that differ in the packet counter and the data port at
    most, and with any other commands in between, keep the same for `d` and
    queue the same packets to it. -/
theorem isolation (d : String) (m : Manager) (as bs : List (Env × Command))
    (h : List.Forall₂ (fun a b => a.2 = b.2 ∧ a.1.Matches b.1)
      (as.filter (isAbout d)) (bs.filter (isAbout d))) :
    (run step m as).entry d = (run step m bs).entry d ∧
      sentInRun d m as = sentInRun d m bs := by
  have hother : ∀ {a : Env × Command}, isAbout d a = false → a.2.device ≠ some d := by
    intro a ha
    simpa [isAbout] using ha
  have hsync : ∀ m m' a b, isAbout d a = true → (a.2 = b.2 ∧ a.1.Matches b.1) → Alike d m m' →
      Alike d (m.step a) (m'.step b) ∧
        sentTo Packet.erase d (m.handle a.1 a.2).2 =
          sentTo Packet.erase d (m'.handle b.1 b.2).2 := by
    rintro m m' ⟨env, c⟩ ⟨env', c'⟩ ha ⟨rfl, he⟩ hm
    have hout := handle_alike hm he (by simpa [isAbout] using ha)
    exact ⟨hout.alike, hout.sent⟩
  -- local respect on either side, no output of others, and step consistency
  obtain ⟨halike, hsent⟩ := unwinding
    (fun _ _ _ ha hm => Alike.step_other hm (hother ha))
    (fun _ _ _ ha hm => (Alike.step_other hm.symm (hother ha)).symm)
    (fun _ _ ha => sentTo_handle_other (hother ha)) hsync (Alike.refl d m) h
  exact ⟨halike.entry_eq, hsent⟩

def phoneAlone : List (Env × Command) :=
  [(.nominal 0, .connected "phone" (.uniform 1 7)),
   (.nominal 3, .packetFrom "phone" (.new 1 typePing .null))]

/-- The same with a tablet that connects, pings and asks to pair in between; the
    phone's answer gets another id. -/
def phoneAndTablet : List (Env × Command) :=
  [(.nominal 0, .connected "phone" (.uniform 1 7)),
   (.nominal 1, .connected "tablet" (.uniform 2 9)),
   (.nominal 2, .packetFrom "tablet" (.new 1 typePing .null)),
   (.nominal 2, .packetFrom "tablet" (pairPacket (.nominal 2) true)),
   ({ Env.nominal 3 with ambient := { clock := 0, localBattery := none, packetId := 1 } },
    .packetFrom "phone" (.new 1 typePing .null))]

/-- The phone cannot tell. -/
theorem isolation_phoneAndTablet :
    let m := (new .empty "desk" default (.dir "/tmp")).loadPersisted
    (run step m phoneAndTablet).entry "phone" = (run step m phoneAlone).entry "phone" ∧
      sentInRun "phone" m phoneAndTablet = sentInRun "phone" m phoneAlone ∧
      (sentInRun "phone" m phoneAlone).length = 1 := by
  intro m
  have hsame : List.Forall₂ (fun a b : Env × Command => a.2 = b.2 ∧ a.1.Matches b.1)
      (phoneAndTablet.filter (isAbout "phone")) (phoneAlone.filter (isAbout "phone")) :=
    .cons ⟨rfl, rfl, ⟨rfl, rfl⟩, rfl, rfl, rfl, rfl, rfl, rfl⟩
      (.cons ⟨rfl, rfl, ⟨rfl, rfl⟩, rfl, rfl, rfl, rfl, rfl, rfl⟩ .nil)
  obtain ⟨hentry, hsent⟩ := isolation "phone" m phoneAndTablet phoneAlone hsame
  exact ⟨hentry, hsent, by decide⟩

end Manager
end Handfast.Daemon
