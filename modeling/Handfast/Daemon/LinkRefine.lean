/-
  Handfast.Daemon.LinkRefine

  The device manager refines the pairing machine of each device: `Manager.link`
  reads a device's link off the actor, and a command moves it exactly as
  `Link.step` does (`Manager.handle_link`).  So do its outputs: the events it
  publishes about the device, the pairing calls it resolves and the pair packets
  it queues are those of the machine (`Tells`).  A restart restores the link as
  `Link.restart` says (`Manager.restart_link`).
-/
import Handfast.Daemon.Link
import Handfast.Daemon.Outbox

namespace Handfast.Daemon

open Handfast.Lib Handfast.Protocol Handfast.Plugins Handfast.Core

/-! ## Outputs of a command -/

/-- An event about one device, without its id. -/
inductive Notice where
  | found
  | lost
  | state (label : String)
  deriving DecidableEq, Repr

/-- The device an event is about, and what it says. -/
def newsOf : Event → Option (String × Notice)
  | .deviceFound id _ => some (id, .found)
  | .deviceLost id => some (id, .lost)
  | .deviceStateChanged id label => some (id, .state label)
  | _ => none

def Effect.event? : Effect → Option Event
  | .publish ev => some ev
  | _ => none

/-- The events a list of effects puts on the bus, in order. -/
def published (effects : List Effect) : List Event := effects.filterMap Effect.event?

def news (effects : List Effect) : List (String × Notice) := (published effects).filterMap newsOf

/-- The pairing call an effect resolves: with a decision, or with an error. -/
def Effect.resolution : Effect → Option (ReplyTo × Option Bool)
  | .replied reply (.pairing (.ok decision)) => some (reply, some decision)
  | .replied reply (.pairing (.error _)) => some (reply, none)
  | .dropped reply => some (reply, none)
  | _ => none

def resolutions (effects : List Effect) : List (ReplyTo × Option Bool) :=
  effects.filterMap Effect.resolution

section Heard

variable {effects : List Effect}

@[simp] theorem news_nil : news [] = [] := rfl

@[simp] theorem news_append (xs ys : List Effect) : news (xs ++ ys) = news xs ++ news ys := by
  simp [news, published]

@[simp] theorem news_cons (e : Effect) (rest : List Effect) :
    news (e :: rest) = (e.event?.bind newsOf).toList ++ news rest := by
  cases h : e.event? with
  | none => simp [news, published, h]
  | some ev => cases hn : newsOf ev <;> simp [news, published, h, hn]

@[simp] theorem resolutions_nil : resolutions [] = [] := rfl

@[simp] theorem resolutions_append (es es' : List Effect) :
    resolutions (es ++ es') = resolutions es ++ resolutions es' :=
  List.filterMap_append

@[simp] theorem resolutions_cons (e : Effect) (es : List Effect) :
    resolutions (e :: es) = e.resolution.toList ++ resolutions es := by
  cases h : e.resolution <;> simp [resolutions, h]

/-- Effects that are no news and resolve no call. -/
structure Mute (effects : List Effect) : Prop where
  news : news effects = []
  resolutions : resolutions effects = []

theorem mute_of_forall (h : ∀ e ∈ effects, e.event?.bind newsOf = none ∧ e.resolution = none) :
    Mute effects := by
  induction effects with
  | nil => exact ⟨rfl, rfl⟩
  | cons e rest ih =>
    obtain ⟨⟨hnews, hres⟩, hrest⟩ := List.forall_mem_cons.mp h
    exact ⟨by simp [hnews, (ih hrest).news], by simp [hres, (ih hrest).resolutions]⟩

/-- Sends and receives are no news of a device. -/
theorem mute_of_serves {d : String} (h : ∀ e ∈ effects, e.serves d = true) : Mute effects := by
  refine mute_of_forall fun e he => ?_
  have hserves : e.serves d = true := h e he
  cases e with
  | publish ev => cases ev <;> first | exact ⟨rfl, rfl⟩ | cases hserves
  | replied reply answer | dropped reply => cases hserves
  | _ => exact ⟨rfl, rfl⟩

end Heard

/-! ## The pairing machine with its outputs -/

namespace Link

/-- A recorded trust decision is published, for a known device only. -/
def persistNotices (l : Link) (paired : Bool) : List Notice :=
  if l.known then [.state (if paired then "paired" else "unpaired")] else []

/-- What is published about the device when an input arrives. -/
def notices (l : Link) : Input → List Notice
  | .announce => if l.known then [] else [.found]
  | .attach _ fingerprint =>
    if Manager.gateRejects l.pinned (hex fingerprint) then []
    else if l.known then [.state "online"] else [.found]
  | .close => [.state "offline"]
  | .pair wants auto _ _ =>
    if l.pending.isSome then if wants then l.persistNotices true else []
    else if wants then
      if l.outbound.isNone then [] else if auto then l.persistNotices true else []
    else l.persistNotices false ++ [.state "unpaired"]
  | .unpair _ => l.persistNotices false
  | .answer accept now _ =>
    match l.parked with
    | none => []
    | some deadline =>
      if now ≤ deadline then
        (if accept then l.persistNotices true else []) ++
          [.state (if accept then "paired" else "unpaired")]
      else []
  | .start _ _ | .expire | .idle => []

/-- A pair packet goes out over the live connection if its queue has `room`. -/
def post (l : Link) (room pair : Bool) : List (ConnId × Bool) :=
  if room then (l.outbound.map (·, pair)).toList else []

/-- The pair packets that are queued to the device when an input arrives. -/
def posts (l : Link) (room : Bool) : Input → List (ConnId × Bool)
  | .pair wants auto _ _ =>
    if wants ∧ auto ∧ l.pending = none then l.post room true else []
  | .start _ _ => if l.pinned.isNone then l.post room true else []
  | .unpair _ => l.post room false
  | .answer accept now _ => if l.parked.any (now ≤ ·) then l.post room accept else []
  | .expire => if l.parked.isSome then l.post room false else []
  | .announce | .attach _ _ | .close | .idle => []

/-- The link of a device with this table entry, parked request and row. -/
def of (s : Option DeviceState) (parked : Option Nat) (row : Option (Option String)) : Link where
  known := s.isSome
  pinned := s.bind DeviceState.pinnedFingerprint
  live := s.bind DeviceState.liveFingerprint
  outbound := s.bind DeviceState.outbound
  pending := s.bind DeviceState.pendingPairReply
  parked := parked
  row := row

end Link

def rowPin (row : DeviceRow) : Option String :=
  if row.paired then some row.certFingerprint else none

/-- What a command means for the device it is about. -/
def Command.linkInput (auto : Bool) (env : Env) : Command → Link.Input
  | .announce _ => .announce
  | .connected _ t => .attach t.conn t.peerFingerprint
  | .connClosed _ => .close
  | .packetFrom _ p =>
    if p.ptype = typePair then
      match Manager.wantsPair p with
      | some wants => .pair wants auto env.now env.storeWrite.isNone
      | none => .idle
    else .idle
  | .startPairing _ reply => .start reply (env.trySend 0).isNone
  | .unpair _ _ => .unpair env.storeWrite.isNone
  | .pairingAnswer _ accept _ => .answer accept env.now env.storeWrite.isNone
  | .pairingTimeout _ => .expire
  | .sendFile _ _ _ | .sharePayload _ _ _ | .listDevices _ | .listTransfers _
  | .cancelTransfer _ _ | .transferOutcome _ _ => .idle

/-- The command is a `pair: true` packet from `d`. -/
def Command.PairsFrom (d : String) : Command → Prop
  | .packetFrom e p => e = d ∧ p.ptype = typePair ∧ Manager.wantsPair p = some true
  | _ => False

/-- The command is the user accepting the parked request of `d`. -/
def Command.AcceptsRequest (d : String) : Command → Prop
  | .pairingAnswer e accept _ => e = d ∧ accept = true
  | _ => False

namespace Manager

variable {m m' : Manager} {env : Env} {d : String} {packet : Packet} {reply : ReplyTo}
  {effects : List Effect} {c : Command}

def link (m : Manager) (d : String) : Link :=
  .of (m.devices.get d) (m.incomingPairs.get d) ((m.store.devices.get d).map rowPin)

/-- What a command means for device `d`. -/
def linkInput (m : Manager) (env : Env) (d : String) (c : Command) : Link.Input :=
  if c.device = some d then c.linkInput (m.autoAccept env) env else .idle

/-! ## Handlers -/

theorem link_congr (hd : m'.devices.get d = m.devices.get d)
    (hp : m'.incomingPairs.get d = m.incomingPairs.get d)
    (hr : m'.store.devices.get d = m.store.devices.get d) : m'.link d = m.link d := by
  simp only [link, hd, hp, hr]

theorem SameDevices.link_eq (h : SameDevices m m') : m'.link d = m.link d :=
  link_congr (by rw [h.devices]) (by rw [h.incomingPairs]) (by rw [h.store])

def addressed (d : String) (notices : List Notice) : List (String × Notice) :=
  notices.map fun n => (d, n)

/-- A handler does what the pairing machine of `d` does: the link moves, and what is
    published, answered and (in commands about pairing) sent is what the machine puts out. -/
structure Tells (env : Env) (m : Manager) (d : String) (i : Link.Input) (m' : Manager)
    (effects : List Effect) : Prop where
  link : m'.link d = (m.link d).step i
  news : news effects = addressed d ((m.link d).notices i)
  resolutions : resolutions effects = (m.link d).resolves i
  sent : i ≠ .idle → sentTo id d effects =
    ((m.link d).posts (env.trySend 0).isNone i).map fun x => (x.1, pairPacket env x.2)

theorem Tells.idle (h : m'.link d = m.link d) (hm : Mute effects) :
    Tells env m d .idle m' effects :=
  ⟨h, hm.news, hm.resolutions, fun hne => absurd rfl hne⟩

section Connections

attribute [local simp] link Link.of Link.step Link.notices Link.resolves Link.posts Link.post
  Effect.sentTo Effect.event? newsOf Effect.resolution addressed sentTo List.filterMap_cons

/-- An announcement makes the device known. -/
theorem onAnnounce_tells {a : PeerAnnouncement} :
    Tells env m a.identity.deviceId .announce (m.onAnnounce a).1 (m.onAnnounce a).2 := by
  unfold onAnnounce entryForAnnouncement
  cases hs : m.devices.get a.identity.deviceId with
  | none => constructor <;> simp [hs, DeviceState.new]
  | some s => cases hc : s.isConnected <;> constructor <;> simp [hs, hc]

/-- A connection that passes the gate attaches. -/
theorem onConnected_tells {t : Transport} :
    Tells env m d (.attach t.conn t.peerFingerprint) (m.onConnected d t).1
      (m.onConnected d t).2 := by
  unfold onConnected
  cases hs : m.devices.get d with
  | none => constructor <;> simp [hs, attach, shellEntry, DeviceState.new]
  | some s =>
    by_cases hg : gateRejects s.pinnedFingerprint (hex t.peerFingerprint) = true <;>
      constructor <;> simp [hs, hg, attach]

/-- The end of a connection fails the call that waits on it. -/
theorem onClosed_tells : Tells env m d .close (m.onClosed d).1 (m.onClosed d).2 := by
  unfold onClosed
  cases hs : m.devices.get d with
  | none => constructor <;> simp [hs]
  | some s => cases hp : s.pendingPairReply <;> constructor <;> simp [hs, hp]

/-- A start-pairing call takes the slot, or fails at once. -/
theorem beginPairing_tells :
    Tells env m d (.start reply (env.trySend 0).isNone) (m.beginPairing env d reply).1
      (m.beginPairing env d reply).2 := by
  unfold beginPairing DeviceState.sendOut
  cases hs : m.devices.get d with
  | none => constructor <;> simp [hs]
  | some s =>
    -- an older call is dropped; the new one stays only if its packet was queued
    cases ho : s.outbound <;> cases hpin : s.pinnedFingerprint <;>
      cases hp : s.pendingPairReply <;> cases ht : env.trySend 0 <;> constructor <;>
      simp [hs, ho, hpin, hp, ht, DeviceState.isConnected]

end Connections

theorem unpark_link : (m.unpark d).link d = { m.link d with parked := none } := by
  simp [link, Link.of]

/-- On the link, a trust decision is `Link.persist`. -/
theorem persistTrust_link {paired : Bool} :
    (m.persistTrust env d paired).1.link d =
      (m.link d).persist paired env.storeWrite.isNone := by
  simp only [link, persistTrust_devices_get, if_true, persistTrust_incomingPairs,
    persistTrust_store]
  cases m.devices.get d with
  | none => rfl
  | some s =>
    cases env.storeWrite <;> cases paired <;>
      simp [Link.of, Link.persist, Link.trustFingerprint, Store.upsertDevice, trusted, trustRow,
        rowPin, trustFingerprint]

theorem clearPending_link :
    (m.modifyDevice d fun s => { s with pendingPairReply := none }).link d =
      { m.link d with pending := none } := by
  simp only [link, modifyDevice_devices_get, if_true, modifyDevice_incomingPairs,
    modifyDevice_store]
  cases m.devices.get d <;> rfl

theorem park_link {deadline : Nat} :
    { m with incomingPairs := m.incomingPairs.insert d deadline }.link d =
      { m.link d with parked := some deadline } := by
  simp [link, Link.of]

theorem link_outbound_isSome :
    (m.link d).outbound.isSome = (m.devices.get d).any DeviceState.isConnected := by
  cases h : m.devices.get d <;> simp [link, Link.of, h, DeviceState.isConnected]

theorem persistTrust_news (paired : Bool) :
    news (m.persistTrust env d paired).2 = addressed d ((m.link d).persistNotices paired) := by
  unfold persistTrust Link.persistNotices
  cases hs : m.devices.get d <;> simp [link, Link.of, hs, Effect.event?, newsOf, addressed]

theorem persistTrust_resolutions (paired : Bool) :
    resolutions (m.persistTrust env d paired).2 = [] := by
  unfold persistTrust
  cases m.devices.get d <;> rfl

theorem sendTo_mute : Mute (m.sendTo env d packet) := by
  refine mute_of_forall fun e he => ?_
  obtain ⟨conn, rfl⟩ := mem_sendTo he
  exact ⟨rfl, rfl⟩

theorem sentTo_pairPacket (pair : Bool) :
    sentTo id d (m.sendTo env d (pairPacket env pair)) =
      ((m.link d).post (env.trySend 0).isNone pair).map fun x => (x.1, pairPacket env x.2) := by
  rw [sentTo_sendTo, if_pos rfl]
  cases hs : m.devices.get d with
  | none => simp [link, Link.of, hs, Link.post]
  | some s =>
    cases ho : s.outbound <;> cases ht : env.trySend 0 <;>
      simp [link, Link.of, hs, ho, ht, Link.post, DeviceState.sent]

section Pairing

attribute [local simp] Link.step Link.notices Link.resolves Link.posts Link.post unpark_link
  clearPending_link park_link persistTrust_link persistTrust_news persistTrust_resolutions
  sentTo_pairPacket sendTo_mute Mute.news Mute.resolutions Effect.event? newsOf
  Effect.resolution addressed Link.persistNotices

theorem unpair_tells :
    Tells env m d (.unpair env.storeWrite.isNone) (m.unpair env d).1 (m.unpair env d).2 := by
  constructor <;> simp [unpair]

/-- A request that runs out is refused and forgotten. -/
theorem onPairingTimeout_tells :
    Tells env m d .expire (m.onPairingTimeout env d).1 (m.onPairingTimeout env d).2 := by
  have hparked : (m.link d).parked = m.incomingPairs.get d := rfl
  unfold onPairingTimeout
  cases h : m.incomingPairs.get d with
  | none =>
    refine ⟨?_, rfl, rfl, by simp [hparked, h]⟩
    simp [Link.step, link, Link.of, h]
  | some deadline => constructor <;> simp [hparked, h]

/-- The user's answer is recorded and sent, if it comes in time. -/
theorem answerIncomingPairing_tells {accept : Bool} :
    Tells env m d (.answer accept env.now env.storeWrite.isNone)
      (m.answerIncomingPairing env d accept).1 (m.answerIncomingPairing env d accept).2.1 := by
  have hparked : (m.link d).parked = m.incomingPairs.get d := rfl
  unfold answerIncomingPairing
  cases h : m.incomingPairs.get d with
  | none => constructor <;> simp [hparked, h]
  | some deadline =>
    by_cases hlate : env.now > deadline
    · constructor <;> simp [hparked, h, hlate, Nat.not_le.mpr hlate]
    · have hok : env.now ≤ deadline := Nat.not_lt.mp hlate
      cases accept <;> constructor <;> simp [hparked, h, hlate, hok]

/-- A pair packet answers our request, asks, or revokes. -/
theorem onPairPacket_tells {wants : Bool} (hw : wantsPair packet = some wants) :
    Tells env m d (.pair wants (m.autoAccept env) env.now env.storeWrite.isNone)
      (m.onPairPacket env d packet).1 (m.onPairPacket env d packet).2 := by
  have hpending : (m.link d).pending = (m.devices.get d).bind DeviceState.pendingPairReply := rfl
  unfold onPairPacket onPairRequest onPairRevoke
  rw [hw]
  cases hp : (m.devices.get d).bind DeviceState.pendingPairReply with
  -- case 1 of `on_pair_packet`: our own request is answered
  | some reply => cases wants <;> constructor <;> simp [hpending, hp]
  -- case 2: theirs, or a revocation
  | none =>
    cases wants with
    | false => constructor <;> simp [hpending, hp]
    | true =>
      simp only [← link_outbound_isSome]
      cases ho : (m.link d).outbound <;> cases ha : m.autoAccept env <;> constructor <;>
        simp [hpending, hp, ho]

end Pairing

/-- No other packet concerns the link. -/
theorem onPacket_tells :
    Tells env m d ((Command.packetFrom d packet).linkInput (m.autoAccept env) env)
      (m.onPacket env d packet).1 (m.onPacket env d packet).2 := by
  have h : Receives m env d packet (m.onPacket env d packet) := onPacket_receives packet
  generalize m.onPacket env d packet = out at h ⊢
  simp only [Command.linkInput]
  cases h with
  | identity identity hother =>
    rw [if_neg hother]
    refine .idle ?_ ⟨rfl, rfl⟩
    simp only [link, modifyDevice_devices_get, if_true, modifyDevice_incomingPairs,
      modifyDevice_store]
    cases m.devices.get d <;> rfl
  | malformed hother =>
    rw [if_neg hother]
    exact .idle rfl ⟨rfl, rfl⟩
  | pair hpair =>
    rw [if_pos hpair]
    cases hw : wantsPair packet with
    | none =>
      simp only [onPairPacket, hw]
      exact .idle rfl ⟨rfl, rfl⟩
    | some wants => exact onPairPacket_tells hw
  | file hother =>
    rw [if_neg hother]
    exact .idle spawnReceive_same.link_eq (mute_of_serves spawnReceive_serves)
  | plugins hother =>
    rw [if_neg hother]
    refine .idle ?_ (mute_of_forall fun e he => ?_)
    · simp only [link, routePacket_devices_get, if_true, routePacket_incomingPairs,
        routePacket_store]
      cases m.devices.get d <;> rfl
    · -- the desktop events and the replies of plugins are about no device
      rcases List.mem_append.mp he with he | he
      · rcases mem_emitSideEvents he with ⟨_, _, _, _, rfl⟩ | ⟨_, rfl⟩ <;> exact ⟨rfl, rfl⟩
      · obtain ⟨conn, p, rfl⟩ := mem_sendReplies he
        exact ⟨rfl, rfl⟩

/-! ## The refinement -/

/-- A reply at the end that resolves no pairing call is not heard of. -/
theorem Tells.replies {i : Link.Input} (h : Tells env m d i m' effects) (reply : ReplyTo)
    {answer : Reply} (ha : (Effect.replied reply answer).resolution = none) :
    Tells env m d i m' (effects ++ [.replied reply answer]) :=
  ⟨h.link, by simpa [Effect.event?] using h.news, by simpa [ha] using h.resolutions,
    by simpa using h.sent⟩

/-- **Refinement.** A command does for the device it is about what the pairing machine
    says. -/
theorem handle_tells (hc : c.device = some d) :
    Tells env m d (c.linkInput (m.autoAccept env) env) (m.handle env c).1 (m.handle env c).2 := by
  cases c with
  | announce a => cases hc; exact onAnnounce_tells
  | connected e t => cases hc; exact onConnected_tells
  | packetFrom e p => cases hc; exact onPacket_tells
  | connClosed e => cases hc; exact onClosed_tells
  | startPairing e reply => cases hc; exact beginPairing_tells
  | unpair e reply => cases hc; exact unpair_tells.replies reply rfl
  | pairingAnswer e accept reply => cases hc; exact answerIncomingPairing_tells.replies reply rfl
  | pairingTimeout e => cases hc; exact onPairingTimeout_tells
  | sendFile e path reply =>
    cases hc
    exact (Tells.idle sendFile_same.link_eq (mute_of_serves sendFile_serves)).replies reply rfl
  | sharePayload e header payload =>
    cases hc
    exact .idle onSharePayload_same.link_eq (mute_of_serves onSharePayload_serves)
  | listDevices reply | listTransfers reply | cancelTransfer id reply
  | transferOutcome id result => cases hc

/-- A command moves the link of every device as the pairing machine says. -/
theorem handle_link (m : Manager) (env : Env) (d : String) (c : Command) :
    (m.handle env c).1.link d = (m.link d).step (m.linkInput env d c) := by
  unfold linkInput
  by_cases hc : c.device = some d
  · rw [if_pos hc]
    exact (handle_tells hc).link
  · rw [if_neg hc]
    -- a command about another device leaves the entry and the row alone
    obtain ⟨hentry, hrow⟩ : (m.handle env c).1.entry d = m.entry d ∧
        (m.handle env c).1.store.devices.get d = m.store.devices.get d := handle_other hc
    exact link_congr (congrArg Entry.state hentry) (congrArg Entry.parked hentry) hrow

/-- What a command publishes about devices: the notices of the device it is about,
    under its id. -/
theorem handle_news (m : Manager) (env : Env) (c : Command) :
    news (m.handle env c).2 =
      match c.device with
      | some d => addressed d ((m.link d).notices (c.linkInput (m.autoAccept env) env))
      | none => [] := by
  cases hc : c.device with
  | some d => exact (handle_tells hc).news
  | none =>
    cases c with
    | transferOutcome id result => cases result <;> rfl
    | listDevices reply | listTransfers reply | cancelTransfer id reply => rfl
    | _ => cases hc

/-- The pairing calls a command resolves are those its device's link resolves. -/
theorem handle_resolutions (m : Manager) (env : Env) (c : Command) :
    resolutions (m.handle env c).2 =
      match c.device with
      | some d => (m.link d).resolves (c.linkInput (m.autoAccept env) env)
      | none => [] := by
  cases hc : c.device with
  | some d => exact (handle_tells hc).resolutions
  | none =>
    cases c with
    | transferOutcome id result => cases result <;> rfl
    | listDevices reply | listTransfers reply | cancelTransfer id reply => rfl
    | _ => cases hc

/-- A command about pairing queues the pair packets the machine puts out. -/
theorem handle_sent (h : m.linkInput env d c ≠ .idle) :
    sentTo id d (m.handle env c).2 =
      ((m.link d).posts (env.trySend 0).isNone (m.linkInput env d c)).map
        fun x => (x.1, pairPacket env x.2) := by
  unfold linkInput at h ⊢
  split at h
  · rename_i hc
    rw [if_pos hc]
    exact (handle_tells hc).sent h
  · exact absurd rfl h

/-- **What completes a pairing.** A `pair: true` packet that finds our own request
    pending or is accepted automatically, or the user accepting a parked request
    in time. -/
theorem completes_linkInput {c : Command} :
    (m.link d).Completes (m.linkInput env d c) ↔
      c.PairsFrom d ∧ ((m.link d).pending.isSome ∨
          m.autoAccept env = true ∧ (m.link d).outbound.isSome) ∨
        c.AcceptsRequest d ∧ ∃ deadline ∈ (m.link d).parked, env.now ≤ deadline := by
  unfold linkInput
  by_cases hc : c.device = some d
  · rw [if_pos hc]
    cases c with
    | packetFrom e p =>
      cases hc
      simp only [Command.linkInput, Command.PairsFrom, Command.AcceptsRequest]
      by_cases hp : p.ptype = typePair
      · cases hw : wantsPair p with
        | none => simp [hp, Link.Completes]
        | some wants => simp [hp, Link.Completes]
      · simp [hp, Link.Completes]
    | pairingAnswer e accept reply =>
      cases hc
      simp [Command.linkInput, Command.PairsFrom, Command.AcceptsRequest, Link.Completes]
    | _ => simp [Command.linkInput, Command.PairsFrom, Command.AcceptsRequest, Link.Completes]
  -- a command of another device is no input here
  · rw [if_neg hc]
    cases c with
    | packetFrom e p =>
      have hne : e ≠ d := fun he => hc (by rw [he]; rfl)
      simp [Command.PairsFrom, Command.AcceptsRequest, Link.Completes, hne]
    | pairingAnswer e accept reply =>
      have hne : e ≠ d := fun he => hc (by rw [he]; rfl)
      simp [Command.PairsFrom, Command.AcceptsRequest, Link.Completes, hne]
    | _ => simp [Command.PairsFrom, Command.AcceptsRequest, Link.Completes]

/-- What a packet means for a device: a well-formed pair packet, or nothing. -/
theorem linkInput_packetFrom (m : Manager) (env : Env) (d e : String) (p : Packet) :
    m.linkInput env d (.packetFrom e p) = .idle ∨
      ∃ wants, e = d ∧ p.ptype = typePair ∧ wantsPair p = some wants ∧
        m.linkInput env d (.packetFrom e p) =
          .pair wants (m.autoAccept env) env.now env.storeWrite.isNone := by
  unfold linkInput
  split
  · rename_i hc
    cases hc
    unfold Command.linkInput
    dsimp only
    split
    · rename_i hp
      cases hw : wantsPair p with
      | none => exact .inl rfl
      | some wants => exact .inr ⟨wants, rfl, hp, rfl, rfl⟩
    · exact .inl rfl
  · exact .inl rfl

/-! ## Start and restart -/

/-- The table entry `load_persisted` gives a device that has none. -/
theorem loadPersisted_devices_get (hm : m.devices.get d = none) :
    m.loadPersisted.devices.get d =
      if d = m.selfDeviceId then none else (m.store.devices.get d).map restored := by
  simp only [loadPersisted]
  by_cases hself : d = m.selfDeviceId
  · rw [if_pos hself, Table.get_insertAll_of_not_mem, hm]
    -- our own row is filtered out
    intro kv hkv
    obtain ⟨row, hrow, rfl⟩ := List.mem_map.mp hkv
    rw [hself]
    simpa using (List.mem_filter.mp hrow).2
  · rw [if_neg hself]
    cases hrow : m.store.devices.get d with
    | none =>
      rw [Table.get_insertAll_of_not_mem, hm, Option.map_none]
      rintro kv hkv rfl
      obtain ⟨row, hmem, hid⟩ := List.mem_map.mp hkv
      have hget := Store.mem_listDevices.mp (List.mem_filter.mp hmem).1
      rw [show row.deviceId = kv.1 by rw [← hid], hrow] at hget
      cases hget
    | some row =>
      -- ids are unique among the rows, so the row of `d` is not overwritten
      have hid : row.deviceId = d := m.store.keyed d row hrow
      apply Table.get_insertAll_of_mem
      · rw [List.map_map]
        exact m.store.nodup_listDevices.sublist (List.filter_sublist.map _)
      · refine List.mem_map.mpr ⟨row, List.mem_filter.mpr ⟨?_, ?_⟩, by rw [hid]⟩
        · rw [Store.mem_listDevices, hid, hrow]
        · simpa [hid] using hself

/-- A daemon that starts on a store has the persisted pins and nothing live. -/
theorem new_link (store : Store) (self : String) (identity : Identity) (target : SaveTarget) :
    (Manager.new store self identity target).loadPersisted.link d =
      { Link.unknown with row := (store.devices.get d).map rowPin }.restart (d = self) := by
  have hnew : (Manager.new store self identity target).devices.get d = none := Table.get_empty d
  have hparked : (Manager.new store self identity target).loadPersisted.incomingPairs.get d =
      none := Table.get_empty d
  rw [link, loadPersisted_devices_get hnew, hparked]
  show Link.of (if d = self then none else (store.devices.get d).map restored) none
    ((store.devices.get d).map rowPin) = _
  by_cases hd : d = self
  · simp [hd, Link.of, Link.restart, Link.unknown]
  · cases hrow : store.devices.get d <;>
      simp [hd, Link.of, Link.restart, Link.unknown, Link.stored, restored, DeviceState.new, rowPin]

theorem restart_link : m.restart.link d = (m.link d).restart (d = m.selfDeviceId) :=
  new_link m.store m.selfDeviceId m.selfIdentity m.saveTarget

end Manager
end Handfast.Daemon
