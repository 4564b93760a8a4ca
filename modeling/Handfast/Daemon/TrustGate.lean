/-
  Handfast.Daemon.TrustGate

  What an unpaired device can make the daemon do.  Pairing is meant as a gate:
  only a paired device drives plugins, desktop events and downloads.  The actor
  does not look at the pin when a packet arrives, so the gate holds only for
  packets that would have no effect anyway (`Inert`): those that report what is
  on record already, show nothing on the desktop, announce no file and get no
  answer through.
-/
import Handfast.Daemon.LinkRefine
import Handfast.Lib.Trace
import Handfast.Plugins.Quiet

namespace Handfast.Daemon

open Handfast.Lib Handfast.Protocol Handfast.Plugins Handfast.Core

/-! ## The gate -/

/-- A desktop event, a download, or a packet to `d`. -/
def Effect.drives (d : String) : Effect → Bool
  | .publish (.notificationReceived _ _ _ _) => true
  | .publish (.clipboardUpdated _) => true
  | .publish (.transferAdded _ _ _ _ _) => true
  | .publish (.shareReceived _ _) => true
  | .receive _ => true
  | .queued e _ _ => e = d
  | _ => false

/-- The packet a command brings, with the device it comes from. -/
def Command.carried : Command → Option (String × Packet)
  | .packetFrom d p => some (d, p)
  | .sharePayload d p _ => some (d, p)
  | _ => none

namespace Manager

variable {m m' : Manager} {env : Env} {d : String} {p : Packet} {s : DeviceState}

def Unpaired (m : Manager) (d : String) : Prop :=
  (m.devices.get d).bind DeviceState.pinnedFingerprint = none

def pluginsOf (m : Manager) (d : String) : List Plugin :=
  ((m.devices.get d).map DeviceState.plugins).getD []

/-- A command had no effect beyond what any device may cause. -/
structure Unmoved (m : Manager) (d : String) (after : Manager × List Effect) : Prop where
  plugins : List.Forall₂ Plugin.Same (m.pluginsOf d) (after.1.pluginsOf d)
  transfers : after.1.transfers = m.transfers
  effects : ∀ e ∈ after.2, e.drives d = false

/-- A packet from an unpaired device moves nothing, unless it identifies the
    device or is about pairing. -/
def TrustGated (m : Manager) (a : Env × Command) : Prop :=
  ∀ d p, a.2.carried = some (d, p) → p.ptype ≠ typeIdentity → p.ptype ≠ typePair →
    m.Unpaired d → m.Unmoved d (m.handle a.1 a.2)

/-- The packet has nothing to show, to announce, to report or to be answered. -/
structure Inert (m : Manager) (env : Env) (d : String) (p : Packet) : Prop where
  notification : p.ptype ≠ typeNotification
  clipboard : p.ptype = typeClipboard → p.body.getStr "content" = none
  file : ∀ s, m.devices.get d = some s → p.ptype = typeShare → p.body.get "filename" = none
  known : ∀ s, m.devices.get d = some s → ∃ r : Roster, s.plugins = r.plugins ∧
    r.Knows env.ambient p ∧ (r.Answers p → s.outbound = none ∨ (env.trySend 0).isSome)

/-- What an unpaired device sends is inert; a payload of its reaches the actor
    only if it has no entry, with its data connection up. -/
def SendsInert (m : Manager) (a : Env × Command) : Prop :=
  match a.2 with
  | .packetFrom d p =>
    p.ptype ≠ typeIdentity → p.ptype ≠ typePair → m.Unpaired d → m.Inert a.1 d p
  | .sharePayload d p payload =>
    p.ptype ≠ typeIdentity → p.ptype ≠ typePair → m.Unpaired d →
      m.devices.get d = none ∧ payload.isOk = true
  | _ => True

/-! ## Plugins only change by dispatch -/

/-- Every entry has a full roster of plugins. -/
def Rostered (m : Manager) : Prop :=
  ∀ d s, m.devices.get d = some s → ∃ r : Roster, s.plugins = r.plugins

/-- No plugin state has changed; new entries have the registry's. -/
def KeepsPlugins (m m' : Manager) : Prop :=
  ∀ d s', m'.devices.get d = some s' →
    s'.plugins = registry ∨ ∃ s, m.devices.get d = some s ∧ s'.plugins = s.plugins

theorem KeepsPlugins.rostered (h : KeepsPlugins m m') (hr : m.Rostered) :
    m'.Rostered := by
  intro d s' hs'
  rcases h d s' hs' with hnew | ⟨s, hs, heq⟩
  · exact ⟨.fresh, hnew⟩
  · obtain ⟨r, hsr⟩ := hr d s hs
    exact ⟨r, heq.trans hsr⟩

theorem Retains.keepsPlugins (h : Retains DeviceState.plugins m m') :
    KeepsPlugins m m' := fun d s' hs' => .inr (h d s' hs')

theorem Retains.rostered (h : Retains DeviceState.plugins m m')
    (hr : m.Rostered) : m'.Rostered := h.keepsPlugins.rostered hr

theorem plugins_aloof : Aloof DeviceState.plugins := ⟨fun _ => rfl, fun _ _ => rfl, fun _ _ => rfl⟩

theorem onAnnounce_keeps {a : PeerAnnouncement} : KeepsPlugins m (m.onAnnounce a).1 := by
  intro e s' hs'
  rw [onAnnounce_devices_get] at hs'
  split at hs'
  · cases hs'
    cases hs : m.devices.get e with
    | none => exact .inl rfl
    | some s => exact .inr ⟨s, rfl, rfl⟩
  · exact .inr ⟨s', hs', rfl⟩

theorem onConnected_keeps {t : Transport} : KeepsPlugins m (m.onConnected d t).1 := by
  intro e s' hs'
  rw [onConnected_devices_get] at hs'
  split at hs'
  · rename_i he
    cases hs'
    rw [he]
    cases m.devices.get d with
    | none => exact .inl (by split <;> rfl)
    | some s => exact .inr ⟨s, rfl, by split <;> rfl⟩
  · exact .inr ⟨s', hs', rfl⟩

theorem routePacket_rostered (h : m.Rostered) : (m.routePacket env d p).1.Rostered := by
  intro e s' hs'
  rw [routePacket_devices_get] at hs'
  split at hs'
  · obtain ⟨s, hs, rfl⟩ := Option.map_eq_some_iff.mp hs'
    obtain ⟨r, hr⟩ := h d s hs
    exact ⟨(r.receive env.ambient p).1, by rw [hr, Roster.dispatch_plugins]⟩
  · exact h e s' hs'

theorem onPacket_rostered (h : m.Rostered) : (m.onPacket env d p).1.Rostered := by
  have hreceives : Receives m env d p (m.onPacket env d p) := onPacket_receives p
  generalize m.onPacket env d p = out at hreceives ⊢
  cases hreceives with
  | identity =>
    refine Retains.rostered (retains_of_map (fun _ => modifyDevice_devices_get _) ?_) h
    intro state
    rfl
  | malformed => exact h
  | pair => exact (onPairPacket_keeps plugins_aloof).retains.rostered h
  | file => exact (retains_of_devices spawnReceive_same.devices).rostered h
  | plugins => exact routePacket_rostered h

/-- Every device keeps one plugin of each kind. -/
theorem handle_rostered {c : Command} (h : m.Rostered) : (m.handle env c).1.Rostered := by
  cases c with
  | announce a => exact onAnnounce_keeps.rostered h
  | connected e t => exact onConnected_keeps.rostered h
  | packetFrom e p => exact onPacket_rostered h
  | _ => exact (handle_retains plugins_aloof (by simp) (by simp) (by simp)).rostered h

/-- Restored entries have the registry's plugins. -/
theorem loadPersisted_rostered {store : Store} {self : String} {identity : Identity}
    {target : SaveTarget} : (new store self identity target).loadPersisted.Rostered := by
  intro d s hs
  refine ⟨.fresh, ?_⟩
  rw [loadPersisted_devices_get rfl] at hs
  split at hs
  · cases hs
  · obtain ⟨row, -, rfl⟩ := Option.map_eq_some_iff.mp hs
    rfl

/-! ## What a packet moves -/

theorem emitSideEvents_quiet_iff :
    (∀ e ∈ emitSideEvents p, e.drives d = false) ↔
      p.ptype ≠ typeNotification ∧
        (p.ptype = typeClipboard → p.body.getStr "content" = none) := by
  unfold emitSideEvents
  by_cases hnote : p.ptype = typeNotification
  · simp [hnote, Effect.drives]
  · by_cases hclip : p.ptype = typeClipboard
    · have hne : ¬ typeClipboard = typeNotification := by decide
      cases p.body.getStr "content" <;> simp [hclip, hne, Effect.drives]
    · simp [hnote, hclip]

/-- A packet drives the device unless it is offline or its queue refuses. -/
theorem sendIgnored_quiet_iff {k : Nat} :
    (∀ e ∈ s.sendIgnored env k d p, e.drives d = false) ↔
      s.outbound = none ∨ (env.trySend k).isSome := by
  unfold DeviceState.sendIgnored DeviceState.sendOut
  cases s.outbound with
  | none => simp
  | some conn => cases env.trySend k <;> simp [Effect.drives]

/-- At most one reply: it is queued unless the device is offline or its queue
    refuses it. -/
theorem sendReplies_quiet_iff {replies : List Packet} (hs : m.devices.get d = some s)
    (hle : replies.length ≤ 1) :
    (∀ e ∈ m.sendReplies env d replies, e.drives d = false) ↔
      (replies ≠ [] → s.outbound = none ∨ (env.trySend 0).isSome) := by
  unfold sendReplies
  simp only [hs]
  -- a roster answers with one packet at most, which meets an untouched queue
  match replies, hle with
  | [], _ => simp
  | [reply], _ =>
    simpa using sendIgnored_quiet_iff

theorem Unmoved.refl : m.Unmoved d (m, []) where
  plugins := List.forall₂_same.mpr fun q _ => Plugin.Same.refl q
  transfers := rfl
  effects := by simp

theorem routePacket_of_unknown (h : m.devices.get d = none) :
    m.routePacket env d p = (m, emitSideEvents p) := by
  simp [routePacket, dispatchToPlugins, sendReplies, h]

/-- Plugins that form a roster go on and answer as it does. -/
theorem routePacket_of_roster {r : Roster} (hs : m.devices.get d = some s)
    (hr : s.plugins = r.plugins) :
    ∃ next : Manager,
      m.routePacket env d p =
        (next, emitSideEvents p ++ next.sendReplies env d (r.receive env.ambient p).2) ∧
      next.devices.get d = some { s with plugins := (r.receive env.ambient p).1.plugins } ∧
      next.transfers = m.transfers := by
  refine ⟨m.setDevice d { s with plugins := (r.receive env.ambient p).1.plugins }, ?_, ?_, rfl⟩
  · simp [routePacket, dispatchToPlugins, hs, hr, Roster.dispatch_plugins]
  · simp

/-- A packet moves nothing if it brings no event, nothing new and no answer that is sent. -/
theorem routePacket_unmoved_of_roster {r : Roster} (hs : m.devices.get d = some s)
    (hr : s.plugins = r.plugins) :
    m.Unmoved d (m.routePacket env d p) ↔
      (p.ptype ≠ typeNotification ∧
        (p.ptype = typeClipboard → p.body.getStr "content" = none)) ∧
      r.Knows env.ambient p ∧ (r.Answers p → s.outbound = none ∨ (env.trySend 0).isSome) := by
  obtain ⟨next, hroute, hnext, htransfers⟩ := routePacket_of_roster hs hr
  -- the three ways a packet can have an effect, one by one
  have hplugins : List.Forall₂ Plugin.Same (m.pluginsOf d) (next.pluginsOf d) ↔
      r.Knows env.ambient p := by
    simp only [pluginsOf, hs, hnext, hr, Option.map_some, Option.getD_some]
    rw [Roster.forall₂_plugins_iff, Roster.receive_same_iff]
  have hreplies : (∀ e ∈ next.sendReplies env d (r.receive env.ambient p).2, e.drives d = false) ↔
      (r.Answers p → s.outbound = none ∨ (env.trySend 0).isSome) := by
    rw [sendReplies_quiet_iff hnext (r.receive_replies_length_le env.ambient p), ne_eq,
      Roster.receive_replies_iff, not_not]
  rw [hroute]
  constructor
  · intro h
    have heffects := List.forall_mem_append.mp h.effects
    exact ⟨emitSideEvents_quiet_iff.mp heffects.1, hplugins.mp h.plugins,
      hreplies.mp heffects.2⟩
  · rintro ⟨hside, hknows, hanswer⟩
    exact ⟨hplugins.mpr hknows, htransfers, List.forall_mem_append.mpr
      ⟨emitSideEvents_quiet_iff.mpr hside, hreplies.mpr hanswer⟩⟩

/-- Exactly the inert packets move nothing. -/
theorem routePacket_unmoved_iff (hm : m.Rostered)
    (hfile : p.ptype = typeShare → p.body.get "filename" = none) :
    m.Unmoved d (m.routePacket env d p) ↔ m.Inert env d p := by
  cases hs : m.devices.get d with
  | none =>
    rw [routePacket_of_unknown hs]
    constructor
    · intro h
      obtain ⟨hnote, hclip⟩ := emitSideEvents_quiet_iff.mp h.effects
      exact ⟨hnote, hclip, fun _ hs' => by simp [hs] at hs', fun _ hs' => by simp [hs] at hs'⟩
    · intro h
      exact { Unmoved.refl with
        effects := emitSideEvents_quiet_iff.mpr ⟨h.notification, h.clipboard⟩ }
  | some s =>
    obtain ⟨r, hr⟩ := hm d s hs
    rw [routePacket_unmoved_of_roster hs hr]
    constructor
    · rintro ⟨⟨hnote, hclip⟩, hknown⟩
      refine ⟨hnote, hclip, fun _ _ => hfile, fun s' hs' => ?_⟩
      cases hs.symm.trans hs'
      exact ⟨r, hr, hknown⟩
    · intro h
      obtain ⟨r', hr', hknown⟩ := h.known s hs
      -- the roster of the entry is the one the packet was judged by
      cases Roster.plugins_injective (hr.symm.trans hr')
      exact ⟨⟨h.notification, h.clipboard⟩, hknown⟩

/-- A file header of a known device starts a download. -/
theorem spawnReceive_unmoved_iff {payload : Option Transport} :
    m.Unmoved d (m.spawnReceive d p payload) ↔ m.devices.get d = none := by
  unfold spawnReceive
  cases m.devices.get d with
  | none => exact iff_of_true .refl rfl
  | some s =>
    refine iff_of_false (fun h => ?_) (by simp)
    have := h.effects (.receive _) (List.mem_append_right _ List.mem_cons_self)
    cases this

/-- Among all other packets exactly the inert ones move nothing. -/
theorem onPacket_unmoved_iff (hm : m.Rostered) (hid : p.ptype ≠ typeIdentity)
    (hpair : p.ptype ≠ typePair) :
    m.Unmoved d (m.onPacket env d p) ↔ m.Inert env d p := by
  unfold onPacket
  rw [if_neg hid, if_neg hpair]
  by_cases hfile : p.ptype = typeShare ∧ (p.body.get "filename").isSome
  · rw [if_pos hfile, spawnReceive_unmoved_iff]
    constructor
    · intro hnone
      refine ⟨?_, ?_, fun _ hs => by simp [hnone] at hs, fun _ hs => by simp [hnone] at hs⟩
      · rw [hfile.1]
        decide
      · rw [hfile.1]
        exact fun hc => absurd hc (by decide)
    · -- a known device that announces a file starts a download
      intro h
      by_contra hsome
      obtain ⟨s, hs⟩ := Option.ne_none_iff_exists'.mp hsome
      have := h.file s hs hfile.1
      simp [this] at hfile
  · rw [if_neg hfile]
    exact routePacket_unmoved_iff hm fun hshare => by simpa [hshare] using hfile

/-- A payload moves nothing only if it arrived for an unknown device. -/
theorem onSharePayload_unmoved_iff {payload : Except String Transport} :
    m.Unmoved d (m.onSharePayload d p payload) ↔
      m.devices.get d = none ∧ payload.isOk = true := by
  cases payload with
  | ok t => simpa [onSharePayload, Except.isOk, Except.toBool] using spawnReceive_unmoved_iff
  | error reason =>
    -- a failed dial is registered as a failed transfer
    refine iff_of_false (fun h => ?_) (by simp [Except.isOk, Except.toBool])
    have := h.effects (.publish (.transferAdded _ _ _ _ _)) (by
      simp only [onSharePayload, registerTransfer]
      exact List.mem_cons_self)
    cases this

/-- The gate holds in a step exactly if an unpaired device sends inert packets. -/
theorem trustGated_iff (hm : m.Rostered) (a : Env × Command) :
    m.TrustGated a ↔ m.SendsInert a := by
  obtain ⟨env, c⟩ := a
  unfold TrustGated SendsInert
  cases c with
  | packetFrom d p =>
    simp only [Command.carried, Option.some.injEq, Prod.mk.injEq]
    constructor
    · intro h hid hpair hun
      exact (onPacket_unmoved_iff hm hid hpair).mp (h d p ⟨rfl, rfl⟩ hid hpair hun)
    · rintro h _ _ ⟨rfl, rfl⟩ hid hpair hun
      exact (onPacket_unmoved_iff hm hid hpair).mpr (h hid hpair hun)
  | sharePayload d p payload =>
    simp only [Command.carried, Option.some.injEq, Prod.mk.injEq]
    constructor
    · intro h hid hpair hun
      exact onSharePayload_unmoved_iff.mp (h d p ⟨rfl, rfl⟩ hid hpair hun)
    · rintro h _ _ ⟨rfl, rfl⟩ hid hpair hun
      exact onSharePayload_unmoved_iff.mpr (h hid hpair hun)
  | _ => simp [Command.carried]

/-- **The trust gate.** In every run of the daemon from what is stored, the gate
    holds at every step exactly if unpaired devices only ever send packets
    that are inert when they arrive. -/
theorem trustGated_iff_sendsInert (store : Store) (self : String) (identity : Identity)
    (target : SaveTarget) (as : List (Env × Command)) :
    AllSteps step TrustGated (new store self identity target).loadPersisted as ↔
      AllSteps step SendsInert (new store self identity target).loadPersisted as :=
  allSteps_congr Rostered loadPersisted_rostered (fun _ _ hm _ => handle_rostered hm)
    fun _ a hm => trustGated_iff hm a

/-! ## A stranger at the gate -/

/-- What a phone we never paired with sends once it is connected: a
    notification, a clipboard text, a ping, an empty file and a file with a payload. -/
def strangerSends : List Command :=
  [.packetFrom "phone" (.new 1 typeNotification (.object
      [("id", .string "1"), ("title", .string "hello")])),
   .packetFrom "phone" (.new 2 typeClipboard (.object [("content", .string "text")])),
   .packetFrom "phone" (.new 3 typePing (.object [])),
   .packetFrom "phone" (.new 4 typeShare (.object [("filename", .string "a.bin")])),
   .sharePayload "phone" ((Packet.new 5 typeShare (.object
      [("filename", .string "b.bin")])).withPayload 3 1739) (.ok (.uniform 2 7))]

/-- Each of them has an effect. -/
theorem strangerSends_not_trustGated :
    strangerSends.Forall fun c =>
      ¬ AllSteps step TrustGated (new .empty "desk" default (.dir "/tmp")).loadPersisted
        [(.nominal 0, .connected "phone" (.uniform 1 7)), (.nominal 1, c)] := by
  refine List.forall_iff_forall_mem.mpr fun c hc h => ?_
  obtain ⟨-, hgate, -⟩ := h
  let m := step (new .empty "desk" default (.dir "/tmp")).loadPersisted
    (.nominal 0, .connected "phone" (.uniform 1 7))
  have hdrives : ∀ c ∈ strangerSends,
      ((m.handle (.nominal 1) c).2.any fun e => e.drives "phone") = true := by decide
  have hcarried : ∀ c ∈ strangerSends, ∃ p, c.carried = some ("phone", p) ∧
      p.ptype ≠ typeIdentity ∧ p.ptype ≠ typePair := by
    intro c hc
    simp only [strangerSends, List.mem_cons, List.not_mem_nil, or_false] at hc
    rcases hc with rfl | rfl | rfl | rfl | rfl <;> exact ⟨_, rfl, by decide, by decide⟩
  obtain ⟨p, hp, hid, hpair⟩ := hcarried c hc
  obtain ⟨e, he, hdrive⟩ := List.any_eq_true.mp (hdrives c hc)
  have hquiet := (hgate "phone" p hp hid hpair rfl).effects e he
  rw [hquiet] at hdrive
  cases hdrive

end Manager
end Handfast.Daemon
