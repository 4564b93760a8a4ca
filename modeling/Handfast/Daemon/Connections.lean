/-
  Handfast.Daemon.Connections

  What the daemon knows of its connections.  The actor checks a certificate
  when a connection is installed, and packets and closures carry a device id
  only.  With one connection per device at a time this is enough; with an old
  connection still open it is not, and three properties depend on it.

  * A device is online with its newest connection exactly while that one is
    open: fails when the reader of a replaced connection ends.
  * Everything acted on for a paired device was sent under its pin: fails
    when a pairing completes while a foreign connection of the device is open.
  * A pairing pins the certificate that asked for it: fails when another
    connection was installed since.

  For each the exact condition on the run is proved, and a run that breaks it
  is given.
-/
import Handfast.Daemon.Net

namespace Handfast.Daemon
namespace Net

open Handfast.Lib Handfast.Protocol Handfast.Core

variable {s : Net} {env : Env} {e : NetEvent} {d d' : String} {fingerprint : Fingerprint}
  {addr : SocketAddr} {conn : ConnId}

theorem reader_of_mem (h : s.Inv) {r : Reader} (hr : r ∈ s.readers) :
    s.reader r.conn = some r := by
  cases hf : s.reader r.conn with
  | none =>
    have := List.find?_eq_none.mp hf r hr
    simp at this
  | some q =>
    obtain ⟨hq, hconn⟩ := mem_of_reader hf
    rw [h.conn_inj q hq r hr hconn]

/-! ## Online with the newest connection -/

/-- Every device is online exactly while the connection installed last is open,
    and its packets go there. -/
def Tracked (s : Net) : Prop :=
  ∀ d conn, (s.mgr.link d).outbound = some conn ↔
    ∃ r ∈ s.readers, s.last.get d = some r ∧ r.conn = conn

/-- A connection that ends is the newest of its device, or that one has ended
    before. -/
def ClosesLast (s : Net) (a : Env × NetEvent) : Prop :=
  ∀ conn r, a.2 = .closed conn → s.reader conn = some r →
    s.last.get r.device = some r ∨ ∀ q ∈ s.readers, s.last.get r.device ≠ some q

/-- A new connection takes the slot, unless the gate turns it away. -/
theorem outbound_connected :
    ((s.step (env, .connected d' fingerprint addr)).mgr.link d).outbound =
      if d' = d ∧ Manager.gateRejects (s.mgr.link d).pinned (hex fingerprint) = false then
        some s.next
      else (s.mgr.link d).outbound := by
  refine (congrArg Prod.fst step_attachment).trans ?_
  simp only
  split <;> rfl

/-- A closing connection clears the slot, also if the slot is not its own. -/
theorem outbound_closed :
    ((s.step (env, .closed conn)).mgr.link d).outbound =
      if (s.reader conn).any fun r => r.device = d then none
      else (s.mgr.link d).outbound := by
  refine (congrArg Prod.fst step_attachment).trans ?_
  simp only
  split <;> rfl

theorem tracked_connected (h : s.Inv)
    (ht : s.Tracked) : (s.step (env, .connected d' fingerprint addr)).Tracked := by
  intro d conn
  rw [outbound_connected, step_last_get]
  simp only [mem_step_readers, mem_started]
  split
  · -- installed for `d`
    rename_i hc
    constructor
    · intro hconn
      refine ⟨_, .inr ⟨addr, ?_, rfl, hc.2⟩, rfl, Option.some.inj hconn⟩
      rw [hc.1]
    · rintro ⟨r, -, hr, rfl⟩
      rw [← Option.some.inj hr]
  · -- not for `d`: nothing of `d` has changed
    rename_i hc
    rw [ht d conn]
    constructor
    · rintro ⟨r, hr, hlast, hconn⟩
      exact ⟨r, .inl ⟨hr, rfl⟩, hlast, hconn⟩
    · rintro ⟨r, hr | ⟨addr', he, -, hgate⟩, hlast, hconn⟩
      · exact ⟨r, hr.1, hlast, hconn⟩
      · -- the new connection is the newest of its own device only
        cases he
        have hdev := h.last_device d r hlast
        exact absurd ⟨hdev, hdev ▸ hgate⟩ hc

/-- Closing a connection is tracked exactly if it is the newest or comes after it. -/
theorem tracked_closed_iff (h : s.Inv) (ht : s.Tracked) :
    (s.step (env, .closed conn)).Tracked ↔ s.ClosesLast (env, .closed conn) := by
  have hmem : ∀ q, q ∈ (s.step (env, .closed conn)).readers ↔ q ∈ s.readers ∧ q.conn ≠ conn := by
    intro q
    simp [mem_step_readers, mem_started, NetEvent.ends]
  have hlast : ∀ d, (s.step (env, .closed conn)).last.get d = s.last.get d := fun d => step_last_get
  constructor
  · intro ht' conn' r he hr
    cases he
    by_cases hnew : s.last.get r.device = some r
    · exact .inl hnew
    · -- the newest is still open, so it would have to be live, but the device went offline
      refine .inr fun q hq hlq => ?_
      obtain ⟨hrm, rfl⟩ := mem_of_reader hr
      have hne : q.conn ≠ r.conn := fun hc => hnew (h.conn_inj q hq r hrm hc ▸ hlq)
      have hon := (ht' r.device q.conn).mpr ⟨q, (hmem q).mpr ⟨hq, hne⟩, by rw [hlast, hlq], rfl⟩
      rw [outbound_closed] at hon
      simp [hr] at hon
  · intro hcl d c
    simp only [hmem, hlast, outbound_closed]
    cases hr : s.reader conn with
    | none =>
      simp only [Option.any_none, Bool.false_eq_true, if_false, ht d c]
      refine ⟨?_, ?_⟩
      · rintro ⟨q, hq, hl, hc⟩
        refine ⟨q, ⟨hq, ?_⟩, hl, hc⟩
        -- a reader that runs is found
        rintro rfl
        rw [reader_of_mem h hq] at hr
        cases hr
      · rintro ⟨q, ⟨hq, -⟩, hl, hc⟩
        exact ⟨q, hq, hl, hc⟩
    | some r =>
      obtain ⟨hrm, hrc⟩ := mem_of_reader hr
      by_cases hd : r.device = d
      · -- its own device goes offline
        simp only [Option.any_some, hd, decide_true, if_true]
        refine iff_of_false (by simp) ?_
        rintro ⟨q, ⟨hq, hqc⟩, hl, -⟩
        rcases hcl conn r rfl hr with hnew | hold
        · rw [hd, hl] at hnew
          cases hnew
          exact hqc hrc
        · exact hold q hq (hd ▸ hl)
      · -- every other device keeps its connection
        simp only [Option.any_some, hd, decide_false, Bool.false_eq_true, if_false, ht d c]
        refine ⟨?_, ?_⟩
        · rintro ⟨q, hq, hl, hc⟩
          refine ⟨q, ⟨hq, fun hqc => hd ?_⟩, hl, hc⟩
          rw [h.conn_inj r hrm q hq (hrc.trans hqc.symm)]
          exact h.last_device d q hl
        · rintro ⟨q, ⟨hq, -⟩, hl, hc⟩
          exact ⟨q, hq, hl, hc⟩

/-- One step: a device stays online with its newest connection exactly if no older
    one ends before it. -/
theorem tracked_step_iff (h : s.Inv) (ht : s.Tracked) (a : Env × NetEvent) :
    (s.step a).Tracked ↔ s.ClosesLast a := by
  obtain ⟨env, e⟩ := a
  cases e with
  | connected d' fingerprint addr =>
    refine iff_of_true (tracked_connected h ht) ?_
    rintro conn r he
    cases he
  | closed conn => exact tracked_closed_iff h ht
  | received conn packet payload | command c =>
    refine iff_of_true ?_ ?_
    · intro d conn
      rw [show ((s.step (env, _)).mgr.link d).outbound = _ from congrArg Prod.fst step_attachment,
        step_last_get]
      simp only [mem_step_readers, mem_started]
      simpa [NetEvent.ends, Link.attachment] using ht d conn
    · rintro conn r he
      cases he

theorem start_tracked (store : Store) (self : String) (identity : Identity)
    (target : SaveTarget) :
    (start (Manager.new store self identity target).loadPersisted).Tracked := by
  intro d conn
  rw [start, Manager.new_link]
  simp [Link.restart, Link.unknown]

/-- **Connection tracking.** In a run every device is online exactly with its
    newest connection while that is open, exactly if no connection ends before
    the one that replaced it. -/
theorem tracked_iff_closesLast (store : Store) (self : String) (identity : Identity)
    (target : SaveTarget) (events : List (Env × NetEvent)) :
    let s := start (Manager.new store self identity target).loadPersisted
    AllStates step Tracked s events ↔ AllSteps step ClosesLast s events :=
  allStates_iff_allSteps Inv (start_inv store self identity target)
    (start_tracked store self identity target) (fun _ a h => h.step a)
    fun _ a h ht => tracked_step_iff h ht a

/-- The phone reconnects before its old connection is seen to end. -/
def reconnect : List (Env × NetEvent) :=
  [(.nominal 0, .connected "phone" (Transport.uniform 0 7).peerFingerprint ⟨.v4 0, 1716⟩),
   (.nominal 1, .connected "phone" (Transport.uniform 1 7).peerFingerprint ⟨.v4 0, 1716⟩),
   (.nominal 2, .closed 0)]

/-- The new connection is open and the phone counts as offline. -/
theorem reconnect_not_tracked :
    ¬ AllStates step Tracked (start (Manager.new .empty "desk" default (.dir "/tmp")).loadPersisted)
      reconnect := by
  intro h
  have hend : (run step (start (Manager.new .empty "desk" default (.dir "/tmp")).loadPersisted)
      reconnect).Tracked := h.last
  have hon := (hend "phone" 1).mpr
    ⟨{ conn := 1, device := "phone", fingerprint := (Transport.uniform 1 7).peerFingerprint },
      by decide, by decide, rfl⟩
  exact absurd hon (by decide)

/-! ## Packets of a paired device -/

/-- What arrives on a connection now for a paired device comes under its pin. -/
def Genuine (s : Net) (conn : ConnId) : Prop :=
  ∀ r f, s.reader conn = some r → (s.mgr.link r.device).pinned = some f → hex r.fingerprint = f

def DeliversGenuine (s : Net) (a : Env × NetEvent) : Prop :=
  ∀ conn packet payload, a.2 = .received conn packet payload → s.Genuine conn

/-- Whatever a running reader may deliver next is genuine. -/
def AllGenuine (s : Net) : Prop := ∀ conn, s.Genuine conn

/-- If the event completes the pairing of a device, all its running readers
    present the certificate of the live connection. -/
def PairsAlone (s : Net) (a : Env × NetEvent) : Prop :=
  ∀ d, (s.mgr.link d).pinned = none → (s.mgr.link d).Completes (s.input a.1 a.2 d) →
    ∀ r ∈ s.readers, r.device = d → (s.mgr.link d).live = some (hex r.fingerprint)

theorem allGenuine_iff (h : s.Inv) :
    s.AllGenuine ↔ ∀ r ∈ s.readers, ∀ f, (s.mgr.link r.device).pinned = some f →
      hex r.fingerprint = f := by
  constructor
  · intro hall r hr f hf
    exact hall r.conn r f (reader_of_mem h hr) hf
  · intro hall conn r f hr hf
    exact hall r (mem_of_reader hr).1 f hf

theorem step_pinned (h : s.Inv) :
    ((s.step (env, e)).mgr.link d).pinned =
      if (s.mgr.link d).Completes (s.input env e d) then (s.mgr.link d).live
      else if (s.mgr.link d).Revokes (s.input env e d) then none else (s.mgr.link d).pinned := by
  rw [step_link, Link.step_pinned (h.sound d)]

/-- A pairing is completed by a packet or a command, not by a connection coming
    or going. -/
theorem not_completes_connected :
    ¬ (s.mgr.link d).Completes (s.input env (.connected d' fingerprint addr) d) := by
  rw [input_connected]
  split <;> exact id

theorem not_completes_closed :
    ¬ (s.mgr.link d).Completes (s.input env (.closed conn) d) := by
  rw [input_closed]
  split <;> exact id

theorem ends_eq_false_of_completes (hc : (s.mgr.link d).Completes (s.input env e d))
    (conn : ConnId) : e.ends conn = false := by
  cases e with
  | closed c => exact absurd hc not_completes_closed
  | _ => rfl

/-- A reader that passes the gate when its connection comes up is genuine. -/
theorem started_genuine (h : s.Inv) {r : Reader} {f : String} (hr : r ∈ s.started env e)
    (hf : ((s.step (env, e)).mgr.link r.device).pinned = some f) : hex r.fingerprint = f := by
  obtain ⟨addr, rfl, -, hgate⟩ := mem_started.mp hr
  -- the pin is the one the gate compared with
  rw [step_pinned h, if_neg not_completes_connected, input_connected] at hf
  simp only [if_true, Link.Revokes, if_false] at hf
  exact (Manager.gateRejects_eq_false.mp hgate f hf).symm

/-- One step: all readers stay genuine exactly if a pairing completes with one
    certificate around. -/
theorem allGenuine_step_iff (h : s.Inv) (hg : s.AllGenuine) (a : Env × NetEvent) :
    (s.step a).AllGenuine ↔ s.PairsAlone a := by
  obtain ⟨env, e⟩ := a
  rw [allGenuine_iff (h.step (env, e))]
  rw [allGenuine_iff h] at hg
  constructor
  · intro hall d hp hc r hr hd
    -- the pairing pins the live certificate, and `r` is still running then
    obtain ⟨q, -, hlive⟩ := h.live_last d ((h.sound d).attached_of_completes hc)
    have hmem : r ∈ (s.step (env, e)).readers :=
      mem_step_readers.mpr (.inl ⟨hr, ends_eq_false_of_completes hc r.conn⟩)
    have hpin : ((s.step (env, e)).mgr.link r.device).pinned = some (hex q.fingerprint) := by
      rw [hd, step_pinned h, if_pos hc, hlive]
    rw [hlive, hall r hmem _ hpin]
  · intro hpairs r hr f hf
    rcases mem_step_readers.mp hr with ⟨hold, -⟩ | hnew
    · rw [step_pinned h] at hf
      by_cases hc : (s.mgr.link r.device).Completes (s.input env e r.device)
      · rw [if_pos hc] at hf
        cases hp : (s.mgr.link r.device).pinned with
        | none =>
          have hlive := hpairs r.device hp hc r hold rfl
          exact Option.some.inj (hlive.symm.trans hf)
        | some g =>
          -- paired already, and the live certificate is the pin
          rw [hg r hold g hp, (h.sound r.device).live_pinned g f hp hf]
      · rw [if_neg hc] at hf
        split at hf
        · cases hf
        · exact hg r hold f hf
    · exact started_genuine h hnew hf

theorem start_allGenuine (m : Manager) : (start m).AllGenuine := by
  intro conn r f hr
  cases hr

/-- **No impersonation.** In a run, all that running readers may deliver for a
    paired device is under its pin exactly if every pairing completes with no
    foreign connection of its device open; and then every packet of the run is. -/
theorem genuine_iff_pairsAlone (store : Store) (self : String) (identity : Identity)
    (target : SaveTarget) (events : List (Env × NetEvent)) :
    let s := start (Manager.new store self identity target).loadPersisted
    (AllStates step AllGenuine s events ↔ AllSteps step PairsAlone s events) ∧
      (AllSteps step PairsAlone s events → AllSteps step DeliversGenuine s events) := by
  intro s
  have hinv : s.Inv := start_inv store self identity target
  have hiff : AllStates step AllGenuine s events ↔ AllSteps step PairsAlone s events :=
    allStates_iff_allSteps Inv hinv (start_allGenuine _) (fun _ a h => h.step a)
      fun _ a h hg => allGenuine_step_iff h hg a
  refine ⟨hiff, fun hpairs => (hiff.mpr hpairs).allSteps fun t a ht => ?_⟩
  intro conn packet payload _
  exact ht conn

/-- A stranger connects under the phone's id, then the phone does; we pair with the
    phone, and the stranger's connection revokes the pairing. -/
def strangerStays : List (Env × NetEvent) :=
  [(.nominal 0, .connected "phone" (Transport.uniform 0 6).peerFingerprint ⟨.v4 1, 1716⟩),
   (.nominal 1, .connected "phone" (Transport.uniform 1 7).peerFingerprint ⟨.v4 0, 1716⟩),
   (.nominal 2, .command (.startPairing "phone" 0)),
   (.nominal 3, .received 1 (pairPacket (.nominal 3) true) (.error "")),
   (.nominal 4, .received 0 (pairPacket (.nominal 4) false) (.error ""))]

/-- The stranger's packet is acted on: it unpairs the phone. -/
theorem strangerStays_not_genuine :
    let s := start (Manager.new .empty "desk" default (.dir "/tmp")).loadPersisted
    ¬ AllSteps step DeliversGenuine s strangerStays ∧
      ((run step s (strangerStays.take 4)).mgr.link "phone").pinned =
        some (hex (Transport.uniform 1 7).peerFingerprint) ∧
      ((run step s strangerStays).mgr.link "phone").pinned = none := by
  refine ⟨?_, by decide, by decide⟩
  rintro ⟨-, -, -, -, h, -⟩
  have hfalse := h 0 _ _ rfl
    { conn := 0, device := "phone", fingerprint := (Transport.uniform 0 6).peerFingerprint }
    (hex (Transport.uniform 1 7).peerFingerprint) (by decide) (by decide)
  exact absurd hfalse (by decide)

/-! ## The certificate a pairing pins -/

/-- The connection whose pair packet the event completes a pairing of `d` with:
    the one that delivers it now, or the one that delivered the parked request. -/
def deliverer (s : Net) (d : String) : NetEvent → Option Reader
  | .received conn _ _ => s.reader conn
  | .command _ => s.parkedBy.get d
  | .connected _ _ _ | .closed _ => none

/-- A pairing pins the certificate of the connection that delivered its packet. -/
def PinsDeliverer (s : Net) (a : Env × NetEvent) : Prop :=
  ∀ d f, (s.mgr.link d).pinned = none → ((s.step a).mgr.link d).pinned = some f →
    ∃ r, s.deliverer d a.2 = some r ∧ hex r.fingerprint = f

/-- When a pairing completes, the connection installed last presents the
    certificate of the one that delivered its packet. -/
def DelivererIsLast (s : Net) (a : Env × NetEvent) : Prop :=
  ∀ d, (s.mgr.link d).pinned = none → (s.mgr.link d).Completes (s.input a.1 a.2 d) →
    ∀ r q, s.deliverer d a.2 = some r → s.last.get d = some q → q.fingerprint = r.fingerprint

/-- Behind every completed pairing is a connection that delivered the packet. -/
theorem exists_deliverer (h : s.Inv) (hc : (s.mgr.link d).Completes (s.input env e d)) :
    ∃ r, s.deliverer d e = some r := by
  cases e with
  | connected d' fingerprint addr => exact absurd hc not_completes_connected
  | closed conn => exact absurd hc not_completes_closed
  | received conn packet payload =>
    rcases input_received with hi | ⟨r, wants, hr, -⟩
    · rw [hi] at hc
      exact hc.elim
    · exact ⟨r, hr⟩
  | command c =>
    rw [input_command] at hc
    split at hc
    · rename_i hcmd
      cases c with
      | pairingAnswer d' accept reply =>
        -- accepted by the user: whoever delivered the parked request
        obtain ⟨-, deadline, hparked, -⟩ := hc
        exact Option.isSome_iff_exists.mp
          (h.parked_by d (by simp [Option.mem_def.mp hparked]))
      | packetFrom d' p => cases hcmd.1
      | _ => exact hc.elim
    · exact hc.elim

theorem pinsDeliverer_iff (h : s.Inv) (a : Env × NetEvent) :
    s.PinsDeliverer a ↔ s.DelivererIsLast a := by
  obtain ⟨env, e⟩ := a
  constructor
  · intro hpins d hp hc r q hr hq
    -- what is pinned is the certificate of the connection installed last
    obtain ⟨q', hq', hlive⟩ := h.live_last d ((h.sound d).attached_of_completes hc)
    rw [hq] at hq'
    cases hq'
    have hpin : ((s.step (env, e)).mgr.link d).pinned = some (hex q.fingerprint) := by
      rw [step_pinned h, if_pos hc, hlive]
    obtain ⟨r', hr', hhex⟩ := hpins d _ hp hpin
    rw [hr] at hr'
    cases hr'
    exact (hex_inj hhex).symm
  · intro hlast d f hp hf
    -- a pin appears only when a pairing completes
    have hc : (s.mgr.link d).Completes (s.input env e d) := by
      rw [← Link.step_pins_iff (h.sound d) hp, ← step_link, hf]
      rfl
    obtain ⟨r, hr⟩ := exists_deliverer h hc
    obtain ⟨q, hq, hlive⟩ := h.live_last d ((h.sound d).attached_of_completes hc)
    rw [step_pinned h, if_pos hc, hlive, hlast d hp hc r q hr hq] at hf
    exact ⟨r, hr, Option.some.inj hf⟩

/-- **The pinned certificate is the one that paired** in every step of a run
    exactly if no pairing completes after a connection with another certificate
    was installed. -/
theorem pinsDeliverer_iff_delivererIsLast (store : Store) (self : String) (identity : Identity)
    (target : SaveTarget) (events : List (Env × NetEvent)) :
    let s := start (Manager.new store self identity target).loadPersisted
    AllSteps step PinsDeliverer s events ↔ AllSteps step DelivererIsLast s events :=
  allSteps_congr Inv (start_inv store self identity target) (fun _ a h _ => h.step a)
    fun _ a h => pinsDeliverer_iff h a

/-- The phone asks to pair, a stranger connects under its id, the user accepts. -/
def strangerCutsIn : List (Env × NetEvent) :=
  [(.nominal 0, .connected "phone" (Transport.uniform 0 7).peerFingerprint ⟨.v4 0, 1716⟩),
   (.nominal 1, .received 0 (pairPacket (.nominal 1) true) (.error "")),
   (.nominal 2, .connected "phone" (Transport.uniform 2 6).peerFingerprint ⟨.v4 1, 1716⟩),
   (.nominal 3, .command (.pairingAnswer "phone" true 0))]

/-- The stranger's certificate is pinned. -/
theorem strangerCutsIn_not_pinsDeliverer :
    ¬ AllSteps step PinsDeliverer
      (start (Manager.new .empty "desk" default (.dir "/tmp")).loadPersisted) strangerCutsIn := by
  rintro ⟨-, -, -, h, -⟩
  obtain ⟨r, hr, hhex⟩ := h "phone" (hex (Transport.uniform 2 6).peerFingerprint)
    (by decide) (by decide)
  have hphone : (run step (start (Manager.new .empty "desk" default (.dir "/tmp")).loadPersisted)
      (strangerCutsIn.take 3)).deliverer "phone" (.command (.pairingAnswer "phone" true 0)) =
      some { conn := 0, device := "phone"
             fingerprint := (Transport.uniform 0 7).peerFingerprint } := by
    decide
  rw [← Option.some.inj (hphone.symm.trans hr)] at hhex
  exact absurd hhex (by decide)

end Net
end Handfast.Daemon
