/-
  Handfast.Daemon.Supervise

  The actor under its supervisor, with plugins that may panic.

  A panic in `Plugin::handle` unwinds the dispatch loop, the handler and the
  actor's task; nothing on the way catches it.  The supervisor calls the factory
  of the task again (`crates/daemon/src/main.rs`), but the factory has handed
  out the only actor the first time, and its second child is over at once.

  Next to this `Ideal` keeps the actor the documentation promises: a plugin that
  panics gives no reply and is replaced by a new instance, and nothing else
  happens.
-/
import Handfast.Core.Supervise
import Handfast.Daemon.Routing

namespace Handfast.Daemon

open Handfast.Lib Handfast.Protocol Handfast.Plugins Handfast.Core

/-- Which plugins of the roster would panic on the packet at hand, by their place. -/
abbrev Panics := Nat → Bool

/-! ## Plugins that may panic -/

/-- A new instance from the same factory. -/
def recreate : Plugin → Plugin
  | .battery _ => .battery .new
  | .stub m => .stub m
  | .findMyPhone _ => .findMyPhone .new
  | .mpris _ => .mpris .new
  | .notifications _ => .notifications .new
  | .pauseMusic _ => .pauseMusic .new
  | .ping _ => .ping .new
  | .runCommands _ => .runCommands .new
  | .share _ => .share .new
  | .systemVolume _ => .systemVolume .new
  | .telephony _ => .telephony .new

/-- `dispatch`, from place `i` on; `none` if a plugin panics. -/
def dispatchMay (panics : Panics) (pkt : Packet) :
    Ambient → Nat → List Plugin → Option (List Plugin × List Packet)
  | _, _, [] => some ([], [])
  | amb, i, p :: rest =>
    if p.takes pkt.ptype then
      -- the panic unwinds the loop: the plugins before this one have run in vain
      if panics i then none
      else
        let (p', produced) := p.handle amb pkt
        match dispatchMay panics pkt (amb.after produced.length) (i + 1) rest with
        | none => none
        | some (rest', replies) => some (p' :: rest', produced ++ replies)
    else
      match dispatchMay panics pkt amb (i + 1) rest with
      | none => none
      | some (rest', replies) => some (p :: rest', replies)

/-- Dispatch as promised: a plugin that panics is replaced and gives no reply. -/
def dispatchIsolated (panics : Panics) (pkt : Packet) :
    Ambient → Nat → List Plugin → List Plugin × List Packet
  | _, _, [] => ([], [])
  | amb, i, p :: rest =>
    if p.takes pkt.ptype then
      let (p', produced) := if panics i then (recreate p, []) else p.handle amb pkt
      let (rest', replies) :=
        dispatchIsolated panics pkt (amb.after produced.length) (i + 1) rest
      (p' :: rest', produced ++ replies)
    else
      let (rest', replies) := dispatchIsolated panics pkt amb (i + 1) rest
      (p :: rest', replies)

def hitsPanic (panics : Panics) (pkt : Packet) : Nat → List Plugin → Bool
  | _, [] => false
  | i, p :: rest => (p.takes pkt.ptype && panics i) || hitsPanic panics pkt (i + 1) rest

/-- The loop is plain dispatch unless a plugin panics. -/
theorem dispatchMay_eq (panics : Panics) (pkt : Packet) (amb : Ambient) (i : Nat)
    (ps : List Plugin) :
    dispatchMay panics pkt amb i ps =
      if hitsPanic panics pkt i ps then none else some (dispatch amb pkt ps) := by
  induction ps generalizing amb i with
  | nil => rfl
  | cons p rest ih =>
    cases ht : p.takes pkt.ptype with
    | true =>
      cases hp : panics i with
      | true => simp [dispatchMay, hitsPanic, ht, hp]
      | false =>
        simp only [dispatchMay, hitsPanic, ht, hp, if_true, ih, dispatch_cons_of_takes ht]
        cases hitsPanic panics pkt (i + 1) rest <;> rfl
    | false =>
      simp only [dispatchMay, hitsPanic, ht, ih, dispatch_cons_of_not_takes ht]
      cases hitsPanic panics pkt (i + 1) rest <;> rfl

theorem dispatchIsolated_eq {panics : Panics} {pkt : Packet} {amb : Ambient} {i : Nat}
    {ps : List Plugin} (h : hitsPanic panics pkt i ps = false) :
    dispatchIsolated panics pkt amb i ps = dispatch amb pkt ps := by
  induction ps generalizing amb i with
  | nil => rfl
  | cons p rest ih =>
    rw [hitsPanic, Bool.or_eq_false_iff] at h
    cases ht : p.takes pkt.ptype with
    | true =>
      have hp : panics i = false := by simpa [ht] using h.1
      simp only [dispatchIsolated, ht, hp, if_true, ih h.2, dispatch_cons_of_takes ht]
      rfl
    | false =>
      simp only [dispatchIsolated, ht, ih h.2, dispatch_cons_of_not_takes ht]
      rfl

/-! ## The actor with such plugins -/

def reachesPlugins (packet : Packet) : Bool :=
  packet.ptype ≠ typeIdentity ∧ packet.ptype ≠ typePair ∧ announcesFile packet = false

namespace Manager

variable {m : Manager} {env : Env} {panics : Panics} {d : String} {packet : Packet}

/-- What follows when the plugins have handled a packet. -/
def afterDispatch (m : Manager) (env : Env) (d : String) (packet : Packet) (s : DeviceState)
    (out : List Plugin × List Packet) : Manager × List Effect :=
  let m := m.setDevice d { s with plugins := out.1 }
  (m, emitSideEvents packet ++ m.sendReplies env d out.2)

/-- `on_packet`; `none` if a plugin panics. -/
def onPacketMay (m : Manager) (env : Env) (panics : Panics) (d : String) (packet : Packet) :
    Option (Manager × List Effect) :=
  match m.devices.get d with
  | some s =>
    if reachesPlugins packet then
      (dispatchMay panics packet env.ambient 0 s.plugins).map (m.afterDispatch env d packet s)
    else some (m.onPacket env d packet)
  | none => some (m.onPacket env d packet)

/-- One turn of the actor loop; `none` if it panics. -/
def handleMay (m : Manager) (env : Env) (panics : Panics) : Command → Option (Manager × List Effect)
  | .packetFrom d packet => m.onPacketMay env panics d packet
  | c => some (m.handle env c)

def handleIsolated (m : Manager) (env : Env) (panics : Panics) : Command → Manager × List Effect
  | .packetFrom d packet =>
    match m.devices.get d with
    | some s =>
      if reachesPlugins packet then
        m.afterDispatch env d packet s
          (dispatchIsolated panics packet env.ambient 0 s.plugins)
      else m.onPacket env d packet
    | none => m.onPacket env d packet
  | c => m.handle env c

def panicsOn (m : Manager) (panics : Panics) : Command → Bool
  | .packetFrom d packet =>
    reachesPlugins packet &&
      (m.devices.get d).any fun s => hitsPanic panics packet 0 s.plugins
  | _ => false

theorem onPacket_eq_afterDispatch {s : DeviceState} (hs : m.devices.get d = some s)
    (hreach : reachesPlugins packet = true) :
    m.onPacket env d packet =
      m.afterDispatch env d packet s (dispatch env.ambient packet s.plugins) := by
  obtain ⟨hidentity, hpair, hfile⟩ := decide_eq_true_iff.mp hreach
  have hf : ¬ (packet.ptype = typeShare ∧ (packet.body.get "filename").isSome = true) := by
    rw [← announcesFile_iff, hfile]
    exact nofun
  rw [onPacket, if_neg hidentity, if_neg hpair, if_neg hf]
  simp only [routePacket, dispatchToPlugins, hs]
  rfl

/-- The actor panics exactly if a plugin does; otherwise a turn is as without
    panics. -/
theorem handleMay_eq (c : Command) :
    m.handleMay env panics c = if m.panicsOn panics c then none else some (m.handle env c) := by
  cases c with
  | packetFrom d packet =>
    cases hs : m.devices.get d with
    | none => simp [handleMay, onPacketMay, panicsOn, handle, hs]
    | some s =>
      cases hreach : reachesPlugins packet with
      | false => simp [handleMay, onPacketMay, panicsOn, handle, hs, hreach]
      | true =>
        have hturn : m.onPacket env d packet = m.afterDispatch env d packet s
            (dispatch env.ambient packet s.plugins) := onPacket_eq_afterDispatch hs hreach
        cases hhits : hitsPanic panics packet 0 s.plugins <;>
          simp [handleMay, onPacketMay, panicsOn, handle, hs, hreach, dispatchMay_eq, hhits,
            hturn]
  | _ => rfl

/-- Without a panic the two daemons handle a command alike. -/
theorem handleIsolated_eq {c : Command} (h : m.panicsOn panics c = false) :
    m.handleIsolated env panics c = m.handle env c := by
  cases c with
  | packetFrom d packet =>
    cases hs : m.devices.get d with
    | none => simp [handleIsolated, handle, hs]
    | some s =>
      cases hreach : reachesPlugins packet with
      | false => simp [handleIsolated, handle, hs, hreach]
      | true =>
        have hhits : hitsPanic panics packet 0 s.plugins = false := by
          simpa [panicsOn, hreach, hs] using h
        simp [handleIsolated, handle, hs, hreach, dispatchIsolated_eq hhits,
          onPacket_eq_afterDispatch hs hreach]
  | _ => rfl

end Manager

/-! ## The actor under its supervisor -/

/-- What happens to the task of the actor. -/
inductive DaemonTick where
  /-- A command is sent to the actor. -/
  | command (now : Nat) (env : Env) (panics : Panics) (c : Command)
  /-- Time passes. -/
  | wake (now : Nat)

/-- The factory of the `devices` task: the first call takes the actor out of the
    cell. -/
def devicesFactory (cell : Option Manager) : Option Manager × Attempt Manager :=
  match cell with
  -- `take()` leaves the cell empty for every later call
  | some m => (none, .alive m.loadPersisted)
  | none => (none, .ended .finished)

abbrev DevicesTask := Watch (Option Manager) Manager

namespace DevicesTask

/-- The task and the effects of one tick.  Once the actor is gone so is its end of
    the channel, and a command does nothing. -/
def tick (w : DevicesTask) : DaemonTick → DevicesTask × List Effect
  | .command now env panics c =>
    match w.phase with
    | .running m started =>
      match m.handleMay env panics c with
      | some (m, effects) => ({ w with phase := .running m started }, effects)
      -- the actor dies with the panic, and its state with it
      | none =>
        let (w, events) := Watch.onExit w started now (.panicked "task panicked")
        (w, events.map .publish)
    | _ => (w, [])
  | .wake now =>
    let (w, events) := Watch.wake w devicesFactory now
    (w, events.map .publish)

def actor (w : DevicesTask) : Option Manager := Watch.child w

variable {w : DevicesTask} {m : Manager} {panics : Panics} {c : Command}

theorem running_of_actor (h : w.actor = some m) : ∃ started, w.phase = .running m started := by
  unfold actor Watch.child at h
  split at h
  · cases h
    exact ⟨_, ‹_›⟩
  · cases h

/-- Without a panic the actor handles the command as ever. -/
theorem tick_of_noPanic (now : Nat) (env : Env) (h : w.actor = some m)
    (hpanic : m.panicsOn panics c = false) :
    (w.tick (.command now env panics c)).1.actor = some (m.handle env c).1 ∧
      (w.tick (.command now env panics c)).2 = (m.handle env c).2 := by
  obtain ⟨started, hphase⟩ := running_of_actor h
  have hturn : m.handleMay env panics c = some (m.handle env c) := by
    rw [Manager.handleMay_eq, if_neg (by simp [hpanic])]
  simp only [tick, hphase, hturn]
  exact ⟨rfl, trivial⟩

/-- A panic takes the actor down. -/
theorem tick_of_panic (now : Nat) (env : Env) (h : w.actor = some m)
    (hpanic : m.panicsOn panics c = true) :
    (w.tick (.command now env panics c)).1.actor = none := by
  obtain ⟨started, hphase⟩ := running_of_actor h
  have hturn : m.handleMay env panics c = none := by
    rw [Manager.handleMay_eq, if_pos hpanic]
  simp only [tick, hphase, hturn]
  exact Watch.onExit_child _ _ _ _

theorem tick_wake (now : Nat) (h : w.actor = some m) : w.tick (.wake now) = (w, []) := by
  obtain ⟨started, hphase⟩ := running_of_actor h
  simp [tick, Watch.wake, hphase]

/-! ### After a panic -/

theorem spent_of_empty (hcell : w.cell = none) : Watch.Spent devicesFactory w.cell :=
  ⟨.finished, by rw [hcell]; rfl⟩

theorem tick_cell (hcell : w.cell = none) (t : DaemonTick) : (w.tick t).1.cell = none := by
  cases t with
  | command now env panics c =>
    unfold tick
    dsimp only
    split
    · split
      · exact hcell
      · exact (Watch.onExit_cell _ _ _ _).trans hcell
    · exact hcell
  | wake now => exact (Watch.wake_cell now (spent_of_empty hcell)).trans hcell

/-- Once the actor is gone, no tick brings one back. -/
theorem tick_gone (hcell : w.cell = none) (h : w.actor = none) (t : DaemonTick) :
    (w.tick t).1.actor = none := by
  cases t with
  | command now env panics c =>
    cases hphase : w.phase with
    | running m started => simp [actor, Watch.child, hphase] at h
    | sleeping wakeAt =>
      simp only [tick, hphase]
      exact h
    | ended =>
      simp only [tick, hphase]
      exact h
  | wake now => exact Watch.wake_child now (spent_of_empty hcell) h

end DevicesTask

/-- The daemon's actor beside the one that was promised. -/
structure Promise where
  task : DevicesTask
  ideal : Manager

namespace Promise

def start (m : Manager) : Promise where
  task := (Watch.spawn "devices" (some m) devicesFactory 0).1
  ideal := m.loadPersisted

def idealTick (m : Manager) : DaemonTick → Manager × List Effect
  | .command _ env panics c => m.handleIsolated env panics c
  | .wake _ => (m, [])

def step (s : Promise) (t : DaemonTick) : Promise where
  task := (s.task.tick t).1
  ideal := (idealTick s.ideal t).1

def Kept (s : Promise) : Prop := s.task.actor = some s.ideal

def Isolates (s : Promise) (t : DaemonTick) : Prop :=
  (s.step t).Kept ∧ (s.task.tick t).2 = (idealTick s.ideal t).2

def NoPanic (s : Promise) : DaemonTick → Prop
  | .command _ _ panics c => s.ideal.panicsOn panics c = false
  | .wake _ => True

theorem start_kept (m : Manager) : (start m).Kept := rfl

/-- A tick keeps the promise exactly if no plugin panics in it. -/
theorem isolates_iff {s : Promise} (h : s.Kept) (t : DaemonTick) : s.Isolates t ↔ s.NoPanic t := by
  cases t with
  | command now env panics c =>
    show _ ↔ s.ideal.panicsOn panics c = false
    cases hpanic : s.ideal.panicsOn panics c with
    | false =>
      obtain ⟨hactor, heffects⟩ := DevicesTask.tick_of_noPanic now env h hpanic
      refine iff_of_true ⟨?_, ?_⟩ rfl
      · show (s.task.tick _).1.actor = some (s.ideal.handleIsolated env panics c).1
        rw [hactor, Manager.handleIsolated_eq hpanic]
      · show _ = (s.ideal.handleIsolated env panics c).2
        rw [heffects, Manager.handleIsolated_eq hpanic]
    | true =>
      refine iff_of_false ?_ nofun
      rintro ⟨hkept, -⟩
      -- the promised actor lives on, the real one does not
      have hgone := DevicesTask.tick_of_panic now env h hpanic
      cases hgone.symm.trans hkept
  | wake now =>
    refine iff_of_true ?_ trivial
    have hwake : s.task.tick (.wake now) = (s.task, []) := DevicesTask.tick_wake now h
    refine ⟨?_, ?_⟩
    · show (s.task.tick _).1.actor = some s.ideal
      rw [hwake]
      exact h
    · rw [hwake]
      rfl

/-- **Fault isolation.** The daemon does what was promised exactly in the runs in
    which no plugin panics. -/
theorem isolates_iff_noPanic (m : Manager) (ticks : List DaemonTick) :
    AllSteps step Isolates (start m) ticks ↔ AllSteps step NoPanic (start m) ticks :=
  allSteps_congr Kept (start_kept m) (fun _ t hkept hno => ((isolates_iff hkept t).mpr hno).1)
    (fun _ t hkept => isolates_iff hkept t)

theorem run_cell (m : Manager) (ticks : List DaemonTick) :
    (run step (start m) ticks).task.cell = none := by
  have hstates : AllStates step (fun s => s.task.cell = none) (start m) ticks :=
    allStates_of_preserved rfl fun s t h => DevicesTask.tick_cell h t
  exact hstates.last

/-- **A panic is final.** After one the actor never comes back. -/
theorem panic_final (m : Manager) (before after : List DaemonTick) {now : Nat} {env : Env}
    {panics : Panics} {c : Command} (hkept : (run step (start m) before).Kept)
    (hpanic : (run step (start m) before).ideal.panicsOn panics c = true) :
    (run step (start m) (before ++ .command now env panics c :: after)).task.actor = none := by
  -- an empty cell and no actor: no tick changes either
  have hgone : ∀ (ticks : List DaemonTick) (s : Promise), s.task.cell = none →
      s.task.actor = none → (run step s ticks).task.actor = none := by
    intro ticks
    induction ticks with
    | nil => exact fun s _ h => h
    | cons t ticks ih =>
      intro s hcell h
      exact ih _ (DevicesTask.tick_cell hcell t) (DevicesTask.tick_gone hcell h t)
  rw [run_append, run_cons]
  exact hgone after _ (DevicesTask.tick_cell (run_cell m before) _)
    (DevicesTask.tick_of_panic now env hkept hpanic)

/-- A phone connects and pings, and the daemon is asked for its devices. -/
def pinged (panics : Panics) : List DaemonTick :=
  [.command 0 (.nominal 0) (fun _ => false) (.connected "phone" (.uniform 0 7)),
   .command 1 (.nominal 1) panics (.packetFrom "phone" (.new 0 typePing (.object []))),
   .wake 1000,
   .command 1000 (.nominal 1000) (fun _ => false) (.listDevices 0)]

def desk : Promise := start (Manager.new .empty "desk" default (.dir "/d"))

theorem panic_final_ping :
    desk.ideal.panicsOn (fun i => i = 9) (.connected "phone" (.uniform 0 7)) = false ∧
      (run step desk (pinged fun i => i = 9)).task.actor = none :=
  ⟨rfl, panic_final (Manager.new .empty "desk" default (.dir "/d"))
    ((pinged fun i => i = 9).take 1) ((pinged fun i => i = 9).drop 2) rfl rfl⟩

/-- If the ping plugin, which is the tenth, panics, nobody is left to answer. -/
theorem pingPanics_not_isolated :
    ¬ AllSteps step Isolates desk (pinged fun i => i = 9) ∧
      (run step desk (pinged fun i => i = 9)).task.actor = none := by
  refine ⟨fun h => ?_, rfl⟩
  have hkept := h.2.1.1
  cases hkept

end Promise

end Handfast.Daemon
