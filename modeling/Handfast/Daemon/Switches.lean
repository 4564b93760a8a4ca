/-
  Handfast.Daemon.Switches

  Turning plugins off for a device (`handle_request` in
  `crates/daemon/src/main.rs`).  Three paths should agree and do not meet:

    * `PluginSetEnabled` writes a switch to the store;
    * `PluginList` answers from the registry alone;
    * dispatch in the actor asks nobody.

  The key of a switch joins the device id and the name of the plugin with a
  colon, which may also occur in either, so two switches can share a key.
-/
import Handfast.Daemon.Supervise

namespace Handfast.Daemon

open Handfast.Lib Handfast.Protocol Handfast.Plugins Handfast.Core

/-! ## The requests -/

/-- An answer to an IPC request. -/
inductive Response where
  | ok (result : Value)
  | err (code : Nat) (msg : String)

def switchKey (deviceId plugin : String) : String := "plugin:" ++ deviceId ++ ":" ++ plugin

def switchValue (enabled : Bool) : String := if enabled then "1" else "0"

/-- `PluginSetEnabled`. -/
def pluginSetEnabled (store : Store) (fails : Option String) (deviceId plugin : String)
    (enabled : Bool) : Response × Store :=
  match store.kvSet fails (switchKey deviceId plugin) (switchValue enabled) with
  | (.ok (), store) => (.ok (.object [("saved", .bool true)]), store)
  | (.error err, store) => (.err 3000 err.text, store)

/-- A row of `PluginList`. -/
def pluginRow (info : PluginMeta) : Value :=
  .object
    [("name", .string info.name),
     ("title", .string info.title),
     ("default_enabled", .bool info.defaultEnabled),
     ("requires_wayland", .bool info.requiresWayland),
     ("requires_dbus", .bool info.requiresDbus)]

/-- `PluginList`; the device is not looked at. -/
def pluginList (_deviceId : String) : List Value := registry.map fun p => pluginRow p.metadata

def reported (rows : List Value) (plugin : String) : Option Bool :=
  ((rows.find? fun row => row.getStr "name" = some plugin).bind fun row =>
    row.get "default_enabled").bind Value.asBool

/-- The plugin at place `i` is passed what the command brings: a panic there would
    be noticed. -/
def Manager.passes (m : Manager) (env : Env) (c : Command) (i : Nat) : Bool :=
  (m.handleMay env (fun j => j = i) c).isNone

/-! ## Switches over time -/

structure Switchboard where
  manager : Manager
  /-- History: what was last saved for a device and a plugin. -/
  saved : Table (String × String) Bool

inductive SwitchMove where
  | setEnabled (fails : Option String) (deviceId plugin : String) (enabled : Bool)
  | pluginList (deviceId : String)
  | command (env : Env) (c : Command)

namespace Switchboard

def step (s : Switchboard) : SwitchMove → Switchboard
  | .setEnabled fails d plugin enabled =>
    { manager :=
        { s.manager with
          store := (pluginSetEnabled s.manager.store fails d plugin enabled).2 }
      saved := if fails.isNone then s.saved.insert (d, plugin) enabled else s.saved }
  | .pluginList _ => s
  | .command env c => { s with manager := s.manager.step (env, c) }

/-- The plugin is enabled for the device: what was last saved, or the default. -/
def enabled (s : Switchboard) (d : String) (info : PluginMeta) : Bool :=
  (s.saved.get (d, info.name)).getD info.defaultEnabled

def TakesEffect (s : Switchboard) (a : SwitchMove) : Prop :=
  match a with
  | .setEnabled _ d plugin _ => ∀ d' plugin', (d', plugin') ≠ (d, plugin) →
      (s.step a).manager.store.kv.get (switchKey d' plugin') =
        s.manager.store.kv.get (switchKey d' plugin')
  | .pluginList d => ∀ p ∈ registry,
      reported (pluginList d) p.metadata.name = some (s.enabled d p.metadata)
  | .command env c => ∀ d packet st i p, c = .packetFrom d packet →
      s.manager.devices.get d = some st → st.plugins[i]? = some p →
        s.manager.passes env c i = true →
          s.enabled d p.metadata = true ∧ p.takes packet.ptype = true

/-- It does not matter in this move that nothing looks at the switches. -/
def Untouched (s : Switchboard) : SwitchMove → Prop
  | .setEnabled fails d plugin enabled => fails.isSome = true ∨
      s.manager.store.kv.get (switchKey d plugin) = some (switchValue enabled) ∨
        ':' ∉ d.toList ∧ ':' ∉ plugin.toList
  | .pluginList d => ∀ p ∈ registry, ∀ b, s.saved.get (d, p.metadata.name) = some b →
      b = p.metadata.defaultEnabled
  | .command _ c => ∀ d packet st, c = .packetFrom d packet → reachesPlugins packet = true →
      s.manager.devices.get d = some st → ∀ p ∈ st.plugins, p.takes packet.ptype = true →
        s.enabled d p.metadata = true

end Switchboard

/-! ## Keys of switches -/

theorem switchKey_toList (d plugin : String) :
    (switchKey d plugin).toList = "plugin:".toList ++ (d.toList ++ ':' :: plugin.toList) := by
  simp [switchKey]

variable {d plugin d' plugin' : String} {packet : Packet}

theorem switchKey_eq_iff :
    switchKey d' plugin' = switchKey d plugin ↔
      d'.toList ++ ':' :: plugin'.toList = d.toList ++ ':' :: plugin.toList := by
  rw [← String.toList_inj, switchKey_toList, switchKey_toList, List.append_cancel_left_eq]

/-- Without a colon in it a switch has a key of its own. -/
theorem switchKey_ne (hd : ':' ∉ d.toList) (hplugin : ':' ∉ plugin.toList)
    (hne : (d', plugin') ≠ (d, plugin)) :
    switchKey d' plugin' ≠ switchKey d plugin := by
  intro h
  -- the only colon is the separator
  obtain ⟨h1, -, h2⟩ :=
    (List.append_cons_inj_of_notMem hd hplugin).mp (switchKey_eq_iff.mp h).symm
  rw [String.toList_inj.mp h1, String.toList_inj.mp h2] at hne
  exact hne rfl

/-- With a colon it shares its key with another one. -/
theorem exists_switchKey_eq (h : ':' ∈ d.toList ∨ ':' ∈ plugin.toList) :
    ∃ d' plugin', (d', plugin') ≠ (d, plugin) ∧ switchKey d' plugin' = switchKey d plugin := by
  -- the other device id has another length
  have hother : ∀ {l : List Char} {plugin' : String}, l.length ≠ d.toList.length →
      (String.ofList l, plugin') ≠ (d, plugin) := by
    intro l plugin' hlen heq
    rw [← (Prod.mk.inj heq).1, String.toList_ofList] at hlen
    exact hlen rfl
  rcases h with h | h
  · -- cut at a colon of the device id: the rest of it joins the plugin name
    obtain ⟨a, b, hab⟩ := List.append_of_mem h
    refine ⟨String.ofList a, String.ofList (b ++ ':' :: plugin.toList), hother ?_, ?_⟩
    · rw [hab, List.length_append, List.length_cons]
      omega
    · rw [switchKey_eq_iff, hab]
      simp
  · -- cut at a colon of the plugin name: its beginning joins the device id
    obtain ⟨a, b, hab⟩ := List.append_of_mem h
    refine ⟨String.ofList (d.toList ++ ':' :: a), String.ofList b, hother ?_, ?_⟩
    · rw [List.length_append, List.length_cons]
      omega
    · rw [switchKey_eq_iff, hab]
      simp

/-! ## Who is passed a packet -/

/-- A packet hits a panic at the places of the plugins that take it. -/
theorem hitsPanic_iff {panics : Panics} {k : Nat} {ps : List Plugin} :
    hitsPanic panics packet k ps = true ↔
      ∃ i p, ps[i]? = some p ∧ p.takes packet.ptype = true ∧ panics (k + i) = true := by
  induction ps generalizing k with
  | nil => simp [hitsPanic]
  | cons q rest ih =>
    rw [hitsPanic, Bool.or_eq_true, Bool.and_eq_true, ih]
    constructor
    · rintro (⟨ht, hp⟩ | ⟨i, p, hi, ht, hp⟩)
      · exact ⟨0, q, rfl, ht, hp⟩
      · exact ⟨i + 1, p, hi, ht, by rwa [Nat.add_assoc, Nat.add_comm 1 i] at hp⟩
    · rintro ⟨i, p, hi, ht, hp⟩
      cases i with
      | zero =>
        cases hi
        exact .inl ⟨ht, hp⟩
      | succ i => exact .inr ⟨i, p, hi, ht, by rwa [Nat.add_assoc, Nat.add_comm 1 i]⟩

/-- Dispatch passes a packet to the plugins that list its type, and looks at
    nothing else. -/
theorem Manager.passes_iff {m : Manager} {env : Env} {st : DeviceState} {i : Nat} {p : Plugin}
    (hst : m.devices.get d = some st) (hp : st.plugins[i]? = some p) :
    m.passes env (.packetFrom d packet) i = true ↔
      reachesPlugins packet = true ∧ p.takes packet.ptype = true := by
  -- a plugin that would panic if it saw the packet tells whether it does
  have hpanics : m.passes env (.packetFrom d packet) i =
      m.panicsOn (fun j => j = i) (.packetFrom d packet) := by
    rw [passes, handleMay_eq]
    cases m.panicsOn (fun j => j = i) (.packetFrom d packet) <;> rfl
  rw [hpanics, panicsOn, hst, Bool.and_eq_true, Option.any_some, hitsPanic_iff]
  refine and_congr_right fun _ => ⟨?_, fun ht => ⟨i, p, hp, ht, by simp⟩⟩
  rintro ⟨j, q, hq, ht, hj⟩
  obtain rfl : j = i := by simpa using hj
  cases hq.symm.trans hp
  exact ht

theorem reported_pluginList (d : String) :
    ∀ p ∈ registry, reported (pluginList d) p.metadata.name = some p.metadata.defaultEnabled := by
  show ∀ p ∈ registry, reported (registry.map fun p => pluginRow p.metadata) p.metadata.name =
    some p.metadata.defaultEnabled
  decide

namespace Switchboard

variable {s : Switchboard} {fails : Option String} {d plugin : String}

theorem setEnabled_kv {key : String} {b : Bool} :
    (s.step (.setEnabled fails d plugin b)).manager.store.kv.get key =
      if fails.isNone = true ∧ key = switchKey d plugin then some (switchValue b)
      else s.manager.store.kv.get key := by
  cases fails <;> simp [step, pluginSetEnabled, Store.kvSet]

theorem setEnabled_takesEffect_iff {b : Bool} :
    s.TakesEffect (.setEnabled fails d plugin b) ↔ s.Untouched (.setEnabled fails d plugin b) := by
  simp only [TakesEffect, Untouched, setEnabled_kv]
  constructor
  · intro h
    by_contra hnot
    simp only [not_or, Option.not_isSome_iff_eq_none] at hnot
    obtain ⟨hfails, hvalue, hcolon⟩ := hnot
    -- the write goes through, changes the value and hits a shared key
    have hshared : ':' ∈ d.toList ∨ ':' ∈ plugin.toList := by tauto
    obtain ⟨d', plugin', hne, hkey⟩ := exists_switchKey_eq hshared
    have hkept := h d' plugin' hne
    rw [if_pos ⟨by rw [hfails]; rfl, hkey⟩, hkey] at hkept
    exact hvalue hkept.symm
  · intro h d' plugin' hne
    split
    · rename_i hwrite
      rcases h with hfails | hvalue | ⟨hd, hplugin⟩
      · rw [Option.isSome_iff_ne_none] at hfails
        exact absurd (Option.isNone_iff_eq_none.mp hwrite.1) hfails
      · rw [hwrite.2, hvalue]
      · exact absurd hwrite.2 (switchKey_ne hd hplugin hne)
    · rfl

theorem pluginList_takesEffect_iff :
    s.TakesEffect (.pluginList d) ↔ s.Untouched (.pluginList d) := by
  refine forall₂_congr fun p hp => ?_
  rw [reported_pluginList d p hp, Option.some.injEq, enabled]
  cases s.saved.get (d, p.metadata.name) with
  | none => simp
  | some b => simp [eq_comm]

theorem command_takesEffect_iff {env : Env} {c : Command} :
    s.TakesEffect (.command env c) ↔ s.Untouched (.command env c) := by
  constructor
  · rintro h d packet st rfl hreach hst p hp ht
    obtain ⟨i, hi⟩ := List.mem_iff_getElem?.mp hp
    exact (h d packet st i p rfl hst hi ((Manager.passes_iff hst hi).mpr ⟨hreach, ht⟩)).1
  · rintro h d packet st i p rfl hst hi hpasses
    obtain ⟨hreach, ht⟩ := (Manager.passes_iff hst hi).mp hpasses
    exact ⟨h d packet st rfl hreach hst p (List.mem_of_getElem? hi) ht, ht⟩

/-- **Switches.** The switches take effect in a run exactly if it never matters
    that the listing and dispatch do not look at them, and that keys are shared. -/
theorem takesEffect_iff_untouched (s : Switchboard) (moves : List SwitchMove) :
    AllSteps step TakesEffect s moves ↔ AllSteps step Untouched s moves := by
  refine allSteps_congr (fun _ => True) trivial (fun _ _ _ _ => trivial) (fun s a _ => ?_)
  cases a with
  | setEnabled fails d plugin b => exact setEnabled_takesEffect_iff
  | pluginList d => exact pluginList_takesEffect_iff
  | command env c => exact command_takesEffect_iff

/-- A phone is connected, its ping plugin is switched off, it pings. -/
def mutedPing : List SwitchMove :=
  [.command (.nominal 0) (.connected "phone" (.uniform 0 7)),
   .setEnabled none "phone" "ping" false,
   .command (.nominal 1) (.packetFrom "phone" (.new 0 typePing (.object [])))]

def desk : Switchboard where
  manager := .new .empty "desk" default (.dir "/d")
  saved := .empty

/-- The plugin is passed the ping, and the listing still has it enabled. -/
theorem mutedPing_no_effect :
    ¬ AllSteps step TakesEffect desk mutedPing ∧
      ¬ AllSteps step TakesEffect desk (mutedPing.take 2 ++ [.pluginList "phone"]) := by
  constructor
  · intro h
    have heffect := h.2.2.1 "phone" _ _ 9 _ rfl rfl rfl rfl
    exact absurd heffect.1 (by decide)
  · intro h
    have heffect := h.2.2.1 (.ping .new) (by simp [registry, Roster.plugins, Roster.fresh])
    revert heffect
    decide

end Switchboard

end Handfast.Daemon
