/-
  Handfast.Ui.ToggleKeys

  The keys under which the desktop interface remembers plugin switches
  (`toggle_key`, `split_toggle_key` of `crates/gui/src/model.rs` and their uses
  in `crates/gui/src/app.rs`).

  A key is the device id, a colon and the plugin name.  Plugin names have no
  colon, so the last colon of a key is the separator and two pairs never share a
  key (`toggleKey_inj`).  Splitting is at the first colon: the parts make up the
  same key again (`toggleKey_of_split`), which is why a switch is always recorded
  in its place, but they are the pair only for a device id without a colon.
-/
import Mathlib.Data.List.TakeWhile
import Handfast.Lib.Stream
import Handfast.Ui.App

namespace Handfast.Ui.Gui

open Handfast.Lib

/-- One call of `record_plugin_toggle`. -/
structure Switch where
  save : Option String
  deviceId : String
  plugin : String
  enabled : Bool

/-- The remembered switches after calls of `record_plugin_toggle`. -/
def recorded (switches : List Switch) : PluginToggles :=
  (switches.foldl (fun app s => app.recordPluginToggle s.save s.deviceId s.plugin s.enabled)
    (HandfastApp.new .empty)).pluginToggles

/-- The key of a pair stands for it wherever the interface uses keys. -/
structure Faithful (d p : String) : Prop where
  split : splitToggleKey (toggleKey d p) = some (d, p)
  unique : ∀ d' p', ':' ∉ p'.toList → toggleKey d' p' = toggleKey d p → d' = d ∧ p' = p
  /-- A click in the settings changes the switch of this pair and no other, -/
  records : ∀ (app : HandfastApp) (save : Option String) (enabled : Bool) (d' p' : String),
    ':' ∉ p'.toList →
    (app.update save (.toggleSavedPlugin (toggleKey d p) enabled)).pluginToggles.get
        (toggleKey d' p') =
      if d' = d ∧ p' = p then some enabled else app.pluginToggles.get (toggleKey d' p')
  /-- and is sent for this pair. -/
  sends : ∀ (app : HandfastApp) (save : Option String) (enabled : Bool),
    (app.update save (.toggleSavedPlugin (toggleKey d p) enabled)).bridge =
      app.bridge.map fun bridge => bridge.push (.setPlugin d p enabled)
  /-- Rows of the device get switches that were recorded for it. -/
  applies : ∀ (switches : List Switch) (rows : List PluginRow),
    (∀ s ∈ switches, ':' ∉ s.plugin.toList) → (∀ row ∈ rows, ':' ∉ row.name.toList) →
    applyPersistedToggles rows d (recorded switches) =
      applyPersistedToggles rows d (recorded (switches.filter fun s => s.deviceId = d))

variable {d d' p p' key : String} {app : HandfastApp}

/-! ## Joining and splitting -/

theorem toggleKey_toList (d p : String) : (toggleKey d p).toList = d.toList ++ ':' :: p.toList := by
  unfold toggleKey
  rw [String.toList_append, String.toList_append, List.append_assoc]
  rfl

/-- The last colon of a key is its separator. -/
theorem toggleKey_inj (hp : ':' ∉ p.toList) (hp' : ':' ∉ p'.toList)
    (h : toggleKey d p = toggleKey d' p') : d = d' ∧ p = p' := by
  -- read backwards, the plugin name is what comes before the first colon
  have hlists := congrArg (fun key => key.toList.reverse) h
  simp only [toggleKey_toList, List.reverse_append, List.reverse_cons, List.append_assoc,
    List.singleton_append] at hlists
  obtain ⟨hname, hdevice⟩ := line_unique (by simpa using hp) (by simpa using hp') hlists
  exact ⟨String.toList_inj.mp (List.reverse_injective hdevice),
    String.toList_inj.mp (List.reverse_injective hname)⟩

theorem toggleKey_of_split (h : splitToggleKey key = some (d, p)) : toggleKey d p = key := by
  unfold splitToggleKey at h
  split at h
  · cases h
  · -- what is left behind the device begins with the colon
    rename_i ch plugin hdrop
    cases h
    have hne : key.toList.dropWhile (fun ch => ch ≠ ':') ≠ [] := by
      rw [hdrop]
      exact List.cons_ne_nil ch plugin
    have hcolon : ch = ':' := by
      have hhead := List.head_dropWhile_not (fun ch => decide (ch ≠ ':')) hne
      simp only [hdrop, List.head_cons, decide_eq_false_iff_not, not_not] at hhead
      exact hhead
    subst hcolon
    rw [← String.toList_inj, toggleKey_toList, String.toList_ofList, String.toList_ofList, ← hdrop]
    exact List.takeWhile_append_dropWhile

theorem notMem_of_split (h : splitToggleKey key = some (d, p)) : ':' ∉ d.toList := by
  unfold splitToggleKey at h
  split at h
  · cases h
  · cases h
    rw [String.toList_ofList]
    intro hmem
    simpa using List.mem_takeWhile_imp hmem

/-- A device id without a colon is read back from the key. -/
theorem splitToggleKey_toggleKey (hd : ':' ∉ d.toList) (p : String) :
    splitToggleKey (toggleKey d p) = some (d, p) := by
  have hall : ∀ ch ∈ d.toList, decide (ch ≠ ':') = true := by
    intro ch hch
    have hne : ch ≠ ':' := by
      rintro rfl
      exact hd hch
    simpa using hne
  have hdrop : (toggleKey d p).toList.dropWhile (fun ch => ch ≠ ':') = ':' :: p.toList := by
    rw [toggleKey_toList, List.dropWhile_append_of_pos hall]
    simp
  have htake : (toggleKey d p).toList.takeWhile (fun ch => ch ≠ ':') = d.toList := by
    rw [toggleKey_toList, List.takeWhile_append_of_pos hall]
    simp
  simp only [splitToggleKey, hdrop, htake, String.ofList_toList]

theorem exists_split (d p : String) : ∃ d' p', splitToggleKey (toggleKey d p) = some (d', p') := by
  unfold splitToggleKey
  split
  · rename_i hdrop
    rw [List.dropWhile_eq_nil_iff, toggleKey_toList] at hdrop
    simpa using hdrop ':' (by simp)
  · exact ⟨_, _, rfl⟩

/-! ## Recording and sending -/

@[simp] theorem recordPluginToggle_toggles (save : Option String) (d p : String) (enabled : Bool) :
    (app.recordPluginToggle save d p enabled).pluginToggles =
      app.pluginToggles.insert (toggleKey d p) enabled := by
  cases save <;> rfl

@[simp] theorem dispatchOrBanner_toggles (command : BridgeIn) :
    (app.dispatchOrBanner command).pluginToggles = app.pluginToggles := by
  have hdispatch : (app.dispatch command).1.pluginToggles = app.pluginToggles := by
    unfold HandfastApp.dispatch
    split <;> rfl
  rw [← hdispatch, HandfastApp.dispatchOrBanner]
  split <;> simp [*, HandfastApp.setBanner, HandfastApp.pushLog]

/-- A click in the settings is recorded under the very key it carries. -/
theorem toggleSaved_toggles (save : Option String) (d p : String) (enabled : Bool) :
    (app.update save (.toggleSavedPlugin (toggleKey d p) enabled)).pluginToggles =
      app.pluginToggles.insert (toggleKey d p) enabled := by
  -- whatever the parts are, joined again they are this key
  obtain ⟨d', p', hsplit⟩ := exists_split d p
  simp only [HandfastApp.update, hsplit, dispatchOrBanner_toggles, recordPluginToggle_toggles,
    toggleKey_of_split hsplit]

/-- A saved toggle is sent for the device and plugin its key is split into. -/
theorem toggleSaved_bridge (save : Option String) (enabled : Bool)
    (hsplit : splitToggleKey key = some (d, p)) :
    (app.update save (.toggleSavedPlugin key enabled)).bridge =
      app.bridge.map fun bridge => bridge.push (.setPlugin d p enabled) := by
  have hpanel : (app.update save (.toggleSavedPlugin key enabled)).panel =
      (app.panel.change (.toggleSavedPlugin key enabled)).send
        (app.request (.toggleSavedPlugin key enabled)) := HandfastApp.update_panel save _
  have hbridge := congrArg Panel.bridge hpanel
  simp only [HandfastApp.request, hsplit, Option.map_some] at hbridge
  exact hbridge

/-- Keys of plugins without a colon in their names do not collide. -/
theorem get_insert_toggleKey (hp : ':' ∉ p.toList) (hp' : ':' ∉ p'.toList)
    (toggles : PluginToggles) (enabled : Bool) :
    (toggles.insert (toggleKey d p) enabled).get (toggleKey d' p') =
      if d' = d ∧ p' = p then some enabled else toggles.get (toggleKey d' p') := by
  have hkey : toggleKey d' p' = toggleKey d p ↔ d' = d ∧ p' = p := by
    constructor
    · exact toggleKey_inj hp' hp
    · rintro ⟨rfl, rfl⟩
      rfl
  simp only [Table.get_insert, hkey]

/-! ## Applying -/

theorem recorded_snoc (switches : List Switch) (s : Switch) :
    recorded (switches ++ [s]) =
      (recorded switches).insert (toggleKey s.deviceId s.plugin) s.enabled := by
  simp only [recorded, List.foldl_append, List.foldl_cons, List.foldl_nil,
    recordPluginToggle_toggles]

/-- Only switches of the device are found under its keys. -/
theorem get_recorded (switches : List Switch) (h : ∀ s ∈ switches, ':' ∉ s.plugin.toList)
    (hp : ':' ∉ p.toList) :
    (recorded switches).get (toggleKey d p) =
      (recorded (switches.filter fun s => s.deviceId = d)).get (toggleKey d p) := by
  induction switches using List.reverseRecOn with
  | nil => rfl
  | append_singleton switches s ih =>
    have hs : ':' ∉ s.plugin.toList := h s (by simp)
    have hrest := ih fun s' hs' => h s' (List.mem_append_left _ hs')
    rw [recorded_snoc, get_insert_toggleKey hs hp, hrest, List.filter_append]
    -- the last switch is one of the device, or is filtered out and has another key
    by_cases hd : s.deviceId = d
    · subst hd
      have hkept : [s].filter (fun s' => s'.deviceId = s.deviceId) = [s] := by simp
      rw [hkept, recorded_snoc, get_insert_toggleKey hs hp]
    · rw [if_neg (fun hpair => hd hpair.1.symm)]
      simp [hd]

/-- Rows look at the toggles under their own keys only. -/
theorem applyPersistedToggles_congr {rows : List PluginRow} {toggles toggles' : PluginToggles}
    (h : ∀ row ∈ rows, toggles.get (toggleKey d row.name) = toggles'.get (toggleKey d row.name)) :
    applyPersistedToggles rows d toggles = applyPersistedToggles rows d toggles' := by
  apply List.map_congr_left
  intro row hrow
  rw [h row hrow]

/-- **Keys are faithful for devices without a colon in their id.** For a plugin
    name without a colon: the key splits into the pair, belongs to no other pair,
    and a click on it records and sends the switch of the pair; and a device's
    rows only take switches recorded for it.  All of this holds exactly if the
    device id has no colon. -/
theorem faithful_iff (d p : String) (hp : ':' ∉ p.toList) : Faithful d p ↔ ':' ∉ d.toList := by
  constructor
  · intro h
    exact notMem_of_split h.split
  · intro hd
    have hsplit := splitToggleKey_toggleKey hd p
    refine ⟨hsplit, ?_, ?_, ?_, ?_⟩
    · intro d' p' hp' hkey
      exact toggleKey_inj hp' hp hkey
    · intro app save enabled d' p' hp'
      rw [toggleSaved_toggles, get_insert_toggleKey hp hp']
    · intro app save enabled
      exact toggleSaved_bridge save enabled hsplit
    · intro switches rows hswitches hrows
      exact applyPersistedToggles_congr fun row hrow =>
        get_recorded switches hswitches (hrows row hrow)

/-- A plain id. -/
theorem faithful_plain : Faithful "dev1" "sms" :=
  (faithful_iff "dev1" "sms" (by decide)).mpr (by decide)

/-- An id with a colon: the switch is sent for another device and another plugin. -/
theorem colon_id_unfaithful :
    splitToggleKey (toggleKey "dev:1" "sms") = some ("dev", "1:sms") ∧
      ¬ Faithful "dev:1" "sms" := by
  have hsplit : splitToggleKey (toggleKey "dev:1" "sms") = some ("dev", "1:sms") := by decide
  refine ⟨hsplit, fun h => ?_⟩
  have hpair := hsplit.symm.trans h.split
  exact absurd hpair (by decide)

end Handfast.Ui.Gui
