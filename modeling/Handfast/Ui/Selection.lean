/-
  Handfast.Ui.Selection

  The selected device of the desktop interface (`HandfastApp::update`,
  `sync_selection` and `handle_event` of `crates/gui/src/app.rs`).

  The selection is kept twice, as an index and as an id.  The index is
  recomputed where cards may move, which is when a device is lost; everywhere
  else every card keeps its place (`Synced.kept`).
-/
import Handfast.Ui.App

namespace Handfast.Ui.Gui

open Handfast.Ipc Handfast.Lib

/-! ## The selection -/

namespace Panel

/-- Index and id of the selection belong to the same card. -/
inductive Synced (p : Panel) : Prop where
  | none (hselected : p.selected = none) (hid : p.selectedId = none)
  | some {index : Nat} {d : String} (hselected : p.selected = some index)
      (hid : p.selectedId = some d) (hcard : (p.devices.map DeviceEntry.id)[index]? = some d)

variable {p q : Panel} {m : Message}

theorem Synced.selectedDeviceId (h : p.Synced) : p.selectedDeviceId = p.selectedId := by
  cases h with
  | none hselected hid => rw [Panel.selectedDeviceId, hselected, hid]; rfl
  | some hselected hid hcard =>
    rw [Panel.selectedDeviceId, hselected, hid, ← hcard, List.getElem?_map]
    rfl

/-- The selection stays as it is while every card keeps its place. -/
theorem Synced.kept (h : p.Synced) (hselected : q.selected = p.selected)
    (hid : q.selectedId = p.selectedId)
    (hids : p.devices.map DeviceEntry.id <+: q.devices.map DeviceEntry.id) : q.Synced := by
  cases h with
  | none hnone hnoid => exact .none (hselected.trans hnone) (hid.trans hnoid)
  | some hsome hsomeid hcard =>
    obtain ⟨rest, hrest⟩ := hids
    refine .some (hselected.trans hsome) (hid.trans hsomeid) ?_
    rw [← hrest, List.getElem?_append_left (List.getElem?_eq_some_iff.mp hcard).1, hcard]

theorem modifyDevice_ids {d : String} {f : DeviceCard → DeviceCard}
    (hf : ∀ card, (f card).id = card.id) :
    p.devices.map DeviceEntry.id <+: (p.modifyDevice d f).devices.map DeviceEntry.id := by
  refine ⟨[], ?_⟩
  rw [List.append_nil, modifyDevice, Rows.map_modify hf]

theorem finishPairing_ids (result : Except String Unit) (unpair : Bool) :
    (p.finishPairing result unpair).devices.map DeviceEntry.id = p.devices.map DeviceEntry.id := by
  rw [finishPairing_eq]
  cases (if unpair then p.unpairTarget else p.pairTarget) with
  | none => rfl
  | some d => exact Rows.map_modify (acknowledged_id result unpair)

theorem finishPairing_synced (h : p.Synced) (result : Except String Unit) (unpair : Bool) :
    (p.finishPairing result unpair).Synced := by
  refine h.kept finishPairing_selected finishPairing_selectedId ⟨[], ?_⟩
  rw [List.append_nil, finishPairing_ids]

/-- A lost device takes the selection with it if it is the selected one; otherwise the
    index moves with the card. -/
theorem deviceLost_synced (h : p.Synced) (d : String) : (p.deviceLost d).Synced := by
  by_cases hlost : p.selectedId = some d
  · refine .none ?_ ?_ <;> simp [deviceLost, hlost]
  · cases h with
    | none hselected hid => refine .none ?_ ?_ <;> simp [deviceLost, hid]
    | @some index x hselected hid hcard =>
      have hne : x ≠ d := fun he => hlost (by rw [hid, he])
      obtain ⟨card, hmem, hx⟩ := List.mem_map.mp (List.mem_of_getElem? hcard)
      -- the selected card is not the one that goes
      have hstays : card ∈ p.devices.eraseP fun device => device.id = d := by
        rw [List.mem_eraseP_of_neg (by simpa [hx] using hne)]
        exact hmem
      obtain ⟨j, hj⟩ : ∃ j, (p.devices.eraseP fun device => device.id = d).findIdx?
          (fun device => device.id = x) = some j := by
        rw [← Option.isSome_iff_exists, List.findIdx?_isSome, List.any_eq_true]
        exact ⟨card, hstays, by simpa using hx⟩
      have hnewid : (p.deviceLost d).selectedId = some x := by simp [deviceLost, hid, hne]
      have hnewindex : (p.deviceLost d).selected = some j := by simp [deviceLost, hid, hne, hj]
      refine .some hnewindex hnewid ?_
      -- the new index is that of a card with the selected id
      obtain ⟨hlt, hfound, -⟩ := List.findIdx?_eq_some_iff_getElem.mp hj
      simp only [deviceLost, List.getElem?_map, List.getElem?_eq_getElem hlt]
      simpa using hfound

/-- Index and id of the selection stay in step. -/
theorem change_synced (h : p.Synced) (m : Message) : (p.change m).Synced := by
  cases m with
  | bridgeReady bridge => exact h.kept rfl rfl List.prefix_rfl
  -- a fresh list drops the selection
  | devicesLoaded cards => exact .none rfl rfl
  | pluginsLoaded rows => exact h.kept rfl rfl List.prefix_rfl
  | paired result => exact finishPairing_synced h result false
  | unpaired result => exact finishPairing_synced h result true
  | event event =>
    cases event with
    | deviceFound id name => exact h.kept rfl rfl Rows.map_upsert
    | deviceLost id => exact deviceLost_synced h id
    | deviceStateChanged id state => exact h.kept rfl rfl (modifyDevice_ids fun _ => rfl)
    | _ => exact h
  | deviceSelected index =>
    simp only [change]
    split
    · exact h
    · rename_i device hdevice
      refine .some rfl rfl ?_
      rw [List.getElem?_map, hdevice]
      rfl
  | pairPressed id => exact h.kept rfl rfl (modifyDevice_ids fun _ => rfl)
  | unpairPressed id => exact h.kept rfl rfl (modifyDevice_ids fun _ => rfl)
  | _ => exact h

/-! ## Distinct ids -/

inductive Listed (p : Panel) : Message → List String → Prop where
  | kept (m : Message) : Listed p m (p.devices.map DeviceEntry.id)
  | loaded (cards : List DeviceCard) :
      Listed p (.devicesLoaded cards) (cards.map DeviceEntry.id)
  | found (card : DeviceCard) (m : Message) :
      Listed p m ((DeviceEntry.upsert p.devices card).map DeviceEntry.id)
  | lost (d : String) (m : Message) :
      Listed p m ((p.devices.eraseP fun device => device.id = d).map DeviceEntry.id)

theorem listed_of_kept {ids : List String} (h : ids = p.devices.map DeviceEntry.id) :
    Listed p m ids := h ▸ .kept m

/-- **Inversion.** -/
theorem change_listed (p : Panel) (m : Message) :
    Listed p m ((p.change m).devices.map DeviceEntry.id) := by
  cases m with
  | devicesLoaded cards => exact .loaded cards
  | paired result => exact listed_of_kept (finishPairing_ids result false)
  | unpaired result => exact listed_of_kept (finishPairing_ids result true)
  | event event =>
    cases event with
    | deviceFound id name => exact .found _ _
    | deviceLost id => exact .lost id _
    | deviceStateChanged id state => exact listed_of_kept (Rows.map_modify fun _ => rfl)
    | _ => exact .kept _
  | deviceSelected index =>
    simp only [change]
    split <;> exact .kept _
  | pairPressed id => exact listed_of_kept (Rows.map_modify fun _ => rfl)
  | unpairPressed id => exact listed_of_kept (Rows.map_modify fun _ => rfl)
  | _ => exact .kept _

theorem change_nodup (h : (p.devices.map DeviceEntry.id).Nodup)
    (hlist : ∀ cards, m = .devicesLoaded cards → (cards.map DeviceEntry.id).Nodup) :
    ((p.change m).devices.map DeviceEntry.id).Nodup := by
  have hids := change_listed p m
  generalize (p.change m).devices.map DeviceEntry.id = ids at hids
  cases hids with
  | kept => exact h
  | loaded cards => exact hlist cards rfl
  | found card => exact Rows.nodup_upsert h
  | lost d => exact h.sublist (List.eraseP_sublist.map DeviceEntry.id)

/-- An event changes the selected id only by losing that device. -/
theorem change_event_selectedId {event : ServerEvent}
    (h : ∀ d, p.selectedId = some d → event ≠ .deviceLost d) :
    (p.change (.event event)).selectedId = p.selectedId := by
  cases event with
  | deviceLost id => exact if_neg fun hselected => h id hselected rfl
  | _ => rfl

end Panel

/-! ## Runs -/

namespace HandfastApp

variable {app : HandfastApp}

theorem update_synced (h : app.panel.Synced) (save : Option String)
    (m : Message) : (app.update save m).panel.Synced := by
  rw [HandfastApp.update_panel]
  exact (Panel.change_synced h m).kept rfl rfl List.prefix_rfl

/-- One message, with the outcome of saving the toggles. -/
def step (app : HandfastApp) (m : Option String × Message) : HandfastApp := app.update m.1 m.2

/-- Distinct cards, and one selection: index and id are set together and belong
    to the same card. -/
structure SelectionOk (app : HandfastApp) : Prop where
  distinct : (app.devices.map DeviceEntry.id).Nodup
  together : app.selectedId.isSome ↔ app.selected.isSome
  card : ∀ index d, app.selected = some index → app.selectedId = some d →
    ∃ card, app.devices[index]? = some card ∧ card.id = d

theorem selectionOk_of_synced (hnodup : (app.devices.map DeviceEntry.id).Nodup)
    (h : app.panel.Synced) : app.SelectionOk := by
  cases h with
  | none hselected hid =>
    have hselected : app.selected = none := hselected
    have hid : app.selectedId = none := hid
    refine ⟨hnodup, by rw [hselected, hid]; rfl, ?_⟩
    intro index d hsome
    rw [hselected] at hsome
    cases hsome
  | @some index d hselected hid hcard =>
    have hselected : app.selected = some index := hselected
    have hid : app.selectedId = some d := hid
    refine ⟨hnodup, by rw [hselected, hid]; rfl, ?_⟩
    intro index' d' hindex hd
    obtain rfl : index = index' := Option.some.inj (hselected.symm.trans hindex)
    obtain rfl : d = d' := Option.some.inj (hid.symm.trans hd)
    rw [List.getElem?_map] at hcard
    exact Option.map_eq_some_iff.mp hcard

/-- **The selection is stable.** In a run whose loaded lists have distinct ids,
    every state has distinct cards and one selection, and every event but the
    loss of the selected device leaves the selected id as it is. -/
theorem selection_stable (toggles : PluginToggles) (run : List (Option String × Message))
    (hlists : ∀ save cards, (save, .devicesLoaded cards) ∈ run →
      (cards.map DeviceEntry.id).Nodup) :
    AllStates step SelectionOk (.new toggles) run ∧
    AllSteps step (fun app m => ∀ event, m.2 = .event event →
      (∀ d, app.selectedId = some d → event ≠ .deviceLost d) →
      (app.step m).selectedId = app.selectedId) (.new toggles) run := by
  have hinit : (HandfastApp.new toggles).panel.Synced := .none rfl rfl
  have hstates : AllStates step
      (fun app => (app.devices.map DeviceEntry.id).Nodup ∧ app.panel.Synced)
      (.new toggles) run := by
    refine allStates_of_invariant (P := fun _ m => m ∈ run) ⟨List.nodup_nil, hinit⟩ ?_
      (allSteps_of_forall_mem fun m hm => hm)
    rintro app ⟨save, m⟩ ⟨hnodup, hsynced⟩ hm
    refine ⟨?_, update_synced hsynced save m⟩
    have hdevices : (app.step (save, m)).devices = (app.panel.change m).devices :=
      congrArg Panel.devices (update_panel save m)
    rw [hdevices]
    refine Panel.change_nodup hnodup fun cards hcards => hlists save cards ?_
    rw [← hcards]
    exact hm
  refine ⟨hstates.mono fun app h => selectionOk_of_synced h.1 h.2, ?_⟩
  -- the second part needs no invariant: it is about single events
  refine hstates.allSteps ?_
  rintro app ⟨save, m⟩ - event rfl hevent
  have hid : (app.step (save, .event event)).selectedId =
      (app.panel.change (.event event)).selectedId :=
    congrArg Panel.selectedId (update_panel save (.event event))
  rw [hid]
  exact Panel.change_event_selectedId hevent

/-- Two devices are listed, the second one is selected, and the first one is lost. -/
theorem selection_stable_lost :
    let cards : List DeviceCard := [.fromFound "a" "phone", .fromFound "b" "tablet"]
    let run : List (Option String × Message) := [(none, .devicesLoaded cards),
      (none, .deviceSelected 1), (none, .event (.deviceLost "a"))]
    AllStates step SelectionOk (.new .empty) run ∧
    (Lib.run step (.new .empty) run).selectedId = some "b" ∧
    (Lib.run step (.new .empty) run).selected = some 0 := by
  intro cards run
  refine ⟨(selection_stable .empty run ?_).1, by decide, by decide⟩
  intro save cards' hmem
  simp only [run, List.mem_cons, Prod.mk.injEq, Message.devicesLoaded.injEq, reduceCtorEq,
    and_false, List.not_mem_nil, or_false] at hmem
  obtain ⟨-, rfl⟩ := hmem
  decide

end HandfastApp
end Handfast.Ui.Gui
