/-
  Handfast.Ui.PluginRows

  Whose plugins the rows of the desktop interface are.

  A list of plugins names no device.  The application takes it for one of the
  selected device, whichever that is by then; the rows are emptied whenever the
  selection changes.  So the rows are those of the selected device, or none, in
  every state of a run just if every list that arrives is empty or answers a
  command for the device selected at that moment (`rowsOwned_iff`).

  Nothing in the code sees to that: a list asked for before another device was
  selected still arrives, and so does the list that follows a toggle of another
  device in the settings.  It is the case if the selection changes only while no
  list is under way (`pending`) and only the selected device is toggled there.
-/
import Handfast.Ui.Driver
import Handfast.Ui.Selection

namespace Handfast.Ui.Gui

open Handfast.Ipc Handfast.Lib Handfast.Protocol

namespace Panel

variable {p : Panel}

/-- Messages other than a plugin list drop the rows, or keep them and the selection. -/
theorem change_rows {m : Message} (hm : ∀ rows, m ≠ .pluginsLoaded rows) :
    (p.change m).rowCount = 0 ∨
      (p.change m).rowCount = p.rowCount ∧ (p.change m).selectedId = p.selectedId := by
  cases m with
  | pluginsLoaded rows => exact absurd rfl (hm rows)
  | devicesLoaded cards => exact .inl rfl
  | paired result => exact .inr ⟨finishPairing_rowCount, finishPairing_selectedId⟩
  | unpaired result => exact .inr ⟨finishPairing_rowCount, finishPairing_selectedId⟩
  | event event =>
    cases event with
    | deviceLost id =>
      by_cases hlost : p.selectedId = some id
      · exact .inl (if_pos hlost)
      · exact .inr ⟨if_neg hlost, if_neg hlost⟩
    | _ => exact .inr ⟨rfl, rfl⟩
  | deviceSelected index =>
    simp only [change]
    split
    · exact .inr ⟨rfl, rfl⟩
    · exact .inl rfl
  | _ => exact .inr ⟨rfl, rfl⟩

end Panel

/-! ## Commands that bring plugin lists -/

/-- The device whose plugins a command asks for. -/
def BridgeIn.lists : BridgeIn → Option String
  | .listPlugins d => some d
  | .setPlugin d _ _ => some d
  | _ => none

/-- The device whose plugins a message brings. -/
def Delivery.lists : Delivery → Option String
  | .plugins d _ => some d
  | _ => none

def Message.selects : Message → Option Nat
  | deviceSelected index => some index
  | _ => none

def Message.toggles : Message → Option String
  | toggleSavedPlugin key _ => (splitToggleKey key).map Prod.fst
  | _ => none

/-- The message ends the selection of the given device. -/
def Message.unselects (selected : Option String) : Message → Bool
  | devicesLoaded _ => true
  | event (.deviceLost d) => selected = some d
  | _ => false

variable {m : Message} {c : BridgeIn}

/-- Other messages leave the selection alone. -/
theorem Panel.change_selectedId {p : Panel} (hselects : m.selects = none)
    (hunselects : m.unselects p.selectedId = false) :
    (p.change m).selectedId = p.selectedId := by
  cases m with
  | devicesLoaded cards => cases hunselects
  | paired result => exact finishPairing_selectedId
  | unpaired result => exact finishPairing_selectedId
  | event event =>
    cases event with
    | deviceLost id => exact if_neg (of_decide_eq_false hunselects)
    | _ => rfl
  | deviceSelected index => cases hselects
  | _ => rfl

/-- A widget asks for the plugins of the device it selects, of the selected device, or of
    the one toggled in the settings. -/
theorem request_lists {app : HandfastApp} {d : String} (h : app.request m = some c)
    (hlists : c.lists = some d) :
    (m.selects.bind fun index => app.devices[index]?).map DeviceEntry.id = some d ∨
      m.selects = none ∧ (app.selectedDeviceId = some d ∨ m.toggles = some d) := by
  cases HandfastApp.requested_of_request h with
  | select hdevice =>
    obtain rfl := Option.some.inj hlists
    exact .inl (congrArg (Option.map DeviceEntry.id) hdevice)
  | toggle name enabled hselected =>
    obtain rfl := Option.some.inj hlists
    exact .inr ⟨rfl, .inl hselected⟩
  | toggleSaved enabled hkey =>
    obtain rfl := Option.some.inj hlists
    exact .inr ⟨rfl, .inr (congrArg (Option.map Prod.fst) hkey)⟩
  | pair | unpair | sendFile | dismiss | clipboard | refresh => cases hlists

/-- A reply lists plugins only for a request that asked for them. -/
theorem mem_perform_lists {first second : Result Response} {δ : Delivery} {d : String}
    (h : δ ∈ perform first second c) (hlists : δ.lists = some d) :
    c.lists = some d := by
  cases reports_of_mem h with
  | listed | toggled => exact hlists
  | notice | paired | unpaired => cases hlists

/-- A widget changes the selection only by selecting a row that exists. -/
theorem widget_selectedId {p : Panel} (h : m.fromWidget = true) :
    (p.change m).selectedId =
      ((m.selects.bind fun index => p.devices[index]?).map DeviceEntry.id).or p.selectedId := by
  cases m with
  | deviceSelected index =>
    simp only [Panel.change, Message.selects, Option.bind_some]
    cases p.devices[index]? <;> rfl
  | pluginsLoaded rows => cases h
  | devicesLoaded cards => cases h
  | paired result => cases h
  | unpaired result => cases h
  | event event => cases h
  | _ => rfl

theorem delivery_selects (d : Delivery) : d.message.selects = none := by
  cases d with
  | notice message h => cases message <;> first | rfl | cases h
  | _ => rfl

theorem delivery_ne_pluginsLoaded {d : Delivery} (h : d.lists = none) (rows : List PluginRow) :
    d.message ≠ .pluginsLoaded rows := by
  cases d with
  | plugins id payload => cases h
  | notice message hnotice =>
    rintro rfl
    cases hnotice
  | _ => nofun

/-! ## Rows of the selected device -/

namespace Desktop

variable {s t : Desktop} {a : Move} {rest : List Delivery} {id : String} {payload : Value}
  {δ : Delivery} {save : Option String} {message : Message}

/-- There are no rows, or they come from the reply to a command for the selected device;
    without a selection there are none. -/
structure RowsOwned (s : Desktop) : Prop where
  source : s.app.plugins = [] ∨ ∃ d, s.source = some d ∧ s.app.selectedDeviceId = some d
  unselected : s.app.selected = none → s.app.plugins = []

/-- A list that arrives is empty, or one of the device selected then. -/
def Matches (s : Desktop) (a : Move) : Prop :=
  a = .deliver → ∀ d payload rest, s.inbox = .plugins d payload :: rest →
    parsePlugins payload = [] ∨ s.app.selectedDeviceId = some d

theorem rowsOwned_iff_panel : s.RowsOwned ↔ s.app.panel.rowCount = 0 ∨
    ∃ d, s.source = some d ∧ s.app.panel.selectedDeviceId = some d := by
  have hrows : s.app.panel.rowCount = 0 ↔ s.app.plugins = [] := List.length_eq_zero_iff
  rw [hrows]
  constructor
  · exact fun h => h.source
  · refine fun h => ⟨h, fun hnone => h.resolve_right ?_⟩
    rintro ⟨d, -, hd⟩
    rw [Panel.selectedDeviceId] at hd
    simp only [HandfastApp.panel, hnone] at hd
    cases hd

theorem synced_step (h : s.app.panel.Synced) (hstep : Steps s a t) : t.app.panel.Synced := by
  cases hstep with
  | same | reports | performs => exact h
  | readies | presses | delivers => exact HandfastApp.update_synced h _ _

/-- Every message but a plugin list keeps the rows with their device, or empties them. -/
theorem RowsOwned.update (h : s.RowsOwned) (hsynced : s.app.panel.Synced) (save : Option String)
    {m : Message} (hm : ∀ rows, m ≠ .pluginsLoaded rows) (happ : t.app = s.app.update save m)
    (hsource : t.source = s.source) : t.RowsOwned := by
  have hpanel : t.app.panel = (s.app.panel.change m).send (s.app.request m) := by
    rw [happ, HandfastApp.update_panel]
  have hsynced' : t.app.panel.Synced := happ ▸ HandfastApp.update_synced hsynced save m
  rw [rowsOwned_iff_panel] at h ⊢
  rw [hsynced'.selectedDeviceId, hsource, hpanel]
  rw [hsynced.selectedDeviceId] at h
  rcases Panel.change_rows hm with hempty | ⟨hrows, hid⟩
  · exact .inl hempty
  · rcases h with hempty | hdevice
    · exact .inl (hrows.trans hempty)
    · refine .inr ?_
      rw [← hid] at hdevice
      exact hdevice

theorem RowsOwned.step (h : s.RowsOwned) (hsynced : s.app.panel.Synced) (hstep : Steps s a t)
    (ha : a ≠ .deliver) : t.RowsOwned := by
  cases hstep with
  | same => exact h
  | readies =>
    have hm : ∀ rows, Message.bridgeReady { sent := [], receiving := true } ≠
        .pluginsLoaded rows := nofun
    exact h.update hsynced none hm rfl rfl
  | @presses message save hwidget =>
    have hm : ∀ rows, message ≠ .pluginsLoaded rows := by
      rintro rows rfl
      cases hwidget
    exact h.update hsynced save hm rfl rfl
  | delivers => exact absurd rfl ha
  | reports => exact ⟨h.source, h.unselected⟩
  | performs => exact ⟨h.source, h.unselected⟩

/-- A plugin list fits if it is empty or its device is still selected. -/
theorem matches_list (hin : s.inbox = .plugins id payload :: rest) :
    s.Matches .deliver ↔ parsePlugins payload = [] ∨ s.app.selectedDeviceId = some id := by
  constructor
  · exact fun h => h rfl id payload rest hin
  · intro h _ d payload' rest' hin'
    cases (List.cons.inj (hin.symm.trans hin')).1
    exact h

theorem matches_other (hin : s.inbox = δ :: rest) (hlists : δ.lists = none) : s.Matches a := by
  intro _ d payload rest' hin'
  obtain rfl : δ = .plugins d payload := (List.cons.inj (hin.symm.trans hin')).1
  cases hlists

/-- A list is shown whichever device is selected. -/
theorem rowsOwned_list (happ : t.app = s.app.update none (.pluginsLoaded (parsePlugins payload)))
    (hsource : t.source = some id) :
    t.RowsOwned ↔ parsePlugins payload = [] ∨ s.app.selectedDeviceId = some id := by
  have hpanel : t.app.panel =
      (s.app.panel.change (.pluginsLoaded (parsePlugins payload))).send none := by
    rw [happ, HandfastApp.update_panel]
    rfl
  have hrows : t.app.panel.rowCount = 0 ↔ parsePlugins payload = [] := by
    rw [hpanel]
    exact List.length_eq_zero_iff
  have hselected : t.app.panel.selectedDeviceId = s.app.selectedDeviceId := by
    rw [hpanel]
    rfl
  rw [rowsOwned_iff_panel, hrows, hselected, hsource]
  refine or_congr Iff.rfl ⟨?_, fun h => ⟨id, rfl, h⟩⟩
  rintro ⟨d, hd, h⟩
  rw [Option.some.inj hd]
  exact h

/-- A delivery shows a device's rows under that device exactly if they match. -/
theorem deliver_rowsOwned (h : s.RowsOwned) (hsynced : s.app.panel.Synced) (socketPath : String) :
    (s.step socketPath .deliver).RowsOwned ↔ s.Matches .deliver := by
  cases hin : s.inbox with
  | nil =>
    have hsame : s.step socketPath .deliver = s := by simp only [Desktop.step, hin]
    rw [hsame]
    refine iff_of_true h fun _ d payload rest hrest => ?_
    cases hin.symm.trans hrest
  | cons δ rest =>
    have hdone : s.step socketPath .deliver =
        { s with app := s.app.update none δ.message, inbox := rest,
                 source := s.sourceAfter δ } := by
      simp only [Desktop.step, hin]
    have hother (hlists : δ.lists = none) (hsource : s.sourceAfter δ = s.source) :
        (s.step socketPath .deliver).RowsOwned ↔ s.Matches .deliver := by
      rw [hdone]
      exact iff_of_true
        (h.update hsynced none (delivery_ne_pluginsLoaded hlists) rfl hsource)
        (matches_other hin hlists)
    cases δ with
    | plugins id payload =>
      rw [hdone, matches_list hin]
      exact rowsOwned_list rfl rfl
    | notice | paired | unpaired => exact hother rfl rfl

/-- In every state of a run the rows are those of the selected device, or none, just if
    every list is empty or arrives while its device is selected. -/
theorem rowsOwned_iff (socketPath : String) (toggles : PluginToggles) (run : List Move) :
    AllStates (step socketPath) RowsOwned (start toggles) run ↔
      AllSteps (step socketPath) Matches (start toggles) run := by
  refine allStates_iff_allSteps (fun s => s.app.panel.Synced) (.none rfl rfl)
    ⟨.inl rfl, fun _ => rfl⟩ (fun s a hsynced => ?_) (fun s a hsynced howned => ?_)
  · exact synced_step hsynced (step_steps socketPath s a)
  · by_cases ha : a = .deliver
    · rw [ha]
      exact deliver_rowsOwned howned hsynced socketPath
    · exact iff_of_true (howned.step hsynced (step_steps socketPath s a) ha)
        fun hdeliver => absurd hdeliver ha

/-! ## Lists under way -/

/-- The devices whose plugin lists are under way, oldest first. -/
def pending (s : Desktop) : List String :=
  s.inbox.filterMap Delivery.lists ++ s.queue.filterMap BridgeIn.lists

/-- While a list is under way no other device is selected, the device list is not replaced
    and the selected device does not go; and only the selected device is toggled in the
    settings. -/
def Settled (s : Desktop) : Move → Prop
  | .press message _ =>
    (∀ card ∈ message.selects.bind fun index => s.app.devices[index]?,
      s.pending ≠ [] → s.app.selectedDeviceId = some card.id) ∧
    (∀ d ∈ message.toggles, s.app.selectedDeviceId = some d)
  | .deliver =>
    ∀ d ∈ s.inbox.head?, d.message.unselects s.app.selectedDeviceId = true → s.pending = []
  | _ => True

instance (s : Desktop) (a : Move) : Decidable (s.Settled a) :=
  match a with
  | .press message _ =>
    decidable_of_iff
      (((message.selects.bind fun index => s.app.devices[index]?).all fun card =>
          s.pending = [] ∨ s.app.selectedDeviceId = some card.id) = true ∧
        (message.toggles.all fun d => s.app.selectedDeviceId = some d) = true)
      (by simp [Settled, Option.all_eq_true, or_iff_not_imp_left])
  | .deliver =>
    decidable_of_iff
      ((s.inbox.head?.all fun d =>
        d.message.unselects s.app.selectedDeviceId = false ∨ s.pending = []) = true)
      (by simp [Settled, Option.all_eq_true, or_iff_not_imp_left])
  | .ready | .connect _ | .push _ | .perform _ _ | .hangUp => .isTrue trivial

/-- All lists under way are of the selected device. -/
structure Current (s : Desktop) : Prop where
  linked : s.Linked
  synced : s.app.panel.Synced
  lists : ∀ d ∈ s.pending, s.app.selectedId = some d

theorem mem_pending {d : String} : d ∈ s.pending ↔
    (∃ δ ∈ s.inbox, δ.lists = some d) ∨ ∃ c ∈ s.queue, c.lists = some d := by
  rw [pending, List.mem_append, List.mem_filterMap, List.mem_filterMap]

theorem start_current (toggles : PluginToggles) : (start toggles).Current where
  linked := start_linked toggles
  synced := .none rfl rfl
  lists := nofun

theorem Current.selectedDeviceId (h : s.Current) : s.app.selectedDeviceId = s.app.selectedId :=
  h.synced.selectedDeviceId

/-- A list under way after a press was under way before, or is asked for by it. -/
theorem mem_pending_press (h : s.Linked) {d : String} (hwidget : message.fromWidget = true)
    (ht : t = { s with app := s.app.update save message }) (hd : d ∈ t.pending) :
    d ∈ s.pending ∨ ∃ c, s.app.request message = some c ∧ c.lists = some d := by
  obtain ⟨-, hqueue⟩ : t.Linked ∧ (t.queue = s.queue ∨
      ∃ c, s.app.request message = some c ∧ t.queue = s.queue ++ [c]) :=
    h.update (fromWidget_ne_ready hwidget) (by rw [ht]) (by rw [ht])
  have hinbox : t.inbox = s.inbox := by rw [ht]
  rcases hqueue with hqueue | ⟨c, hc, hqueue⟩
  · rw [pending, hinbox, hqueue] at hd
    exact .inl hd
  · rw [mem_pending, hinbox, hqueue] at hd
    rcases hd with hreply | ⟨c', hc', hlists⟩
    · exact .inl (mem_pending.mpr (.inl hreply))
    · rcases List.mem_append.mp hc' with hsent | hnew
      · exact .inl (mem_pending.mpr (.inr ⟨c', hsent, hlists⟩))
      · rw [List.mem_singleton.mp hnew] at hlists
        exact .inr ⟨c, hc, hlists⟩

theorem Current.press (h : s.Current) (hwidget : message.fromWidget = true)
    (ha : s.Settled (.press message save)) (ht : t = { s with app := s.app.update save message }) :
    ∀ d ∈ t.pending, t.app.selectedId = some d := by
  intro d hd
  have hold := mem_pending_press h.linked hwidget ht hd
  have hid : t.app.selectedId = ((message.selects.bind fun index => s.app.devices[index]?).map
      DeviceEntry.id).or s.app.selectedId := by
    have hpanel : t.app.panel.selectedId = (s.app.panel.change message).selectedId := by
      rw [ht, HandfastApp.update_panel]
      rfl
    exact hpanel.trans (widget_selectedId hwidget)
  rw [hid]
  cases hcard : message.selects.bind fun index => s.app.devices[index]? with
  | some card =>
    refine congrArg some ?_
    rcases hold with hold | ⟨c, hc, hlists⟩
    -- an open request was for the device that is selected again
    · have hselected : s.app.selectedDeviceId = some card.id :=
        ha.1 card hcard (List.ne_nil_of_mem hold)
      rw [h.selectedDeviceId, h.lists d hold] at hselected
      exact (Option.some.inj hselected).symm
    · rcases request_lists hc hlists with hselects | ⟨hnone, -⟩
      · rw [hcard] at hselects
        exact Option.some.inj hselects
      · rw [hnone] at hcard
        cases hcard
  | none =>
    rw [Option.map_none, Option.none_or]
    rcases hold with hold | ⟨c, hc, hlists⟩
    · exact h.lists d hold
    · rw [← h.selectedDeviceId]
      rcases request_lists hc hlists with hselects | ⟨-, hselected | htoggles⟩
      · rw [hcard] at hselects
        cases hselects
      · exact hselected
      · exact ha.2 d htoggles

theorem Current.deliver (h : s.Current) (hin : s.inbox = δ :: rest) (ha : s.Settled .deliver)
    (ht : t =
      { s with app := s.app.update none δ.message, inbox := rest, source := s.sourceAfter δ }) :
    ∀ d ∈ t.pending, t.app.selectedId = some d := by
  intro d hd
  have hqueue : t.queue = s.queue := h.linked.deliver (by rw [ht]) (by rw [ht])
  have hold : d ∈ s.pending := by
    have hinbox : t.inbox = rest := by rw [ht]
    rw [mem_pending, hinbox, hqueue] at hd
    rw [mem_pending, hin]
    refine hd.imp_left ?_
    rintro ⟨δ', hmem, hlists⟩
    exact ⟨δ', List.mem_cons_of_mem δ hmem, hlists⟩
  have hstays : δ.message.unselects s.app.panel.selectedId = false := by
    rw [← h.synced.selectedDeviceId, Bool.eq_false_iff]
    intro hunselects
    exact List.ne_nil_of_mem hold (ha δ (by rw [hin]; rfl) hunselects)
  have hid : t.app.panel.selectedId = s.app.panel.selectedId := by
    rw [ht, HandfastApp.update_panel]
    exact Panel.change_selectedId (delivery_selects δ) hstays
  exact hid.trans (h.lists d hold)

/-- A settled step keeps the lists under way those of the selected device. -/
theorem Current.step (h : s.Current) (hstep : Steps s a t) (ha : s.Settled a) : t.Current := by
  refine ⟨h.linked.step hstep, synced_step h.synced hstep, ?_⟩
  cases hstep with
  | same => exact h.lists
  | readies hbridge =>
    intro d hd
    refine h.lists d (mem_pending.mpr ?_)
    rcases mem_pending.mp hd with hreply | ⟨c, hc, -⟩
    · exact .inl hreply
    · rw [queue_ready] at hc
      cases hc
  | presses hwidget => exact h.press hwidget ha rfl
  | delivers hin => exact h.deliver hin ha rfl
  | reports a hnotices =>
    intro d hd
    refine h.lists d (mem_pending.mpr ?_)
    rcases mem_pending.mp hd with ⟨δ, hδ, hlists⟩ | hcommand
    · rcases List.mem_append.mp hδ with hold | hnew
      · exact .inl ⟨δ, hold, hlists⟩
      · obtain ⟨message, hnotice, rfl⟩ := hnotices δ hnew
        cases hlists
    · exact .inr hcommand
  | @performs first second command rest hqueue =>
    intro d hd
    refine h.lists d (mem_pending.mpr ?_)
    rw [hqueue]
    rcases mem_pending.mp hd with ⟨δ, hδ, hlists⟩ | ⟨c, hc, hlists⟩
    · rcases List.mem_append.mp hδ with hold | hnew
      · exact .inl ⟨δ, hold, hlists⟩
      · exact .inr ⟨command, List.mem_cons_self, mem_perform_lists hnew hlists⟩
    · rw [queue_perform hqueue] at hc
      exact .inr ⟨c, List.mem_cons_of_mem command hc, hlists⟩

theorem Current.matches (h : s.Current) (a : Move) : s.Matches a := by
  intro _ d payload rest hin
  refine .inr ?_
  rw [h.selectedDeviceId]
  refine h.lists d (mem_pending.mpr (.inl ⟨.plugins d payload, ?_, rfl⟩))
  rw [hin]
  exact List.mem_cons_self

/-- **Plugin rows.** In every run in which the selection changes only while no plugin list
    is under way and the settings toggle the selected device only, every state shows the
    plugins of the selected device, or none. -/
theorem plugin_rows_of_selected (socketPath : String) (toggles : PluginToggles) (run : List Move)
    (h : AllSteps (step socketPath) Settled (start toggles) run) :
    AllStates (step socketPath) RowsOwned (start toggles) run :=
  (rowsOwned_iff socketPath toggles run).mpr
    (allSteps_of_invariant (start_current toggles)
      (fun s a hcurrent ha => hcurrent.step (step_steps socketPath s a) ha)
      (fun _ a hcurrent _ => hcurrent.matches a) h)

/-- A daemon's answer to a command that brings a list of one plugin. -/
def listAnswer : Move :=
  .perform (.ok (.ok (.array [.object [("name", .string "ping")]])))
    (.ok (.ok (.array [.object [("name", .string "ping")]])))

theorem plugin_rows_of_selected_one :
    AllStates (step "/s") RowsOwned (start .empty)
      (listsTwo ++ [.press (.deviceSelected 0) none, listAnswer, .deliver,
        .press (.deviceSelected 1) none]) := by
  refine plugin_rows_of_selected "/s" .empty _ ?_
  decide

/-- A second device is selected before the plugins of the first arrive: they are shown
    with the second selected.  A device is toggled in the settings with none selected: its
    plugins are shown. -/
theorem rows_of_another_device :
    ¬ AllStates (step "/s") RowsOwned (start .empty)
      (listsTwo ++ [.press (.deviceSelected 0) none, .press (.deviceSelected 1) none,
        listAnswer, .deliver]) ∧
    ¬ AllStates (step "/s") RowsOwned (start .empty)
      (listsTwo ++ [.press (.toggleSavedPlugin "a:ping" true) none, listAnswer, .deliver,
        .deliver]) := by
  constructor
  · intro h
    rcases h.last.source with hrows | ⟨d, hsource, hselected⟩
    · revert hrows
      decide
    · have hboth := hsource.trans hselected.symm
      revert hboth
      decide
  · intro h
    have hrows := h.last.unselected rfl
    revert hrows
    decide

end Desktop
end Handfast.Ui.Gui
