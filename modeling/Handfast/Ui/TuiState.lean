/-
  Handfast.Ui.TuiState

  What holds in every state of the terminal interface
  (`crates/tui/src/state.rs`), whatever keys, events, outcomes and optimistic
  toggles come in which order.

  `Shaped` is what can be read off one state: distinct devices, cursors on their
  lists, and the two panels with what belongs to them.  The rest is about the
  history: the buffers hold the end of everything that was put into them
  (`received`, `logged`), and an open reply is for the notification that was
  under the cursor when the modal was opened (`OpenedFor`).
-/
import Handfast.Lib.Trace
import Handfast.Ui.TuiKeys

namespace Handfast.Ui.Tui

open Handfast.Ipc Handfast.Lib

/-- What the event loop feeds into the state. -/
inductive Move where
  | key (key : KeyEvent)
  | event (event : ServerEvent)
  | outcome (outcome : Outcome)
  | toggle (plugin : String) (enabled : Bool)
  | flash (message : String)

namespace State

def move (s : State) : Move → State
  | .key key => (s.handleKey key).1
  | .event event => s.applyEvent event
  | .outcome outcome => s.applyOutcome outcome
  | .toggle plugin enabled => s.applyOptimisticToggle plugin enabled
  | .flash message => s.setFlash message

/-- Distinct devices, cursors on their lists, panels with what belongs to them. -/
structure Shaped (s : State) : Prop where
  distinct : (s.devices.map DeviceEntry.id).Nodup
  device : Within s.deviceCursor s.devices.length
  plugin : Within s.pluginCursor s.plugins.length
  transfer : Within s.transferCursor s.transfers.entries.length
  notification : Within s.notificationCursor s.notifications.length
  detail : s.detailOpen ↔ s.detailDevice.isSome
  rows : s.plugins ≠ [] → s.detailDevice.isSome
  reply : s.replyOpen ↔ s.replyTarget.isSome

/-! ## What was put in -/

/-- The notifications after a move, if none were dropped. -/
def notices (rows : List NotifRow) : Move → List NotifRow
  | .event (.notificationReceived id app title body) => rows ++ [{ id, app, title, body }]
  -- an authoritative list replaces what came before
  | .outcome (.notifications rows) => rows
  | _ => rows

/-- All notifications of a history, oldest first. -/
def received (moves : List Move) : List NotifRow := run notices [] moves

def logLine : Move → Option String
  | .event (.logRecord level msg) =>
    let level := level ++ "".pushn ' ' (5 - level.length)
    some s!"[{level}] {msg}"
  | _ => none

def logged (moves : List Move) : List String := moves.filterMap logLine

/-- The reply modal was opened with the cursor on this notification, and has
    been open since. -/
def OpenedFor (moves : List Move) (id : String) : Prop :=
  ∃ before key after, moves = before ++ .key key :: after ∧
    (run move new before).replyOpen = false ∧
    (run move new before).selectedNotificationId = some id ∧
    ∀ mid rest, after = mid ++ rest → (run move new (before ++ .key key :: mid)).replyOpen = true

variable {s t : State} {moves : List Move} {action : Option Action} {m : Move}
  {rows : List NotifRow} {lines : List String} {id : String}

/-! ## The shape -/

theorem new_shaped : new.Shaped where
  distinct := List.nodup_nil
  device := .inr ⟨rfl, rfl⟩
  plugin := .inr ⟨rfl, rfl⟩
  transfer := .inr ⟨rfl, rfl⟩
  notification := .inr ⟨rfl, rfl⟩
  detail := by decide
  rows := absurd rfl
  reply := by decide

theorem clampCursors_shaped (dirty : Bool) (hdistinct : (s.devices.map DeviceEntry.id).Nodup)
    (hdetail : s.detailOpen ↔ s.detailDevice.isSome)
    (hrows : s.plugins ≠ [] → s.detailDevice.isSome) (hreply : s.replyOpen ↔ s.replyTarget.isSome) :
    { s.clampCursors with dirty := dirty }.Shaped where
  distinct := hdistinct
  device := clampAt_within _ _
  plugin := clampAt_within _ _
  transfer := clampAt_within _ _
  notification := clampAt_within _ _
  detail := hdetail
  rows := hrows
  reply := hreply

theorem pressed_shaped (h : s.Shaped) (hkey : Pressed s t action) : t.Shaped := by
  cases hkey with
  | browses tab help dirty device plugin transfer notification hdevice hplugin htransfer
      hnotification =>
      exact ⟨h.distinct, hdevice h.device, hplugin h.plugin, htransfer h.transfer,
        hnotification h.notification, h.detail, h.rows, h.reply⟩
  | opensDetail id =>
    exact { h with plugin := .inr ⟨rfl, rfl⟩, detail := by simp, rows := absurd rfl }
  | closesDetail =>
    exact ⟨h.distinct, h.device, .inr ⟨rfl, rfl⟩, h.transfer, h.notification, by
      simp [closeDetail], absurd rfl, h.reply⟩
  | opensReply => exact { h with reply := by simp }
  | edits => exact { h with }
  | closesReply =>
    exact ⟨h.distinct, h.device, h.plugin, h.transfer, h.notification, h.detail, h.rows, by
      simp [cancelReply]⟩

/-- What an event does to devices and panels, before the cursors are clamped. -/
structure Reduced (s : State) (event : ServerEvent) (t : State) : Prop where
  distinct : (s.devices.map DeviceEntry.id).Nodup → (t.devices.map DeviceEntry.id).Nodup
  /-- Only a lost device takes rows away. -/
  ids : (∀ id, event ≠ .deviceLost id) →
    s.devices.map DeviceEntry.id <+: t.devices.map DeviceEntry.id
  cursor : t.deviceCursor = s.deviceCursor
  /-- The detail panel stays as it is or is closed. -/
  detail : (t.detailOpen = s.detailOpen ∧ t.detailDevice = s.detailDevice ∧ t.plugins = s.plugins) ∨
    (t.detailOpen = false ∧ t.detailDevice = none ∧ t.plugins = [])
  replyOpen : t.replyOpen = s.replyOpen
  replyTarget : t.replyTarget = s.replyTarget

/-- Events that leave devices, details and reply alone. -/
theorem reduced_apart {event : ServerEvent} (hdevices : t.devices = s.devices)
    (hcursor : t.deviceCursor = s.deviceCursor)
    (hdetail : t.detailOpen = s.detailOpen ∧ t.detailDevice = s.detailDevice ∧
      t.plugins = s.plugins)
    (hopen : t.replyOpen = s.replyOpen) (htarget : t.replyTarget = s.replyTarget) :
    Reduced s event t where
  distinct h := hdevices ▸ h
  ids _ := ⟨[], by rw [List.append_nil, hdevices]⟩
  cursor := hcursor
  detail := .inl hdetail
  replyOpen := hopen
  replyTarget := htarget

theorem reduce_reduced (s : State) (event : ServerEvent) : Reduced s event (s.reduce event) := by
  cases event with
  | deviceFound id name =>
    exact ⟨Rows.nodup_upsert, fun _ => Rows.map_upsert, rfl, .inl ⟨rfl, rfl, rfl⟩, rfl, rfl⟩
  | deviceLost id =>
    -- the one event that drops a row
    have hnodup : (s.devices.map DeviceEntry.id).Nodup →
        ((s.devices.filter fun device => device.id ≠ id).map DeviceEntry.id).Nodup :=
      fun h => h.sublist (List.filter_sublist.map DeviceEntry.id)
    simp only [reduce]
    split
    · exact ⟨hnodup, fun h => absurd rfl (h id), rfl, .inr ⟨rfl, rfl, rfl⟩, rfl, rfl⟩
    · exact ⟨hnodup, fun h => absurd rfl (h id), rfl, .inl ⟨rfl, rfl, rfl⟩, rfl, rfl⟩
  | deviceStateChanged id state =>
    have hids : (s.reduce (.deviceStateChanged id state)).devices.map DeviceEntry.id =
        s.devices.map DeviceEntry.id := Rows.map_modify fun _ => rfl
    refine ⟨fun h => hids ▸ h, fun _ => ⟨[], ?_⟩, rfl, .inl ⟨rfl, rfl, rfl⟩, rfl, rfl⟩
    rw [List.append_nil, hids]
  | transferProgress id bytesDone bytesTotal =>
    simp only [reduce]
    split <;> exact reduced_apart rfl rfl ⟨rfl, rfl, rfl⟩ rfl rfl
  | transferFinished id =>
    simp only [reduce]
    split <;> exact reduced_apart rfl rfl ⟨rfl, rfl, rfl⟩ rfl rfl
  | notificationReceived id app title body =>
    simp only [reduce, pushNotification]
    exact reduced_apart rfl rfl ⟨rfl, rfl, rfl⟩ rfl rfl
  | logRecord level msg =>
    simp only [reduce, pushLog]
    exact reduced_apart rfl rfl ⟨rfl, rfl, rfl⟩ rfl rfl
  | _ => exact reduced_apart rfl rfl ⟨rfl, rfl, rfl⟩ rfl rfl

theorem applyEvent_shaped (h : s.Shaped) (event : ServerEvent) : (s.applyEvent event).Shaped := by
  obtain ⟨hdistinct, -, -, hdetail, hopen, htarget⟩ := reduce_reduced s event
  have hreply : (s.reduce event).replyOpen ↔ (s.reduce event).replyTarget.isSome := by
    rw [hopen, htarget]
    exact h.reply
  -- the panel is as before, or closed because its device is lost
  rcases hdetail with ⟨hpanel, hdevice, hrows⟩ | ⟨hpanel, hdevice, hrows⟩
  · refine clampCursors_shaped true (hdistinct h.distinct) ?_ ?_ hreply
    · rw [hpanel, hdevice]
      exact h.detail
    · rw [hdevice, hrows]
      exact h.rows
  · refine clampCursors_shaped true (hdistinct h.distinct) ?_ ?_ hreply
    · rw [hpanel, hdevice]
      simp
    · rw [hrows]
      exact absurd rfl

theorem applyOutcome_shaped (h : s.Shaped) {outcome : Outcome}
    (hlist : ∀ entries, outcome = .devices entries → (entries.map DeviceEntry.id).Nodup) :
    (s.applyOutcome outcome).Shaped := by
  cases outcome with
  | flash message => exact clampCursors_shaped true h.distinct h.detail h.rows h.reply
  | devices entries =>
    exact clampCursors_shaped true (hlist entries rfl) h.detail h.rows h.reply
  | notifications rows =>
    simp only [applyOutcome]
    exact clampCursors_shaped true h.distinct h.detail h.rows h.reply
  | plugins device plugins =>
    simp only [applyOutcome]
    split
    · -- rows are taken for the device of the open panel only
      rename_i hdevice
      exact clampCursors_shaped true h.distinct h.detail (fun _ => by simp [hdevice]) h.reply
    · exact clampCursors_shaped true h.distinct h.detail h.rows h.reply

theorem applyOptimisticToggle_shaped (h : s.Shaped) (plugin : String) (enabled : Bool) :
    (s.applyOptimisticToggle plugin enabled).Shaped := by
  unfold applyOptimisticToggle
  split
  · rename_i row hrow
    refine { h with plugin := ?_, rows := ?_ }
    · rw [Rows.length_modify]
      exact h.plugin
    · intro _
      refine h.rows ?_
      rintro hempty
      simp [hempty] at hrow
  · exact h

/-- Every move keeps the shape, if a list of devices is one of distinct ids. -/
theorem move_shaped (h : s.Shaped)
    (hlist : ∀ entries, m = .outcome (.devices entries) → (entries.map DeviceEntry.id).Nodup) :
    (s.move m).Shaped := by
  cases m with
  | key key => exact pressed_shaped h (handleKey_pressed s key)
  | event event => exact applyEvent_shaped h event
  | outcome outcome => exact applyOutcome_shaped h fun entries he => hlist entries (by rw [he])
  | toggle plugin enabled => exact applyOptimisticToggle_shaped h plugin enabled
  | flash message => exact { h with }

/-! ## The buffers -/

theorem capped_length {α : Type} (cap : Nat) (xs : List α) : (capped cap xs).length ≤ cap := by
  rw [capped, List.length_drop]
  omega

/-- Dropping early does not change what is kept in the end. -/
theorem capped_append {α : Type} {cap : Nat} (xs : List α) (x : α) :
    capped cap (capped cap xs ++ [x]) = capped cap (xs ++ [x]) := by
  have hearly : capped cap xs ++ [x] = (xs ++ [x]).drop (xs.length - cap) := by
    rw [List.drop_append_of_le_length (Nat.sub_le _ _), capped]
  unfold capped at hearly ⊢
  rw [hearly, List.drop_drop, List.length_drop, List.length_append, List.length_singleton]
  congr 1
  omega

theorem received_snoc (m : Move) : received (moves ++ [m]) = notices (received moves) m := by
  rw [received, received, run_append]
  rfl

theorem logged_snoc (m : Move) : logged (moves ++ [m]) = logged moves ++ (logLine m).toList := by
  rw [logged, List.filterMap_append]
  cases hline : logLine m <;> simp [hline, logged]

theorem pressed_buffers (h : Pressed s t action) :
    t.notifications = s.notifications ∧ t.logs = s.logs := by
  cases h <;> exact ⟨rfl, rfl⟩

/-- An event adds to the two buffers, which drop what is over their caps. -/
theorem reduce_buffers (hrows : s.notifications = capped notificationCap rows)
    (hlines : s.logs = capped logCap lines) (event : ServerEvent) :
    (s.reduce event).notifications = capped notificationCap (notices rows (.event event)) ∧
      (s.reduce event).logs = capped logCap (lines ++ (logLine (.event event)).toList) := by
  cases event with
  | deviceLost id =>
    simp only [reduce, logLine, Option.toList_none, List.append_nil]
    split <;> exact ⟨hrows, hlines⟩
  | transferProgress id bytesDone bytesTotal =>
    simp only [reduce, logLine, Option.toList_none, List.append_nil]
    split <;> exact ⟨hrows, hlines⟩
  | transferFinished id =>
    simp only [reduce, logLine, Option.toList_none, List.append_nil]
    split <;> exact ⟨hrows, hlines⟩
  | notificationReceived id app title body =>
    simp only [reduce, pushNotification, notices, logLine, hrows, capped_append,
      Option.toList_none, List.append_nil]
    exact ⟨trivial, hlines⟩
  | logRecord level msg =>
    simp only [reduce, pushLog, notices, logLine, hlines, capped_append, Option.toList_some]
    exact ⟨hrows, trivial⟩
  | _ =>
    simp only [reduce, logLine, Option.toList_none, List.append_nil]
    exact ⟨hrows, hlines⟩

/-- The buffers hold the end of what was put into them. -/
theorem move_buffers (hrows : s.notifications = capped notificationCap rows)
    (hlines : s.logs = capped logCap lines) (m : Move) :
    (s.move m).notifications = capped notificationCap (notices rows m) ∧
      (s.move m).logs = capped logCap (lines ++ (logLine m).toList) := by
  cases m with
  | key key =>
    obtain ⟨hnotices, hlogs⟩ := pressed_buffers (handleKey_pressed s key)
    simp only [logLine, Option.toList_none, List.append_nil]
    exact ⟨hnotices.trans hrows, hlogs.trans hlines⟩
  | event event => exact reduce_buffers hrows hlines event
  | outcome outcome =>
    simp only [move, applyOutcome, logLine, Option.toList_none, List.append_nil]
    cases outcome with
    -- the reply replaces what was shown
    | notifications rows =>
      simp only [notices, clampCursors]
      exact ⟨trivial, hlines⟩
    | plugins device plugins =>
      dsimp only
      split <;> exact ⟨hrows, hlines⟩
    | _ => exact ⟨hrows, hlines⟩
  | toggle plugin enabled =>
    simp only [move, applyOptimisticToggle, logLine, Option.toList_none, List.append_nil]
    split <;> exact ⟨hrows, hlines⟩
  | flash message =>
    simp only [logLine, Option.toList_none, List.append_nil]
    exact ⟨hrows, hlines⟩

/-- The buffers hold the latest of what came in. -/
theorem run_buffers (moves : List Move) :
    (run move new moves).notifications = capped notificationCap (received moves) ∧
      (run move new moves).logs = capped logCap (logged moves) := by
  induction moves using List.reverseRecOn with
  | nil => exact ⟨rfl, rfl⟩
  | append_singleton moves m ih =>
    rw [run_append, run_cons, run_nil, received_snoc, logged_snoc]
    exact move_buffers ih.1 ih.2 m

/-! ## The reply modal -/

/-- Outside the keys nothing touches the modal. -/
theorem move_reply (hm : ∀ key, m ≠ .key key) :
    (s.move m).replyOpen = s.replyOpen ∧ (s.move m).replyTarget = s.replyTarget := by
  cases m with
  | key key => exact absurd rfl (hm key)
  | event event => exact ⟨(reduce_reduced s event).replyOpen, (reduce_reduced s event).replyTarget⟩
  | outcome outcome =>
    cases outcome with
    | plugins device plugins =>
      simp only [move, applyOutcome]
      split <;> exact ⟨rfl, rfl⟩
    | _ => exact ⟨rfl, rfl⟩
  | toggle plugin enabled =>
    simp only [move, applyOptimisticToggle]
    split <;> exact ⟨rfl, rfl⟩
  | flash message => exact ⟨rfl, rfl⟩

/-- A reply that stays open was opened for the same notification. -/
theorem OpenedFor.snoc (h : OpenedFor moves id)
    (hopen : (run move new (moves ++ [m])).replyOpen = true) : OpenedFor (moves ++ [m]) id := by
  obtain ⟨before, key, after, rfl, hclosed, hid, hsince⟩ := h
  refine ⟨before, key, after ++ [m], by simp, hclosed, hid, ?_⟩
  intro mid rest hsplit
  -- up to the new move, or a part of what was there
  rcases List.eq_nil_or_concat rest with rfl | ⟨rest', last, rfl⟩
  · rw [List.append_nil] at hsplit
    subst hsplit
    simpa using hopen
  · rw [List.concat_eq_append, ← List.append_assoc] at hsplit
    exact hsince mid rest' (List.append_inj' hsplit rfl).1

/-- A reply is opened for the notification selected then. -/
theorem openedFor_of_key {key : KeyEvent} (hclosed : (run move new moves).replyOpen = false)
    (hid : (run move new moves).selectedNotificationId = some id)
    (hopen : (run move new (moves ++ [.key key])).replyOpen = true) :
    OpenedFor (moves ++ [.key key]) id := by
  refine ⟨moves, key, [], rfl, hclosed, hid, ?_⟩
  intro mid rest hsplit
  obtain ⟨rfl, -⟩ := List.append_eq_nil_iff.mp hsplit.symm
  exact hopen

/-- A key keeps the reply and its target, drops the target, or opens a reply. -/
theorem pressed_reply (h : Pressed s t action) :
    (t.replyOpen = s.replyOpen ∧ t.replyTarget = s.replyTarget) ∨
      t.replyTarget = none ∨
      ∃ id, s.replyOpen = false ∧ s.selectedNotificationId = some id ∧ t.replyOpen = true ∧
        t.replyTarget = some id := by
  cases h with
  | opensReply hclosed hid => exact .inr (.inr ⟨_, hclosed, hid, rfl, rfl⟩)
  | closesReply => exact .inr (.inl rfl)
  | _ => exact .inl ⟨rfl, rfl⟩

/-- A reply goes to the notification it was opened for. -/
theorem run_target (hshaped : ∀ moves', moves' <+: moves → (run move new moves').Shaped)
    (h : (run move new moves).replyTarget = some id) : OpenedFor moves id := by
  induction moves using List.reverseRecOn with
  | nil => cases h
  | append_singleton moves m ih =>
    have hprefix : ∀ moves', moves' <+: moves → (run move new moves').Shaped :=
      fun moves' h => hshaped moves' (h.trans (List.prefix_append _ _))
    have hopen : (run move new (moves ++ [m])).replyOpen = true :=
      (hshaped _ (List.prefix_refl _)).reply.mpr (by rw [h]; rfl)
    -- a target that was there before the move is still the one of the modal
    have hstays : (run move new (moves ++ [m])).replyTarget = (run move new moves).replyTarget →
        OpenedFor (moves ++ [m]) id := by
      intro hsame
      exact (ih hprefix (hsame ▸ h)).snoc hopen
    have hlast : run move new (moves ++ [m]) = (run move new moves).move m := by
      rw [run_append]
      rfl
    by_cases hm : ∃ key, m = .key key
    · obtain ⟨key, rfl⟩ := hm
      -- the modal is left alone, closed or opened
      rcases pressed_reply (handleKey_pressed (run move new moves) key) with
        ⟨-, hsame⟩ | hnone | ⟨id', hclosed, hid, -, htarget⟩
      · exact hstays (hlast ▸ hsame)
      · rw [hlast, move, hnone] at h
        cases h
      · rw [hlast, move, htarget] at h
        cases h
        exact openedFor_of_key hclosed hid hopen
    · exact hstays (hlast ▸ (move_reply fun key hkey => hm ⟨key, hkey⟩).2)

/-- A reply that a key asks for is the trimmed draft, for the target of the modal. -/
theorem pressed_replies (h : Pressed s t action) {text : String}
    (haction : action = some (.replyToNotification id text)) :
    s.replyTarget = some id ∧ text = Daemon.trimmed s.replyDraft ∧ text ≠ "" := by
  cases h with
  | browses _ _ _ _ _ _ _ _ _ _ _ hother => exact absurd haction (hother id text)
  | closesReply hopen hreply => exact hreply id text haction
  | _ => cases haction

/-- **The state of the terminal interface.** After any moves in which lists of
    devices have distinct ids: the state has its shape; the buffers hold the
    newest notifications and log lines, in order and within their caps; and a
    reply a key asks for is trimmed, not empty, and for the notification that was
    under the cursor when the modal was opened. -/
theorem state_of_moves (moves : List Move)
    (hlists : ∀ entries, .outcome (.devices entries) ∈ moves →
      (entries.map DeviceEntry.id).Nodup) :
    (run move new moves).Shaped ∧
    ((run move new moves).notifications = capped notificationCap (received moves) ∧
      (run move new moves).notifications.length ≤ notificationCap) ∧
    ((run move new moves).logs = capped logCap (logged moves) ∧
      (run move new moves).logs.length ≤ logCap) ∧
    ∀ key id text, ((run move new moves).handleKey key).2 = some (.replyToNotification id text) →
      OpenedFor moves id ∧ Daemon.trimmed text = text ∧ text ≠ "" := by
  have hshaped : ∀ moves', moves' <+: moves → (run move new moves').Shaped := by
    intro moves' hpre
    have hsteps : AllSteps move (fun _ m => m ∈ moves) new moves' :=
      allSteps_of_forall_mem fun m hm => hpre.subset hm
    exact (allStates_of_invariant new_shaped (fun s m hs hm =>
      move_shaped hs fun entries he => hlists entries (he ▸ hm)) hsteps).last
  obtain ⟨hnotices, hlogs⟩ := run_buffers moves
  refine ⟨hshaped moves (List.prefix_refl _), ⟨hnotices, ?_⟩, ⟨hlogs, ?_⟩, ?_⟩
  · rw [hnotices]
    exact capped_length _ _
  · rw [hlogs]
    exact capped_length _ _
  · intro key id text haction
    obtain ⟨htarget, rfl, hne⟩ := pressed_replies (handleKey_pressed _ key) haction
    exact ⟨run_target hshaped htarget, Daemon.trimmed_trimmed _, hne⟩

/-- A reply is opened for one notification and sent after another one has come. -/
theorem state_of_moves_reply :
    let moves : List Move := [.outcome (.devices [.fromFound "a" "phone", .fromFound "b" "tablet"]),
      .event (.notificationReceived "n1" "mail" "" ""), .key (.plain .tab), .key (.plain .tab),
      .key (.plain (.char 'r')), .event (.notificationReceived "n2" "mail" "" ""),
      .key (.plain (.char 'y'))]
    (run move new moves).Shaped ∧ OpenedFor moves "n1" ∧
      ((run move new moves).handleKey (.plain .enter)).2 =
        some (.replyToNotification "n1" "y") := by
  intro moves
  have hsent : ((run move new moves).handleKey (.plain .enter)).2 =
      some (.replyToNotification "n1" "y") := by decide
  have hlists : ∀ entries, .outcome (.devices entries) ∈ moves →
      (entries.map DeviceEntry.id).Nodup := by
    intro entries hmem
    simp only [moves, List.mem_cons, Move.outcome.injEq, Outcome.devices.injEq, reduceCtorEq,
      List.not_mem_nil, or_false] at hmem
    subst hmem
    decide
  obtain ⟨hshaped, -, -, hreply⟩ := state_of_moves moves hlists
  exact ⟨hshaped, (hreply _ _ _ hsent).1, hsent⟩

end State
end Handfast.Ui.Tui
