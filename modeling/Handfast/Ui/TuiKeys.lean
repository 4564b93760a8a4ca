/-
  Handfast.Ui.TuiKeys

  Key presses in the terminal interface (`State::handle_key` and its helpers in
  `crates/tui/src/state.rs`, `apply_optimistic_toggle` of
  `crates/tui/src/app.rs`).

  A key changes the state and may ask the event loop for an `Action`.  While the
  reply modal is open it takes every key.  `Pressed` lists what a press can do;
  later modules look at a key press only through it.
-/
import Handfast.Daemon.Backends
import Handfast.Ui.Tui

namespace Handfast.Ui.Tui

open Handfast.Lib

/-! ## Keys and actions -/

/-- `KeyCode` of the terminal library; a key without a binding is `other`. -/
inductive KeyCode where
  | backspace | enter | up | down | home | end | tab | backTab | esc
  | char (ch : Char)
  | other
  deriving DecidableEq, Repr

inductive KeyEventKind where
  | press | repeat | release
  deriving DecidableEq, Repr

structure KeyEvent where
  code : KeyCode
  control : Bool
  kind : KeyEventKind
  deriving DecidableEq, Repr

def KeyEvent.plain (code : KeyCode) : KeyEvent := { code, control := false, kind := .press }

/-- Side-effectful command requested by a key press. -/
inductive Action where
  | quit
  | pair (deviceId : String)
  | unpair (deviceId : String)
  | loadPlugins (deviceId : String)
  | togglePlugin (deviceId plugin : String) (enabled : Bool)
  | replyToNotification (notificationId text : String)
  deriving DecidableEq, Repr

namespace Tab

def all : List Tab := [.devices, .transfers, .notifications, .logs, .help]

/-- Position within `all`. -/
def index (tab : Tab) : Nat := all.idxOf tab

def next (tab : Tab) : Tab := all.getD ((tab.index + 1) % all.length) .devices

def previous (tab : Tab) : Tab := all.getD ((tab.index + all.length - 1) % all.length) .devices

end Tab

namespace State

/-! ## Selection helpers -/

def selectedDeviceId (s : State) : Option String := s.devices[s.deviceCursor]?.map DeviceEntry.id

def selectedNotificationId (s : State) : Option String :=
  s.notifications[s.notificationCursor]?.map NotifRow.id

/-- Index of the focused plugin row, if the detail panel is active. -/
def selectedPluginIndex (s : State) : Option Nat :=
  if s.tab = .devices ∧ s.detailOpen then s.plugins[s.pluginCursor]?.map fun _ => s.pluginCursor
  else none

/-- Number of focusable rows; the detail panel steals the focus from the devices. -/
def focusedLen (s : State) : Nat :=
  match s.tab with
  | .devices => if s.detailOpen then s.plugins.length else s.devices.length
  | .transfers => s.transfers.entries.length
  | .notifications => s.notifications.length
  | .logs | .help => 0

/-- One-step cursor movement without underflow or overflow. -/
def stepCursor (cursor : Nat) (down : Bool) (len : Nat) : Nat :=
  if len = 0 then 0
  else if down then (if cursor < len - 1 then cursor + 1 else len - 1)
  else cursor - 1

def withCursor (s : State) (f : Nat → Nat) : State :=
  match s.tab, s.detailOpen with
  | .devices, true => { s with pluginCursor := f s.pluginCursor, dirty := true }
  | .devices, false => { s with deviceCursor := f s.deviceCursor, dirty := true }
  | .transfers, _ => { s with transferCursor := f s.transferCursor, dirty := true }
  | .notifications, _ => { s with notificationCursor := f s.notificationCursor, dirty := true }
  | .logs, _ | .help, _ => s

def moveCursor (s : State) (down : Bool) : State :=
  if s.focusedLen = 0 then s
  else s.withCursor fun cursor => stepCursor cursor down s.focusedLen

/-- Jump the active cursor to the first or the last row. -/
def jumpCursor (s : State) (last : Bool) : State :=
  if s.focusedLen = 0 then s
  else s.withCursor fun _ => if last then s.focusedLen - 1 else 0

/-! ## The reply modal -/

/-- Drop the modal together with its draft and target. -/
def cancelReply (s : State) : State :=
  { s with replyOpen := false, replyTarget := none, replyDraft := "" }

/-- Open the reply modal for the notification under the cursor. -/
def openReply (s : State) : State × Option Action :=
  let target :=
    if s.tab = .notifications ∧ s.notifications.isEmpty = false then s.selectedNotificationId
    else none
  match target with
  | some id =>
    ({ s with replyOpen := true, replyTarget := some id, replyDraft := "", dirty := true }, none)
  | none => (s, none)

/-- Confirm the draft; the modal closes either way. -/
def submitReply (s : State) : State × Option Action :=
  let target := s.replyTarget
  let text := Daemon.trimmed s.replyDraft
  let s := { s.cancelReply with dirty := true }
  match target with
  | some id => (s, if text = "" then none else some (.replyToNotification id text))
  | none => (s, none)

/-- Route a key press into the reply editor: append-only, with backspace. -/
def handleReplyKey (s : State) (key : KeyEvent) : State × Option Action :=
  match key.code with
  | .enter => s.submitReply
  | .esc => ({ s.cancelReply with dirty := true }, none)
  | .backspace =>
    ({ s with replyDraft := String.ofList s.replyDraft.toList.dropLast, dirty := true }, none)
  | .char ch => ({ s with replyDraft := s.replyDraft.push ch, dirty := true }, none)
  | _ => (s, none)

/-! ## The reducer -/

/-- Open or close the detail panel; opening asks for the plugins of the device. -/
def toggleDetail (s : State) : State × Option Action :=
  if s.tab ≠ .devices then (s, none)
  else if s.detailOpen then ({ s.closeDetail with dirty := true }, none)
  else
    match s.selectedDeviceId with
    | some id =>
      ({ s with detailOpen := true, detailDevice := some id, pluginCursor := 0, plugins := [],
                dirty := true }, some (.loadPlugins id))
    | none => (s, none)

/-- The device the pair and unpair keys act on. -/
def pairable (s : State) : Option String :=
  if s.tab = .devices ∧ s.devices.isEmpty = false then s.selectedDeviceId else none

/-- The switch of the focused plugin row. -/
def toggleTarget (s : State) : Option Action :=
  match s.detailDevice, s.selectedPluginIndex.bind fun index => s.plugins[index]? with
  | some id, some row => some (.togglePlugin id row.name (!row.enabled))
  | _, _ => none

/-- Map a key press to a change of the state and at most one action. -/
def handleKey (s : State) (key : KeyEvent) : State × Option Action :=
  if key.kind ≠ .press then (s, none)
  -- Ctrl+C quits from anywhere
  else if key.control then (s, if key.code = .char 'c' then some .quit else none)
  else if s.replyOpen then s.handleReplyKey key
  else
    match key.code with
    | .char 'q' => (s, some .quit)
    | .char '?' => ({ s with helpOverlay := !s.helpOverlay, dirty := true }, none)
    | .tab => ({ { s with tab := s.tab.next }.clampCursors with dirty := true }, none)
    | .backTab => ({ { s with tab := s.tab.previous }.clampCursors with dirty := true }, none)
    | .down | .char 'j' => (s.moveCursor true, none)
    | .up | .char 'k' => (s.moveCursor false, none)
    | .home | .char 'g' => (s.jumpCursor false, none)
    | .end | .char 'G' => (s.jumpCursor true, none)
    | .enter => s.toggleDetail
    | .esc =>
      if s.helpOverlay then ({ s with helpOverlay := false, dirty := true }, none)
      else if s.detailOpen then ({ s.closeDetail with dirty := true }, none)
      else (s, none)
    | .char 'p' => (s, s.pairable.map .pair)
    | .char 'u' => (s, s.pairable.map .unpair)
    | .char 'r' => s.openReply
    | .char ' ' => (s, s.toggleTarget)
    | _ => (s, none)

def setFlash (s : State) (message : String) : State :=
  { s with flash := some message, dirty := true }

/-- Flip a plugin row locally before the confirmation arrives. -/
def applyOptimisticToggle (s : State) (plugin : String) (enabled : Bool) : State :=
  match Rows.find PluginRow.name plugin s.plugins with
  | some _ =>
    { s with
      plugins := Rows.modify PluginRow.name plugin (fun row => { row with enabled }) s.plugins
      dirty := true }
  | none => s

/-! ## Cursors -/

/-- The cursor is on a row, or at the start of an empty list. -/
def Within (cursor len : Nat) : Prop := cursor < len ∨ len = 0 ∧ cursor = 0

/-- A clamped cursor points into its list, or is 0. -/
theorem clampAt_within (cursor len : Nat) : Within (clampAt cursor len) len := by
  unfold clampAt Within
  split <;> omega

/-- A step of the cursor stays in the list. -/
theorem stepCursor_within {cursor len : Nat} (h : Within cursor len) (down : Bool) :
    Within (stepCursor cursor down len) len := by
  unfold stepCursor Within at *
  cases down <;> simp only [if_true, Bool.false_eq_true, if_false] <;> split_ifs <;> omega

/-! ## What a key press can do -/

/-- The cases of a key press. -/
inductive Pressed (s : State) : State → Option Action → Prop where
  /-- Tab, help and cursors change; the action is not a reply. -/
  | browses {action : Option Action} (tab : Tab) (help dirty : Bool)
      (device plugin transfer notification : Nat)
      (hdevice : Within s.deviceCursor s.devices.length → Within device s.devices.length)
      (hplugin : Within s.pluginCursor s.plugins.length → Within plugin s.plugins.length)
      (htransfer : Within s.transferCursor s.transfers.entries.length →
        Within transfer s.transfers.entries.length)
      (hnotification : Within s.notificationCursor s.notifications.length →
        Within notification s.notifications.length)
      (haction : ∀ id text, action ≠ some (.replyToNotification id text)) :
      Pressed s
        { s with tab, helpOverlay := help, dirty, deviceCursor := device, pluginCursor := plugin,
                 transferCursor := transfer, notificationCursor := notification } action
  | opensDetail (id : String) :
      Pressed s { s with detailOpen := true, detailDevice := some id, pluginCursor := 0,
                         plugins := [], dirty := true } (some (.loadPlugins id))
  | closesDetail : Pressed s { s.closeDetail with dirty := true } none
  | opensReply {id : String} (hclosed : s.replyOpen = false)
      (hid : s.selectedNotificationId = some id) :
      Pressed s { s with replyOpen := true, replyTarget := some id, replyDraft := "",
                         dirty := true } none
  | edits (draft : String) (dirty : Bool) (hopen : s.replyOpen = true) :
      Pressed s { s with replyDraft := draft, dirty } none
  | closesReply {action : Option Action} (hopen : s.replyOpen = true)
      (haction : ∀ id text, action = some (.replyToNotification id text) →
        s.replyTarget = some id ∧ text = Daemon.trimmed s.replyDraft ∧ text ≠ "") :
      Pressed s { s.cancelReply with dirty := true } action

variable {s : State}

/-- A key that changes nothing may ask for anything but a reply. -/
theorem pressed_still {action : Option Action}
    (haction : ∀ id text, action ≠ some (.replyToNotification id text)) : Pressed s s action :=
  .browses s.tab s.helpOverlay s.dirty s.deviceCursor s.pluginCursor s.transferCursor
    s.notificationCursor id id id id haction

theorem withCursor_pressed {f : Nat → Nat}
    (hf : ∀ cursor, Within cursor s.focusedLen → Within (f cursor) s.focusedLen) :
    Pressed s (s.withCursor f) none := by
  unfold withCursor
  unfold focusedLen at hf
  split
  · rename_i htab hopen
    simp only [htab, hopen, if_true] at hf
    exact .browses s.tab s.helpOverlay true s.deviceCursor (f s.pluginCursor) s.transferCursor
      s.notificationCursor id (hf _) id id (by simp)
  · rename_i htab hopen
    simp only [htab, hopen, Bool.false_eq_true, if_false] at hf
    exact .browses s.tab s.helpOverlay true (f s.deviceCursor) s.pluginCursor s.transferCursor
      s.notificationCursor (hf _) id id id (by simp)
  · rename_i htab
    simp only [htab] at hf
    exact .browses s.tab s.helpOverlay true s.deviceCursor s.pluginCursor (f s.transferCursor)
      s.notificationCursor id id (hf _) id (by simp)
  · rename_i htab
    simp only [htab] at hf
    exact .browses s.tab s.helpOverlay true s.deviceCursor s.pluginCursor s.transferCursor
      (f s.notificationCursor) id id id (hf _) (by simp)
  all_goals exact pressed_still (by simp)

theorem moveCursor_pressed (down : Bool) : Pressed s (s.moveCursor down) none := by
  unfold moveCursor
  split
  · exact pressed_still (by simp)
  · exact withCursor_pressed fun cursor h => stepCursor_within h down

theorem jumpCursor_pressed (last : Bool) : Pressed s (s.jumpCursor last) none := by
  unfold jumpCursor
  split
  · exact pressed_still (by simp)
  · rename_i hlen
    refine withCursor_pressed fun cursor _ => .inl ?_
    split <;> omega

theorem clampCursors_pressed (tab : Tab) :
    Pressed s { { s with tab := tab }.clampCursors with dirty := true } none :=
  .browses tab s.helpOverlay true _ _ _ _ (fun _ => clampAt_within _ _)
    (fun _ => clampAt_within _ _) (fun _ => clampAt_within _ _) (fun _ => clampAt_within _ _)
    (by simp)

/-- The keys of the reply editor. -/
theorem handleReplyKey_pressed (hopen : s.replyOpen = true) (key : KeyEvent) :
    Pressed s (s.handleReplyKey key).1 (s.handleReplyKey key).2 := by
  unfold handleReplyKey
  split
  · unfold submitReply
    dsimp only
    split
    · rename_i id hid
      refine .closesReply hopen ?_
      intro id' text haction
      by_cases htext : Daemon.trimmed s.replyDraft = ""
      · simp [htext] at haction
      · simp only [htext, if_false, Option.some.injEq, Action.replyToNotification.injEq] at haction
        obtain ⟨rfl, rfl⟩ := haction
        exact ⟨hid, rfl, htext⟩
    · exact .closesReply hopen (by simp)
  · exact .closesReply hopen (by simp)
  · exact .edits _ true hopen
  · exact .edits _ true hopen
  · exact .edits s.replyDraft s.dirty hopen

/-- The reply editor opens for a selected notification only. -/
theorem openReply_pressed (hclosed : s.replyOpen = false) :
    Pressed s s.openReply.1 s.openReply.2 := by
  unfold openReply
  dsimp only
  split
  · rename_i id htarget
    split at htarget
    · exact .opensReply hclosed htarget
    · cases htarget
  · exact pressed_still (by simp)

theorem toggleDetail_pressed : Pressed s s.toggleDetail.1 s.toggleDetail.2 := by
  unfold toggleDetail
  split
  · exact pressed_still (by simp)
  · split
    · exact .closesDetail
    · split
      · exact .opensDetail _
      · exact pressed_still (by simp)

theorem toggleTarget_ne (id text : String) :
    s.toggleTarget ≠ some (.replyToNotification id text) := by
  unfold toggleTarget
  split <;> simp

/-- **Inversion.** -/
theorem handleKey_pressed (s : State) (key : KeyEvent) :
    Pressed s (s.handleKey key).1 (s.handleKey key).2 := by
  unfold handleKey
  split
  · exact pressed_still (by simp)
  split
  · refine pressed_still ?_
    intro id text
    split <;> simp
  split
  · rename_i hopen
    -- an open reply takes the key
    exact handleReplyKey_pressed hopen key
  rename_i hclosed
  split
  · exact pressed_still (by simp)
  · exact .browses s.tab (!s.helpOverlay) true s.deviceCursor s.pluginCursor s.transferCursor
      s.notificationCursor id id id id (by simp)
  · exact clampCursors_pressed _
  · exact clampCursors_pressed _
  · exact moveCursor_pressed true
  · exact moveCursor_pressed true
  · exact moveCursor_pressed false
  · exact moveCursor_pressed false
  · exact jumpCursor_pressed false
  · exact jumpCursor_pressed false
  · exact jumpCursor_pressed true
  · exact jumpCursor_pressed true
  · exact toggleDetail_pressed
  · split
    · exact .browses s.tab false true s.deviceCursor s.pluginCursor s.transferCursor
        s.notificationCursor id id id id (by simp)
    · split
      · exact .closesDetail
      · exact pressed_still (by simp)
  · exact pressed_still (by simp)
  · exact pressed_still (by simp)
  · exact openReply_pressed (by simpa using hclosed)
  · exact pressed_still toggleTarget_ne
  · exact pressed_still (by simp)

end State
end Handfast.Ui.Tui
