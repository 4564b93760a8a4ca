/-
  Handfast.Ui.TuiCursor

  The device under the cursor of the terminal interface
  (`crates/tui/src/state.rs`).

  The cursor is an index.  Events and outcomes change the list and then clamp
  it, so the cursor stays on its device as long as rows are only updated or
  appended.  Rows lost above the cursor move the list up under it, and a new
  list may have any device in its place; `Follows` says when the cursor is on
  the same device all the same.
-/
import Handfast.Ui.TuiState

namespace Handfast.Ui.Tui.State

open Handfast.Ipc Handfast.Lib

/-- The device under the cursor stays under it. -/
def Follows (s : State) (d : String) : Move → Prop
  | .event (.deviceLost x) =>
    -- nothing is lost above it, or nothing else is left behind it, or what comes up has its id
    let lost := ((s.devices.take s.deviceCursor).filter fun device => device.id = x).length
    let behind := (s.devices.drop (s.deviceCursor + 1)).filter fun device => device.id ≠ x
    lost = 0 ∨ behind = [] ∨
      (behind.map DeviceEntry.id)[min lost behind.length - 1]? = some d
  | .outcome (.devices entries) =>
    -- it is in the same row, or last of a list that ends above the cursor
    (entries.map DeviceEntry.id)[s.deviceCursor]? = some d ∨
      entries.length ≤ s.deviceCursor ∧ (entries.map DeviceEntry.id).getLast? = some d
  | _ => True

variable {s : State} {d x : String}

theorem selectedDeviceId_eq (s : State) :
    s.selectedDeviceId = (s.devices.map DeviceEntry.id)[s.deviceCursor]? := by
  rw [selectedDeviceId, List.getElem?_map]

/-- The list splits at the selected device. -/
theorem split_of_selected (h : s.selectedDeviceId = some d) :
    s.deviceCursor < s.devices.length ∧
      s.devices.map DeviceEntry.id = (s.devices.take s.deviceCursor).map DeviceEntry.id ++
        d :: (s.devices.drop (s.deviceCursor + 1)).map DeviceEntry.id := by
  rw [selectedDeviceId_eq] at h
  obtain ⟨hlt, hget⟩ := List.getElem?_eq_some_iff.mp h
  refine ⟨by simpa using hlt, ?_⟩
  rw [List.map_take, List.map_drop, ← hget, ← List.drop_eq_getElem_cons hlt, List.take_append_drop]

/-! ## The pair keys -/

theorem pairable_eq_some (h : s.pairable = some x) : s.selectedDeviceId = some x := by
  unfold pairable at h
  split at h
  · exact h
  · cases h

theorem handleReplyKey_ne (key : KeyEvent) :
    ¬ ((s.handleReplyKey key).2 = some (.pair x) ∨
      (s.handleReplyKey key).2 = some (.unpair x)) := by
  unfold handleReplyKey submitReply
  split
  · dsimp only
    split
    · split <;> simp
    · simp
  all_goals simp

theorem toggleDetail_ne :
    ¬ (s.toggleDetail.2 = some (.pair x) ∨ s.toggleDetail.2 = some (.unpair x)) := by
  unfold toggleDetail
  split_ifs
  · simp
  · simp
  · split <;> simp

theorem openReply_ne : ¬ (s.openReply.2 = some (.pair x) ∨ s.openReply.2 = some (.unpair x)) := by
  unfold openReply
  dsimp only
  split <;> simp

theorem toggleTarget_ne_pair :
    ¬ (s.toggleTarget = some (.pair x) ∨ s.toggleTarget = some (.unpair x)) := by
  unfold toggleTarget
  split <;> simp

/-- Pair and unpair are asked for the device under the cursor. -/
theorem handleKey_pairs {key : KeyEvent}
    (h : (s.handleKey key).2 = some (.pair x) ∨ (s.handleKey key).2 = some (.unpair x)) :
    s.selectedDeviceId = some x := by
  unfold handleKey at h
  split at h
  · simp at h
  split at h
  · split at h <;> simp at h
  split at h
  · exact absurd h (handleReplyKey_ne key)
  split at h
  case h_13 => exact absurd h toggleDetail_ne
  case h_14 =>
    split at h
    · simp at h
    · split at h <;> simp at h
  case h_15 => exact pairable_eq_some (by simpa using h)
  case h_16 => exact pairable_eq_some (by simpa using h)
  case h_17 => exact absurd h openReply_ne
  case h_18 => exact absurd h toggleTarget_ne_pair
  all_goals simp at h

/-! ## Rows that stay where they are -/

theorem clampAt_of_lt {cursor len : Nat} (h : cursor < len) : clampAt cursor len = cursor := by
  unfold clampAt
  split <;> omega

/-- Rows in front of which nothing changes keep their places. -/
theorem selectedDeviceId_kept {t : State} (h : s.selectedDeviceId = some d)
    (hids : s.devices.map DeviceEntry.id <+: t.devices.map DeviceEntry.id)
    (hcursor : t.deviceCursor = clampAt s.deviceCursor t.devices.length) :
    t.selectedDeviceId = some d := by
  have hlt : s.deviceCursor < s.devices.length := (split_of_selected h).1
  have hlen := hids.length_le
  rw [List.length_map, List.length_map] at hlen
  rw [selectedDeviceId_eq] at h ⊢
  rw [hcursor, clampAt_of_lt (Nat.lt_of_lt_of_le hlt hlen)]
  obtain ⟨rest, hrest⟩ := hids
  rw [← hrest, List.getElem?_append_left (by simpa using hlt), h]

/-! ## Rows that move -/

theorem length_filter_ne (xs : List String) (x : String) :
    (xs.filter fun y => y ≠ x).length + (xs.filter fun y => y = x).length = xs.length := by
  have hsum := List.length_eq_length_filter_add (l := xs) fun y => decide (y = x)
  simp only [ne_eq, decide_not]
  omega

/-- Where the clamped cursor comes to rest when rows are taken out above and behind it. -/
theorem filter_clampAt (above behind : List String) (hd : d ≠ x) :
    ((above ++ d :: behind).filter fun y => y ≠ x)[clampAt above.length
        ((above ++ d :: behind).filter fun y => y ≠ x).length]? =
      (d :: behind.filter fun y => y ≠ x)[min (above.filter fun y => y = x).length
        (behind.filter fun y => y ≠ x).length]? := by
  have hcount := length_filter_ne above x
  have hkept : (above ++ d :: behind).filter (fun y => y ≠ x) =
      above.filter (fun y => y ≠ x) ++ d :: behind.filter fun y => y ≠ x := by
    rw [List.filter_append, List.filter_cons_of_pos (by simpa using hd)]
  have hrest : clampAt above.length
      (above.filter (fun y => y ≠ x) ++ d :: behind.filter fun y => y ≠ x).length =
      (above.filter fun y => y ≠ x).length + min (above.filter fun y => y = x).length
        (behind.filter fun y => y ≠ x).length := by
    rw [List.length_append, List.length_cons, clampAt, if_neg (by omega)]
    omega
  rw [hkept, hrest, List.getElem?_append_right (Nat.le_add_right _ _), Nat.add_sub_cancel_left]

/-- A row at or behind the head: the head itself, or one of the rest. -/
theorem getElem?_cons_min {behind : List String} {lost : Nat} :
    (d :: behind)[min lost behind.length]? = some d ↔
      lost = 0 ∨ behind = [] ∨ behind[min lost behind.length - 1]? = some d := by
  cases behind with
  | nil => simp
  | cons b behind =>
    cases lost with
    | zero => simp
    | succ lost =>
      have hmin : min (lost + 1) (b :: behind).length = min lost behind.length + 1 := by
        rw [List.length_cons]
        omega
      rw [hmin, List.getElem?_cons_succ, Nat.add_sub_cancel]
      simp

theorem deviceLost_ids (s : State) (x : String) :
    (s.applyEvent (.deviceLost x)).devices.map DeviceEntry.id =
      (s.devices.map DeviceEntry.id).filter fun y => y ≠ x := by
  rw [List.filter_map, applyEvent_devices]
  simp only [reduce]
  split <;> rfl

/-- When another device goes, the cursor keeps its own exactly in the cases of `Follows`. -/
theorem deviceLost_follows (hselected : s.selectedDeviceId = some d) (hd : d ≠ x) :
    (s.applyEvent (.deviceLost x)).selectedDeviceId = some d ↔
      s.Follows d (.event (.deviceLost x)) := by
  obtain ⟨hlt, hids⟩ := split_of_selected hselected
  have hdevices := deviceLost_ids s x
  have hcursor : (s.applyEvent (.deviceLost x)).deviceCursor =
      clampAt s.deviceCursor ((s.devices.map DeviceEntry.id).filter fun y => y ≠ x).length := by
    rw [← hdevices, List.length_map, ← (reduce_reduced s (.deviceLost x)).cursor]
    rfl
  have habove : ((s.devices.take s.deviceCursor).map DeviceEntry.id).length = s.deviceCursor := by
    rw [List.length_map, List.length_take]
    omega
  -- the cursor has as many rows above it as its number says
  have hrest := filter_clampAt ((s.devices.take s.deviceCursor).map DeviceEntry.id)
    ((s.devices.drop (s.deviceCursor + 1)).map DeviceEntry.id) hd
  rw [habove, ← hids] at hrest
  rw [selectedDeviceId_eq, hdevices, hcursor, hrest, getElem?_cons_min]
  simp only [Follows, List.filter_map, List.length_map, List.map_eq_nil_iff]
  rfl

/-- Only the loss of a device can move the cursor off its row. -/
theorem follows_of_event {event : ServerEvent} (h : ∀ x, event ≠ .deviceLost x) :
    s.Follows d (.event event) := by
  cases event with
  | deviceLost x => exact absurd rfl (h x)
  | _ => exact trivial

/-- A new list keeps the selection exactly as `Follows` has it. -/
theorem devices_follows (entries : List DeviceEntry) :
    (s.applyOutcome (.devices entries)).selectedDeviceId = some d ↔
      s.Follows d (.outcome (.devices entries)) := by
  have hcursor : (s.applyOutcome (.devices entries)).deviceCursor =
      clampAt s.deviceCursor entries.length := rfl
  have hdevices : (s.applyOutcome (.devices entries)).devices = entries := rfl
  rw [selectedDeviceId_eq, hcursor, hdevices, Follows]
  by_cases hlt : s.deviceCursor < entries.length
  · rw [clampAt_of_lt hlt]
    exact ⟨.inl, fun h => h.resolve_right fun hshort => absurd hlt (Nat.not_lt.mpr hshort.1)⟩
  · -- the clamp moves the cursor to the last row
    have hshort : entries.length ≤ s.deviceCursor := Nat.le_of_not_lt hlt
    have hnone : (entries.map DeviceEntry.id)[s.deviceCursor]? = none :=
      List.getElem?_eq_none (by simpa using hshort)
    have hlast : clampAt s.deviceCursor entries.length = entries.length - 1 := by
      unfold clampAt
      split <;> omega
    rw [hlast, hnone, List.getLast?_eq_getElem?, List.length_map]
    simp [hshort]

/-- **The selection of the terminal interface.** With a device under the cursor,
    and an event or outcome after which it is still listed: the device under the
    cursor is the same one, and the pair and unpair keys act on no other, exactly
    if the rows `Follows` looks at are as it says. -/
theorem selection_follows_iff (s : State) (d : String) (m : Move)
    (hselected : s.selectedDeviceId = some d) (hm : ∀ key, m ≠ .key key)
    (hlisted : d ∈ (s.move m).devices.map DeviceEntry.id) :
    ((s.move m).selectedDeviceId = some d ∧
      ∀ key x, ((s.move m).handleKey key).2 = some (.pair x) ∨
        ((s.move m).handleKey key).2 = some (.unpair x) → x = d) ↔
      s.Follows d m := by
  have hkeys : (s.move m).selectedDeviceId = some d → ∀ key x,
      ((s.move m).handleKey key).2 = some (.pair x) ∨
        ((s.move m).handleKey key).2 = some (.unpair x) → x = d := by
    intro hsame key x hpair
    exact Option.some.inj ((handleKey_pairs hpair).symm.trans hsame)
  rw [and_iff_left_of_imp hkeys]
  cases m with
  | key key => exact absurd rfl (hm key)
  | event event =>
    by_cases hlost : ∃ x, event = .deviceLost x
    · obtain ⟨x, rfl⟩ := hlost
      refine deviceLost_follows hselected ?_
      -- a lost device is not listed any more
      rintro rfl
      rw [move, deviceLost_ids] at hlisted
      simp at hlisted
    · have hother : ∀ x, event ≠ .deviceLost x := fun x hx => hlost ⟨x, hx⟩
      have hrows := reduce_reduced s event
      refine iff_of_true (selectedDeviceId_kept hselected (hrows.ids hother) ?_)
        (follows_of_event hother)
      rw [← hrows.cursor]
      rfl
  | outcome outcome =>
    cases outcome with
    | devices entries => exact devices_follows entries
    | flash message =>
      exact iff_of_true (selectedDeviceId_kept hselected List.prefix_rfl rfl) trivial
    | notifications rows =>
      exact iff_of_true (selectedDeviceId_kept hselected List.prefix_rfl rfl) trivial
    | plugins device plugins =>
      refine iff_of_true (selectedDeviceId_kept hselected ?_ ?_) trivial
      · simp only [move, applyOutcome]
        split <;> exact List.prefix_rfl
      · simp only [move, applyOutcome]
        split <;> rfl
  | toggle plugin enabled =>
    refine iff_of_true ?_ trivial
    simp only [move, applyOptimisticToggle]
    split <;> exact hselected
  | flash message => exact iff_of_true hselected trivial

def onSecond : State :=
  { new with devices := [.fromFound "a" "a", .fromFound "b" "b", .fromFound "c" "c"]
             deviceCursor := 1 }

/-- The device behind it is lost. -/
theorem selection_follows_last :
    (onSecond.move (.event (.deviceLost "c"))).selectedDeviceId = some "b" :=
  ((selection_follows_iff onSecond "b" (.event (.deviceLost "c")) rfl (by simp) (by decide)).mpr
    (.inl rfl)).1

/-- The device above it is lost: the cursor is on the one behind, which the pair
    key then acts on. -/
theorem selection_slips :
    onSecond.selectedDeviceId = some "b" ∧
    "b" ∈ (onSecond.move (.event (.deviceLost "a"))).devices.map DeviceEntry.id ∧
    (onSecond.move (.event (.deviceLost "a"))).selectedDeviceId = some "c" ∧
    ((onSecond.move (.event (.deviceLost "a"))).handleKey (.plain (.char 'p'))).2 =
      some (.pair "c") := by
  decide

end Handfast.Ui.Tui.State
