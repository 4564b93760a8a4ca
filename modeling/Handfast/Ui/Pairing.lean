/-
  Handfast.Ui.Pairing

  The pairing badge of the two interfaces against the daemon's pins.

  Both interfaces keep one label for a device and call it paired while that
  label is "paired"; the daemon publishes connectivity and pairing changes with
  the same event.  So the badge is a fold over the notices about the device
  (`Desk.step_shown`).  `Link.Reports` says what one input of the pairing machine
  publishes and does to the pin; it shows which inputs leave the badge wrong
  (`Link.Mislabels`).
-/
import Handfast.Daemon.News
import Handfast.Ui.Gui
import Handfast.Ui.Tui

namespace Handfast.Ui

open Handfast.Core Handfast.Daemon Handfast.Ipc Handfast.Lib Handfast.Protocol

/-! ## How a badge reads the events -/

/-- A badge after a notice.  The interfaces differ in what a device found again
    is shown as: unpaired in one, as before in the other. -/
def readNotice (onFound : Option Bool → Bool) (badge : Option Bool) : Notice → Option Bool
  | .found => some (onFound badge)
  | .lost => none
  | .state label => badge.map fun _ => label = "paired"

/-- In the terminal interface a device that is found becomes a fresh row. -/
def tuiFound (_ : Option Bool) : Bool := false

/-- In the desktop interface a device that is found again keeps its card. -/
def guiFound (badge : Option Bool) : Bool := badge.getD false

variable {d : String}

/-- What an event says about device `d`. -/
def noticeFor (d : String) (ev : Event) : Option Notice :=
  (newsOf ev).bind fun x => if x.1 = d then some x.2 else none

/-- The badge of `d` after an event. -/
def readEvent (onFound : Option Bool → Bool) (d : String) (badge : Option Bool) (ev : Event) :
    Option Bool :=
  (noticeFor d ev).elim badge (readNotice onFound badge)

/-- An event about device `e`. -/
theorem readEvent_eq {onFound : Option Bool → Bool} {badge : Option Bool} {ev : Event} {e : String}
    {n : Notice} (h : newsOf ev = some (e, n)) :
    readEvent onFound d badge ev = if d = e then readNotice onFound badge n else badge := by
  rw [readEvent, noticeFor, h]
  by_cases hd : d = e
  · simp [hd]
  · simp [hd, Ne.symm hd]

theorem tui_reads (s : Tui.State) (ev : Event) :
    shown (s.applyEvent (.ofEvent ev)).devices d = readEvent tuiFound d (shown s.devices d) ev := by
  cases ev with
  | deviceFound id name =>
    rw [readEvent_eq rfl]
    exact shown_upsert
  | deviceStateChanged id label =>
    rw [readEvent_eq rfl]
    exact shown_applyState
  | deviceLost id =>
    rw [readEvent_eq rfl, Tui.State.applyEvent_devices, ServerEvent.ofEvent, Tui.State.reduce]
    dsimp only
    split <;> exact shown_filter
  | transferProgress id bytesDone bytesTotal =>
    simp only [Tui.State.applyEvent_devices, ServerEvent.ofEvent, Tui.State.reduce]
    split <;> rfl
  | transferFinished id =>
    simp only [Tui.State.applyEvent_devices, ServerEvent.ofEvent, Tui.State.reduce]
    split <;> rfl
  | _ => simp [ServerEvent.ofEvent, Tui.State.reduce, readEvent, noticeFor, newsOf]

/-- Lost devices are left out: with two cards of one id only the first would go. -/
theorem gui_reads (app : Gui.HandfastApp) (ev : Event) (hlost : ∀ e, newsOf ev ≠ some (e, .lost)) :
    shown (app.handleEvent (.ofEvent ev)).devices d =
      readEvent guiFound d (shown app.devices d) ev := by
  cases ev with
  | deviceFound id name =>
    have hid : ((Rows.find DeviceEntry.id id app.devices).getD (.fromFound id name)).id = id := by
      cases h : Rows.find DeviceEntry.id id app.devices with
      | none => rfl
      | some card => exact Rows.key_of_find h
    rw [ServerEvent.ofEvent, Gui.HandfastApp.handleEvent, shown_upsert, readEvent_eq rfl]
    dsimp only [readNotice]
    rw [hid]
    by_cases hd : d = id
    · subst hd
      rw [if_pos rfl, if_pos rfl, guiFound, shown]
      cases Rows.find DeviceEntry.id d app.devices <;> rfl
    · rw [if_neg hd, if_neg hd]
  | deviceStateChanged id label =>
    rw [readEvent_eq rfl]
    exact shown_applyState
  | deviceLost id => exact absurd rfl (hlost id)
  | _ => rfl

/-- The notices about `d`, read off the events one by one. -/
theorem about_eq (d : String) (events : List Event) :
    Manager.about d (events.filterMap newsOf) = events.filterMap (noticeFor d) :=
  List.filterMap_filterMap

theorem not_lost_of_mem {events : List Event}
    (hlost : ∀ x ∈ events.filterMap newsOf, x.2 ≠ .lost) {ev : Event} (hev : ev ∈ events)
    (e : String) : newsOf ev ≠ some (e, .lost) := fun h =>
  hlost (e, .lost) (List.mem_filterMap.mpr ⟨ev, hev, h⟩) rfl

end Handfast.Ui

/-! ## The badge of one link -/

namespace Handfast.Daemon.Link

open Handfast.Ui Handfast.Protocol

variable {l l' : Link} {onFound : Option Bool → Bool} {b : Option Bool} {i : Input} {paired : Bool}
  {ns : List Notice}

/-- What a client should show. -/
def badge (l : Link) : Option Bool := if l.known then some l.pinned.isSome else none

/-- The input makes the clients show a paired device as unpaired: it comes online
    or goes offline, or a new request of it is refused. -/
def Mislabels (l : Link) : Input → Prop
  | .attach _ fingerprint => l.pinned = some (hex fingerprint)
  | .close => l.pinned.isSome
  | .answer accept now _ =>
    accept = false ∧ l.pinned.isSome ∧ ∃ deadline ∈ l.parked, now ≤ deadline
  | .announce | .pair _ _ _ _ | .start _ _ | .unpair _ | .expire | .idle => False

theorem badge_isSome : l.badge.isSome = l.known := by
  unfold Link.badge
  cases l.known <;> rfl

theorem persist_badge (paired saved : Bool) :
    (l.persist paired saved).badge = if l.known then some paired else none := by
  unfold Link.persist Link.badge
  cases hk : l.known <;> cases paired <;> simp [hk]

/-- A pin belongs to a known device. -/
def Filed (l : Link) : Prop := l.known = false → l.pinned = none

/-- What an input publishes about the device, and what becomes of the device's
    table entry and pin. -/
inductive Reports (l : Link) (i : Input) : List Notice → Link → Prop
  | silent {l' : Link} (hi : ¬ l.Mislabels i) (hknown : l'.known = l.known)
      (hpinned : l'.pinned = l.pinned) : Reports l i [] l'
  | filed {l' : Link} (hi : ¬ l.Mislabels i) (hnew : l.known = false) (hknown : l'.known = true)
      (hpinned : l'.pinned = l.pinned) : Reports l i [.found] l'
  /-- The label changes and the pin does not. -/
  | relabelled {l' : Link} {label : String} (hi : l.Mislabels i ↔ l.pinned.isSome)
      (hlabel : label ≠ "paired") (hknown : l'.known = l.known) (hpinned : l'.pinned = l.pinned) :
      Reports l i [.state label] l'
  /-- A trust decision is recorded, and perhaps published a second time. -/
  | recorded {l' : Link} {paired : Bool} {more : List Notice} (hi : ¬ l.Mislabels i)
      (hmore : ∀ n ∈ more, n = .state (if paired then "paired" else "unpaired"))
      (hbadge : l'.badge = if l.known then some paired else none) :
      Reports l i (l.persistNotices paired ++ more) l'

/-- A trust decision that is published once. -/
theorem Reports.decided (hi : ¬ l.Mislabels i)
    (hbadge : l'.badge = if l.known then some paired else none) :
    Reports l i (l.persistNotices paired) l' := by
  have hnone : ∀ n ∈ ([] : List Notice), n = .state (if paired then "paired" else "unpaired") := by
    simp
  simpa using Reports.recorded hi hnone hbadge

/-- Behind the gate, a device is unpaired or presents its pin. -/
theorem pinned_eq_iff_isSome {fingerprint : Fingerprint}
    (hgate : Manager.gateRejects l.pinned (hex fingerprint) = false) :
    l.pinned = some (hex fingerprint) ↔ l.pinned.isSome := by
  rw [Manager.gateRejects_eq_false] at hgate
  constructor
  · intro hpin
    rw [hpin]
    rfl
  · intro hsome
    obtain ⟨pin, hpin⟩ := Option.isSome_iff_exists.mp hsome
    rw [hpin, hgate pin hpin]

theorem step_reports (hl : l.Filed) (i : Input) : l.Reports i (l.notices i) (l.step i) := by
  cases i with
  | announce =>
    simp only [notices, Link.step]
    cases hk : l.known with
    | false => exact .filed not_false hk rfl rfl
    | true => exact .silent not_false hk.symm rfl
  | attach conn fingerprint =>
    simp only [notices, Link.step]
    cases hgate : Manager.gateRejects l.pinned (hex fingerprint) with
    | true =>
      refine .silent (fun hpin => ?_) rfl rfl
      -- the pin is another certificate
      rw [Mislabels] at hpin
      simp [Manager.gateRejects, hpin] at hgate
    | false =>
      cases hk : l.known with
      | false => exact .filed (by simp [Mislabels, hl hk]) hk rfl rfl
      | true => exact .relabelled (pinned_eq_iff_isSome hgate) (by decide) hk.symm rfl
  | close => exact .relabelled Iff.rfl (by decide) rfl rfl
  | pair wants auto now saved =>
    simp only [notices, Link.step]
    split
    · cases wants with
      | true =>
        simp only [if_true]
        exact .decided not_false (persist_badge true saved)
      | false => exact .silent not_false rfl rfl
    · cases wants with
      | true =>
        simp only [if_true]
        split
        · exact .silent not_false rfl rfl
        · cases auto with
          | true =>
            simp only [if_true]
            exact .decided not_false (persist_badge true saved)
          | false => exact .silent not_false rfl rfl
      | false =>
        simp only [Bool.false_eq_true, if_false]
        exact .recorded not_false (by simp) (persist_badge false saved)
  | start reply queued =>
    simp only [notices, Link.step]
    split <;> exact .silent not_false rfl rfl
  | unpair saved =>
    simp only [notices, Link.step]
    exact .decided not_false (persist_badge false saved)
  | answer accept now saved =>
    simp only [notices, Link.step]
    cases hparked : l.parked with
    | none => exact .silent (by simp [Mislabels, hparked]) rfl rfl
    | some deadline =>
      by_cases hok : now ≤ deadline
      · cases accept with
        | true =>
          simp only [hok, and_self, if_true]
          exact .recorded (by simp [Mislabels]) (by simp) (persist_badge true saved)
        | false =>
          simp only [hok, if_true, Bool.false_eq_true, if_false, and_false, List.nil_append]
          exact .relabelled (by simp [Mislabels, hparked, hok]) (by decide) rfl rfl
      · simp only [hok, false_and, if_false]
        exact .silent (by simp [Mislabels, hparked, hok]) rfl rfl
  | expire => exact .silent not_false rfl rfl
  | idle => exact .silent not_false rfl rfl

/-- Whatever was shown, a recorded trust decision shows as it is. -/
theorem read_persist {more : List Notice} (hshown : b.isSome = l.known)
    (hmore : ∀ n ∈ more, n = .state (if paired then "paired" else "unpaired")) :
    (l.persistNotices paired ++ more).foldl (readNotice onFound) b =
      if l.known then some paired else none := by
  have hread (known : Bool) :
      more.foldl (readNotice onFound) (if known then some paired else none) =
        if known then some paired else none := by
    -- saying it again changes nothing
    refine List.foldlRecOn (motive := fun badge => badge = if known then some paired else none)
      more _ rfl fun badge hbadge n hn => ?_
    rw [hbadge, hmore n hn]
    cases known <;> cases paired <;> rfl
  rw [List.foldl_append, ← hread l.known]
  congr 1
  unfold persistNotices
  cases hk : l.known with
  | false =>
    rw [hk, Option.isSome_eq_false_iff, Option.isNone_iff_eq_none] at hshown
    simp [hshown]
  | true =>
    rw [hk, Option.isSome_iff_exists] at hshown
    obtain ⟨paired', rfl⟩ := hshown
    cases paired <;> simp [readNotice]

/-- A client lists exactly the devices of the table. -/
theorem Reports.isSome (h : l.Reports i ns l')
    (hshown : b.isSome = l.known) : (ns.foldl (readNotice onFound) b).isSome = l'.known := by
  cases h with
  | silent _ hknown => exact hshown.trans hknown.symm
  | filed _ _ hknown => exact hknown.symm
  | relabelled _ _ hknown =>
    rw [hknown, ← hshown]
    exact Option.isSome_map
  | recorded _ hmore hbadge =>
    rw [read_persist hshown hmore, ← hbadge, badge_isSome]

/-- **What breaks a badge.** A badge that is right stays right unless the input
    mislabels the device. -/
theorem Reports.badge_iff (h : l.Reports i ns l') (hfound : onFound none = false) (hl : l.Filed) :
    ns.foldl (readNotice onFound) l.badge = l'.badge ↔ ¬ l.Mislabels i := by
  cases h with
  | silent hi hknown hpinned => exact iff_of_true (by simp [Link.badge, hknown, hpinned]) hi
  | filed hi hnew hknown hpinned =>
    refine iff_of_true ?_ hi
    simp [readNotice, Link.badge, hnew, hknown, hpinned, hfound, hl hnew]
  | relabelled hi hlabel hknown hpinned =>
    rw [hi]
    unfold Link.badge
    rw [hknown, hpinned]
    cases hk : l.known with
    | false => simp [readNotice, hl hk]
    | true => cases l.pinned <;> simp [readNotice, hlabel]
  | recorded hi hmore hbadge =>
    exact iff_of_true ((read_persist badge_isSome hmore).trans hbadge.symm) hi

end Handfast.Daemon.Link

/-! ## A listing shows the pins -/

namespace Handfast.Ui

open Handfast.Core Handfast.Daemon Handfast.Ipc Handfast.Lib Handfast.Protocol

variable {d : String}

/-- The row an interface reads off a listed device. -/
def listedEntry (id : String) (state : DeviceState) : DeviceEntry where
  id := id
  name := state.identity.name
  kind := state.identity.deviceType
  paired := state.pinnedFingerprint.isSome
  state := "found"

theorem parseDevices_snapshot (m : Manager) :
    parseDevices (.array m.snapshot) =
      (m.devices.entries.insertionSort fun a b =>
        a.2.identity.name ≤ b.2.identity.name).map fun x => listedEntry x.1 x.2 := by
  simp only [parseDevices, listItems, Value.asArray, Manager.snapshot, List.filterMap_map]
  exact congrFun List.filterMap_eq_map _

theorem mem_snapshot_iff (m : Manager) :
    d ∈ (parseDevices (.array m.snapshot)).map DeviceEntry.id ↔
      (m.devices.get d).isSome = true := by
  have hids : (parseDevices (.array m.snapshot)).map DeviceEntry.id =
      (m.devices.entries.insertionSort fun a b =>
        a.2.identity.name ≤ b.2.identity.name).map Prod.fst := by
    rw [parseDevices_snapshot, List.map_map]
    rfl
  rw [hids, ((List.perm_insertionSort _ m.devices.entries).map Prod.fst).mem_iff, List.mem_map,
    Option.isSome_iff_exists]
  constructor
  · rintro ⟨⟨id, state⟩, hentry, rfl⟩
    exact ⟨state, Table.mem_entries_iff.mp hentry⟩
  · rintro ⟨state, hget⟩
    exact ⟨(d, state), Table.mem_entries_iff.mpr hget, rfl⟩

/-- The loaded list shows the badge each link has. -/
theorem shown_snapshot (m : Manager) :
    shown (parseDevices (.array m.snapshot)) d = (m.link d).badge := by
  rw [parseDevices_snapshot]
  generalize hrows : m.devices.entries.insertionSort
    (fun a b => a.2.identity.name ≤ b.2.identity.name) = rows
  -- the list is sorted by name; that loses and repeats nothing
  have hperm : rows.Perm m.devices.entries := hrows ▸ List.perm_insertionSort _ _
  have hids : (rows.map fun x => listedEntry x.1 x.2).map DeviceEntry.id = rows.map Prod.fst := by
    rw [List.map_map]
    rfl
  cases hd : m.devices.get d with
  | none =>
    have hfree : d ∉ rows.map Prod.fst := by
      rintro hmem
      obtain ⟨⟨e, state⟩, hrow, rfl⟩ := List.mem_map.mp hmem
      have hget := Table.mem_entries_iff.mp (hperm.mem_iff.mp hrow)
      rw [hd] at hget
      cases hget
    rw [shown, Rows.find_eq_none (by rwa [hids])]
    simp [Link.badge, Manager.link, Link.of, hd]
  | some state =>
    have hrow : (d, state) ∈ rows := hperm.mem_iff.mpr (Table.mem_entries_iff.mpr hd)
    have hnodup : (rows.map Prod.fst).Nodup :=
      (hperm.map Prod.fst).nodup_iff.mpr m.devices.nodup_keys_entries
    have hmem : listedEntry d state ∈ rows.map fun x => listedEntry x.1 x.2 :=
      List.mem_map.mpr ⟨(d, state), hrow, rfl⟩
    have hfind : Rows.find DeviceEntry.id d (rows.map fun x => listedEntry x.1 x.2) =
        some (listedEntry d state) := Rows.find_of_mem (by rwa [hids]) hmem
    rw [shown, hfind]
    simp [Link.badge, Manager.link, Link.of, hd, listedEntry]

/-! ## The daemon with its clients -/

/-- The actor, and the two interfaces its events go to. -/
structure Desk where
  manager : Manager
  tui : Tui.State
  gui : Gui.HandfastApp

namespace Desk

/-- The interfaces have just loaded the device list. -/
def load (m : Manager) (tui : Tui.State) (gui : Gui.HandfastApp) : Desk where
  manager := m
  tui := tui.applyOutcome (.devices (parseDevices (.array m.snapshot)))
  gui := gui.devicesLoaded (parseDevices (.array m.snapshot))

/-- The actor handles a command, and the interfaces take what it published. -/
def step (desk : Desk) (a : Env × Command) : Desk :=
  let (manager, effects) := desk.manager.handle a.1 a.2
  { manager
    tui := (published effects).foldl (fun s ev => s.applyEvent (.ofEvent ev)) desk.tui
    gui := (published effects).foldl (fun app ev => app.handleEvent (.ofEvent ev)) desk.gui }

/-- Both interfaces show whether the device is paired. -/
def Agrees (d : String) (desk : Desk) : Prop :=
  ∀ state, desk.manager.devices.get d = some state →
    shown desk.tui.devices d = some state.pinnedFingerprint.isSome ∧
      shown desk.gui.devices d = some state.pinnedFingerprint.isSome

/-- The command makes the interfaces show the paired device `d` as unpaired: it
    comes online, goes offline, or a further request of it is refused. -/
def Mislabels (d : String) (m : Manager) (env : Env) : Command → Prop
  | .connected e transport =>
    e = d ∧ (m.link d).pinned = some (hex transport.peerFingerprint)
  | .connClosed e => e = d ∧ (m.link d).pinned.isSome
  | .pairingAnswer e accept _ =>
    e = d ∧ accept = false ∧ (m.link d).pinned.isSome ∧
      ∃ deadline ∈ m.incomingPairs.get d, env.now ≤ deadline
  | _ => False

theorem mislabels_iff {m : Manager} {env : Env} {c : Command} :
    (m.link d).Mislabels (m.linkInput env d c) ↔ Mislabels d m env c := by
  by_cases hc : c.device = some d
  · rw [Manager.linkInput, if_pos hc]
    cases c with
    | connected e transport =>
      cases hc
      exact ⟨fun h => ⟨rfl, h⟩, fun h => h.2⟩
    | connClosed e =>
      cases hc
      exact ⟨fun h => ⟨rfl, h⟩, fun h => h.2⟩
    | pairingAnswer e accept reply =>
      cases hc
      exact ⟨fun h => ⟨rfl, h⟩, fun h => h.2⟩
    -- no packet is among the inputs that mislabel
    | packetFrom e packet =>
      simp only [Command.linkInput, Mislabels]
      split
      · split <;> rfl
      · rfl
    | _ => rfl
  · rw [Manager.linkInput, if_neg hc]
    refine iff_of_false id fun h => ?_
    cases c with
    | connected e transport | connClosed e | pairingAnswer e accept reply =>
      exact hc (congrArg some h.1)
    | _ => exact h

/-- Both interfaces list exactly the devices of the table. -/
def Lists (d : String) (desk : Desk) : Prop :=
  (shown desk.tui.devices d).isSome = (desk.manager.link d).known ∧
    (shown desk.gui.devices d).isSome = (desk.manager.link d).known

variable {desk : Desk}

theorem link_filed (m : Manager) : (m.link d).Filed := by
  intro hk
  rw [Manager.link_known_eq, Option.isSome_eq_false_iff, Option.isNone_iff_eq_none] at hk
  simp [Manager.link, Link.of, hk]

/-- For a listed device, to agree is to show the badge of its link. -/
theorem agrees_iff (h : desk.Lists d) :
    desk.Agrees d ↔ shown desk.tui.devices d = (desk.manager.link d).badge ∧
      shown desk.gui.devices d = (desk.manager.link d).badge := by
  obtain ⟨htui, hgui⟩ := h
  rw [Manager.link_known_eq] at htui hgui
  unfold Agrees
  cases hd : desk.manager.devices.get d with
  | none =>
    rw [hd] at htui hgui
    have hbadge : (desk.manager.link d).badge = none := by
      simp [Link.badge, Manager.link_known_eq, hd]
    refine iff_of_true (by simp) ⟨?_, ?_⟩
    · rw [hbadge, ← Option.isNone_iff_eq_none, ← Option.isSome_eq_false_iff, htui]
      rfl
    · rw [hbadge, ← Option.isNone_iff_eq_none, ← Option.isSome_eq_false_iff, hgui]
      rfl
  | some state =>
    have hbadge : (desk.manager.link d).badge = some state.pinnedFingerprint.isSome := by
      simp [Link.badge, Manager.link, Link.of, hd]
    simp [hbadge]

theorem step_shown (d : String) (desk : Desk) (a : Env × Command) :
    let notices := (desk.manager.link d).notices (desk.manager.linkInput a.1 d a.2)
    shown (desk.step a).tui.devices d =
        notices.foldl (readNotice tuiFound) (shown desk.tui.devices d) ∧
      shown (desk.step a).gui.devices d =
        notices.foldl (readNotice guiFound) (shown desk.gui.devices d) := by
  have hlost := desk.manager.lost_not_published a.1 a.2
  rw [← Manager.about_handle, news, about_eq]
  constructor
  · exact run_filterMap (fun s => shown s.devices d) (readNotice tuiFound) (noticeFor d)
      (fun s ev _ => tui_reads s ev) desk.tui
  · exact run_filterMap (fun app => shown app.devices d) (readNotice guiFound) (noticeFor d)
      (fun app ev hev => gui_reads app ev (not_lost_of_mem hlost hev)) desk.gui

theorem step_link (a : Env × Command) :
    (desk.step a).manager.link d =
      (desk.manager.link d).step (desk.manager.linkInput a.1 d a.2) :=
  desk.manager.handle_link a.1 d a.2

theorem step_reports (d : String) (desk : Desk) (a : Env × Command) :
    let l := desk.manager.link d
    let i := desk.manager.linkInput a.1 d a.2
    l.Reports i (l.notices i) ((desk.step a).manager.link d) := by
  rw [step_link]
  exact Link.step_reports (link_filed _) _

theorem Lists.step (h : desk.Lists d) (a : Env × Command) : (desk.step a).Lists d := by
  obtain ⟨htui, hgui⟩ := step_shown d desk a
  constructor
  · rw [htui]
    exact (step_reports d desk a).isSome h.1
  · rw [hgui]
    exact (step_reports d desk a).isSome h.2

/-- An agreeing desk agrees after a command unless the command mislabels. -/
theorem Lists.agrees_step (h : desk.Lists d) (hagrees : desk.Agrees d) (a : Env × Command) :
    (desk.step a).Agrees d ↔ ¬ Mislabels d desk.manager a.1 a.2 := by
  obtain ⟨htui, hgui⟩ := step_shown d desk a
  obtain ⟨htui', hgui'⟩ := (agrees_iff h).mp hagrees
  have hreports := step_reports d desk a
  rw [agrees_iff (h.step a), htui, hgui, htui', hgui', ← mislabels_iff,
    hreports.badge_iff rfl (link_filed _), hreports.badge_iff rfl (link_filed _), and_self]

theorem load_lists (m : Manager) (tui : Tui.State) (gui : Gui.HandfastApp) :
    (load m tui gui).Lists d := by
  have hbadge : (shown (parseDevices (.array m.snapshot)) d).isSome = (m.link d).known := by
    rw [shown_snapshot, Link.badge_isSome]
  exact ⟨hbadge, hbadge⟩

/-- **The pairing badge.** From a device listing taken at any moment on, both
    interfaces show a device's pairing state after every command, as long as no
    command mislabels the device; the first that does leaves a paired device
    shown as unpaired. -/
theorem agrees_iff_unmislabelled (m : Manager) (tui : Tui.State) (gui : Gui.HandfastApp)
    (d : String) (as : List (Env × Command)) :
    AllStates step (Agrees d) (load m tui gui) as ↔
      AllSteps step (fun desk a => ¬ Mislabels d desk.manager a.1 a.2) (load m tui gui) as := by
  have hlists : (load m tui gui).Lists d := load_lists m tui gui
  refine allStates_iff_allSteps (Lists d) hlists ?_ (fun desk a h => h.step a)
    fun desk a h hagrees => h.agrees_step hagrees a
  exact (agrees_iff hlists).mpr ⟨shown_snapshot m, shown_snapshot m⟩

/-- The phone connects, we pair with it, and its connection closes. -/
def pairThenLeave : List (Env × Command) :=
  [(.nominal 0, .connected "phone" (Transport.uniform 0 7)),
   (.nominal 1, .startPairing "phone" 0),
   (.nominal 2, .packetFrom "phone" (pairPacket (.nominal 2) true)),
   (.nominal 3, .connClosed "phone")]

/-- The phone is still paired, and both interfaces show it as unpaired. -/
theorem offline_phone_shown_unpaired :
    let m := (Manager.new .empty "desk" default (.dir "/d")).loadPersisted
    let desk := run step (load m .new (.new .empty)) pairThenLeave
    (desk.manager.devices.get "phone").map (fun s => s.pinnedFingerprint.isSome) = some true ∧
      shown desk.tui.devices "phone" = some false ∧
      shown desk.gui.devices "phone" = some false := by
  decide

end Desk
end Handfast.Ui
