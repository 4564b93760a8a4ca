/-
  Handfast.Ui.Progress

  The transfers of the two interfaces against the daemon's registry.

  Each interface keeps for a transfer what its events say: the last count and
  total, snapped to the total on completion.  The registry keeps the count 0 it
  started with.  So both are read off the events of the transfer (`tui_entry`,
  `gui_row`), and the shape of these events settles what is shown.
-/
import Handfast.Daemon.Figures
import Handfast.Ui.Gui
import Handfast.Ui.Tui

namespace Handfast.Ui

open Handfast.Core Handfast.Daemon Handfast.Ipc Handfast.Lib Handfast.Protocol

/-! ## One transfer in an interface -/

def eventFor (id : String) (ev : Event) : Option Event :=
  if transferOf ev = some id then some ev else none

theorem filterMap_eventFor (id : String) (events : List Event) :
    events.filterMap (eventFor id) = eventsOf id events := by
  rw [eventsOf, ← List.filterMap_eq_filter]
  congr 1
  funext ev
  by_cases h : transferOf ev = some id <;> simp [eventFor, h, Option.guard]

/-- The terminal interface's entry after an event of its transfer. -/
def readEntry (id : String) (entry : Option Tui.TransferEntry) : Event → Option Tui.TransferEntry
  | .transferAdded _ _ _ fileName total => some (.fromAdded id fileName total)
  | .transferProgress _ bytesDone bytesTotal =>
    match entry with
    | some entry => some (entry.applyProgress bytesDone bytesTotal)
    | none => some (.fromProgress id bytesDone bytesTotal)
  | .transferFinished _ => entry.map Tui.TransferEntry.markFinished
  | _ => entry

/-- The desktop interface's row after an event of its transfer. -/
def readRow (id : String) (row : Option Gui.TransferRow) (ev : Event) : Option Gui.TransferRow :=
  match ev with
  | .transferAdded _ _ _ fileName total => some { id, name := fileName, done := 0, total }
  | .transferProgress _ _ _ =>
    some ((row.getD { id, name := id, done := 0, total := 0 }).update (.ofEvent ev))
  | .transferFinished _ => row.map fun row => row.update (.ofEvent ev)
  | .transferFailed _ _ => none
  | _ => row

variable {id : String} {counts : List (Nat × Nat)} {record : TransferRecord} {events : List Event}

/-- The terminal's entry changes with the events of its transfer only. -/
theorem tui_reads_transfer (s : Tui.State) (ev : Event) :
    (s.applyEvent (.ofEvent ev)).transfers.get id =
      (eventFor id ev).elim (s.transfers.get id) (readEntry id (s.transfers.get id)) := by
  cases ev with
  | transferAdded id' deviceId direction fileName total =>
    by_cases hid : id' = id
    · simp [ServerEvent.ofEvent, Tui.State.reduce, eventFor, transferOf, readEntry, hid]
    · simp [ServerEvent.ofEvent, Tui.State.reduce, eventFor, transferOf, hid, Ne.symm hid]
  | transferProgress id' bytesDone bytesTotal =>
    rw [Tui.State.applyEvent_transfers, ServerEvent.ofEvent, Tui.State.reduce]
    by_cases hid : id' = id
    · subst hid
      cases s.transfers.get id' <;> simp [eventFor, transferOf, readEntry]
    · cases s.transfers.get id' <;> simp [eventFor, transferOf, hid, Ne.symm hid]
  | transferFinished id' =>
    rw [Tui.State.applyEvent_transfers, ServerEvent.ofEvent, Tui.State.reduce]
    by_cases hid : id' = id
    · subst hid
      cases h : s.transfers.get id' <;> simp [eventFor, transferOf, readEntry, h]
    · cases s.transfers.get id' <;> simp [eventFor, transferOf, hid, Ne.symm hid]
  | transferFailed id' reason =>
    by_cases hid : id' = id <;>
      simp [ServerEvent.ofEvent, Tui.State.reduce, eventFor, transferOf, readEntry, hid]
  | deviceLost id' =>
    rw [Tui.State.applyEvent_transfers, ServerEvent.ofEvent, Tui.State.reduce]
    dsimp only
    split <;> rfl
  | _ => simp [ServerEvent.ofEvent, Tui.State.reduce, eventFor, transferOf]

/-- So does the desktop's row. -/
theorem gui_reads_transfer (app : Gui.HandfastApp) (ev : Event) :
    Rows.find Gui.TransferRow.id id (app.handleEvent (.ofEvent ev)).transfers =
      (eventFor id ev).elim (Rows.find Gui.TransferRow.id id app.transfers)
        (readRow id (Rows.find Gui.TransferRow.id id app.transfers)) := by
  cases ev with
  | transferAdded id' deviceId direction fileName total =>
    rw [ServerEvent.ofEvent, Gui.HandfastApp.handleEvent, Gui.HandfastApp.pushLog_transfers,
      Gui.TransferRow.upsert, Rows.find_upsert]
    by_cases hid : id' = id
    · simp [eventFor, transferOf, readRow, hid]
    · simp [eventFor, transferOf, hid, Ne.symm hid]
  -- a row that is missing is added under its id
  | transferProgress id' bytesDone bytesTotal =>
    have hnew : Gui.TransferRow.id ⟨id', id', 0, 0⟩ = id' := rfl
    rw [ServerEvent.ofEvent, Gui.HandfastApp.handleEvent,
      Rows.find_modify fun row => row.update_id _, Rows.find_ensure hnew]
    by_cases hid : id' = id
    · simp [eventFor, transferOf, readRow, ServerEvent.ofEvent, hid]
    · simp [eventFor, transferOf, hid, Ne.symm hid]
  | transferFinished id' =>
    rw [ServerEvent.ofEvent, Gui.HandfastApp.handleEvent, Gui.HandfastApp.pushLog_transfers,
      Rows.find_modify fun row => row.update_id _]
    by_cases hid : id' = id
    · simp [eventFor, transferOf, readRow, ServerEvent.ofEvent, hid]
    · simp [eventFor, transferOf, hid, Ne.symm hid]
  | transferFailed id' reason =>
    rw [ServerEvent.ofEvent, Gui.HandfastApp.handleEvent, Gui.HandfastApp.pushLog_transfers,
      Rows.find_filter]
    by_cases hid : id' = id
    · simp [eventFor, transferOf, readRow, hid]
    · simp [eventFor, transferOf, hid, Ne.symm hid]
  | deviceLost id' =>
    rw [ServerEvent.ofEvent, Gui.HandfastApp.handleEvent, Gui.HandfastApp.deviceLost_transfers]
    rfl
  | _ => rfl

def tuiAfter (tui : Tui.State) (log : List Event) : Tui.State :=
  run (fun s ev => s.applyEvent (.ofEvent ev)) tui log

def guiAfter (gui : Gui.HandfastApp) (log : List Event) : Gui.HandfastApp :=
  run (fun app ev => app.handleEvent (.ofEvent ev)) gui log

theorem tui_entry (id : String) (tui : Tui.State) (log : List Event) :
    (tuiAfter tui log).transfers.get id =
      run (readEntry id) (tui.transfers.get id) (eventsOf id log) := by
  rw [← filterMap_eventFor]
  exact run_filterMap (fun s => s.transfers.get id) (readEntry id) (eventFor id)
    (fun s ev _ => tui_reads_transfer s ev) tui

theorem gui_row (id : String) (gui : Gui.HandfastApp) (log : List Event) :
    Rows.find Gui.TransferRow.id id (guiAfter gui log).transfers =
      run (readRow id) (Rows.find Gui.TransferRow.id id gui.transfers) (eventsOf id log) := by
  rw [← filterMap_eventFor]
  exact run_filterMap (fun app => Rows.find Gui.TransferRow.id id app.transfers) (readRow id)
    (eventFor id) (fun app ev _ => gui_reads_transfer app ev) gui

/-! ## Reading the story of a transfer -/

theorem readEntry_progress (entry : Tui.TransferEntry) (counts : List (Nat × Nat)) :
    run (readEntry id) (some entry) (progressEvents id counts) =
      some { entry with
        done := (counts.getLastD (entry.done, entry.total)).1
        total := (counts.getLastD (entry.done, entry.total)).2 } := by
  induction counts generalizing entry with
  | nil => rfl
  | cons c counts ih =>
    rw [List.getLastD_cons]
    exact ih (entry.applyProgress c.1 c.2)

/-- With positive totals the desktop interface does the same. -/
theorem readRow_progress (row : Gui.TransferRow) (hpos : ∀ c ∈ counts, 0 < c.2) :
    run (readRow id) (some row) (progressEvents id counts) =
      some { row with
        done := (counts.getLastD (row.done, row.total)).1
        total := (counts.getLastD (row.done, row.total)).2 } := by
  induction counts generalizing row with
  | nil => rfl
  | cons c counts ih =>
    have hc : 0 < c.2 := hpos c List.mem_cons_self
    have hrow : row.update (.transferProgress id c.1 c.2) =
        { row with done := c.1, total := c.2 } := by
      simp [Gui.TransferRow.update, hc]
    have hrest := ih { row with done := c.1, total := c.2 }
      fun c' hc' => hpos c' (List.mem_cons_of_mem c hc')
    rw [← hrow] at hrest
    exact hrest.trans (by rw [hrow, List.getLastD_cons])

/-- An opened transfer, with what its record and its counts have to do with it. -/
structure Told (id : String) (record : TransferRecord) (counts : List (Nat × Nat))
    (events : List Event) : Prop where
  shape : ∃ deviceId direction fileName,
    events = .transferAdded id deviceId direction fileName record.total :: progressEvents id counts
  positive : ∀ c ∈ counts, 0 < c.1 ∧ 0 < c.2

/-- What follows an opened transfer's events is no second registration. -/
theorem told_of_opened {h : Hub} (hf : h.Figured)
    (hrecord : h.manager.transfers.get id = some record) {tail : List Event}
    (hopen : Opened id counts events) (hevents : eventsOf id h.log = events ++ tail)
    (htail : ∀ deviceId direction fileName total,
      .transferAdded id deviceId direction fileName total ∉ tail) :
    Told id record counts events := by
  obtain ⟨deviceId, direction, fileName, total, rfl⟩ := hopen.shape
  have hlog {ev : Event} (hid : transferOf ev = some id) : ev ∈ h.log ↔
      ev ∈ .transferAdded id deviceId direction fileName total :: progressEvents id counts ++
        tail := by
    rw [← hevents, eventsOf, List.mem_filter]
    simp [hid]
  constructor
  case shape =>
    obtain ⟨-, deviceId', direction', fileName', hadded⟩ := hf.listed id record hrecord
    -- the registration in the log is the one at the head
    rw [hlog rfl] at hadded
    have hhead : Event.transferAdded id deviceId' direction' fileName' record.total =
        .transferAdded id deviceId direction fileName total := by
      rcases List.mem_append.mp hadded with hin | hin
      · rcases List.mem_cons.mp hin with heq | hin
        · exact heq
        · simp [progressEvents] at hin
      · exact absurd hin (htail _ _ _ _)
    obtain ⟨-, -, -, -, rfl⟩ := Event.transferAdded.inj hhead
    exact ⟨deviceId, direction, fileName, rfl⟩
  case positive =>
    intro c hc
    have hmem : .transferProgress id c.1 c.2 ∈ h.log := by
      refine (hlog rfl).mpr (List.mem_append_left _ (List.mem_cons_of_mem _ ?_))
      exact List.mem_map.mpr ⟨c, hc, rfl⟩
    obtain ⟨hdone, htotal, -⟩ := hf.counted id c.1 c.2 hmem
    exact ⟨hdone, htotal⟩

/-- What both interfaces keep of an opened transfer. -/
theorem Told.reads (h : Told id record counts events) :
    ∃ fileName, ∀ entry row,
      run (readEntry id) entry events = some ⟨id, fileName, (counts.getLastD (0, record.total)).1,
        (counts.getLastD (0, record.total)).2⟩ ∧
      run (readRow id) row events = some ⟨id, fileName, (counts.getLastD (0, record.total)).1,
        (counts.getLastD (0, record.total)).2⟩ := by
  obtain ⟨deviceId, direction, fileName, rfl⟩ := h.shape
  refine ⟨fileName, fun entry row => ⟨?_, ?_⟩⟩
  · exact readEntry_progress (.fromAdded id fileName record.total) counts
  · exact readRow_progress ⟨id, fileName, 0, record.total⟩ fun c hc => (h.positive c hc).2

/-! ## What is shown -/

/-- The terminal interface shows the transfer as running. -/
def TuiRuns (tui : Tui.State) (id : String) : Prop :=
  ∃ entry, tui.transfers.get id = some entry ∧ entry.isFinished = false

/-- The desktop interface shows the transfer as running: its bar is not full. -/
def GuiRuns (gui : Gui.HandfastApp) (id : String) : Prop :=
  ∃ row, Rows.find Gui.TransferRow.id id gui.transfers = some row ∧
    (row.total = 0 ∨ row.done < row.total)

/-- The transfer list has one row for the transfer, with the bytes of its record. -/
def Served (m : Manager) (id : String) (record : TransferRecord) : Prop :=
  ∃ row ∈ m.transferSnapshot, row.get "done" = some (jsonNat record.done) ∧
    row.get "total" = some (jsonNat record.total) ∧
    ∀ row' ∈ m.transferSnapshot, row'.getStr "id" = some id ↔ row' = row

/-- Both interfaces and the record (which the transfer list serves) tell the same,
    and it is so. -/
structure ShownRight (h : Hub) (tui : Tui.State) (gui : Gui.HandfastApp) (id : String)
    (record : TransferRecord) : Prop where
  finished : ∀ entry, tui.transfers.get id = some entry →
    (entry.isFinished = true ↔ record.state = .finished)
  failed : record.state = .failed → ¬ TuiRuns tui id ∧ ¬ GuiRuns gui id
  tuiBytes : ∀ entry, tui.transfers.get id = some entry →
    entry.done = record.done ∧ entry.total = record.total
  guiBytes : ∀ row, Rows.find Gui.TransferRow.id id gui.transfers = some row →
    row.done = record.done ∧ row.total = record.total
  /-- An unknown size shows as 0. -/
  unknown : ∀ r, h.receives.get id = some r → r.task.size = unknownSize → record.total = 0

/-- Only the registration of the transfer was published. -/
def OnlyAdded (id : String) (log : List Event) : Prop :=
  ∃ deviceId direction fileName total,
    eventsOf id log = [.transferAdded id deviceId direction fileName total]

theorem served_of_get {m : Manager}
    (h : m.transfers.get id = some record) : Served m id record := by
  have hrow (x : String × TransferRecord) :
      x ∈ m.transfers.entries.insertionSort (fun a b => a.1 ≤ b.1) ↔
        m.transfers.get x.1 = some x.2 := by
    rw [List.mem_insertionSort, Table.mem_entries_iff]
  refine ⟨_, List.mem_map.mpr ⟨(id, record), (hrow _).mpr h, rfl⟩, rfl, rfl, ?_⟩
  intro row' hmem
  obtain ⟨⟨id', record'⟩, hlisted, rfl⟩ := List.mem_map.mp hmem
  have hget : m.transfers.get id' = some record' := (hrow _).mp hlisted
  constructor
  · intro hid
    obtain rfl : id' = id := Option.some.inj hid
    rw [h] at hget
    cases hget
    rfl
  · intro heq
    rw [heq]
    rfl

section States

variable {h : Hub} {tui : Tui.State} {gui : Gui.HandfastApp} {record : TransferRecord}
  {counts : List (Nat × Nat)} {events tail : List Event}

/-- Both interfaces read the end of the story from the last count before it. -/
theorem Told.shown (htold : Told id record counts events)
    (hevents : eventsOf id h.log = events ++ tail) :
    ∃ fileName,
      (tuiAfter tui h.log).transfers.get id = run (readEntry id) (some ⟨id, fileName,
        (counts.getLastD (0, record.total)).1, (counts.getLastD (0, record.total)).2⟩) tail ∧
      Rows.find Gui.TransferRow.id id (guiAfter gui h.log).transfers =
        run (readRow id) (some ⟨id, fileName, (counts.getLastD (0, record.total)).1,
          (counts.getLastD (0, record.total)).2⟩) tail := by
  obtain ⟨fileName, hreads⟩ := htold.reads
  obtain ⟨hentry, hrow⟩ := hreads (tui.transfers.get id)
    (Rows.find Gui.TransferRow.id id gui.transfers)
  refine ⟨fileName, ?_, ?_⟩
  · rw [tui_entry, hevents, run_append, hentry]
  · rw [gui_row, hevents, run_append, hrow]

/-- While the transfer is active: right until the first progress. -/
theorem shown_active (hf : h.Figured) (hrecord : h.manager.transfers.get id = some record)
    (hstate : record.state = .active) (hopen : Opened id counts (eventsOf id h.log)) :
    (ShownRight h (tuiAfter tui h.log) (guiAfter gui h.log) id record ↔ OnlyAdded id h.log) ∧
      ∃ entry row, (tuiAfter tui h.log).transfers.get id = some entry ∧
        Rows.find Gui.TransferRow.id id (guiAfter gui h.log).transfers = some row ∧
        entry.done = row.done ∧ entry.total = row.total := by
  have htold : Told id record counts (eventsOf id h.log) :=
    told_of_opened hf hrecord hopen (List.append_nil _).symm (by simp)
  obtain ⟨fileName, hentry, hrow⟩ := htold.shown (List.append_nil _).symm
  have hdone : record.done = 0 := (hf.listed id record hrecord).1
  refine ⟨?_, _, _, hentry, hrow, rfl, rfl⟩
  obtain ⟨deviceId, direction, fileName', hevents⟩ := htold.shape
  cases hcounts : counts.getLast? with
  | none =>
    rw [List.getLast?_eq_none_iff] at hcounts
    subst hcounts
    refine iff_of_true ?_ ⟨deviceId, direction, fileName', record.total, hevents⟩
    have hbar : Tui.TransferEntry.isFinished ⟨id, fileName, 0, record.total⟩ = false := by
      simp only [Tui.TransferEntry.isFinished, Bool.and_eq_false_iff, decide_eq_false_iff_not]
      omega
    constructor
    · intro entry he
      rw [hentry] at he
      cases he
      exact iff_of_false (by simp [hbar]) (by simp [hstate])
    · simp [hstate]
    · intro entry he
      rw [hentry] at he
      cases he
      exact ⟨hdone.symm, rfl⟩
    · intro row hr
      rw [hrow] at hr
      cases hr
      exact ⟨hdone.symm, rfl⟩
    · intro r hr hsize
      rw [hf.received id r record hr hrecord, shownSize, if_pos hsize]
  | some c =>
    -- the entry has the last count, which is positive, and the record has 0
    have hmem : c ∈ counts := List.mem_of_getLast? hcounts
    have hlast : counts.getLastD (0, record.total) = c := by
      rw [List.getLastD_eq_getLast?, hcounts]
      rfl
    refine iff_of_false (fun hright => ?_) ?_
    · have hbytes : (counts.getLastD (0, record.total)).1 = record.done :=
        (hright.tuiBytes _ hentry).1
      rw [hlast, hdone] at hbytes
      have hpos := (htold.positive c hmem).1
      omega
    · rintro ⟨deviceId', direction', fileName'', total, honly⟩
      rw [hevents, List.cons.injEq] at honly
      have hnil : counts = [] := by simpa [progressEvents] using honly.2
      rw [hnil] at hmem
      cases hmem

/-- A finished transfer is not shown right: its entry is not finished, or its bytes
    are not those of the record. -/
theorem shown_finished (hf : h.Figured) (hrecord : h.manager.transfers.get id = some record)
    (hstate : record.state = .finished) (hopen : Opened id counts events)
    (hevents : eventsOf id h.log = events ++ [.transferFinished id]) :
    ¬ ShownRight h (tuiAfter tui h.log) (guiAfter gui h.log) id record ∧
      ∃ entry row, (tuiAfter tui h.log).transfers.get id = some entry ∧
        Rows.find Gui.TransferRow.id id (guiAfter gui h.log).transfers = some row ∧
        entry.done = row.done ∧ entry.total = row.total := by
  have htold : Told id record counts events :=
    told_of_opened hf hrecord hopen hevents (by simp)
  obtain ⟨fileName, hentry, hrow⟩ := htold.shown hevents
  constructor
  · intro hright
    have hzero := (hright.tuiBytes _ hentry).1.trans (hf.listed id record hrecord).1
    have hfull := (hright.finished _ hentry).mpr hstate
    simp only [Tui.TransferEntry.isFinished, hzero, Bool.and_eq_true, decide_eq_true_eq] at hfull
    omega
  · refine ⟨_, _, hentry, hrow, ?_⟩
    simp only [Tui.TransferEntry.markFinished, Gui.TransferRow.update, ServerEvent.ofEvent]
    split <;> exact ⟨rfl, rfl⟩

/-- A failed transfer keeps its entry in the terminal interface and has no row in
    the desktop one. -/
theorem shown_failed (hf : h.Figured) (hrecord : h.manager.transfers.get id = some record)
    (hstate : record.state = .failed) {reason : String} (hopen : Opened id counts events)
    (hevents : eventsOf id h.log = events ++ [.transferFailed id reason]) :
    ¬ ShownRight h (tuiAfter tui h.log) (guiAfter gui h.log) id record ∧
      Rows.find Gui.TransferRow.id id (guiAfter gui h.log).transfers = none := by
  have htold : Told id record counts events :=
    told_of_opened hf hrecord hopen hevents (by simp)
  obtain ⟨fileName, hentry, hrow⟩ := htold.shown hevents
  refine ⟨fun hright => ?_, hrow⟩
  -- the entry that stays is not finished, so it is one that runs
  have hrunning := (hright.finished _ hentry).not.mpr (by simp [hstate])
  exact (hright.failed hstate).1 ⟨_, hentry, Bool.not_eq_true _ ▸ hrunning⟩

end States

/-- **Transfers shown.** In every interleaving of the actor with its tasks, with all
    events so far delivered to the interfaces in order: a transfer is shown right
    exactly while it is active and only its `TransferAdded` was published.  What
    does hold throughout: the desktop interface drops a failed transfer, of any other
    both interfaces show the same bytes, and the transfer list serves the record. -/
theorem shownRight_iff_onlyAdded (store : Store) (selfDeviceId : String) (selfIdentity : Identity)
    (saveTarget : SaveTarget) (tempDir : String) (files : LocalFiles)
    (remote : Files String UInt8) (tui : Tui.State) (gui : Gui.HandfastApp)
    (moves : List HubMove) :
    AllStates Hub.step (fun h => ∀ id record, h.manager.transfers.get id = some record →
        (ShownRight h (tuiAfter tui h.log) (guiAfter gui h.log) id record ↔
          record.state = .active ∧ OnlyAdded id h.log) ∧
        (record.state = .failed →
          Rows.find Gui.TransferRow.id id (guiAfter gui h.log).transfers = none) ∧
        (record.state ≠ .failed →
          ∃ entry row, (tuiAfter tui h.log).transfers.get id = some entry ∧
            Rows.find Gui.TransferRow.id id (guiAfter gui h.log).transfers = some row ∧
            entry.done = row.done ∧ entry.total = row.total) ∧
        Served h.manager id record)
      (Hub.start (Manager.new store selfDeviceId selfIdentity saveTarget).loadPersisted tempDir
        files remote) moves := by
  have hstates : AllStates Hub.step (fun h => h.Tracked ∧ h.Figured)
      (Hub.start (Manager.new store selfDeviceId selfIdentity saveTarget).loadPersisted tempDir
        files remote) moves :=
    allStates_of_preserved ⟨Hub.start_tracked .., Hub.start_figured (fun _ => rfl) ..⟩
      fun h a hi => ⟨hi.1.step a, hi.2.step hi.1 a⟩
  refine hstates.mono ?_
  rintro h ⟨ht, hf⟩ id record hrecord
  have hserved : Served h.manager id record := served_of_get hrecord
  have hstory := (ht.stage id).story
  have hview : (h.view id).state = some record.state := by simp [Hub.view, hrecord]
  rw [hview] at hstory
  generalize hevents : (h.view id).events = events at hstory
  have hevents' : eventsOf id h.log = events := hevents
  -- the state says which story the events tell
  cases hstate : record.state with
  | active =>
    rw [hstate] at hstory
    cases hstory with
    | active hopen =>
      rw [← hevents'] at hopen
      obtain ⟨hright, hsame⟩ := shown_active hf hrecord hstate hopen
      exact ⟨hright.trans (by simp), by simp, fun _ => hsame, hserved⟩
  | finished =>
    rw [hstate] at hstory
    cases hstory with
    | finished hopen =>
      obtain ⟨hwrong, hsame⟩ := shown_finished hf hrecord hstate hopen hevents'
      exact ⟨iff_of_false hwrong (by simp), by simp, fun _ => hsame, hserved⟩
  | failed =>
    rw [hstate] at hstory
    cases hstory with
    | failed reason hopen =>
      obtain ⟨hwrong, hgone⟩ := shown_failed hf hrecord hstate hopen hevents'
      exact ⟨iff_of_false hwrong (by simp), fun _ => hgone, by simp, hserved⟩

/-- A connected phone, then some moves, from a fresh daemon. -/
def phoneRun (moves : List HubMove) : Hub :=
  run Hub.step
    (Hub.start (Manager.new .empty "desk" default (.dir "/d")).loadPersisted "/tmp" .empty .empty)
    (.command (.nominal 0) (.connected "phone" (.uniform 0 1)) none [] :: moves)

def receiveSteps (n : Nat) : List HubMove :=
  List.replicate n (.receive "t1" .none .none)

def byteArrived : Hub :=
  phoneRun (.command (.nominal 0) (.sharePayload "phone" (Hub.oneByteHeader "a")
    (.ok (.uniform 1 1))) none [.bytes [1]] :: receiveSteps 3)

/-- A byte of a file of unknown size has arrived. -/
def unsizedArrived : Hub :=
  phoneRun (.command (.nominal 0) (.sharePayload "phone"
    ((Packet.new 0 typeShare (.object [("filename", .string "a")])).withPayload (-1) 1739)
    (.ok (.uniform 1 1))) none [.bytes [1]] :: receiveSteps 3)

def emptyReceived : Hub :=
  phoneRun (.command (.nominal 0) (.packetFrom "phone"
    (Packet.new 0 typeShare (.object [("filename", .string "a")]))) none [] ::
    receiveSteps 2 ++ [.outcome (.nominal 0) "t1" .none])

/-- The data connection of a share could not be dialed. -/
def dialFailed : Hub :=
  phoneRun [.command (.nominal 0) (.sharePayload "phone" (Hub.oneByteHeader "a")
    (.error "refused")) none []]

/-- State and bytes of the first transfer, as the transfer list serves them. -/
def listedFirst (h : Hub) : Option (TransferState × Nat × Nat) :=
  (h.manager.transfers.get "t1").map fun record => (record.state, record.done, record.total)

/-- What the terminal interface shows of it: finished or not, and its bytes. -/
def tuiFirst (h : Hub) : Option (Bool × Nat × Nat) :=
  ((tuiAfter .new h.log).transfers.get "t1").map fun entry =>
    (entry.isFinished, entry.done, entry.total)

/-- Finished while still active; an unknown size in full; an empty file that never
    finishes; a failed transfer that still runs. -/
theorem transfers_shown_wrong :
    (listedFirst byteArrived = some (.active, 0, 1) ∧ tuiFirst byteArrived = some (true, 1, 1)) ∧
    (listedFirst unsizedArrived = some (.active, 0, 0) ∧
      tuiFirst unsizedArrived = some (false, 1, unknownSize)) ∧
    (listedFirst emptyReceived = some (.finished, 0, 0) ∧
      tuiFirst emptyReceived = some (false, 0, 0)) ∧
    (listedFirst dialFailed = some (.failed, 0, 0) ∧
      tuiFirst dialFailed = some (false, 0, 0)) := by
  decide

end Handfast.Ui
