/-
  Handfast.Daemon.Figures

  The byte counts of a transfer: those of its record, of its `TransferAdded`
  and of its progress events.  The record keeps the count 0 it was registered
  with and the total of its `TransferAdded`; a progress event has a positive
  count and the size of the task, positive too, which is the total unless the
  size is unknown (`Hub.Figured`).
-/
import Handfast.Daemon.Lifecycle

namespace Handfast.Daemon

open Handfast.Lib Handfast.Protocol Handfast.Core

/-! ## What the tasks publish -/

/-- A read that succeeds brings at least one byte. -/
theorem Wire.readBytes_ne_nil {w w' : Wire} {want : Nat} {chunk : Bytes} (hwant : want ≠ 0)
    (h : w.readBytes want = (.ok chunk, w')) : chunk ≠ [] := by
  induction w generalizing want chunk w' with
  | nil =>
    obtain ⟨n, rfl⟩ := Nat.exists_eq_succ_of_ne_zero hwant
    simp [readBytes] at h
  | cons item w ih =>
    obtain ⟨n, rfl⟩ := Nat.exists_eq_succ_of_ne_zero hwant
    cases item with
    | bytes data =>
      simp only [readBytes] at h
      split at h
      · rename_i hle
        cases h
        intro hnil
        have hlen := congrArg List.length hnil
        simp only [List.length_take, List.length_nil] at hlen
        omega
      · -- the rest comes from further on, and it is not empty either
        rename_i hlt
        generalize hrest : readBytes w (n + 1 - data.length) = out at h
        obtain ⟨more, w''⟩ := out
        cases more with
        | error e => simp [Except.map] at h
        | ok rest =>
          obtain ⟨rfl, -⟩ : data ++ rest = chunk ∧ w'' = w' := by
            simpa [Except.map] using h
          have hne : rest ≠ [] := ih (by omega) hrest
          simp [hne]
    | closed | cut | failed msg => simp [readBytes] at h

namespace ReceiveRun

/-- What goes to the engine next is not empty, and belongs to a file that is not. -/
def Fed (r : ReceiveRun) : Prop :=
  ∀ done chunk, r.phase = .write done chunk → chunk ≠ [] ∧ 0 < r.task.size

theorem readNext_fed (r : ReceiveRun) (done : Nat) : (r.readNext done).Fed := by
  intro done' chunk hphase
  rw [readNext_task]
  unfold readNext at hphase
  split at hphase
  · rename_i hsize
    have hpos : 0 < r.task.size := by rw [hsize]; decide
    split at hphase
    · cases hphase
    · cases hphase
    · -- the empty read is the end of the stream
      rename_i chunk' wire hne hread
      cases hphase
      exact ⟨hne, hpos⟩
  · simp only [] at hphase
    split at hphase
    · cases hphase
    · rename_i hwant
      split at hphase
      · cases hphase
      · rename_i hread
        cases hphase
        exact ⟨Wire.readBytes_ne_nil hwant hread, by omega⟩

variable {r r' : ReceiveRun} {out : List Event}

/-- A chunk that goes to the engine is never empty. -/
theorem Goes.fed (h : Goes r r' out) : r'.Fed := by
  intro done chunk hphase
  cases h with
  | reads hp => exact r.readNext_fed _ done chunk hphase
  | @writes done' chunk' hp =>
    rcases r.afterWrite_phase (done' + chunk'.length) with he | he <;> rw [he] at hphase <;>
      cases hphase
  | rests hp => rw [hp] at hphase; cases hphase
  | _ => cases hphase

/-- A receive reports positive counts, with the size of its task. -/
theorem Goes.counts (h : Goes r r' out) (hfed : r.Fed) {id : String} {done total : Nat}
    (hmem : .transferProgress id done total ∈ out) :
    id = r.id ∧ 0 < done ∧ 0 < r.task.size ∧ total = r.task.size := by
  cases h with
  | writes hp =>
    obtain ⟨rfl, rfl, rfl⟩ : id = r.id ∧ done = _ ∧ total = r.task.size := by
      simpa using hmem
    obtain ⟨hne, hsize⟩ := hfed _ _ hp
    have hpos := List.length_pos_iff.mpr hne
    exact ⟨rfl, by omega, hsize, rfl⟩
  | stores => simp [shareReceived] at hmem
  | _ => cases hmem

end ReceiveRun

namespace SendRun

/-- A send reports positive counts, with the size of its task. -/
theorem step_counts {r : SendRun} {cancelled : Bool} {tick : SendTick} {id : String}
    {done total : Nat}
    (hmem : .publish (.transferProgress id done total) ∈ (r.step cancelled tick).2) :
    id = r.id ∧ 0 < done ∧ total = r.task.size := by
  have hclose (r' : SendRun) (result : Result Unit) :
      .publish (.transferProgress id done total) ∉ (r'.close result).2 := by
    simp only [close, Manager.cleanupEffects]
    cases r'.task.cleanup <;> simp
  unfold step at hmem
  cases hp : r.phase with
  | accept =>
    simp only [hp] at hmem
    split at hmem
    · exact absurd hmem (hclose _ _)
    · split at hmem
      · exact absurd hmem (hclose _ _)
      · cases hmem
  | ended result =>
    simp only [hp] at hmem
    cases hmem
  | pump =>
    simp only [hp] at hmem
    split at hmem
    · exact absurd hmem (hclose _ _)
    · split at hmem
      · exact absurd hmem (hclose _ _)
      · exact absurd hmem (hclose _ _)
      · -- the empty read ended the stream, so this chunk has a byte
        rename_i chunk hlen hne hread
        have hpos : 0 < chunk.length := List.length_pos_iff.mpr hne
        split at hmem
        · exact absurd hmem (hclose _ _)
        · have hprogress (hin : .publish (.transferProgress id done total) =
              (r.wrote chunk).progress) : id = r.id ∧ 0 < done ∧ total = r.task.size := by
            obtain ⟨rfl, rfl, rfl⟩ : id = r.id ∧ done = r.done + chunk.length ∧
                total = r.task.size := by simpa [progress, wrote, SendRun.id] using hin
            exact ⟨rfl, by omega, rfl⟩
          split at hmem
          · rcases List.mem_cons.mp hmem with hin | hin
            · exact hprogress hin
            · exact absurd hin (hclose _ _)
          · exact hprogress (List.mem_singleton.mp hmem)

end SendRun

namespace Manager

variable {m : Manager}

def figures (record : TransferRecord) : Nat × Nat := (record.done, record.total)

/-- Settling a record leaves its counts alone. -/
theorem settle_figures (id id' : String) (state : TransferState)
    (reason : Option String → Option String) :
    ((m.settle id' state reason).transfers.get id).map figures =
      (m.transfers.get id).map figures := by
  unfold settle
  cases hget : m.transfers.get id' with
  | none => rfl
  | some record =>
    by_cases heq : id = id'
    · simp [heq, hget, figures]
    · simp [heq]

end Manager

/-! ## The hub -/

namespace Hub

open Manager View

variable {h h' : Hub} {m : Manager}

/-- The byte counts of records, tasks and events fit together. -/
structure Figured (h : Hub) : Prop where
  listed : ∀ id record, h.manager.transfers.get id = some record → record.done = 0 ∧
    ∃ deviceId direction fileName,
      .transferAdded id deviceId direction fileName record.total ∈ h.log
  received : ∀ id r record, h.receives.get id = some r →
    h.manager.transfers.get id = some record → record.total = shownSize r.task.size
  fed : ∀ id r, h.receives.get id = some r → r.Fed
  sent : ∀ id r record, h.sends.get id = some r →
    h.manager.transfers.get id = some record → record.total = r.task.size
  sized : ∀ id r, h.sends.get id = some r → 0 < r.task.size
  counted : ∀ id done total, .transferProgress id done total ∈ h.log → 0 < done ∧ 0 < total ∧
    ∀ record, h.manager.transfers.get id = some record →
      record.total = total ∨ record.total = shownSize total

theorem start_figured (hm : ∀ id, m.transfers.get id = none) (tempDir : String) (files : LocalFiles)
    (remote : Files String UInt8) :
    (start m tempDir files remote).Figured where
  listed := fun id record hget => by simp [start, hm] at hget
  received := fun id r record hr => by simp [start] at hr
  fed := fun id r hr => by simp [start] at hr
  sent := fun id r record hr => by simp [start] at hr
  sized := fun id r hr => by simp [start] at hr
  counted := fun id done total hmem => by simp [start] at hmem

/-- Unchanged figures, as a statement about one record. -/
theorem record_of_figures {m' : Manager} {id : String}
    (h : (m'.transfers.get id).map figures = (m.transfers.get id).map figures)
    {record' : TransferRecord} (hget : m'.transfers.get id = some record') :
    ∃ record, m.transfers.get id = some record ∧ record'.done = record.done ∧
      record'.total = record.total := by
  rw [hget, Option.map_some, eq_comm, Option.map_eq_some_iff] at h
  obtain ⟨record, hrecord, hfigures⟩ := h
  obtain ⟨hdone, htotal⟩ := Prod.mk.inj hfigures
  exact ⟨record, hrecord, hdone.symm, htotal.symm⟩

/-- A step that registers nothing: the records keep their counts, the tasks are
    those of before, and what they publish is counted. -/
theorem Figured.keeps (hf : h.Figured)
    (hrecords : ∀ id, (h'.manager.transfers.get id).map figures =
      (h.manager.transfers.get id).map figures)
    (hreceives : ∀ id r, h'.receives.get id = some r →
      r.Fed ∧ ∃ r₀, h.receives.get id = some r₀ ∧ r.task = r₀.task)
    (hsends : ∀ id r, h'.sends.get id = some r →
      ∃ r₀, h.sends.get id = some r₀ ∧ r.task = r₀.task)
    {out : List Event} (hlog : h'.log = h.log ++ out)
    (hout : ∀ id done total, .transferProgress id done total ∈ out → 0 < done ∧ 0 < total ∧
      ((∃ r, h.receives.get id = some r ∧ total = r.task.size) ∨
        ∃ r, h.sends.get id = some r ∧ total = r.task.size)) : h'.Figured where
  listed := by
    intro id record' hget
    obtain ⟨record, hrecord, hdone, htotal⟩ := record_of_figures (hrecords id) hget
    obtain ⟨hzero, deviceId, direction, fileName, hmem⟩ := hf.listed id record hrecord
    refine ⟨hdone.trans hzero, deviceId, direction, fileName, ?_⟩
    rw [hlog, htotal]
    exact List.mem_append_left out hmem
  received := by
    intro id r record' hr hget
    obtain ⟨record, hrecord, -, htotal⟩ := record_of_figures (hrecords id) hget
    obtain ⟨-, r₀, hr₀, htask⟩ := hreceives id r hr
    rw [htotal, htask]
    exact hf.received id r₀ record hr₀ hrecord
  fed := fun id r hr => (hreceives id r hr).1
  sent := by
    intro id r record' hr hget
    obtain ⟨record, hrecord, -, htotal⟩ := record_of_figures (hrecords id) hget
    obtain ⟨r₀, hr₀, htask⟩ := hsends id r hr
    rw [htotal, htask]
    exact hf.sent id r₀ record hr₀ hrecord
  sized := by
    intro id r hr
    obtain ⟨r₀, hr₀, htask⟩ := hsends id r hr
    rw [htask]
    exact hf.sized id r₀ hr₀
  counted := by
    intro id done total hmem
    rw [hlog] at hmem
    rcases List.mem_append.mp hmem with hold | hnew
    · obtain ⟨hpos, hsize, hrest⟩ := hf.counted id done total hold
      refine ⟨hpos, hsize, fun record' hget => ?_⟩
      obtain ⟨record, hrecord, -, htotal⟩ := record_of_figures (hrecords id) hget
      rw [htotal]
      exact hrest record hrecord
    -- a new figure is that of a task that was running
    · obtain ⟨hpos, hsize, htask⟩ := hout id done total hnew
      refine ⟨hpos, hsize, fun record' hget => ?_⟩
      obtain ⟨record, hrecord, -, htotal⟩ := record_of_figures (hrecords id) hget
      rw [htotal]
      rcases htask with ⟨r, hr, rfl⟩ | ⟨r, hr, rfl⟩
      · exact .inr (hf.received id r record hr hrecord)
      · exact .inl (hf.sent id r record hr hrecord)

section Commands

variable {control : Option Fingerprint} {wire : Wire} {io : Faults}

/-- What a registration publishes, and the task it starts. -/
theorem opens_cases {c : Command} {all rest : List Effect} (m' : Manager)
    (control : Option Fingerprint) (wire : Wire) (io : Faults) (added : Event) {total : Nat}
    {state : TransferState} (hrest : Opening h.manager c all total state rest) :
    let h' := (.publish added :: rest).foldl (perform control wire io) { h with manager := m' }
    (∃ tail, h'.log = h.log ++ added :: tail ∧
      ∀ id done total, .transferProgress id done total ∉ tail) ∧
    (∀ id r, h'.receives.get id = some r → h.receives.get id = some r ∨
      id = h.manager.freshId ∧ total = shownSize r.task.size ∧ r.phase = .start) ∧
    (∀ id r, h'.sends.get id = some r → h.sends.get id = some r ∨
      id = h.manager.freshId ∧ total = r.task.size ∧ 0 < r.task.size) := by
  intro h'
  cases hrest with
  | receive task htask htarget htotal =>
    refine ⟨⟨[], rfl, by simp⟩, fun id r hr => ?_, fun id r hr => .inl hr⟩
    rcases Table.of_get_insert hr with ⟨hid, rfl⟩ | ⟨-, hold⟩
    · exact .inr ⟨hid.trans htask, htotal, rfl⟩
    · exact .inl hold
  | send task htask htotal hsize =>
    refine ⟨⟨[], rfl, by simp⟩, fun id r hr => .inl hr, fun id r hr => ?_⟩
    rcases Table.of_get_insert hr with ⟨hid, rfl⟩ | ⟨-, hold⟩
    · exact .inr ⟨hid.trans htask, htotal, hsize⟩
    · exact .inl hold
  -- no task is started: the transfer is over at once
  | finished =>
    exact ⟨⟨[.transferFinished h.manager.freshId], List.append_assoc _ _ _, by simp⟩,
      fun id r hr => .inl hr, fun id r hr => .inl hr⟩
  | failed reason =>
    exact ⟨⟨[.transferFailed h.manager.freshId reason], List.append_assoc _ _ _, by simp⟩,
      fun id r hr => .inl hr, fun id r hr => .inl hr⟩

/-- A transfer that is added with nothing done keeps the figures right. -/
theorem Figured.adds (hf : h.Figured) (ht : h.Tracked) {id₀ : String} {record₀ : TransferRecord}
    (hunused : h.manager.transfers.get id₀ = none)
    (hset : Sets h.manager h'.manager id₀ record₀) (hdone : record₀.done = 0)
    {deviceId direction fileName : String} {tail : List Event}
    (hlog : h'.log = h.log ++ .transferAdded id₀ deviceId direction fileName record₀.total :: tail)
    (htail : ∀ id done total, .transferProgress id done total ∉ tail)
    (hreceives : ∀ id r, h'.receives.get id = some r → h.receives.get id = some r ∨
      id = id₀ ∧ record₀.total = shownSize r.task.size ∧ r.phase = .start)
    (hsends : ∀ id r, h'.sends.get id = some r → h.sends.get id = some r ∨
      id = id₀ ∧ record₀.total = r.task.size ∧ 0 < r.task.size) : h'.Figured := by
  obtain ⟨hsilent, hnoreceive, hnosend⟩ := ht.unused hunused
  -- the record under the unused id is the new one, every other is as before
  have hnew {record : TransferRecord} (hrecord : h'.manager.transfers.get id₀ = some record) :
      record = record₀ := by
    rw [hset, if_pos rfl] at hrecord
    exact (Option.some.inj hrecord).symm
  have hold {id : String} {record : TransferRecord} (hid : id ≠ id₀)
      (hrecord : h'.manager.transfers.get id = some record) :
      h.manager.transfers.get id = some record := by
    rwa [hset, if_neg hid] at hrecord
  constructor
  case listed =>
    intro id record hrecord
    rw [hlog]
    by_cases hid : id = id₀
    · subst hid
      rw [hnew hrecord]
      exact ⟨hdone, deviceId, direction, fileName, by simp⟩
    · obtain ⟨hzero, deviceId', direction', fileName', hmem⟩ :=
        hf.listed id record (hold hid hrecord)
      exact ⟨hzero, deviceId', direction', fileName', List.mem_append_left _ hmem⟩
  case received =>
    intro id r record hr hrecord
    rcases hreceives id r hr with hr | ⟨rfl, htotal, -⟩
    · have hid : id ≠ id₀ := by
        rintro rfl
        rw [hnoreceive] at hr
        cases hr
      exact hf.received id r record hr (hold hid hrecord)
    · rw [hnew hrecord]
      exact htotal
  case fed =>
    intro id r hr
    rcases hreceives id r hr with hr | ⟨-, -, hphase⟩
    · exact hf.fed id r hr
    · intro done chunk hwrite
      rw [hphase] at hwrite
      cases hwrite
  case sent =>
    intro id r record hr hrecord
    rcases hsends id r hr with hr | ⟨rfl, htotal, -⟩
    · have hid : id ≠ id₀ := by
        rintro rfl
        rw [hnosend] at hr
        cases hr
      exact hf.sent id r record hr (hold hid hrecord)
    · rw [hnew hrecord]
      exact htotal
  case sized =>
    intro id r hr
    rcases hsends id r hr with hr | ⟨-, -, hsize⟩
    · exact hf.sized id r hr
    · exact hsize
  case counted =>
    intro id done total hmem
    -- the new events are no progress
    have hmem : .transferProgress id done total ∈ h.log := by
      simpa [hlog, htail] using hmem
    obtain ⟨hpos, hsize, htotal⟩ := hf.counted id done total hmem
    have hid : id ≠ id₀ := by
      rintro rfl
      exact hsilent _ hmem rfl
    exact ⟨hpos, hsize, fun record hrecord => htotal record (hold hid hrecord)⟩

/-- A command keeps the counts together. -/
theorem Figured.books {m' : Manager} {c : Command} {all effects : List Effect} (hf : h.Figured)
    (ht : h.Tracked) (hb : Booking h.manager c all m' effects) :
    (effects.foldl (perform control wire io) { h with manager := m' }).Figured := by
  have keeps : (∀ id, (m'.transfers.get id).map figures = (h.manager.transfers.get id).map figures)
      → { h with manager := m' }.Figured := fun hfigures =>
    hf.keeps hfigures (fun id r hr => ⟨hf.fed id r hr, r, hr, rfl⟩) (fun id r hr => ⟨r, hr, rfl⟩)
      (List.append_nil _).symm (by simp)
  cases hb with
  | aside hsame => exact keeps fun id => by rw [hsame.transfers]
  | @cancel id' record hget hset =>
    -- cancelling flips a flag
    refine keeps fun id => ?_
    rw [hset id]
    split
    · rename_i heq
      simp [heq, hget, figures]
    · rfl
  | @opens record deviceId direction fileName rest hset hseq htarget hrest hdone =>
    obtain ⟨⟨tail, hlog, htail⟩, hreceives, hsends⟩ := opens_cases m' control wire io
      (.transferAdded h.manager.freshId deviceId direction fileName record.total) hrest
    refine hf.adds ht ht.numbered.freshId_unused ?_ hdone hlog htail hreceives hsends
    rwa [performed_manager]

end Commands

/-- **Invariant.** Every step keeps the counts together. -/
theorem Figured.step (hf : h.Figured) (ht : h.Tracked) (a : HubMove) : (h.step a).Figured := by
  rcases step_moves h a with hsame | hmoves
  · rwa [hsame]
  · generalize h.step a = h' at hmoves ⊢
    cases hmoves with
    | command hc => exact hf.books ht (handle_books hc)
    | @receive id io tools r hr =>
      have hgoes : r.Goes (h.receive r io tools).1 (h.receive r io tools).2.2 :=
        r.step_goes (h.cancelled r.id) io tools h.disk
      have hid : r.id = id := (ht.stage id).recv_id hr
      refine hf.keeps (fun _ => rfl) (fun id' r' hr' => ?_) (fun id' r' hr' => ⟨r', hr', rfl⟩)
        rfl ?_
      · rcases Table.of_get_insert hr' with ⟨rfl, rfl⟩ | ⟨-, hold⟩
        · exact ⟨hgoes.fed, r, hr, hgoes.task⟩
        · exact ⟨hf.fed id' r' hold, r', hold, rfl⟩
      · intro id' done total hmem
        -- a count comes with the size the task was started for
        obtain ⟨rfl, hpos, hsize, rfl⟩ := hgoes.counts (hf.fed id r hr) hmem
        exact ⟨hpos, hsize, .inl ⟨r, hid ▸ hr, rfl⟩⟩
    | @send id tick r out hr hout hgoes =>
      have hid : r.id = id := (ht.stage id).sending_id hr
      refine hf.keeps (fun _ => rfl) (fun id' r' hr' => ⟨hf.fed id' r' hr', r', hr', rfl⟩)
        (fun id' r' hr' => ?_) rfl ?_
      · rcases Table.of_get_insert hr' with ⟨rfl, rfl⟩ | ⟨-, hold⟩
        · exact ⟨r, hr, hgoes.task⟩
        · exact ⟨r', hold, rfl⟩
      · intro id' done total hmem
        have hmem : .publish (.transferProgress id' done total) ∈
            (r.step (h.cancelled r.id) tick).2 := by
          refine List.mem_of_mem_filter (p := Effect.ofTransfer) ?_
          rw [← ofTransfers, hout]
          exact List.mem_map_of_mem hmem
        obtain ⟨rfl, hpos, rfl⟩ := SendRun.step_counts hmem
        exact ⟨hpos, hf.sized id r hr, .inr ⟨r, hid ▸ hr, rfl⟩⟩
    | finished _ | failed _ =>
      refine hf.keeps (fun id' => settle_figures ..) (fun id' r hr => ?_) (fun id' r hr => ?_) rfl
        (by simp)
      · obtain ⟨-, hold⟩ := Table.of_get_remove hr
        exact ⟨hf.fed id' r hold, r, hold, rfl⟩
      · exact ⟨r, (Table.of_get_remove hr).2, rfl⟩

end Hub
end Handfast.Daemon
