/-
  Handfast.Daemon.Staging

  The staging engine as a state machine over its calls.

  A call of transfer `id` leaves every other entry alone, and every file that
  was there except its own staging file: a start creates its file exclusively
  and a finish moves to a free name (`call_frame`, for any file operations
  that fail).  The one exception is a finish that finds all names taken.

  What the engine is for is the `Ledger`: the bytes accepted for each active
  transfer since its start, and the files that were finished.  As long as no
  file operation fails the engine refines it (`Refines.step`).
-/
import Handfast.Daemon.Transfer
import Handfast.Lib.Trace

namespace Handfast.Daemon

open Handfast.Lib Handfast.Protocol Handfast.Core

inductive EngineCall where
  | startReceive (info : TransferMeta)
  | writeChunk (id : String) (data : Bytes)
  | finishReceive (id : String)
  | abort (id : String)
  deriving DecidableEq, Repr

def EngineCall.id : EngineCall → String
  | startReceive info => info.transferId
  | writeChunk id _ | finishReceive id | abort id => id

inductive EngineAnswer where
  | started (r : Result Unit)
  | wrote (r : Result Nat)
  | finished (r : Result String)
  | aborted (r : Result Unit)

def EngineAnswer.isOk : EngineAnswer → Bool
  | started r | aborted r => r.isOk
  | wrote r => r.isOk
  | finished r => r.isOk

namespace Staging

def idle (saveDir : String) (files : LocalFiles) : Staging :=
  { saveDir, incoming := .empty, files }

def call (s : Staging) (io : Faults) : EngineCall → EngineAnswer × Staging
  | .startReceive info => (s.startReceive io info).map .started id
  | .writeChunk id data => (s.writeChunk io id data).map .wrote fun s => s
  | .finishReceive id => (s.finishReceive io id).map .finished fun s => s
  | .abort id => (s.abort io id).map .aborted fun s => s

/-! ## What a call can do -/

inductive Did (s : Staging) (io : Faults) : EngineCall → EngineAnswer → Staging → Prop where
  /-- It failed and nothing happened; an abort only fails so if there is no entry. -/
  | failed {c : EngineCall} {answer : EngineAnswer} : answer.isOk = false →
      (∀ id, c = .abort id → s.incoming.get id = none) → Did s io c answer s
  | started {info : TransferMeta} : s.incoming.get info.transferId = none →
      s.files.has (s.partPathOf info.fileName) = false →
      Did s io (.startReceive info) (.started (.ok ())) (s.started info)
  /-- The append failed after `rest` was written. -/
  | torn {id : String} {data rest : Bytes} {t : IncomingTransfer} {e : Error} :
      s.incoming.get id = some t → s.files.has t.partPath = true → io.append.isSome →
      Did s io (.writeChunk id data) (.wrote (.error e))
        { s with files := s.files.append t.partPath rest }
  | extended {id : String} {data : Bytes} {t : IncomingTransfer} :
      s.incoming.get id = some t → s.files.has t.partPath = true →
      t.received + data.length ≤ t.info.fileSize →
      Did s io (.writeChunk id data) (.wrote (.ok (t.received + data.length)))
        (s.extended id t data)
  | moved {id : String} {t : IncomingTransfer} :
      s.incoming.get id = some t → s.files.has t.partPath = true → Complete t →
      Did s io (.finishReceive id) (.finished (.ok (s.destination io t.finalName)))
        (s.moved id t (s.destination io t.finalName))
  /-- The entry is gone, its file could not be removed. -/
  | lost {id msg : String} {t : IncomingTransfer} :
      s.incoming.get id = some t → io.remove = some msg →
      Did s io (.abort id) (.aborted (.error (.io msg)))
        { s with incoming := s.incoming.remove id }
  | dropped {id : String} {t : IncomingTransfer} :
      s.incoming.get id = some t → io.remove = none →
      Did s io (.abort id) (.aborted (.ok ())) (s.dropped id t)

/-- The one inversion of an engine call. -/
theorem call_did (s : Staging) (io : Faults) (c : EngineCall) :
    s.Did io c (s.call io c).1 (s.call io c).2 := by
  cases c with
  | startReceive info =>
    rcases s.startReceive_cases io info with ⟨e, h⟩ | ⟨hid, hfree, h⟩
    · rw [call, h]
      exact .failed rfl nofun
    · rw [call, h]
      exact .started hid hfree
  | writeChunk id data =>
    rcases s.writeChunk_cases io id data with
      ⟨e, h, -⟩ | ⟨e, t, rest, htorn, h⟩ | ⟨t, ht, hfile, hsize, -, h⟩
    · rw [call, h]
      exact .failed rfl nofun
    · rw [call, h]
      -- what was written of the chunk stays in the file
      obtain ⟨written, msg, hio, -⟩ := htorn.fails
      exact .torn htorn.entry htorn.file (by rw [hio]; rfl)
    · rw [call, h]
      exact .extended ht hfile hsize
  | finishReceive id =>
    rcases s.finishReceive_cases io id with ⟨e, h⟩ | ⟨t, ht, hfile, hdone, h⟩
    · rw [call, h]
      exact .failed rfl nofun
    · rw [call, h]
      exact .moved ht hfile hdone
  | abort id =>
    rcases s.abort_cases io id with ⟨hnone, h⟩ | ⟨t, ht, ⟨msg, hio, h⟩ | ⟨hio, h⟩⟩
    · rw [call, h]
      exact .failed rfl fun id' heq => by cases heq; exact hnone
    · rw [call, h]
      exact .lost ht hio
    · rw [call, h]
      exact .dropped ht hio

variable {answer : EngineAnswer} {c : EngineCall} {s s' : Staging} {io : Faults}

/-- An entry is a fresh one, or an old one of which only the count may differ. -/
theorem Did.entry (h : s.Did io c answer s') {id : String} {t : IncomingTransfer}
    (ht : s'.incoming.get id = some t) :
    c = .startReceive t.info ∧ id = t.info.transferId ∧ t = s.freshEntry t.info ∨
      ∃ t₀, s.incoming.get id = some t₀ ∧ t₀.info = t.info ∧ t₀.finalName = t.finalName ∧
        t₀.partPath = t.partPath := by
  cases h with
  | failed _ _ => exact .inr ⟨t, ht, rfl, rfl, rfl⟩
  | @started info _ _ =>
    rcases Table.of_get_insert ht with ⟨hid, rfl⟩ | ⟨-, hold⟩
    · exact .inl ⟨rfl, hid, rfl⟩
    · exact .inr ⟨t, hold, rfl, rfl, rfl⟩
  -- an append changes the count at most
  | torn _ _ _ => exact .inr ⟨t, ht, rfl, rfl, rfl⟩
  | @extended id' data t₀ ht₀ _ _ =>
    rcases Table.of_get_insert ht with ⟨hid, rfl⟩ | ⟨-, hold⟩
    · exact .inr ⟨t₀, hid ▸ ht₀, rfl, rfl, rfl⟩
    · exact .inr ⟨t, hold, rfl, rfl, rfl⟩
  | moved _ _ _ | lost _ _ | dropped _ _ =>
    exact .inr ⟨t, (Table.of_get_remove ht).2, rfl, rfl, rfl⟩

theorem Did.saveDir (h : s.Did io c answer s') : s'.saveDir = s.saveDir := by
  cases h <;> rfl

/-- A finish finds a free name for its file. -/
def HasRoom (s : Staging) (io : Faults) : EngineCall → Prop
  | .finishReceive id => ∀ t, s.incoming.get id = some t →
      HasFreeName (s.taken io) s.saveDir t.finalName
  | _ => True

instance (s : Staging) (io : Faults) : (c : EngineCall) → Decidable (s.HasRoom io c)
  | .finishReceive id => Table.decidableFound (s.incoming.get id)
  | .startReceive _ | .writeChunk _ _ | .abort _ => .isTrue trivial

variable {s s' : Staging} {io : Faults} {id path : String} {t : IncomingTransfer} {c : EngineCall}

/-! ## What a call leaves alone -/

/-- The path is not the staging file of `id`. -/
def NotOwn (s : Staging) (id path : String) : Prop :=
  ∀ t, s.incoming.get id = some t → t.partPath ≠ path

/-- Nothing but the entry of `id`, its staging file and paths without a file
    differ; the entry stays with its staging file, or is new with a new file. -/
structure Frame (id : String) (s s' : Staging) : Prop where
  saveDir : s'.saveDir = s.saveDir
  entries : ∀ id', id' ≠ id → s'.incoming.get id' = s.incoming.get id'
  own : ∀ t, s'.incoming.get id = some t → s.files.has t.partPath = false ∨
    ∃ t₀, s.incoming.get id = some t₀ ∧ t₀.partPath = t.partPath
  files : ∀ path, s.files.has path = true → s.NotOwn id path →
    s'.files.read path = s.files.read path

theorem Frame.refl (id : String) (s : Staging) : Frame id s s :=
  ⟨rfl, fun _ _ => rfl, fun t ht => .inr ⟨t, ht, rfl⟩, fun _ _ _ => rfl⟩

/-- A file that is nobody's staging file does not become one. -/
theorem Frame.notOwn (h : Frame id s s') (hpath : s.files.has path = true)
    (hnot : ∀ id', s.NotOwn id' path) (id' : String) : s'.NotOwn id' path := by
  intro t ht
  by_cases hne : id' = id
  · subst hne
    rintro rfl
    rcases h.own t ht with hnew | ⟨t₀, ht₀, hsame⟩
    · rw [hpath] at hnew
      cases hnew
    · exact hnot id' t₀ ht₀ hsame
  · rw [h.entries id' hne] at ht
    exact hnot id' t ht

theorem has_destination {name : String} (h : HasFreeName (s.taken io) s.saveDir name) :
    s.files.has (s.destination io name) = false := by
  have hfree := freeDestination_free h
  rw [taken, Bool.or_eq_false_iff] at hfree
  exact hfree.2

/-- Without a free name the file replaces the one under the plain name. -/
theorem finishReceive_overwrites {bytes : Bytes} (ht : s.incoming.get id = some t)
    (hdone : Complete t) (hbytes : s.files.read t.partPath = some bytes)
    (hfull : ¬ HasFreeName (s.taken .none) s.saveDir t.finalName) :
    (s.finishReceive .none id).2 = s.moved id t (joinPath s.saveDir t.finalName) := by
  rw [finishReceive_ok .none rfl ht hdone (Files.has_eq_true.mpr ⟨bytes, hbytes⟩), destination,
    (freeDestination_taken hfull).1]

/-- **Frame of a call.** -/
theorem Did.frame (h : s.Did io c answer s') (hroom : s.HasRoom io c) :
    Frame c.id s s' := by
  cases h with
  | failed _ _ => exact .refl _ _
  | @started info _ hfree =>
    refine ⟨rfl, fun id' (hne : id' ≠ info.transferId) => by simp [Staging.started, hne],
      fun t ht => ?_, fun path hpath _ => ?_⟩
    · obtain rfl : s.freshEntry info = t := by simpa [Staging.started, EngineCall.id] using ht
      exact .inl hfree
    · -- the new staging file lies where there was none
      simp [Staging.started, Files.ne_of_has hpath hfree]
  | @torn id data rest t e ht _ _ =>
    exact ⟨rfl, fun _ _ => rfl, fun t' ht' => .inr ⟨t', ht', rfl⟩,
      fun path _ hown => Files.read_append_of_ne (Ne.symm (hown t ht))⟩
  | @extended id data t ht _ _ =>
    refine ⟨rfl, fun id' (hne : id' ≠ id) => by simp [Staging.extended, hne], fun t' ht' => ?_,
      fun path _ hown => Files.read_append_of_ne (Ne.symm (hown t ht))⟩
    obtain rfl : { t with received := t.received + data.length } = t' := by
      simpa [Staging.extended, EngineCall.id] using ht'
    exact .inr ⟨t, ht, rfl⟩
  | @moved id t ht _ _ =>
    refine ⟨rfl, fun id' (hne : id' ≠ id) => by simp [Staging.moved, hne],
      fun t' ht' => by simp [Staging.moved, EngineCall.id] at ht', fun path hpath hown => ?_⟩
    -- neither our staging file nor the free name is a file of somebody else
    exact Files.read_rename_of_ne (Ne.symm (hown t ht))
      (Files.ne_of_has hpath (has_destination (hroom t ht)))
  | @lost id msg t _ _ =>
    exact ⟨rfl, fun id' (hne : id' ≠ id) => by simp [hne],
      fun t' ht' => by simp [EngineCall.id] at ht', fun _ _ _ => rfl⟩
  | @dropped id t ht _ =>
    exact ⟨rfl, fun id' (hne : id' ≠ id) => by simp [Staging.dropped, hne],
      fun t' ht' => by simp [Staging.dropped, EngineCall.id] at ht',
      fun path _ hown => by simp [Staging.dropped, Ne.symm (hown t ht)]⟩

theorem call_frame (h : s.HasRoom io c) : Frame c.id s (s.call io c).2 :=
  (s.call_did io c).frame h

theorem abort_frame (s : Staging) (io : Faults) (id : String) :
    Frame id s (s.abort io id).2 :=
  call_frame (c := .abort id) trivial

/-! ## Every active transfer has a staging file of its own -/

/-- Transfer `id` is staged at `path`. -/
def Stages (s : Staging) (id path : String) : Prop :=
  ∃ t, s.incoming.get id = some t ∧ t.partPath = path

theorem notOwn_iff : s.NotOwn id path ↔ ¬ s.Stages id path := by
  simp [NotOwn, Stages]

def Sound (s : Staging) : Prop := Files.Owned s.Stages s.files

theorem Sound.present (h : s.Sound) (id : String) (t : IncomingTransfer)
    (ht : s.incoming.get id = some t) : s.files.has t.partPath = true :=
  Files.Owned.present h id t.partPath ⟨t, ht, rfl⟩

theorem Sound.apart (h : s.Sound) (id id' : String) (t t' : IncomingTransfer)
    (ht : s.incoming.get id = some t) (ht' : s.incoming.get id' = some t') (hne : id ≠ id') :
    t.partPath ≠ t'.partPath :=
  fun heq => hne (Files.Owned.apart h id id' t'.partPath ⟨t, ht, heq⟩ ⟨t', ht', rfl⟩)

theorem idle_sound (saveDir : String) (files : LocalFiles) : (idle saveDir files).Sound where
  present := fun _ _ ⟨_, h, _⟩ => by cases h
  apart := fun _ _ _ ⟨_, h, _⟩ => by cases h

/-- The staging file of another transfer is not our own. -/
theorem Sound.notOwn (h : s.Sound) {id' : String} (hne : id' ≠ id)
    (ht : s.incoming.get id' = some t) : s.NotOwn id t.partPath :=
  fun t₀ ht₀ => h.apart id id' t₀ t ht₀ ht (Ne.symm hne)

/-- A step of transfer `id` keeps `Sound` if it deletes no other file and its
    entry, if there is one, has a file: the old one or a new one. -/
theorem Sound.preserve (h : s.Sound) (id : String)
    (hentries : ∀ id', id' ≠ id → s'.incoming.get id' = s.incoming.get id')
    (hfiles : ∀ path, s.files.has path = true → s.NotOwn id path → s'.files.has path = true)
    (hown : ∀ t, s'.incoming.get id = some t → s'.files.has t.partPath = true ∧
      (s.files.has t.partPath = false ∨
        ∃ t₀, s.incoming.get id = some t₀ ∧ t₀.partPath = t.partPath)) : s'.Sound := by
  refine Files.Owned.step h id ?_
    (fun path hpath hnot => hfiles path hpath (notOwn_iff.mpr hnot)) ?_
  · rintro id' hne path ⟨t, ht, hpath⟩
    rw [hentries id' hne] at ht
    exact ⟨t, ht, hpath⟩
  · rintro path ⟨t, ht, rfl⟩
    exact ⟨(hown t ht).1, (hown t ht).2.symm⟩

/-- With the frame of the step, what is left is that its entry has a file. -/
theorem Sound.of_frame (h : s.Sound) (hframe : Frame id s s')
    (hown : ∀ t, s'.incoming.get id = some t → s'.files.has t.partPath = true) : s'.Sound := by
  refine h.preserve id hframe.entries (fun path hpath hnot => ?_)
    (fun t ht => ⟨hown t ht, hframe.own t ht⟩)
  rw [Files.has, hframe.files path hpath hnot]
  exact hpath

/-- Even a finish without a free name deletes no file but its own. -/
theorem Sound.moved (h : s.Sound) (ht : s.incoming.get id = some t)
    (hfile : s.files.has t.partPath = true) (dest : String) : (s.moved id t dest).Sound := by
  obtain ⟨bytes, hbytes⟩ := Files.has_eq_true.mp hfile
  refine h.preserve id (fun id' hne => by simp [Staging.moved, hne]) (fun path hpath hnot => ?_)
    (fun t' ht' => by simp [Staging.moved] at ht')
  -- a file at the destination is replaced, but something is still there
  by_cases hdest : path = dest
  · rw [hdest]
    exact Files.has_eq_true.mpr ⟨_, Files.read_rename_target hbytes⟩
  · have hread : (s.files.rename t.partPath dest).read path = s.files.read path :=
      Files.read_rename_of_ne (Ne.symm (hnot t ht)) hdest
    rw [Files.has, Staging.moved, hread]
    exact hpath

/-- If the call leaves an entry, it leaves its file. -/
theorem Did.present (hdid : s.Did io c answer s') (h : s.Sound)
    (ht : s'.incoming.get c.id = some t) : s'.files.has t.partPath = true := by
  cases hdid with
  | failed _ _ => exact h.present _ _ ht
  | @started info _ _ =>
    obtain rfl : s.freshEntry info = t := by simpa [Staging.started, EngineCall.id] using ht
    simp [Staging.started, freshEntry, Files.has]
  | @torn id data rest t₀ e ht₀ hfile _ =>
    obtain rfl : t₀ = t := Option.some.inj (ht₀.symm.trans ht)
    obtain ⟨old, hold⟩ := Files.has_eq_true.mp hfile
    exact Files.has_eq_true.mpr ⟨_, Files.read_append_self hold⟩
  | @extended id data t₀ _ hfile _ =>
    obtain rfl : { t₀ with received := t₀.received + data.length } = t := by
      simpa [Staging.extended, EngineCall.id] using ht
    obtain ⟨old, hold⟩ := Files.has_eq_true.mp hfile
    exact Files.has_eq_true.mpr ⟨_, Files.read_append_self hold⟩
  | moved _ _ _ => simp [Staging.moved, EngineCall.id] at ht
  | lost _ _ => simp [EngineCall.id] at ht
  | dropped _ _ => simp [Staging.dropped, EngineCall.id] at ht

/-- Every call keeps `Sound`, whatever fails. -/
theorem Did.sound (hdid : s.Did io c answer s') (h : s.Sound) :
    s'.Sound := by
  cases c with
  | finishReceive id =>
    cases hdid with
    | failed _ _ => exact h
    | moved ht hfile _ => exact h.moved ht hfile _
  | startReceive _ | writeChunk _ _ | abort _ =>
    exact h.of_frame (hdid.frame trivial) fun _ ht => hdid.present h ht

theorem Sound.call (h : s.Sound) (io : Faults) (c : EngineCall) : (s.call io c).2.Sound :=
  (s.call_did io c).sound h

/-- If removals work, a transfer that is no longer staged at a path has left no
    file there. -/
theorem Did.releases (hdid : s.Did io c answer s') (hremove : io.remove = none)
    (hroom : s.HasRoom io c) (h : s.Stages c.id path) :
    s'.Stages c.id path ∨ s'.files.has path = false := by
  cases hdid with
  | failed _ _ => exact .inl h
  | started hnone _ =>
    -- a start goes through only for an id without an entry
    obtain ⟨t₀, ht₀, -⟩ := h
    rw [EngineCall.id, hnone] at ht₀
    cases ht₀
  | torn _ _ _ => exact .inl h
  | @extended id data t ht _ _ =>
    obtain ⟨t₀, ht₀, rfl⟩ := h
    obtain rfl : t = t₀ := Option.some.inj (ht.symm.trans ht₀)
    exact .inl ⟨{ t with received := t.received + data.length },
      by simp [Staging.extended, EngineCall.id], rfl⟩
  | @moved id t ht hfile _ =>
    obtain ⟨t₀, ht₀, rfl⟩ := h
    obtain rfl : t = t₀ := Option.some.inj (ht.symm.trans ht₀)
    obtain ⟨bytes, hbytes⟩ := Files.has_eq_true.mp hfile
    -- the file went to a name that was free, so not to its own
    have hne := Files.ne_of_has hfile (has_destination (hroom t ht))
    exact .inr (Files.has_eq_false.mpr (Files.read_rename_source hbytes hne))
  | lost _ hfault =>
    rw [hremove] at hfault
    cases hfault
  | @dropped id t ht _ =>
    obtain ⟨t₀, ht₀, rfl⟩ := h
    obtain rfl : t = t₀ := Option.some.inj (ht.symm.trans ht₀)
    exact .inr (by simp [Staging.dropped, Files.has])

/-- Only a chunk makes the staging file of a transfer longer. -/
theorem Did.grows {old more : Bytes} (hdid : s.Did io c answer s') (hstages : s.Stages c.id path)
    (hold : s.files.read path = some old) (hnew : s'.files.read path = some (old ++ more))
    (hmore : more ≠ []) : ∃ data, c = .writeChunk c.id data := by
  have hsame : s.files.read path ≠ some (old ++ more) := fun h =>
    hmore (List.append_right_eq_self.mp (Option.some.inj (h.symm.trans hold)))
  obtain ⟨t₀, ht₀, rfl⟩ := hstages
  cases hdid with
  | failed _ _ => exact absurd hnew hsame
  | started hnone _ =>
    rw [EngineCall.id, hnone] at ht₀
    cases ht₀
  | @torn _ data _ _ _ _ _ _ => exact ⟨data, rfl⟩
  | @extended _ data _ _ _ _ => exact ⟨data, rfl⟩
  | @moved id t ht _ _ =>
    obtain rfl : t = t₀ := Option.some.inj (ht.symm.trans ht₀)
    have hmoved : (s.files.rename t.partPath (s.destination io t.finalName)).read t.partPath =
        some (old ++ more) := hnew
    -- the file is moved away, or onto itself
    by_cases hdest : t.partPath = s.destination io t.finalName
    · rw [← hdest, Files.read_rename_target hold] at hmoved
      exact absurd (hold.trans hmoved) hsame
    · rw [Files.read_rename_source hold hdest] at hmoved
      cases hmoved
  | lost _ _ => exact absurd hnew hsame
  | @dropped id t ht _ =>
    obtain rfl : t = t₀ := Option.some.inj (ht.symm.trans ht₀)
    simp [Staging.dropped] at hnew

end Staging

/-! ## The ledger -/

/-- The purpose of the engine: the bytes accepted for each active transfer since
    its start, and the finished files. -/
structure Ledger where
  active : Table String Bytes
  stored : Table String Bytes

namespace Ledger

def empty : Ledger where
  active := .empty
  stored := .empty

def accepted (l : Ledger) (id : String) : Bytes := (l.active.get id).getD []

def record (l : Ledger) : EngineCall → EngineAnswer → Ledger
  | .startReceive info, .started (.ok ()) =>
    { l with active := l.active.insert info.transferId [] }
  | .writeChunk id data, .wrote (.ok _) =>
    { l with active := l.active.insert id (l.accepted id ++ data) }
  | .finishReceive id, .finished (.ok path) =>
    { active := l.active.remove id, stored := l.stored.insert path (l.accepted id) }
  | .abort id, .aborted (.ok ()) => { l with active := l.active.remove id }
  -- a call that fails changes nothing
  | _, _ => l

theorem record_failed (l : Ledger) (c : EngineCall) {answer : EngineAnswer}
    (h : answer.isOk = false) : l.record c answer = l := by
  unfold record
  split <;> first | rfl | cases h

end Ledger

/-- The engine refines the ledger: a staging file holds the bytes accepted so
    far, their number is the counter, and the finished files are on disk, apart
    from the staging files. -/
structure Refines (s : Staging) (l : Ledger) : Prop where
  sound : s.Sound
  active : ∀ id t, s.incoming.get id = some t → ∃ bytes, l.active.get id = some bytes ∧
    s.files.read t.partPath = some bytes ∧ t.received = bytes.length ∧
    t.received ≤ t.info.fileSize
  stored : ∀ path bytes, l.stored.get path = some bytes →
    s.files.read path = some bytes ∧ ∀ id, s.NotOwn id path

namespace Refines

variable {s s' : Staging} {l l' : Ledger} {id : String} {t : IncomingTransfer} {data : Bytes}
  {c : EngineCall}

theorem idle (saveDir : String) (files : LocalFiles) :
    Refines (.idle saveDir files) .empty where
  sound := Staging.idle_sound saveDir files
  active := fun _ _ h => by cases h
  stored := fun _ _ h => by cases h

theorem accepted (h : Refines s l) (ht : s.incoming.get id = some t) :
    s.files.read t.partPath = some (l.accepted id) := by
  obtain ⟨bytes, hbytes, hread, -⟩ := h.active id t ht
  rw [hread, Ledger.accepted, hbytes]
  rfl

/-- A step of transfer `id` with its frame keeps the other transfers and the
    finished files; what is left is its own entry and what it finishes. -/
theorem of_frame (h : Refines s l) (hsound : s'.Sound) (hframe : Staging.Frame id s s')
    (hactive : ∀ id', id' ≠ id → l'.active.get id' = l.active.get id')
    (hstored : ∀ path bytes, l'.stored.get path = some bytes →
      l.stored.get path = some bytes ∨
        s'.files.read path = some bytes ∧ ∀ id', s'.NotOwn id' path)
    (hentry : ∀ t, s'.incoming.get id = some t → ∃ bytes, l'.active.get id = some bytes ∧
      s'.files.read t.partPath = some bytes ∧ t.received = bytes.length ∧
      t.received ≤ t.info.fileSize) : Refines s' l' := by
  refine ⟨hsound, ?_, ?_⟩
  · intro id' t' ht'
    by_cases hne : id' = id
    · subst hne
      exact hentry t' ht'
    · rw [hframe.entries id' hne] at ht'
      obtain ⟨bytes, hbytes, hread, hcount⟩ := h.active id' t' ht'
      refine ⟨bytes, (hactive id' hne).trans hbytes, ?_, hcount⟩
      -- another transfer: its file is not ours, so the step left it alone
      rw [hframe.files _ (h.sound.present id' t' ht') (h.sound.notOwn hne ht'), hread]
  · intro path bytes hpath
    rcases hstored path bytes hpath with hold | hnew
    · obtain ⟨hread, hnot⟩ := h.stored path bytes hold
      have hthere : s.files.has path = true := Files.has_eq_true.mpr ⟨bytes, hread⟩
      exact ⟨(hframe.files path hthere (hnot id)).trans hread, hframe.notOwn hthere hnot⟩
    · exact hnew

/-- **Refinement step.** On files that never fail and with a free name for every
    finish, each call does to the engine what its answer does to the ledger. -/
theorem did {answer : EngineAnswer} (h : Refines s l) (hdid : s.Did .none c answer s')
    (hroom : s.HasRoom .none c) :
    Refines s' (l.record c answer) := by
  have hsound := hdid.sound h.sound
  have hframe := hdid.frame hroom
  cases hdid with
  | failed hbad _ =>
    rw [l.record_failed c hbad]
    exact h
  | @started info _ _ =>
    refine h.of_frame hsound hframe
      (fun id' (hne : id' ≠ info.transferId) => by simp [Ledger.record, hne])
      (fun path bytes hpath => .inl hpath) fun t ht => ?_
    obtain rfl : s.freshEntry info = t := by simpa [Staging.started, EngineCall.id] using ht
    exact ⟨[], by simp [Ledger.record, EngineCall.id],
      by simp [Staging.started, Staging.freshEntry], rfl, Nat.zero_le _⟩
  | torn _ _ hfault => cases hfault
  | @extended id data t ht _ hle =>
    refine h.of_frame hsound hframe (fun id' (hne : id' ≠ id) => by simp [Ledger.record, hne])
      (fun path bytes hpath => .inl hpath) fun t' ht' => ?_
    obtain rfl : { t with received := t.received + data.length } = t' := by
      simpa [Staging.extended, EngineCall.id] using ht'
    -- the file, the counter and the ledger grow by the same bytes
    obtain ⟨bytes, hbytes, -, hcount, -⟩ := h.active id t ht
    refine ⟨l.accepted id ++ data, by simp [Ledger.record, EngineCall.id],
      Files.read_append_self (h.accepted ht), ?_, hle⟩
    simp [hcount, Ledger.accepted, hbytes]
  | @moved id t ht _ _ =>
    have hgone : ∀ t', (s.moved id t (s.destination .none t.finalName)).incoming.get id ≠
        some t' := by
      simp [Staging.moved]
    refine h.of_frame hsound hframe (fun id' (hne : id' ≠ id) => by simp [Ledger.record, hne])
      (fun path bytes hpath => ?_) (fun t' ht' => absurd ht' (hgone t'))
    simp only [Ledger.record, Table.get_insert] at hpath
    split at hpath
    · rename_i hdest
      obtain rfl : l.accepted id = bytes := Option.some.inj hpath
      refine .inr ⟨?_, fun id' t' ht' => ?_⟩
      · rw [hdest]
        exact Files.read_rename_target (h.accepted ht)
      · -- the destination held no file, the other staging files did
        have hne : id' ≠ id := fun he => hgone t' (he ▸ ht')
        rw [hframe.entries id' hne] at ht'
        rw [hdest]
        exact Files.ne_of_has (h.sound.present id' t' ht')
          (Staging.has_destination (hroom t ht))
    · exact .inl hpath
  | lost _ hfault => cases hfault
  | @dropped id t _ _ =>
    exact h.of_frame hsound hframe (fun id' (hne : id' ≠ id) => by simp [Ledger.record, hne])
      (fun path bytes hpath => .inl hpath)
      fun t' ht' => by simp [Staging.dropped, EngineCall.id] at ht'

theorem step (h : Refines s l) (hroom : s.HasRoom .none c) :
    Refines (s.call .none c).2 (l.record c (s.call .none c).1) :=
  h.did (s.call_did .none c) hroom

end Refines

/-! ## Runs of the engine -/

/-- The engine with its ledger beside it. -/
structure Recorded where
  staging : Staging
  ledger : Ledger

namespace Recorded

/-- One call on files that never fail. -/
def step (r : Recorded) (c : EngineCall) : Recorded where
  staging := (r.staging.call .none c).2
  ledger := r.ledger.record c (r.staging.call .none c).1

/-- A fresh engine on the files that happen to be there. -/
def start (saveDir : String) (files : LocalFiles) : Recorded where
  staging := .idle saveDir files
  ledger := .empty

structure Correct (r : Recorded) (c : EngineCall) : Prop where
  own_path : ∀ id id' t t', (r.step c).staging.incoming.get id = some t →
    (r.step c).staging.incoming.get id' = some t' → id ≠ id' → t.partPath ≠ t'.partPath
  counted : ∀ id t, (r.step c).staging.incoming.get id = some t →
    ∃ bytes, (r.step c).staging.files.read t.partPath = some bytes ∧
      t.received = bytes.length ∧ t.received ≤ t.info.fileSize
  finishes : ∀ id t, c = .finishReceive id → r.staging.incoming.get id = some t →
    ((∃ path, (r.staging.finishReceive .none id).1 = .ok path) ↔ Staging.Complete t)
  delivers : ∀ id path, c = .finishReceive id →
    (r.staging.finishReceive .none id).1 = .ok path →
    ∃ bytes, r.ledger.active.get id = some bytes ∧
      (r.step c).staging.files.read path = some bytes
  others : ∀ id t, id ≠ c.id → r.staging.incoming.get id = some t →
    (r.step c).staging.files.read t.partPath = r.staging.files.read t.partPath
  kept : ∀ path, (r.ledger.stored.get path).isSome →
    (r.step c).staging.files.read path = r.staging.files.read path

/-- What follows from the refinement for one call. -/
theorem correct_of_refines {r : Recorded} {c : EngineCall} (h : Refines r.staging r.ledger)
    (hroom : r.staging.HasRoom .none c) : r.Correct c := by
  have hnext : Refines (r.step c).staging (r.step c).ledger := h.step hroom
  have hframe : Staging.Frame c.id r.staging (r.step c).staging := Staging.call_frame hroom
  refine ⟨hnext.sound.apart, ?_, ?_, ?_, ?_, ?_⟩
  · intro id t ht
    obtain ⟨bytes, -, hread, hcount⟩ := hnext.active id t ht
    exact ⟨bytes, hread, hcount⟩
  · intro id t _ ht
    constructor
    · rintro ⟨path, hok⟩
      by_contra hshort
      obtain ⟨e, herr⟩ := r.staging.finishReceive_short .none ht hshort
      rw [herr] at hok
      cases hok
    · intro hdone
      rw [Staging.finishReceive_ok .none rfl ht hdone (h.sound.present id t ht)]
      exact ⟨_, rfl⟩
  · rintro id path rfl hok
    rcases r.staging.finishReceive_cases .none id with ⟨e, herr⟩ | ⟨t, ht, -, -, heq⟩
    · rw [herr] at hok
      cases hok
    · rw [heq] at hok
      cases hok
      obtain ⟨bytes, hbytes, hread, -⟩ := h.active id t ht
      refine ⟨bytes, hbytes, ?_⟩
      show (r.staging.finishReceive .none id).2.files.read _ = some bytes
      rw [heq]
      exact Files.read_rename_target hread
  -- another transfer's file, then a stored one, is outside the frame
  · intro id t hne ht
    exact hframe.files _ (h.sound.present id t ht) (h.sound.notOwn hne ht)
  · intro path hpath
    obtain ⟨bytes, hbytes⟩ := Option.isSome_iff_exists.mp hpath
    obtain ⟨hread, hnot⟩ := h.stored path bytes hbytes
    exact hframe.files path (Files.has_eq_true.mpr ⟨bytes, hread⟩) (hnot c.id)

/-- Whatever calls come in, in whatever order and for whatever transfers and
    peer file names, the engine keeps its ledger: on files that never fail, that
    nobody else touches and that have a free name for every finish. -/
theorem engine_keeps_ledger (saveDir : String) (files : LocalFiles) (calls : List EngineCall)
    (hroom : AllSteps step (fun r c => r.staging.HasRoom .none c) (start saveDir files) calls) :
    AllSteps step Correct (start saveDir files) calls :=
  allSteps_of_invariant
    (show Refines (start saveDir files).staging (start saveDir files).ledger from
      Refines.idle saveDir files) (fun _ _ h hc => h.step hc)
    (fun _ _ h hc => correct_of_refines h hc) hroom

/-- Two transfers at once, the second with the staging name of the first. -/
def twoReceives : List EngineCall :=
  [.startReceive { transferId := "t1", deviceId := "phone", fileName := "a", fileSize := 3 },
   .startReceive
     { transferId := "t2", deviceId := "phone", fileName := "../a.handfast-part"
       fileSize := unknownSize },
   .writeChunk "t1" [1, 2], .writeChunk "t2" [9], .finishReceive "t2",
   .writeChunk "t1" [3], .finishReceive "t1"]

theorem engine_keeps_ledger_twoReceives : AllSteps step Correct (start "/d" .empty) twoReceives :=
  engine_keeps_ledger "/d" .empty twoReceives (by decide)

/-- Both files arrive, the second under a numbered name. -/
example : (run step (start "/d" .empty) twoReceives).staging.files.read "/d/a" =
    some [1, 2, 3] := by decide

example : (run step (start "/d" .empty) twoReceives).staging.files.read
    "/d/a (1).handfast-part" = some [9] := by decide

end Recorded

end Handfast.Daemon
