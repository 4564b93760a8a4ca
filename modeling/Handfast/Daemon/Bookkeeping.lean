/-
  Handfast.Daemon.Bookkeeping

  The books of the staging engine when file operations fail.  Each entry has a
  counter, which should be the length of its staging file, and each staging
  file the engine has made should have an entry until it is finished or
  removed.  `Books` is the engine with the list of those files.

  Besides the four updates that go through, a call can tear an append, which
  leaves bytes that are not counted, and lose a removal, which forgets the entry
  and keeps the file (`Staging.Did`).  Whether the books survive a call is
  decided before it is made, by the operations that will fail and by what is in
  the books and in the directory (`Harmless`).  As long as they hold, a finish
  that succeeds yields a file of the declared size.
-/
import Handfast.Daemon.Staging

namespace Handfast.Daemon

open Handfast.Lib Handfast.Protocol Handfast.Core

/-! ## The books -/

/-- The engine and the staging files it has created and neither finished nor
    removed. -/
structure Books where
  staging : Staging
  created : List String

namespace Books

def settled (b : Books) : EngineCall → List String
  | .startReceive info => b.staging.partPathOf info.fileName :: b.created
  | .writeChunk _ _ => b.created
  | .finishReceive id | .abort id =>
    match b.staging.incoming.get id with
    | some t => b.created.filter fun path => path ≠ t.partPath
    | none => b.created

/-- The books after a call that returned `answer` and left `s'`. -/
def after (b : Books) (c : EngineCall) (answer : EngineAnswer) (s' : Staging) : Books where
  staging := s'
  created := if answer.isOk then b.settled c else b.created

def step (b : Books) (a : Faults × EngineCall) : Books :=
  b.after a.2 (b.staging.call a.1 a.2).1 (b.staging.call a.1 a.2).2

def opened (saveDir : String) (files : LocalFiles) : Books where
  staging := .idle saveDir files
  created := []

variable {b : Books} {a : Faults × EngineCall}

structure Booked (b : Books) : Prop where
  /-- The counter of an entry is the length of its staging file. -/
  counted : ∀ id t, b.staging.incoming.get id = some t →
    ∃ bytes, b.staging.files.read t.partPath = some bytes ∧ t.received = bytes.length
  /-- A staging file that was created has an entry. -/
  entered : ∀ path ∈ b.created, ∃ id, b.staging.Stages id path

/-- Entries have a file each, and it is one the engine created. -/
structure Tracked (b : Books) : Prop where
  sound : b.staging.Sound
  created : ∀ id path, b.staging.Stages id path → path ∈ b.created

/-- The call will not spoil the books, by the state before it and the operations that fail. -/
def Harmless (b : Books) : Faults × EngineCall → Prop
  | (_, .startReceive _) => True
  -- an append that fails leaves no bytes in the staging file
  | (io, .writeChunk id data) => ∀ t rest, b.staging.Torn io id data t rest → rest = []
  -- a finish that finds no free name does not replace a staging file of another length
  | (io, .finishReceive id) => ∀ t, b.staging.incoming.get id = some t → Staging.Complete t →
      io.rename = none → ¬ HasFreeName (b.staging.taken io) b.staging.saveDir t.finalName →
      ∀ id' t', id' ≠ id → b.staging.incoming.get id' = some t' →
        t'.partPath = joinPath b.staging.saveDir t.finalName → t'.received = t.received
  -- the file of an aborted transfer is removed
  | (io, .abort id) => b.staging.incoming.get id = none ∨ io.remove = none

/-- A finish that succeeds on a known size yields a file of that size. -/
def FinishExact (b : Books) (a : Faults × EngineCall) : Prop :=
  ∀ id t path, a.2 = .finishReceive id → b.staging.incoming.get id = some t →
    t.info.fileSize ≠ unknownSize → (b.staging.finishReceive a.1 id).1 = .ok path →
    ∃ bytes, (b.step a).staging.files.read path = some bytes ∧ bytes.length = t.info.fileSize

/-! ## One call -/

variable {io : Faults} {c : EngineCall} {answer : EngineAnswer} {s' : Staging}
  {t : IncomingTransfer} {id path : String} {data : Bytes}

/-- A call that fails without effect leaves the books as they are. -/
theorem after_failed (h : answer.isOk = false) : b.after c answer b.staging = b := by
  simp [after, h]

/-- Entries keep a file each, whatever the engine answers. -/
theorem Tracked.after (h : Tracked b) (hdid : b.staging.Did io c answer s') :
    Tracked (b.after c answer s') := by
  refine ⟨hdid.sound h.sound, ?_⟩
  rintro id' path ⟨t', ht', rfl⟩
  -- entries of other transfers keep their place when `t` is struck off
  have hother : ∀ {id t}, b.staging.incoming.get id = some t →
      (b.staging.incoming.remove id).get id' = some t' →
      t'.partPath ∈ b.created ∧ t'.partPath ≠ t.partPath := by
    intro id t ht hget
    obtain ⟨hid, hold⟩ := Table.of_get_remove hget
    exact ⟨h.created id' _ ⟨t', hold, rfl⟩, h.sound.apart id' id t' t hold ht hid⟩
  cases hdid with
  | failed hfail _ =>
    rw [after_failed hfail]
    exact h.created id' _ ⟨t', ht', rfl⟩
  | @started info hid hfree =>
    rcases Table.of_get_insert ht' with ⟨-, rfl⟩ | ⟨-, hold⟩
    · exact List.mem_cons_self
    · exact List.mem_cons_of_mem _ (h.created id' _ ⟨t', hold, rfl⟩)
  | torn ht _ _ => exact h.created id' _ ⟨t', ht', rfl⟩
  | @extended id data t ht _ _ =>
    rcases Table.of_get_insert ht' with ⟨-, rfl⟩ | ⟨-, hold⟩
    · exact h.created id _ ⟨t, ht, rfl⟩
    · exact h.created id' _ ⟨t', hold, rfl⟩
  | moved ht _ _ =>
    have hkept := hother ht ht'
    simpa [Books.after, EngineAnswer.isOk, settled, ht, Except.isOk, Except.toBool] using hkept
  | lost ht _ => exact (hother ht ht').1
  | dropped ht _ =>
    have hkept := hother ht ht'
    simpa [Books.after, EngineAnswer.isOk, settled, ht, Except.isOk, Except.toBool] using hkept

/-- A path the engine created is staged by an entry that is still there. -/
theorem Booked.entered_of_ne (hb : Booked b) (ht : b.staging.incoming.get id = some t)
    (hpath : path ∈ b.created) (hne : path ≠ t.partPath) :
    ∃ id', id' ≠ id ∧ b.staging.Stages id' path := by
  obtain ⟨id', t', ht', hpath'⟩ := hb.entered path hpath
  refine ⟨id', ?_, t', ht', hpath'⟩
  rintro rfl
  obtain rfl : t = t' := Option.some.inj (ht.symm.trans ht')
  exact hne hpath'.symm

/-- The name is free, so the new part file belongs to nobody else. -/
theorem Booked.started {info : TransferMeta} (hb : Booked b) (hi : Tracked b)
    (hid : b.staging.incoming.get info.transferId = none)
    (hfree : b.staging.files.has (b.staging.partPathOf info.fileName) = false) :
    Booked (b.after (.startReceive info) (.started (.ok ())) (b.staging.started info)) := by
  constructor
  · intro id' t' ht'
    rcases Table.of_get_insert ht' with ⟨-, rfl⟩ | ⟨-, hold⟩
    · exact ⟨[], by simp [after, Staging.started, Staging.freshEntry], rfl⟩
    · obtain ⟨bytes, hread, hcount⟩ := hb.counted id' t' hold
      have hne := Files.ne_of_has (hi.sound.present id' t' hold) hfree
      exact ⟨bytes, by simpa [after, Staging.started, hne] using hread, hcount⟩
  · intro path hpath
    rcases List.mem_cons.mp hpath with rfl | hpath
    · exact ⟨info.transferId, b.staging.freshEntry info,
        by simp [after, Staging.started], rfl⟩
    · obtain ⟨id', t', ht', hpath'⟩ := hb.entered path hpath
      have hne : id' ≠ info.transferId := by
        rintro rfl
        rw [hid] at ht'
        cases ht'
      exact ⟨id', t', by simpa [after, Staging.started, hne] using ht', hpath'⟩

theorem Booked.extended (hb : Booked b) (hi : Tracked b) (ht : b.staging.incoming.get id = some t) :
    Booked (b.after (.writeChunk id data) (.wrote (.ok (t.received + data.length)))
      (b.staging.extended id t data)) := by
  constructor
  · intro id' t' ht'
    rcases Table.of_get_insert ht' with ⟨-, rfl⟩ | ⟨heq, hold⟩
    · obtain ⟨bytes, hread, hcount⟩ := hb.counted id t ht
      exact ⟨bytes ++ data, Files.read_append_self hread, by simp [hcount]⟩
    · obtain ⟨bytes, hread, hcount⟩ := hb.counted id' t' hold
      have hne := hi.sound.apart id' id t' t hold ht heq
      exact ⟨bytes, (Files.read_append_of_ne hne).trans hread, hcount⟩
  · intro path hpath
    obtain ⟨id', t', ht', hpath'⟩ := hb.entered path hpath
    by_cases heq : id' = id
    · subst heq
      obtain rfl : t = t' := Option.some.inj (ht.symm.trans ht')
      exact ⟨id', { t with received := t.received + data.length },
        by simp [after, Staging.extended], hpath'⟩
    · exact ⟨id', t', by simpa [after, Staging.extended, heq] using ht', hpath'⟩

theorem Booked.dropped (hb : Booked b) (hi : Tracked b) (ht : b.staging.incoming.get id = some t) :
    Booked (b.after (.abort id) (.aborted (.ok ())) (b.staging.dropped id t)) := by
  constructor
  · intro id' t' ht'
    obtain ⟨heq, hold⟩ := Table.of_get_remove ht'
    obtain ⟨bytes, hread, hcount⟩ := hb.counted id' t' hold
    have hne := hi.sound.apart id' id t' t hold ht heq
    exact ⟨bytes, by simpa [after, Staging.dropped, hne] using hread, hcount⟩
  · intro path hpath
    obtain ⟨hmem, hne⟩ : path ∈ b.created ∧ path ≠ t.partPath := by
      simpa [after, EngineAnswer.isOk, settled, ht, Except.isOk, Except.toBool] using hpath
    obtain ⟨id', hid', t', ht', hpath'⟩ := hb.entered_of_ne ht hmem hne
    exact ⟨id', t', by simpa [after, Staging.dropped, hid'] using ht', hpath'⟩

/-- The destination of a finish is somebody's staging file only if no name is free. -/
theorem Tracked.destination_staged (hi : Tracked b) (ht : b.staging.incoming.get id = some t)
    {name : String} :
    t.partPath = b.staging.destination io name ↔
      ¬ HasFreeName (b.staging.taken io) b.staging.saveDir name ∧
        t.partPath = joinPath b.staging.saveDir name := by
  by_cases hfree : HasFreeName (b.staging.taken io) b.staging.saveDir name
  · refine iff_of_false (fun hpath => ?_) fun h => h.1 hfree
    have htaken := freeDestination_free hfree
    rw [← Staging.destination, ← hpath, Staging.taken, hi.sound.present id t ht] at htaken
    simp at htaken
  · rw [Staging.destination, (freeDestination_taken hfree).1]
    exact ⟨fun hpath => ⟨hfree, hpath⟩, And.right⟩

/-- A finished file replaces what is at its destination; the books notice if that
    is a staging file of another length. -/
theorem Booked.moved_iff (hb : Booked b) (hi : Tracked b)
    (ht : b.staging.incoming.get id = some t) :
    Booked (b.after (.finishReceive id) (.finished (.ok path)) (b.staging.moved id t path)) ↔
      ∀ id' t', id' ≠ id → b.staging.incoming.get id' = some t' → t'.partPath = path →
        t'.received = t.received := by
  obtain ⟨bytes, hread, hcount⟩ := hb.counted id t ht
  constructor
  · intro h id' t' hid' ht' hpath
    obtain ⟨found, hfound, hlen⟩ :=
      h.counted id' t' (by simpa [after, Staging.moved, hid'] using ht')
    have htarget : (b.staging.files.rename t.partPath path).read t'.partPath = some bytes :=
      hpath ▸ Files.read_rename_target hread
    obtain rfl : bytes = found := Option.some.inj (htarget.symm.trans hfound)
    rw [hlen, hcount]
  · intro h
    constructor
    · intro id' t' ht'
      obtain ⟨heq, hold⟩ := Table.of_get_remove ht'
      by_cases hpath : t'.partPath = path
      -- the file that was replaced is now the other's
      · refine ⟨bytes, hpath ▸ Files.read_rename_target hread, ?_⟩
        rw [h id' t' heq hold hpath, hcount]
      · obtain ⟨found, hfound, hlen⟩ := hb.counted id' t' hold
        have hne := hi.sound.apart id' id t' t hold ht heq
        exact ⟨found, (Files.read_rename_of_ne hne hpath).trans hfound, hlen⟩
    · intro path' hpath'
      obtain ⟨hmem, hne⟩ : path' ∈ b.created ∧ path' ≠ t.partPath := by
        simpa [after, EngineAnswer.isOk, settled, ht, Except.isOk, Except.toBool] using hpath'
      obtain ⟨id', hid', t', ht', hstaged⟩ := hb.entered_of_ne ht hmem hne
      exact ⟨id', t', by simpa [after, Staging.moved, hid'] using ht', hstaged⟩

/-- Bytes that an append left behind are not counted. -/
theorem Booked.torn_iff {rest : Bytes} {e : Error} (hb : Booked b)
    (ht : b.staging.incoming.get id = some t) :
    Booked (b.after (.writeChunk id data) (.wrote (.error e))
        { b.staging with files := b.staging.files.append t.partPath rest }) ↔ rest = [] := by
  obtain ⟨bytes, hread, hcount⟩ := hb.counted id t ht
  have happend : (b.staging.files.append t.partPath rest).read t.partPath = some (bytes ++ rest) :=
    Files.read_append_self hread
  constructor
  · intro h
    obtain ⟨found, hfound, hlen⟩ := h.counted id t ht
    obtain rfl : bytes ++ rest = found := Option.some.inj (happend.symm.trans hfound)
    rw [← List.length_eq_zero_iff]
    rw [List.length_append] at hlen
    omega
  · rintro rfl
    refine ⟨fun id' t' ht' => ?_, hb.entered⟩
    obtain ⟨found, hfound, hlen⟩ := hb.counted id' t' ht'
    refine ⟨found, ?_, hlen⟩
    by_cases hpath : t'.partPath = t.partPath
    · rw [hpath, hread] at hfound
      rw [hpath, ← hfound]
      exact happend.trans (by rw [List.append_nil])
    · exact (Files.read_append_of_ne hpath).trans hfound

/-- A file whose entry is forgotten is never found again. -/
theorem Tracked.not_booked_lost {e : Error} (hi : Tracked b)
    (ht : b.staging.incoming.get id = some t) :
    ¬ Booked (b.after (.abort id) (.aborted (.error e))
      { b.staging with incoming := b.staging.incoming.remove id }) := by
  intro h
  obtain ⟨id', t', ht', hpath⟩ := h.entered t.partPath (hi.created id _ ⟨t, ht, rfl⟩)
  obtain ⟨heq, hold⟩ := Table.of_get_remove ht'
  exact hi.sound.apart id' id t' t hold ht heq hpath

/-- After a finish the books are right exactly if it replaces no staging file of another length. -/
theorem Booked.finish_iff (hb : Booked b) (hi : Tracked b) (io : Faults) (id : String) :
    Booked (b.step (io, .finishReceive id)) ↔ Harmless b (io, .finishReceive id) := by
  rcases b.staging.finishReceive_cases io id with ⟨e, h⟩ | ⟨t, ht, hfile, hdone, h⟩
  · -- with an entry that is complete only the rename can have failed
    simp only [step, Staging.call, h, Prod.map]
    rw [after_failed rfl]
    refine iff_of_true hb fun t ht hdone hio => ?_
    rw [Staging.finishReceive_ok io hio ht hdone (hi.sound.present id t ht)] at h
    cases h
  · simp only [step, Staging.call, h, Prod.map]
    rw [hb.moved_iff hi ht]
    constructor
    · intro hlen t₀ ht₀ _ _ hnone id' t' hid' ht' hpath
      obtain rfl : t = t₀ := Option.some.inj (ht.symm.trans ht₀)
      exact hlen id' t' hid' ht' ((hi.destination_staged ht').mpr ⟨hnone, hpath⟩)
    · intro hlen id' t' hid' ht' hpath
      obtain ⟨hnone, hpath⟩ := (hi.destination_staged ht').mp hpath
      exact hlen t ht hdone (Staging.finishReceive_renames h) hnone id' t' hid' ht' hpath

/-- **The books survive exactly the harmless calls.** -/
theorem Booked.step_iff (hb : Booked b) (hi : Tracked b) (a : Faults × EngineCall) :
    Booked (b.step a) ↔ Harmless b a := by
  obtain ⟨io, c⟩ := a
  cases c with
  | startReceive info =>
    rcases b.staging.startReceive_cases io info with ⟨e, h⟩ | ⟨hid, hfree, h⟩
    · simp only [step, Staging.call, h, Prod.map, id_eq]
      exact iff_of_true (by rwa [after_failed rfl]) trivial
    · simp only [step, Staging.call, h, Prod.map, id_eq]
      exact iff_of_true (hb.started hi hid hfree) trivial
  | writeChunk id data =>
    rcases b.staging.writeChunk_cases io id data with
      ⟨e, h, hnot⟩ | ⟨e, t, rest, htorn, h⟩ | ⟨t, ht, hfile, hsize, hio, h⟩
    · simp only [step, Staging.call, h, Prod.map]
      exact iff_of_true (by rwa [after_failed rfl]) fun t rest htorn => absurd htorn (hnot t rest)
    · simp only [step, Staging.call, h, Prod.map]
      rw [hb.torn_iff htorn.entry]
      refine ⟨fun hrest t' rest' htorn' => ?_, fun h => h t rest htorn⟩
      -- both are what was written before the one failure
      obtain ⟨written, msg, hio, rfl⟩ := htorn.fails
      obtain ⟨written', msg', hio', rfl⟩ := htorn'.fails
      cases hio.symm.trans hio'
      exact hrest
    · simp only [step, Staging.call, h, Prod.map]
      refine iff_of_true (hb.extended hi ht) fun t' rest htorn => ?_
      obtain ⟨written, msg, happend, -⟩ := htorn.fails
      simp [hio] at happend
  | finishReceive id => exact hb.finish_iff hi io id
  | abort id =>
    rcases b.staging.abort_cases io id with ⟨hnone, h⟩ | ⟨t, ht, ⟨msg, hio, h⟩ | ⟨hio, h⟩⟩
    · simp only [step, Staging.call, h, Prod.map]
      exact iff_of_true (by rwa [after_failed rfl]) (.inl hnone)
    · simp only [step, Staging.call, h, Prod.map]
      exact iff_of_false (hi.not_booked_lost ht) (by simp [Harmless, ht, hio])
    · simp only [step, Staging.call, h, Prod.map]
      exact iff_of_true (hb.dropped hi ht) (.inr hio)

theorem Tracked.step (h : Tracked b) (a : Faults × EngineCall) : Tracked (b.step a) :=
  h.after (b.staging.call_did a.1 a.2)

/-- While the books are right, what is finished has the size it was announced with. -/
theorem Booked.finishExact (hb : Booked b) (a : Faults × EngineCall) : FinishExact b a := by
  intro id t path hcall ht hknown hok
  obtain ⟨bytes, hread, hcount⟩ := hb.counted id t ht
  rcases b.staging.finishReceive_cases a.1 id with ⟨e, h⟩ | ⟨t₀, ht₀, -, hdone, h⟩
  · rw [h] at hok
    cases hok
  · obtain rfl : t = t₀ := Option.some.inj (ht.symm.trans ht₀)
    rw [h] at hok
    cases hok
    have hstep : (b.step a).staging =
        b.staging.moved id t (b.staging.destination a.1 t.finalName) := by
      rw [Books.step, hcall]
      simp only [Books.after, Staging.call, h, Prod.map]
    refine ⟨bytes, ?_, ?_⟩
    · rw [hstep]
      exact Files.read_rename_target hread
    · rw [← hcount, hdone.resolve_left hknown]

theorem opened_tracked (saveDir : String) (files : LocalFiles) : Tracked (opened saveDir files) :=
  ⟨Staging.idle_sound saveDir files, fun _ _ ⟨_, h, _⟩ => by cases h⟩

theorem opened_booked (saveDir : String) (files : LocalFiles) : Booked (opened saveDir files) :=
  ⟨fun _ _ h => (by cases h), fun _ h => (by cases h)⟩

/-- **Bookkeeping under I/O errors.** For every sequence of calls with any file
    operations failing: the books are right after every call, and every finish of
    a known size exact, if and only if every call is harmless. -/
theorem books_survive_iff_harmless (saveDir : String) (files : LocalFiles)
    (calls : List (Faults × EngineCall)) :
    AllStates step Booked (opened saveDir files) calls ∧
        AllSteps step FinishExact (opened saveDir files) calls ↔
      AllSteps step Harmless (opened saveDir files) calls := by
  have hiff : AllStates step Booked (opened saveDir files) calls ↔
      AllSteps step Harmless (opened saveDir files) calls :=
    allStates_iff_allSteps Tracked (opened_tracked saveDir files) (opened_booked saveDir files)
      (fun b a hi => hi.step a)
      (fun b a hi hb => hb.step_iff hi a)
  rw [← hiff]
  exact ⟨And.left, fun h => ⟨h, h.allSteps fun b a hb => hb.finishExact a⟩⟩

/-- A disk that fills up after the first byte of a chunk. -/
def diskFull : Faults :=
  { Faults.none with append := some (1, "No space left on device (os error 28)") }

/-- A chunk of two bytes is torn after the first, sent again and finished: the
    finish succeeds on a file of three bytes.  And an abort that cannot remove the
    staging file leaves it without an entry. -/
theorem torn_append_breaks_books :
    (let calls := [(Faults.none, EngineCall.startReceive ⟨"t1", "peer", "a.txt", 2⟩),
        (diskFull, .writeChunk "t1" [1, 2]), (.none, .writeChunk "t1" [1, 2])]
      let b := run step (opened "/d" .empty) calls
      (b.staging.finishReceive .none "t1").1 = .ok "/d/a.txt" ∧
        (b.staging.finishReceive .none "t1").2.files.read "/d/a.txt" = some [1, 1, 2] ∧
        ¬ AllStates step Booked (opened "/d" .empty) calls ∧
        ¬ AllSteps step FinishExact (opened "/d" .empty)
          (calls ++ [(.none, .finishReceive "t1")])) ∧
      ¬ AllStates step Booked (opened "/d" .empty)
        [(.none, .startReceive ⟨"t1", "peer", "a.txt", 2⟩),
          ({ Faults.none with remove := some "Permission denied (os error 13)" },
            .abort "t1")] := by
  refine ⟨⟨by decide, by decide, fun h => ?_, fun h => ?_⟩, fun h => ?_⟩
  · obtain ⟨bytes, hread, hcount⟩ := h.last.counted "t1"
      ⟨⟨"t1", "peer", "a.txt", 2⟩, "a.txt", "/d/a.txt.handfast-part", 2⟩ (by decide)
    -- the torn byte is in the file but not in the count
    have hthree : bytes = [1, 1, 2] := Option.some.inj (hread.symm.trans (by decide))
    rw [hthree] at hcount
    exact absurd hcount (by decide)
  · obtain ⟨bytes, hread, hsize⟩ := (allSteps_append.mp h).2.1 "t1"
      ⟨⟨"t1", "peer", "a.txt", 2⟩, "a.txt", "/d/a.txt.handfast-part", 2⟩ "/d/a.txt" rfl (by decide)
      (by decide) (by decide)
    have hthree : bytes = [1, 1, 2] := Option.some.inj (hread.symm.trans (by decide))
    rw [hthree] at hsize
    exact absurd hsize (by decide)
  · have htracked := (opened_tracked "/d" .empty).step
      (.none, .startReceive ⟨"t1", "peer", "a.txt", 2⟩)
    exact htracked.not_booked_lost
      (t := ⟨⟨"t1", "peer", "a.txt", 2⟩, "a.txt", "/d/a.txt.handfast-part", 0⟩)
      (by decide) h.last

end Books

end Handfast.Daemon
