/-
  Handfast.Daemon.Restart

  Receives across a crash of the daemon (`crates/daemon/src/transfer.rs`).

  A crash loses the table of the engine and keeps the files.  A call that the
  crash interrupts has left the files as they were before it or as they are
  after it, or part of the data of an append: the same call with suitable
  `Faults` does that, so it is enough to let the daemon crash between calls.
  `Manager::new` builds the next engine over the same directory and removes
  nothing.

  Starting to receive creates the staging file exclusively.  So a file of that
  name can be received again exactly if no staging file was left
  (`resends_iff`), and each transfer the crash interrupts leaves one.
-/
import Handfast.Daemon.Containment

namespace Handfast.Daemon

open Handfast.Lib Handfast.Protocol Handfast.Core

inductive Happening where
  | call (io : Faults) (c : EngineCall)
  | crash

namespace Staging

/-- A fresh engine on the same save directory. -/
def restart (s : Staging) : Staging := idle s.saveDir s.files

def happen (s : Staging) : Happening → Staging
  | .call io c => (s.call io c).2
  | .crash => s.restart

variable {s : Staging} {dir : String} {id : String} {t : IncomingTransfer} {info : TransferMeta}
  {chunks : List Bytes}

/-- The state of the engine in every life of the daemon: its entries have files of their own
    and carry the names they were started with. -/
structure Kept (dir : String) (s : Staging) : Prop where
  sound : s.Sound
  named : s.Named dir

theorem kept_idle (dir : String) (files : LocalFiles) : Kept dir (idle dir files) :=
  ⟨idle_sound dir files, named_idle dir files⟩

theorem Kept.happen (h : Kept dir s) (x : Happening) : Kept dir (s.happen x) := by
  cases x with
  | call io c => exact ⟨h.sound.call io c, h.named.call io c⟩
  | crash =>
    have hdir : s.saveDir = dir := h.named.saveDir
    rw [Staging.happen, restart, hdir]
    exact kept_idle dir s.files

theorem kept_run (dir : String) (files : LocalFiles) (history : List Happening) :
    Kept dir (run happen (idle dir files) history) :=
  (allStates_of_preserved (kept_idle dir files) fun _ x h => h.happen x).last

/-! ## Receiving a file -/

/-- The chunks can be the payload of a file that was announced like this. -/
structure Payload (info : TransferMeta) (chunks : List Bytes) : Prop where
  small : ∀ chunk ∈ chunks, chunk.length ≤ chunkSize
  /-- Not more than announced. -/
  le : chunks.flatten.length ≤ info.fileSize
  /-- All of it, if a size was announced. -/
  all : info.fileSize = unknownSize ∨ chunks.flatten.length = info.fileSize

def receiveCalls (info : TransferMeta) (chunks : List Bytes) : List EngineCall :=
  .startReceive info ::
    (chunks.map (EngineCall.writeChunk info.transferId) ++ [.finishReceive info.transferId])

/-- Without trouble on the disk, a receive of the file is accepted and every payload that
    arrives for it is stored. -/
def Receives (s : Staging) (info : TransferMeta) : Prop :=
  (s.startReceive .none info).1 = .ok () ∧
    ∀ chunks, Payload info chunks →
      AllSteps (fun s c => (s.call .none c).2) (fun s c => (s.call .none c).1.isOk = true) s
        (receiveCalls info chunks)

/-- Chunk after chunk is appended, and then the file is moved. -/
theorem chunks_stored (ht : s.incoming.get id = some t) (hfile : s.files.has t.partPath = true)
    (hsmall : ∀ chunk ∈ chunks, chunk.length ≤ chunkSize)
    (hle : t.received + chunks.flatten.length ≤ t.info.fileSize)
    (hall : t.info.fileSize = unknownSize ∨
      t.received + chunks.flatten.length = t.info.fileSize) :
    AllSteps (fun s c => (s.call .none c).2) (fun s c => (s.call .none c).1.isOk = true) s
      (chunks.map (EngineCall.writeChunk id) ++ [.finishReceive id]) := by
  induction chunks generalizing s t with
  | nil =>
    have hdone : Complete t := by simpa [Complete] using hall
    rw [List.map_nil, List.nil_append, allSteps_cons, call,
      finishReceive_ok .none rfl ht hdone hfile]
    exact ⟨rfl, trivial⟩
  | cons chunk chunks ih =>
    obtain ⟨hfirst, hrest⟩ := List.forall_mem_cons.mp hsmall
    rw [List.flatten_cons, List.length_append, ← Nat.add_assoc] at hle hall
    have hwrite := writeChunk_ok ht hfirst (by omega) hfile
    rw [List.map_cons, List.cons_append, allSteps_cons, call, hwrite]
    refine ⟨rfl, ?_⟩
    -- the entry has counted the chunk and its file is still there
    have hnext : (s.extended id t chunk).incoming.get id =
        some { t with received := t.received + chunk.length } := by
      simp [extended]
    obtain ⟨old, hold⟩ := Files.has_eq_true.mp hfile
    have hstill : (s.extended id t chunk).files.has t.partPath = true :=
      Files.has_eq_true.mpr ⟨_, Files.read_append_self hold⟩
    exact ih hnext hstill hrest hle hall

/-- A fresh engine receives a file exactly if there is no file where it would be staged. -/
theorem receives_idle_iff (dir : String) (files : LocalFiles) (info : TransferMeta) :
    (idle dir files).Receives info ↔
      files.has ((idle dir files).partPathOf info.fileName) = false := by
  have hid : (idle dir files).incoming.get info.transferId = none := by simp [idle]
  constructor
  · rintro ⟨hstart, -⟩
    rcases (idle dir files).startReceive_cases .none info with ⟨e, herr⟩ | ⟨-, hfree, -⟩
    · rw [herr] at hstart
      cases hstart
    · exact hfree
  · intro hfree
    have hstart := startReceive_ok hid hfree
    refine ⟨by rw [hstart], fun chunks hpayload => ?_⟩
    rw [receiveCalls, allSteps_cons, call, hstart]
    refine ⟨rfl, ?_⟩
    have hentry : ((idle dir files).started info).incoming.get info.transferId =
        some ((idle dir files).freshEntry info) := by
      simp [started]
    have hfile : ((idle dir files).started info).files.has
        ((idle dir files).freshEntry info).partPath = true := by
      simp [started, freshEntry, Files.has]
    refine chunks_stored hentry hfile hpayload.small ?_ ?_
    · simpa [freshEntry] using hpayload.le
    · simpa [freshEntry] using hpayload.all

/-- **Resending after a crash.** After any history the daemon crashes and starts again.  A file
    is then received again exactly if nothing is left where it is staged; and of the files that
    were being received when it crashed, none is. -/
theorem resends_iff (dir : String) (files : LocalFiles) (history : List Happening) :
    let crashed := run happen (idle dir files) history
    (∀ info, crashed.restart.Receives info ↔
      crashed.files.has (crashed.partPathOf info.fileName) = false) ∧
    ∀ id t, crashed.incoming.get id = some t → ∀ info,
      sanitizeFileName info.fileName = sanitizeFileName t.info.fileName →
        ¬ crashed.restart.Receives info := by
  intro crashed
  have hexact : ∀ info, crashed.restart.Receives info ↔
      crashed.files.has (crashed.partPathOf info.fileName) = false :=
    fun info => receives_idle_iff crashed.saveDir crashed.files info
  refine ⟨hexact, fun id t ht info hname => ?_⟩
  -- the entry was staged under this name, and its file is on disk
  have hkept : Kept dir crashed := kept_run dir files history
  have hpresent := hkept.sound.present id t ht
  rw [hkept.named.partPath id t ht, partPathOf, ← hname] at hpresent
  rw [hexact, partPathOf, hpresent]
  decide

/-- A photo is being received when the daemon crashes; a file with another name can be sent
    afterwards, the photo cannot. -/
theorem resends_iff_photo :
    let photo : TransferMeta := ⟨"t1", "phone", "photo.jpg", 3⟩
    let crashed := run happen (idle "/d" .empty)
      [.call .none (.startReceive photo), .call .none (.writeChunk "t1" [7])]
    crashed.restart.Receives ⟨"t2", "phone", "other.jpg", 3⟩ ∧
      ¬ crashed.restart.Receives ⟨"t2", "phone", "photo.jpg", 3⟩ := by
  intro photo crashed
  obtain ⟨hexact, hblocked⟩ := resends_iff "/d" .empty
    [.call .none (.startReceive photo), .call .none (.writeChunk "t1" [7])]
  exact ⟨(hexact _).mpr (by decide +kernel),
    hblocked "t1" ⟨photo, "photo.jpg", "/d/photo.jpg.handfast-part", 1⟩ (by decide +kernel) _ rfl⟩

/-- The photo is refused: its staging file is still there. -/
theorem crash_blocks_photo :
    let photo : TransferMeta := ⟨"t1", "phone", "photo.jpg", 3⟩
    let crashed := run happen (idle "/d" .empty) [.call .none (.startReceive photo)]
    ¬ crashed.restart.Receives photo := by
  intro photo crashed h
  have hstart : (crashed.restart.startReceive .none photo).1 =
      .error (.io "File exists (os error 17)") := by
    decide +kernel
  cases hstart.symm.trans h.1

end Staging

end Handfast.Daemon
