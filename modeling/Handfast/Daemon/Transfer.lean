/-
  Handfast.Daemon.Transfer

  Inbound file-transfer staging (`crates/daemon/src/transfer.rs`): the engine
  that appends received chunks to a `.handfast-part` file and renames it to a
  free name when the transfer is complete.

  `Staging` is the engine together with the files its calls work on.  A call is
  atomic: the engine sits behind one lock, held for the whole call.  Each call
  takes a record of `Faults`, which says how the file operations it makes go;
  a failing append may have written part of its data.

  Counters are natural numbers: a file is shorter than `2^63` bytes, so the
  `u64` sums of the source are exact.
-/
import Handfast.Core.Bus
import Handfast.Lib.Files
import Handfast.Lib.Table
import Mathlib.Data.List.DropRight

namespace Handfast.Daemon

open Handfast.Lib Handfast.Protocol Handfast.Core

abbrev Bytes := List UInt8

abbrev LocalFiles := Files String UInt8

/-- How much of a payload stream is handed to the engine at a time. -/
def chunkSize : Nat := 64 * 1024

/-- Suffix of the staging file while a download is still incomplete. -/
def partSuffix : String := ".handfast-part"

/-- Fallback name when a peer sends something with no usable file name. -/
def fallbackName : String := "received-file"

/-- Maximum length (in chars) of a sanitized file name kept on disk. -/
def maxFileNameLen : Nat := 240

/-- How many numbered copies are tried before giving up on finding a free
    destination slot for a colliding file name. -/
def maxNameCollisions : Nat := 10000

/-! ## Names and paths -/

/-- `Path::join` of a directory and a bare name. -/
def joinPath (dir name : String) : String :=
  match dir.toList.getLast? with
  | none => name
  | some c => if c = '/' then dir ++ name else dir ++ "/" ++ name

/-- `Path::file_stem` and `Path::extension` of a bare name: the parts around the
    last dot, unless that dot comes first. -/
def splitExtension (name : String) : String × Option String :=
  let rev := name.toList.reverse
  match rev.dropWhile fun c => c ≠ '.' with
  | [] => (name, none)
  | _ :: before =>
    if before.isEmpty then (name, none)
    else (String.ofList before.reverse,
          some (String.ofList (rev.takeWhile fun c => c ≠ '.').reverse))

/-- The `n`-th numbered copy of a name, `stem (n).ext`. -/
def numberedName (name : String) (n : Nat) : String :=
  match splitExtension name with
  | (stem, some ext) => s!"{stem} ({n}).{ext}"
  | (stem, none) => s!"{stem} ({n})"

/-- Characters that are stripped because other systems reject them. -/
def cleanChar (c : Char) : Char :=
  if "<>:\"|?*".toList.contains c then '_'
  else if c.toNat < 0x20 ∨ c.toNat = 0x7f then '_'
  else c

/-- The last segment of a peer-supplied name that is not empty, `.` or `..`. -/
def pickSegment (raw : String) : Option (List Char) :=
  (raw.toList.splitOnP fun c => c = '/' || c = '\\').foldl
    (fun picked segment =>
      if segment = [] ∨ segment = ['.'] ∨ segment = ['.', '.'] then picked else some segment)
    none

/-- Reduce a peer-supplied file name to a safe bare component. -/
def sanitizeFileName (raw : String) : String :=
  let base := (pickSegment raw).getD fallbackName.toList
  let cleaned := base.map cleanChar
  let trimmed := cleaned.rdropWhile fun c => c = '.' || c = ' '
  let truncated := trimmed.take maxFileNameLen
  if truncated.isEmpty then fallbackName else String.ofList truncated

/-- Pick a not-yet-taken path inside `dir` for a file name: the plain name, else
    a numbered copy.  When all of them are taken it is the plain name again. -/
def freeDestination (taken : String → Bool) (dir name : String) : String :=
  let first := joinPath dir name
  if ¬ taken first then first
  else
    match (List.range' 1 (maxNameCollisions - 1)).find? fun n =>
        !taken (joinPath dir (numberedName name n)) with
    | some n => joinPath dir (numberedName name n)
    | none => first

/-! ## The engine -/

/-- Metadata describing a single file transfer. -/
structure TransferMeta where
  transferId : String
  deviceId : String
  fileName : String
  fileSize : Nat
  deriving DecidableEq, Repr

/-- Bookkeeping for one in-flight inbound transfer. -/
structure IncomingTransfer where
  info : TransferMeta
  /-- Sanitized bare file name used for the final destination. -/
  finalName : String
  /-- Staging file inside the save directory. -/
  partPath : String
  /-- Bytes appended so far. -/
  received : Nat
  deriving DecidableEq, Repr

/-- Manages file receive operations into a single save directory. -/
structure TransferEngine where
  saveDir : String
  incoming : Table String IncomingTransfer

structure Staging extends TransferEngine where
  files : LocalFiles

/-- How the file operations of one call go: for each the message it fails with,
    if it fails. -/
structure Faults where
  createDir : Option String
  create : Option String
  /-- Paths whose existence cannot be told. -/
  stat : String → Bool
  openPart : Option String
  /-- Also how many bytes were written before the failure. -/
  append : Option (Nat × String)
  rename : Option String
  remove : Option String

def Faults.none : Faults where
  createDir := .none
  create := .none
  stat := fun _ => false
  openPart := .none
  append := .none
  rename := .none
  remove := .none

namespace Staging

def partPathOf (s : Staging) (fileName : String) : String :=
  joinPath s.saveDir (sanitizeFileName fileName ++ partSuffix)

def unknownTransfer (id : String) : Error := .other s!"unknown transfer '{id}'"

/-- Begin receiving: create the staging file, exclusively. -/
def startReceive (s : Staging) (io : Faults) (info : TransferMeta) : Result Unit × Staging :=
  match s.incoming.get info.transferId with
  | some _ => (.error (.other s!"transfer '{info.transferId}' already active"), s)
  | none =>
    match io.createDir with
    | some msg => (.error (.io msg), s)
    | none =>
      let partPath := s.partPathOf info.fileName
      match io.create with
      | some msg => (.error (.io msg), s)
      | none =>
        if s.files.has partPath then (.error (.io "File exists (os error 17)"), s)
        else
          (.ok (),
           { s with
             files := s.files.put partPath []
             incoming := s.incoming.insert info.transferId
               { info, finalName := sanitizeFileName info.fileName, partPath
                 received := 0 } })

/-- Append `data` to the staging file of a transfer. -/
def writeChunk (s : Staging) (io : Faults) (id : String) (data : Bytes) :
    Result Nat × Staging :=
  if data.length > chunkSize then
    (.error (.other
      s!"chunk of {data.length} bytes exceeds CHUNK_SIZE ({chunkSize})"), s)
  else
    match s.incoming.get id with
    | none => (.error (unknownTransfer id), s)
    | some t =>
      -- a `u64`, whose sum overflows from 2 ^ 64 bytes on; shorter streams are exact here
      let totalAfter := t.received + data.length
      if totalAfter > t.info.fileSize then
        (.error (.other (s!"transfer '{id}' overflows declared size: " ++
          s!"{t.received} + {data.length} > {t.info.fileSize}")), s)
      else
        match io.openPart with
        | some msg => (.error (.io msg), s)
        | none =>
          if ¬ s.files.has t.partPath then
            (.error (.io "No such file or directory (os error 2)"), s)
          else
            match io.append with
            | some (written, msg) =>
              -- what was written before the failure stays in the file
              (.error (.io msg),
               { s with files := s.files.append t.partPath (data.take written) })
            | none =>
              (.ok totalAfter,
               { s with
                 files := s.files.append t.partPath data
                 incoming := s.incoming.insert id { t with received := totalAfter } })

/-- A path as `exists` sees it: trouble reads as "taken". -/
def taken (s : Staging) (io : Faults) (path : String) : Bool := io.stat path || s.files.has path

/-- Where `finish_receive` moves a file of this name. -/
def destination (s : Staging) (io : Faults) (finalName : String) : String :=
  freeDestination (s.taken io) s.saveDir finalName

/-- Finalize a transfer: rename its staging file to the final name. -/
def finishReceive (s : Staging) (io : Faults) (id : String) : Result String × Staging :=
  match s.incoming.get id with
  | none => (.error (unknownTransfer id), s)
  | some t =>
    if t.info.fileSize ≠ unknownSize ∧ t.received ≠ t.info.fileSize then
      (.error (.other
        s!"transfer '{id}' incomplete: {t.received}/{t.info.fileSize} bytes"), s)
    else
      let destination := s.destination io t.finalName
      match io.rename with
      | some msg => (.error (.io msg), s)
      | none =>
        if ¬ s.files.has t.partPath then
          (.error (.io "No such file or directory (os error 2)"), s)
        else
          (.ok destination,
           { s with
             files := s.files.rename t.partPath destination
             incoming := s.incoming.remove id })

/-- Cancel a transfer and delete its partial staging file. -/
def abort (s : Staging) (io : Faults) (id : String) : Result Unit × Staging :=
  match s.incoming.get id with
  | none => (.error (unknownTransfer id), s)
  | some t =>
    let forgotten := { s with incoming := s.incoming.remove id }
    match io.remove with
    | some msg => (.error (.io msg), forgotten)
    -- a file that is already gone is fine
    | none => (.ok (), { forgotten with files := s.files.remove t.partPath })

end Staging

/-! ## Names that are free -/

/-- The plain name or one of the numbered copies is free. -/
def HasFreeName (taken : String → Bool) (dir name : String) : Prop :=
  taken (joinPath dir name) = false ∨
    ∃ n, 1 ≤ n ∧ n < maxNameCollisions ∧ taken (joinPath dir (numberedName name n)) = false

instance (taken : String → Bool) (dir name : String) : Decidable (HasFreeName taken dir name) :=
  decidable_of_iff (taken (joinPath dir name) = false ∨
    (List.range' 1 (maxNameCollisions - 1)).any (fun n =>
      !taken (joinPath dir (numberedName name n))) = true) (by
    rw [List.any_eq_true]
    refine or_congr Iff.rfl (exists_congr fun n => ?_)
    rw [List.mem_range'_1, Bool.not_eq_true', and_assoc]
    have hmax : 1 + (maxNameCollisions - 1) = maxNameCollisions := by decide
    rw [hmax])

variable {taken : String → Bool} {dir name : String}

theorem freeDestination_free
    (h : HasFreeName taken dir name) : taken (freeDestination taken dir name) = false := by
  unfold freeDestination
  by_cases hfirst : taken (joinPath dir name) = false
  · simp [hfirst]
  · obtain ⟨n, hlo, hhi, hn⟩ := h.resolve_left hfirst
    cases hfind : (List.range' 1 (maxNameCollisions - 1)).find? fun n =>
        !taken (joinPath dir (numberedName name n)) with
    | some k =>
      have hk := List.find?_some hfind
      simpa [hfirst] using hk
    | none =>
      -- the search went past `n`, which is free
      have hmem : n ∈ List.range' 1 (maxNameCollisions - 1) := by
        rw [List.mem_range'_1]
        omega
      have htaken := List.find?_eq_none.mp hfind n hmem
      simp [hn] at htaken

/-- Without one it is the plain name, which is taken. -/
theorem freeDestination_taken (h : ¬ HasFreeName taken dir name) :
    freeDestination taken dir name = joinPath dir name ∧ taken (joinPath dir name) = true := by
  have hfirst : taken (joinPath dir name) = true := by
    rw [← Bool.not_eq_false]
    exact fun hfree => h (.inl hfree)
  refine ⟨?_, hfirst⟩
  unfold freeDestination
  have hnone : ((List.range' 1 (maxNameCollisions - 1)).find? fun n =>
      !taken (joinPath dir (numberedName name n))) = none := by
    rw [List.find?_eq_none]
    intro n hn
    rw [List.mem_range'_1] at hn
    have htaken : taken (joinPath dir (numberedName name n)) ≠ false :=
      fun hfree => h (.inr ⟨n, by omega, by omega, hfree⟩)
    simpa using htaken
  simp [hfirst, hnone]

namespace Staging

variable {s : Staging} {io : Faults} {id : String} {t : IncomingTransfer} {data : Bytes}

/-! ## What a call does

Each call fails and leaves everything as it was, or makes one of the following
updates; later proofs start from these cases. -/

def freshEntry (s : Staging) (info : TransferMeta) : IncomingTransfer :=
  { info, finalName := sanitizeFileName info.fileName, partPath := s.partPathOf info.fileName
    received := 0 }

def started (s : Staging) (info : TransferMeta) : Staging :=
  { s with
    files := s.files.put (s.partPathOf info.fileName) []
    incoming := s.incoming.insert info.transferId (s.freshEntry info) }

def extended (s : Staging) (id : String) (t : IncomingTransfer) (data : Bytes) : Staging :=
  { s with
    files := s.files.append t.partPath data
    incoming := s.incoming.insert id { t with received := t.received + data.length } }

/-- The state after the staging file was moved to `path`. -/
def moved (s : Staging) (id : String) (t : IncomingTransfer) (path : String) : Staging :=
  { s with
    files := s.files.rename t.partPath path
    incoming := s.incoming.remove id }

def dropped (s : Staging) (id : String) (t : IncomingTransfer) : Staging :=
  { s with
    files := s.files.remove t.partPath
    incoming := s.incoming.remove id }

/-- A start is refused, or there was neither entry nor file and now there are both. -/
theorem startReceive_cases (s : Staging) (io : Faults) (info : TransferMeta) :
    (∃ e, s.startReceive io info = (.error e, s)) ∨
      s.incoming.get info.transferId = none ∧
        s.files.has (s.partPathOf info.fileName) = false ∧
        s.startReceive io info = (.ok (), s.started info) := by
  unfold startReceive
  cases hid : s.incoming.get info.transferId with
  | some t => exact .inl ⟨_, rfl⟩
  | none =>
    cases io.createDir with
    | some msg => exact .inl ⟨_, rfl⟩
    | none =>
      cases io.create with
      | some msg => exact .inl ⟨_, rfl⟩
      | none =>
        cases hfile : s.files.has (s.partPathOf info.fileName) with
        | true => exact .inl ⟨.io "File exists (os error 17)", by simp only [hfile, if_true]⟩
        | false =>
          exact .inr ⟨rfl, rfl, by simp only [hfile, Bool.false_eq_true, if_false]; rfl⟩

theorem startReceive_ok {info : TransferMeta} (hid : s.incoming.get info.transferId = none)
    (hfile : s.files.has (s.partPathOf info.fileName) = false) :
    s.startReceive .none info = (.ok (), s.started info) := by
  simp only [startReceive, hid, Faults.none, hfile, Bool.false_eq_true, if_false]
  rfl

/-- The append of a chunk is reached, and fails after `rest` of it was written. -/
structure Torn (s : Staging) (io : Faults) (id : String) (data : Bytes) (t : IncomingTransfer)
    (rest : Bytes) : Prop where
  short : data.length ≤ chunkSize
  entry : s.incoming.get id = some t
  fits : t.received + data.length ≤ t.info.fileSize
  opened : io.openPart = none
  file : s.files.has t.partPath = true
  fails : ∃ written msg, io.append = some (written, msg) ∧ data.take written = rest

/-- An append that is counted was within the declared size; one that fails may
    have left part of its data behind. -/
theorem writeChunk_cases (s : Staging) (io : Faults) (id : String) (data : Bytes) :
    (∃ e, s.writeChunk io id data = (.error e, s) ∧ ∀ t rest, ¬ s.Torn io id data t rest) ∨
    (∃ e t rest, s.Torn io id data t rest ∧ s.writeChunk io id data =
      (.error e, { s with files := s.files.append t.partPath rest })) ∨
    ∃ t, s.incoming.get id = some t ∧ s.files.has t.partPath = true ∧
      t.received + data.length ≤ t.info.fileSize ∧ io.append = none ∧
      s.writeChunk io id data = (.ok (t.received + data.length), s.extended id t data) := by
  unfold writeChunk
  by_cases hlen : data.length > chunkSize
  · exact .inl ⟨_, if_pos hlen, fun _ _ h => absurd h.short (Nat.not_le.mpr hlen)⟩
  rw [if_neg hlen]
  cases hid : s.incoming.get id with
  | none => exact .inl ⟨_, rfl, fun _ _ h => by simpa [hid] using h.entry⟩
  | some t =>
    -- the entry of a torn append is this one
    have hentry : ∀ {u rest}, s.Torn io id data u rest → t = u :=
      fun h => Option.some.inj (hid.symm.trans h.entry)
    by_cases hsize : t.received + data.length > t.info.fileSize
    · exact .inl ⟨_, if_pos hsize,
        fun _ _ h => absurd (hentry h ▸ h.fits) (Nat.not_le.mpr hsize)⟩
    simp only [if_neg hsize]
    cases hopen : io.openPart with
    | some msg => exact .inl ⟨_, rfl, fun _ _ h => by simpa [hopen] using h.opened⟩
    | none =>
      cases hfile : s.files.has t.partPath with
      | false =>
        refine .inl ⟨_, by simp only [Bool.false_eq_true, not_false_eq_true, if_true]; rfl, ?_⟩
        intro u rest h
        obtain rfl := hentry h
        simpa [hfile] using h.file
      | true =>
        cases happend : io.append with
        | some failure =>
          exact .inr (.inl ⟨_, t, data.take failure.1, ⟨Nat.le_of_not_lt hlen, hid,
            Nat.le_of_not_lt hsize, hopen, hfile, failure.1, failure.2, happend, rfl⟩, rfl⟩)
        | none => exact .inr (.inr ⟨t, rfl, hfile, Nat.le_of_not_lt hsize, rfl, rfl⟩)

theorem writeChunk_ok (hid : s.incoming.get id = some t) (hlen : data.length ≤ chunkSize)
    (hsize : t.received + data.length ≤ t.info.fileSize) (hfile : s.files.has t.partPath = true) :
    s.writeChunk .none id data = (.ok (t.received + data.length), s.extended id t data) := by
  simp only [writeChunk, if_neg (Nat.not_lt.mpr hlen), hid, if_neg (Nat.not_lt.mpr hsize),
    Faults.none, hfile, not_true_eq_false, if_false]
  rfl

/-- A chunk past the declared size is rejected. -/
theorem writeChunk_overflow (s : Staging) (io : Faults) (hid : s.incoming.get id = some t)
    (hsize : t.info.fileSize < t.received + data.length) :
    ∃ e, s.writeChunk io id data = (.error e, s) := by
  unfold writeChunk
  by_cases hlen : data.length > chunkSize
  · exact ⟨_, if_pos hlen⟩
  · rw [if_neg hlen, hid]
    exact ⟨_, if_pos hsize⟩

/-- The size of a transfer is unknown or has been received. -/
def Complete (t : IncomingTransfer) : Prop :=
  t.info.fileSize = unknownSize ∨ t.received = t.info.fileSize

/-- A finish is refused, or moves the complete file to its destination. -/
theorem finishReceive_cases (s : Staging) (io : Faults) (id : String) :
    (∃ e, s.finishReceive io id = (.error e, s)) ∨
      ∃ t, s.incoming.get id = some t ∧ s.files.has t.partPath = true ∧ Complete t ∧
        s.finishReceive io id =
          (.ok (s.destination io t.finalName), s.moved id t (s.destination io t.finalName)) := by
  unfold finishReceive
  cases hid : s.incoming.get id with
  | none => exact .inl ⟨_, rfl⟩
  | some t =>
    by_cases hshort : t.info.fileSize ≠ unknownSize ∧ t.received ≠ t.info.fileSize
    · exact .inl ⟨_, if_pos hshort⟩
    simp only [if_neg hshort]
    cases io.rename with
    | some msg => exact .inl ⟨_, rfl⟩
    | none =>
      cases hfile : s.files.has t.partPath with
      | false =>
        exact .inl ⟨_, by simp only [Bool.false_eq_true, not_false_eq_true, if_true]; rfl⟩
      | true =>
        refine .inr ⟨t, rfl, hfile, ?_, rfl⟩
        rw [Complete]
        tauto

theorem finishReceive_ok (io : Faults) (hio : io.rename = none)
    (hid : s.incoming.get id = some t) (hdone : Complete t)
    (hfile : s.files.has t.partPath = true) : s.finishReceive io id =
      (.ok (s.destination io t.finalName), s.moved id t (s.destination io t.finalName)) := by
  have hfull : ¬ (t.info.fileSize ≠ unknownSize ∧ t.received ≠ t.info.fileSize) := by
    rw [Complete] at hdone
    tauto
  simp only [finishReceive, hid, if_neg hfull, hio, hfile, not_true_eq_false, if_false]
  rfl

theorem finishReceive_renames {path : String} {s' : Staging}
    (h : s.finishReceive io id = (.ok path, s')) : io.rename = none := by
  cases hio : io.rename with
  | none => rfl
  | some msg =>
    unfold finishReceive at h
    split at h
    · cases h
    · split at h
      · cases h
      · simp [hio] at h

/-- A transfer that is short of its declared size is not finished. -/
theorem finishReceive_short (s : Staging) (io : Faults) (hid : s.incoming.get id = some t)
    (hshort : ¬ Complete t) :
    ∃ e, s.finishReceive io id = (.error e, s) := by
  rcases s.finishReceive_cases io id with herr | ⟨t', ht', -, hdone, -⟩
  · exact herr
  · rw [hid] at ht'
    cases ht'
    exact absurd hdone hshort

/-- An abort finds no entry, or drops it; the file goes only if it can be removed. -/
theorem abort_cases (s : Staging) (io : Faults) (id : String) :
    s.incoming.get id = none ∧ s.abort io id = (.error (unknownTransfer id), s) ∨
      ∃ t, s.incoming.get id = some t ∧
        ((∃ msg, io.remove = some msg ∧
            s.abort io id = (.error (.io msg), { s with incoming := s.incoming.remove id })) ∨
          io.remove = none ∧ s.abort io id = (.ok (), s.dropped id t)) := by
  unfold abort
  cases hid : s.incoming.get id with
  | none => exact .inl ⟨rfl, rfl⟩
  | some t =>
    refine .inr ⟨t, rfl, ?_⟩
    cases io.remove with
    | some msg => exact .inl ⟨msg, rfl, rfl⟩
    | none => exact .inr ⟨rfl, rfl⟩

end Staging
end Handfast.Daemon
