/-
  Handfast.Daemon.Backends

  Making a source ready for a send (`crates/daemon/src/backends.rs`).  A plain
  path or a `file://` URI is used as it is.  Any other URI is streamed into a
  temporary file by the first of three tools that can read it.

  How a tool run goes is a `CatRun`.  Three of its failures happen after the
  temporary file was created and leave by `?`: the copy, the flush and the wait.
  The file then stays (`materializeUri_left`).  A tool that runs and reports an
  error has its file removed before the next tool is tried; that removal is
  taken to succeed.
-/
import Handfast.Daemon.Transfer
import Handfast.Daemon.State

namespace Handfast.Daemon

open Handfast.Lib Handfast.Protocol Handfast.Core

/-! ## Paths and URIs -/

/-- The characters `str::trim` removes (Unicode `White_Space`). -/
def whiteSpace (c : Char) : Bool :=
  (0x09 ≤ c.toNat && c.toNat ≤ 0x0d) || c.toNat = 0x20 || c.toNat = 0x85 || c.toNat = 0xa0 ||
    c.toNat = 0x1680 || (0x2000 ≤ c.toNat && c.toNat ≤ 0x200a) || c.toNat = 0x2028 ||
    c.toNat = 0x2029 || c.toNat = 0x202f || c.toNat = 0x205f || c.toNat = 0x3000

/-- `str::trim`. -/
def trimmed (text : String) : String :=
  String.ofList ((text.toList.dropWhile whiteSpace).rdropWhile whiteSpace)

theorem trimmed_trimmed (text : String) : trimmed (trimmed text) = trimmed text := by
  have hfront : ((text.toList.dropWhile whiteSpace).rdropWhile whiteSpace).dropWhile whiteSpace =
      (text.toList.dropWhile whiteSpace).rdropWhile whiteSpace := by
    rw [List.dropWhile_eq_self_iff]
    intro hpos
    -- the first character is still the first one of the untrimmed end
    have hpre := List.rdropWhile_prefix whiteSpace (text.toList.dropWhile whiteSpace)
    rw [hpre.getElem hpos]
    exact List.dropWhile_eq_self_iff.mp (List.dropWhile_idempotent whiteSpace _) _
  rw [trimmed, trimmed, String.toList_ofList, hfront, List.rdropWhile_idempotent]

/-- `str::strip_prefix`. -/
def cutFront (front text : String) : Option String :=
  if front.toList.isPrefixOf text.toList then some (String.ofList (text.toList.drop front.length))
  else none

/-- The text contains `://`. -/
def hasScheme (text : String) : Bool := text.toList.tails.any "://".toList.isPrefixOf

/-- Expand a leading `~` to the user's home directory. -/
def expandTilde (home : Option String) (raw : String) : String :=
  match cutFront "~/" (trimmed raw), home with
  | some rest, some home =>
    -- an absolute path replaces what it is joined to
    if rest.toList.head? = some '/' then rest else joinPath home rest
  | _, _ => trimmed raw

/-! ## Tools -/

/-- What can still fail once the temporary file was created. -/
inductive CatStage where
  | copy
  | flush
  | wait
  deriving DecidableEq, Repr

/-- How running `tool cat uri` into the temporary file goes. -/
inductive CatRun where
  /-- The tool is not installed. -/
  | absent
  | spawnFailed (msg : String)
  | noStdout
  /-- The temporary file could not be created. -/
  | openFailed (msg : String)
  | broken (stage : CatStage) (written : Bytes) (msg : String)
  /-- The tool cannot read this URI. -/
  | exited (written : Bytes) (status : String)
  | succeeded (written : Bytes)
  deriving DecidableEq, Repr

structure CatRuns where
  gio : CatRun
  gvfsCat : CatRun
  kioclient5 : CatRun

def CatRuns.inOrder (runs : CatRuns) : List (String × CatRun) :=
  [("gio", runs.gio), ("gvfs-cat", runs.gvfsCat), ("kioclient5", runs.kioclient5)]

def unreadable (uri : String) (attempted : List String) (lastErr : Option String) : Error :=
  .other (s!"cannot read non-local file URI '{uri}': " ++
    lastErr.getD ("no usable backend found (tried " ++
      (if attempted.isEmpty then "none of gio/gvfs-cat/kioclient5 installed"
       else ", ".intercalate attempted) ++ ")"))

def tryTools (uri tmp : String) : List (String × CatRun) → List String → Option String →
    LocalFiles → Result Materialized × LocalFiles
  | [], attempted, lastErr, files => (.error (unreadable uri attempted lastErr), files)
  | (tool, run) :: rest, attempted, lastErr, files =>
    match run with
    | .absent => tryTools uri tmp rest attempted lastErr files
    | .spawnFailed msg => (.error (.other s!"{tool} spawn failed: {msg}"), files)
    | .noStdout => (.error (.other s!"{tool} produced no stdout pipe"), files)
    | .openFailed msg => (.error (.io msg), files)
    | .broken _ written msg =>
      if files.has tmp then (.error (.io "File exists (os error 17)"), files)
      else (.error (.io msg), files.put tmp written)
    | .exited written status =>
      if files.has tmp then (.error (.io "File exists (os error 17)"), files)
      else
        tryTools uri tmp rest (attempted ++ [tool])
          (some s!"{tool} cat failed with {status}") ((files.put tmp written).remove tmp)
    | .succeeded written =>
      if files.has tmp then (.error (.io "File exists (os error 17)"), files)
      else (.ok { localPath := tmp, cleanup := some tmp }, files.put tmp written)

/-- Stream a GVFS/KIO URI into the temporary file `tmp`. -/
def materializeUri (runs : CatRuns) (uri tmp : String) (files : LocalFiles) :
    Result Materialized × LocalFiles :=
  tryTools uri tmp runs.inOrder [] none files

def materializePath (isFile : String → Bool) (path : String) : Result Materialized :=
  if isFile path then .ok { localPath := path, cleanup := none }
  else .error (.other s!"file not found: {path}")

/-- Resolve a path or `file://` URI to a local path, or materialize another URI
    into the temporary file `tmp`. -/
def materializeSource (home : Option String) (isFile : String → Bool) (runs : CatRuns)
    (tmp input : String) (files : LocalFiles) : Result Materialized × LocalFiles :=
  match cutFront "file://" (trimmed input) with
  | some rest => (materializePath isFile (expandTilde home rest), files)
  | none =>
    if hasScheme (trimmed input) then materializeUri runs (trimmed input) tmp files
    else (materializePath isFile (expandTilde home (trimmed input)), files)

/-- The source is a URI for the tools. -/
def NonLocal (input : String) : Prop :=
  cutFront "file://" (trimmed input) = none ∧ hasScheme (trimmed input) = true

instance (input : String) : Decidable (NonLocal input) := inferInstanceAs (Decidable (_ ∧ _))

example : NonLocal " smb://nas/photos/a.jpg" ∧ ¬ NonLocal "file:///home/u/a.jpg" ∧
    ¬ NonLocal "~/a.jpg" := by decide

/-! ## What is left in the temporary directory -/

/-- The tools before the first that ends the search cannot read the URI, and that
    one breaks off after the file was created. -/
def breaksOff : List (String × CatRun) → Bool
  | [] => false
  | (_, .absent) :: rest | (_, .exited _ _) :: rest => breaksOff rest
  | (_, .broken _ _ _) :: _ => true
  | _ :: _ => false

/-- What materializing a URI returns and leaves behind. -/
inductive Left (tmp : String) (files : LocalFiles) (broken : Bool) :
    Result Materialized × LocalFiles → Prop where
  /-- It fails and the temporary file does not exist. -/
  | nothing {e : Error} (h : broken = false) : Left tmp files broken (.error e, files)
  /-- It fails and the temporary file stays. -/
  | behind {e : Error} {written : Bytes} (h : broken = true) :
      Left tmp files broken (.error e, files.put tmp written)
  /-- The temporary file is the source, and is to be removed later. -/
  | ready {written : Bytes} (h : broken = false) :
      Left tmp files broken
        (.ok { localPath := tmp, cleanup := some tmp }, files.put tmp written)

variable {files : LocalFiles} {tmp : String}

/-- A file that is created and removed leaves no trace. -/
theorem put_remove (h : files.has tmp = false)
    (written : Bytes) : (files.put tmp written).remove tmp = files := by
  apply Files.ext
  funext path
  by_cases hpath : path = tmp
  · subst hpath
    simpa using (Files.has_eq_false.mp h).symm
  · simp [hpath]

/-- A failure leaves the temporary file behind exactly if a tool breaks off. -/
theorem tryTools_left (h : files.has tmp = false) (uri : String) (tools : List (String × CatRun))
    (attempted : List String) (lastErr : Option String) :
    Left tmp files (breaksOff tools) (tryTools uri tmp tools attempted lastErr files) := by
  induction tools generalizing attempted lastErr with
  | nil => exact .nothing rfl
  | cons entry rest ih =>
    obtain ⟨tool, run⟩ := entry
    cases run with
    | absent => exact ih attempted lastErr
    | spawnFailed msg => exact .nothing rfl
    | noStdout => exact .nothing rfl
    | openFailed msg => exact .nothing rfl
    | broken stage written msg =>
      simp only [tryTools, h, Bool.false_eq_true, if_false]
      exact .behind rfl
    | exited written status =>
      -- the next tool starts from the same files
      simp only [tryTools, h, Bool.false_eq_true, if_false, put_remove h]
      exact ih _ _
    | succeeded written =>
      simp only [tryTools, h, Bool.false_eq_true, if_false]
      exact .ready rfl

theorem materializeUri_left (h : files.has tmp = false) (runs : CatRuns) (uri : String) :
    Left tmp files (breaksOff runs.inOrder) (materializeUri runs uri tmp files) :=
  tryTools_left h uri runs.inOrder [] none

/-- A local source makes no temporary file. -/
theorem materializePath_cleanup {isFile : String → Bool} {path : String} {src : Materialized}
    (h : materializePath isFile path = .ok src) : src.cleanup = none := by
  unfold materializePath at h
  split at h
  · cases h
    rfl
  · cases h

end Handfast.Daemon
