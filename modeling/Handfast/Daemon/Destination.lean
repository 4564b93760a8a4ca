/-
  Handfast.Daemon.Destination

  What the daemon does to files that are already at the destination, for a local
  save directory and for a URI.

  A step changes no file there except the staging file of the transfer it is a
  step of, provided that a finish finds a free name (local) and that no file of
  the copied name lies at the URI.  The first condition fails once all numbered
  names are taken.  The second fails easily: the name is chosen by looking at
  the staging directory, which holds nothing after each copy, and the copy tool
  overwrites.
-/
import Handfast.Daemon.Lifecycle

namespace Handfast.Daemon

open Handfast.Lib Handfast.Protocol Handfast.Core

def HubMove.transfer : HubMove → Option String
  | .command .. => none
  | .receive id _ _ | .send id _ | .outcome _ id _ => some id

/-- The name under which a receive in this phase is about to store is free. -/
def Disk.Fits (d : Disk) (io : Faults) (id : String) : ReceivePhase → SaveTarget → Prop
  | .finish, .dir _ => d.staging.HasRoom io (.finishReceive id)
  | .copy path, .uri uri =>
    ∀ name, Manager.pathFileName path = some name →
      d.remote.has (Disk.uriDestination uri name) = false
  | _, _ => True

instance (d : Disk) (io : Faults) (id : String) :
    (phase : ReceivePhase) → (target : SaveTarget) → Decidable (d.Fits io id phase target)
  | .finish, .dir _ => inferInstanceAs (Decidable (d.staging.HasRoom io (.finishReceive id)))
  | .copy path, .uri _ => Table.decidableFound (Manager.pathFileName path)
  | .finish, .uri _ | .copy _, .dir _ => .isTrue trivial
  | .start, _ | .check _, _ | .write _ _, _ | .ended _, _ => .isTrue trivial

namespace Hub

variable {h : Hub} {a : HubMove} {path : String}

def stored (h : Hub) (path : String) : Option Bytes :=
  match h.manager.saveTarget with
  | .dir _ => h.disk.staging.files.read path
  | .uri _ => h.disk.remote.read path

/-- The path is the staging file of the transfer the move is a step of. -/
def OwnStaging (h : Hub) (a : HubMove) (path : String) : Prop :=
  match h.manager.saveTarget with
  | .dir _ => ∃ id, a.transfer = some id ∧ ¬ h.disk.staging.NotOwn id path
  -- for a URI the staging files lie elsewhere
  | .uri _ => False

/-- The move leaves every file at the destination as it is. -/
def Spares (h : Hub) (a : HubMove) : Prop :=
  ∀ path, (h.stored path).isSome → ¬ h.OwnStaging a path →
    (h.step a).stored path = h.stored path

/-- A file at the destination that no receive is still writing. -/
def Finished (h : Hub) (path : String) : Prop :=
  (h.stored path).isSome ∧
    ∀ dir, h.manager.saveTarget = .dir dir → ∀ id, h.disk.staging.NotOwn id path

/-- If the move finishes a receive, the name it stores under is free. -/
def Fits (h : Hub) : HubMove → Prop
  | .receive id io _ => ∀ r, h.receives.get id = some r →
      h.disk.Fits io r.id r.phase r.task.saveTarget
  | _ => True

instance (h : Hub) : (a : HubMove) → Decidable (h.Fits a)
  | .receive id _ _ => Table.decidableFound (h.receives.get id)
  | .command .. | .send .. | .outcome .. => .isTrue trivial

/-! ## A local directory -/

/-- The staging directory is framed by every step that fits. -/
theorem step_staging {dir : String} (ht : h.Tracked) (hdir : h.manager.saveTarget = .dir dir)
    (hfits : h.Fits a) :
    (h.step a).disk.staging = h.disk.staging ∨
      ∃ id, a.transfer = some id ∧ Staging.Frame id h.disk.staging (h.step a).disk.staging := by
  have hstep := h.step_diskStep a
  generalize (h.step a).disk = d at hstep ⊢
  cases hstep with
  | same => exact .inl rfl
  | @engine id io tools r c hr hc =>
    have hid : r.id = id := (ht.stage id).recv_id hr
    have htarget : r.task.saveTarget = .dir dir := ((ht.stage id).recv_target hr).trans hdir
    have hcid : c.id = id := (ReceiveRun.engineCall_id hc).trans hid
    have hroom : h.disk.staging.HasRoom io c := by
      cases c with
      | finishReceive id' =>
        have hr' := hfits r hr
        rw [ReceiveRun.engineCall_finish hc, htarget] at hr'
        rwa [← ReceiveRun.engineCall_id hc] at hr'
      | _ => trivial
    exact .inr ⟨id, rfl, hcid ▸ Staging.call_frame hroom⟩
  -- with a directory as target nothing is copied or discarded
  | copies hr hphase huri =>
    have htarget := ((ht.stage _).recv_target hr).trans hdir
    rw [huri] at htarget
    cases htarget
  | discards hr hphase huri =>
    have htarget := ((ht.stage _).recv_target hr).trans hdir
    rw [huri] at htarget
    cases htarget
  | @aborts env id reason io hrep => exact .inr ⟨id, rfl, h.disk.staging.abort_frame io id⟩

/-! ## A URI -/

/-- A file at the URI stays as it is, unless a file is copied over it. -/
theorem step_remote (hfits : h.Fits a) (hpath : h.disk.remote.has path = true) :
    (h.step a).disk.remote.read path = h.disk.remote.read path := by
  have hstep := h.step_diskStep a
  generalize (h.step a).disk = d at hstep ⊢
  cases hstep with
  | same => rfl
  | engine => rfl
  | @copies id path' uri name io tools r hr hphase huri hname =>
    have hfree : h.disk.remote.has (Disk.uriDestination uri name) = false := by
      have hr' := hfits r hr
      rw [hphase, huri] at hr'
      exact hr' name hname
    rw [Disk.removeLocal_remote]
    exact Disk.copyOut_remote_of_ne _ _ (Files.ne_of_has hpath hfree)
  | discards => rw [Disk.removeLocal_remote]
  | aborts => rfl

/-! ## Both targets -/

/-- A step that fits changes nothing at the destination but its own staging file. -/
theorem spares_of_fits (ht : h.Tracked) (hfits : h.Fits a) : h.Spares a := by
  intro path hpath hown
  have htarget := step_target ht a
  unfold stored OwnStaging at *
  rw [htarget]
  cases hsave : h.manager.saveTarget with
  | dir dir =>
    simp only [hsave] at hpath hown ⊢
    rcases step_staging ht hsave hfits with hsame | ⟨id, hid, hframe⟩
    · rw [hsame]
    · exact hframe.files path hpath (not_not.mp fun hnot => hown ⟨id, hid, hnot⟩)
  | uri uri =>
    simp only [hsave] at hpath ⊢
    exact step_remote hfits hpath

/-- A finished file stays, and stays finished. -/
theorem Finished.step (hpath : h.Finished path) (ht : h.Tracked) (hfits : h.Fits a) :
    (h.step a).Finished path ∧ (h.step a).stored path = h.stored path := by
  obtain ⟨hthere, hnotOwn⟩ := hpath
  have hsame : (h.step a).stored path = h.stored path := by
    refine spares_of_fits ht hfits path hthere ?_
    unfold OwnStaging
    cases hsave : h.manager.saveTarget with
    | dir dir => exact fun ⟨id, _, hown⟩ => hown (hnotOwn dir hsave id)
    | uri uri => exact id
  refine ⟨⟨by rwa [hsame], fun dir hdir id => ?_⟩, hsame⟩
  rw [step_target ht a] at hdir
  rcases step_staging ht hdir hfits with heq | ⟨id', -, hframe⟩
  · rw [heq]
    exact hnotOwn dir hdir id
  · have hhas : h.disk.staging.files.has path = true := by
      simpa [stored, hdir, Files.has] using hthere
    exact hframe.notOwn hhas (hnotOwn dir hdir) id

/-- A finished file is there, unchanged, after every run that fits. -/
theorem Finished.run {moves : List HubMove} (hpath : h.Finished path) (ht : h.Tracked)
    (hfits : AllSteps Hub.step Fits h moves) :
    (run Hub.step h moves).stored path = h.stored path := by
  induction moves generalizing h with
  | nil => rfl
  | cons a moves ih =>
    obtain ⟨hnext, hsame⟩ := hpath.step ht hfits.1
    exact (ih hnext (ht.step a) hfits.2).trans hsame

/-- **Completed downloads.** In every run in which each finish finds a free name
    and each copy a URI without a file of that name, a step changes no file at
    the destination but the staging file of its own transfer, and a finished
    file is there, unchanged, in every later state. -/
theorem downloads_kept (store : Store) (self : String) (identity : Identity)
    (target : SaveTarget) (tempDir : String) (files : LocalFiles) (remote : Files String UInt8)
    (earlier later : List HubMove)
    (hfits : AllSteps Hub.step Fits
      (start (Manager.new store self identity target).loadPersisted tempDir files remote)
      (earlier ++ later)) :
    let h := start (Manager.new store self identity target).loadPersisted tempDir files remote
    AllSteps Hub.step Spares h (earlier ++ later) ∧
      ∀ path, (run Hub.step h earlier).Finished path →
        (run Hub.step h (earlier ++ later)).stored path = (run Hub.step h earlier).stored path := by
  intro h
  have ht : h.Tracked := start_tracked ..
  constructor
  · exact allSteps_of_invariant ht (fun h a ht _ => ht.step a)
      (fun h a ht hfits => spares_of_fits ht hfits) hfits
  · intro path hpath
    obtain ⟨hearlier, hlater⟩ := allSteps_append.mp hfits
    rw [run_append]
    exact hpath.run (run_tracked ht earlier) hlater

def receiveOverUri (id name : String) (byte : UInt8) : List HubMove :=
  [.command (.nominal 0) (.sharePayload "phone" (oneByteHeader name) (.ok (.uniform 1 1))) none
    [.bytes [byte]]] ++
  List.replicate 5 (.receive id .none { gio := .copied, kioclient5 := .absent })

/-- A daemon that saves to a share on the network. -/
def overUri : Hub :=
  start (Manager.new .empty "desk" default (.uri "smb://nas/in")).loadPersisted "/tmp" .empty .empty

def firstOverUri : List HubMove :=
  .command (.nominal 0) (.connected "phone" (.uniform 0 1)) none [] :: receiveOverUri "t1" "a" 1

/-- A second file of the same name replaces the first one on the share. -/
theorem twiceOverUri_overwrites :
    (run Hub.step overUri firstOverUri).Finished "smb://nas/in/a" ∧
      (run Hub.step overUri (firstOverUri ++ receiveOverUri "t2" "a" 2)).stored "smb://nas/in/a" ≠
        (run Hub.step overUri firstOverUri).stored "smb://nas/in/a" := by
  refine ⟨⟨by decide, fun dir hdir => ?_⟩, by decide⟩
  have huri : (run Hub.step overUri firstOverUri).manager.saveTarget = .uri "smb://nas/in" := by
    decide
  rw [huri] at hdir
  cases hdir

theorem downloads_kept_twoNames :
    AllSteps Hub.step Fits overUri (firstOverUri ++ receiveOverUri "t2" "b" 2) ∧
      AllSteps Hub.step Spares overUri (firstOverUri ++ receiveOverUri "t2" "b" 2) := by
  have hfits : AllSteps Hub.step Fits overUri (firstOverUri ++ receiveOverUri "t2" "b" 2) := by
    decide
  exact ⟨hfits, (downloads_kept .empty "desk" default (.uri "smb://nas/in") "/tmp" .empty .empty
    firstOverUri (receiveOverUri "t2" "b" 2) hfits).1⟩

end Hub
end Handfast.Daemon
