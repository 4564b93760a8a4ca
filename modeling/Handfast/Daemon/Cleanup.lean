/-
  Handfast.Daemon.Cleanup

  Who is responsible for which local file, and that nothing is left behind.

  A receive holds its staging file while the engine has an entry for it, and
  the finished copy while that waits to go to a URI.  The holders are kept apart
  (`Files.Owned`): a start takes a path without a file, a finish moves to a free
  name, and every step spares what it does not hold.  A path is given up only
  with its file gone, and a receive whose outcome was taken holds nothing.

  The one thing that breaks this is a finish that finds all names taken: it then
  moves over the plain name, which may be the staging file of another receive.
-/
import Handfast.Daemon.Destination
import Handfast.Daemon.Receiving

namespace Handfast.Daemon

open Handfast.Lib Handfast.Protocol Handfast.Core

namespace ReceiveRun

variable {r r' : ReceiveRun} {s s' : Staging} {io : Faults} {d : Disk} {out : List Event}

/-- The engine may have an entry for a receive in this phase. -/
def mayStage (r : ReceiveRun) : Bool :=
  match r.phase with
  | .check _ | .write _ _ | .finish | .ended (.error _) => true
  | .start | .copy _ | .ended (.ok _) => false

/-- The local files a receive is responsible for. -/
def Holds (r : ReceiveRun) (s : Staging) (path : String) : Prop :=
  s.Stages r.id path ∨ r.phase = .copy path

/-- A step of a receive deals with its own files only, and gives none up but
    with the file gone. -/
structure Handles (r r' : ReceiveRun) (s s' : Staging) : Prop where
  entries : ∀ id, id ≠ r.id → s'.incoming.get id = s.incoming.get id
  frame : ∀ path, s.files.has path = true → ¬ r.Holds s path →
    s'.files.read path = s.files.read path
  acquired : ∀ path, r'.Holds s' path →
    s'.files.has path = true ∧ (r.Holds s path ∨ s.files.has path = false)
  released : ∀ path, r.Holds s path → r'.Holds s' path ∨ s'.files.has path = false
  settled : r'.mayStage = false → s'.incoming.get r.id = none

/-- What one engine call does to the entry and the files of its own transfer. -/
theorem Handles.of_call {c : EngineCall} (hcid : c.id = r.id) (hid : r'.id = r.id)
    (hsound : s.Sound) (hremove : io.remove = none) (hroom : s.HasRoom io c)
    (hphase : ∀ path, r.phase ≠ .copy path)
    (hcopy : ∀ path, r'.phase = .copy path →
      (s.call io c).2.files.has path = true ∧ s.files.has path = false)
    (hsettled : r'.mayStage = false → (s.call io c).2.incoming.get r.id = none) :
    Handles r r' s (s.call io c).2 := by
  have hframe := Staging.call_frame hroom
  rw [hcid] at hframe
  refine ⟨hframe.entries, fun path hpath hnot => ?_, fun path hpath => ?_, fun path hpath => ?_,
    hsettled⟩
  · exact hframe.files path hpath (Staging.notOwn_iff.mpr fun hst => hnot (.inl hst))
  · rcases hpath with ⟨t, ht, rfl⟩ | hcopied
    · rw [hid] at ht
      refine ⟨(hsound.call io c).present _ t ht, ?_⟩
      rcases hframe.own t ht with hnew | hold
      · exact .inr hnew
      · exact .inl (.inl hold)
    · exact ⟨(hcopy path hcopied).1, .inr (hcopy path hcopied).2⟩
  · have hst : s.Stages c.id path := hcid ▸ hpath.resolve_right (hphase path)
    rcases (s.call_did io c).releases hremove hroom hst with hst | hgone
    · exact .inl (.inl (by rwa [hid, ← hcid]))
    · exact .inr hgone

/-- A step that leaves the files alone. -/
theorem Handles.of_rest (hid : r'.id = r.id) (hsound : s.Sound)
    (hphase : ∀ path, r.phase ≠ .copy path) (hphase' : ∀ path, r'.phase ≠ .copy path)
    (hsettled : r'.mayStage = false → s.incoming.get r.id = none) : Handles r r' s s := by
  refine ⟨fun _ _ => rfl, fun _ _ _ => rfl, fun path hpath => ?_, fun path hpath => ?_, hsettled⟩
  · obtain ⟨t, ht, rfl⟩ := hpath.resolve_right (hphase' path)
    rw [hid] at ht
    exact ⟨hsound.present _ t ht, .inl (.inl ⟨t, ht, rfl⟩)⟩
  · exact .inl (.inl (by rw [hid]; exact hpath.resolve_right (hphase path)))

/-- Only the finish of a file that goes to a URI leads to a copy. -/
theorem Goes.copies {path : String} (h : Goes r r' out) (hp : r'.phase = .copy path) :
    r.phase = .finish ∧ ∃ uri, r'.task.saveTarget = .uri uri := by
  cases h with
  | fails => cases hp
  | begins => cases hp
  | skips => cases hp
  | @reads done =>
    rcases r.readNext_phase done with ⟨e, he⟩ | he | ⟨chunk, he⟩ <;> rw [he] at hp <;> cases hp
  | writes =>
    rcases r.afterWrite_phase _ with he | he <;> rw [he] at hp <;> cases hp
  | @hands path' uri hfinish huri => exact ⟨hfinish, uri, huri⟩
  | stores => cases hp
  | rests hended => rw [hended] at hp; cases hp

/-- Only a finish or a copy leads past the engine. -/
theorem Goes.settles (h : Goes r r' out) (hp : r'.mayStage = false) :
    r.phase = .finish ∨ (∃ path, r.phase = .copy path) ∨
      r' = r ∧ ∃ result, r.phase = .ended result := by
  cases h with
  | fails => cases hp
  | begins => cases hp
  | skips => cases hp
  | @reads done =>
    rw [mayStage] at hp
    rcases r.readNext_phase done with ⟨e, he⟩ | he | ⟨chunk, he⟩ <;> rw [he] at hp <;> cases hp
  | writes =>
    rw [mayStage] at hp
    rcases r.afterWrite_phase _ with he | he <;> rw [he] at hp <;> cases hp
  -- a failed task may still stage: its outcome will clean up
  | hands hfinish => exact .inl hfinish
  | @stores path hphase => exact hphase.imp_right fun hcopy => .inl ⟨path, hcopy⟩
  | @rests result hended => exact .inr (.inr ⟨rfl, result, hended⟩)

section Phases

variable {cancelled : Bool} {tools : Tools}

theorem step_handles_of_ne (hfinish : r.phase ≠ .finish) (hcopy : ∀ path, r.phase ≠ .copy path)
    (hsound : d.staging.Sound) (hremove : io.remove = none)
    (hentry : r.mayStage = false → d.staging.incoming.get r.id = none) :
    Handles r (r.step cancelled io tools d).1 d.staging
      (r.step cancelled io tools d).2.1.staging := by
  have hgoes := r.step_goes cancelled io tools d
  have hid : (r.step cancelled io tools d).1.id = r.id := congrArg ReceiveTask.transferId hgoes.task
  have hcopy' : ∀ path, (r.step cancelled io tools d).1.phase ≠ .copy path := fun path hp =>
    hfinish (hgoes.copies hp).1
  -- past the engine is only who was there before
  have hsame : (r.step cancelled io tools d).1.mayStage = false →
      (r.step cancelled io tools d).1 = r ∧ ∃ result, r.phase = .ended result := fun hp => by
    rcases hgoes.settles hp with h | ⟨path, h⟩ | h
    · exact absurd h hfinish
    · exact absurd h (hcopy path)
    · exact h
  rw [step_disk hcopy]
  cases hcall : r.engineCall cancelled with
  | none => exact .of_rest hid hsound hcopy hcopy' fun hp => hentry ((hsame hp).1 ▸ hp)
  | some c =>
    have hroom : d.staging.HasRoom io c := by
      cases c with
      | finishReceive id => exact absurd (engineCall_finish hcall) hfinish
      | _ => trivial
    refine .of_call (engineCall_id hcall) hid hsound hremove hroom hcopy
      (fun path hp => absurd hp (hcopy' path)) fun hp => ?_
    obtain ⟨-, result, hended⟩ := hsame hp
    simp [engineCall, hended] at hcall

/-- The finish: the file is stored, or waits to be copied. -/
theorem finish_handles (hphase : r.phase = .finish) (hsound : d.staging.Sound)
    (hremove : io.remove = none) (hroom : d.staging.HasRoom io (.finishReceive r.id)) :
    Handles r (r.step cancelled io tools d).1 d.staging
      (r.step cancelled io tools d).2.1.staging := by
  have hid : (r.step cancelled io tools d).1.id = r.id :=
    congrArg ReceiveTask.transferId (r.step_goes cancelled io tools d).task
  have hcopy : ∀ path, r.phase ≠ .copy path := by simp [hphase]
  rw [step_disk hcopy, engineCall, hphase]
  rcases d.staging.finishReceive_cases io r.id with ⟨e, herr⟩ | ⟨t, ht, hfile, -, hok⟩
  · have hphase' : (r.step cancelled io tools d).1.phase = .ended (.error e) := by
      simp [step, hphase, herr, goto]
    refine .of_call rfl hid hsound hremove hroom hcopy (fun path hp => ?_) fun hp => ?_
    · rw [hphase'] at hp
      cases hp
    · -- a finish that fails leaves its entry for the outcome to clean up
      simp [mayStage, hphase'] at hp
  · obtain ⟨bytes, hbytes⟩ := Files.has_eq_true.mp hfile
    have hcall : (d.staging.call io (.finishReceive r.id)).2 =
        d.staging.moved r.id t (d.staging.destination io t.finalName) := by
      rw [Staging.call, hok]
      rfl
    refine .of_call rfl hid hsound hremove hroom hcopy (fun path hp => ?_) fun _ => ?_
    · -- a copy starts from the name the file was moved to, which was free
      have hpath : path = d.staging.destination io t.finalName := by
        unfold step at hp
        rw [hphase] at hp
        simp only [hok] at hp
        cases htarget : r.task.saveTarget <;> simp [htarget, goto] at hp
        exact hp.symm
      rw [hpath, hcall]
      exact ⟨Files.has_eq_true.mpr ⟨bytes, Files.read_rename_target hbytes⟩,
        Staging.has_destination (hroom t ht)⟩
    · rw [hcall]
      simp [Staging.moved]

/-- The copy: the local file goes, whether or not it was copied. -/
theorem copy_handles {path uri : String} (hphase : r.phase = .copy path)
    (huri : r.task.saveTarget = .uri uri) (hremove : io.remove = none)
    (hnone : d.staging.incoming.get r.id = none) :
    Handles r (r.step cancelled io tools d).1 d.staging
      (r.step cancelled io tools d).2.1.staging := by
  -- copied or not, the task is over and the local file is deleted
  have hended : ∃ result, (r.step cancelled io tools d).1 = r.goto (.ended result) := by
    unfold step
    simp only [hphase, huri]
    split
    · exact ⟨_, rfl⟩
    · exact ⟨_, rfl⟩
  have hstaging : (r.step cancelled io tools d).2.1.staging =
      { d.staging with files := d.staging.files.remove path } := by
    rcases step_copy cancelled io tools d hphase huri with heq | ⟨name, -, heq⟩
    · rw [heq, Disk.removeLocal_staging hremove]
    · rw [heq, Disk.removeLocal_staging hremove, Disk.copyOut_staging]
  obtain ⟨result, hstep⟩ := hended
  rw [hstep, hstaging]
  refine ⟨fun _ _ => rfl, fun path' _ hnot => ?_, fun path' hheld => ?_, fun path' hheld => ?_,
    fun _ => hnone⟩
  · -- the removed file is the one we held
    have hne : path' ≠ path := by
      rintro rfl
      exact hnot (.inr hphase)
    simp [hne]
  · rcases hheld with ⟨t, ht, -⟩ | hcopy
    · rw [show (r.goto (.ended result)).id = r.id from rfl] at ht
      simp [hnone] at ht
    · cases hcopy
  · rcases hheld with ⟨t, ht, -⟩ | hcopy
    · rw [hnone] at ht
      cases ht
    · obtain rfl : path = path' := by simpa [hphase] using hcopy
      exact .inr (by simp [Files.has])

/-- **A step and the files.** -/
theorem step_handles (hsound : d.staging.Sound) (hremove : io.remove = none)
    (hroom : r.phase = .finish → d.staging.HasRoom io (.finishReceive r.id))
    (hentry : r.mayStage = false → d.staging.incoming.get r.id = none)
    (huri : ∀ path, r.phase = .copy path → ∃ uri, r.task.saveTarget = .uri uri) :
    Handles r (r.step cancelled io tools d).1 d.staging
      (r.step cancelled io tools d).2.1.staging := by
  by_cases hfinish : r.phase = .finish
  · exact finish_handles hfinish hsound hremove (hroom hfinish)
  · by_cases hcopy : ∃ path, r.phase = .copy path
    · obtain ⟨path, hphase⟩ := hcopy
      obtain ⟨uri, htarget⟩ := huri path hphase
      exact copy_handles hphase htarget hremove (hentry (by simp [mayStage, hphase]))
    · exact step_handles_of_ne hfinish (fun path hp => hcopy ⟨path, hp⟩) hsound hremove hentry

end Phases

/-- A result is there once the run has ended; a good one leaves nothing staged. -/
theorem phase_of_result {outcome : Except String Unit} (h : r.result = some outcome) :
    ∃ res, r.phase = .ended res ∧ (outcome = .ok () → r.mayStage = false) := by
  unfold result at h
  split at h
  · rename_i path hp
    exact ⟨_, hp, fun _ => by simp [mayStage, hp]⟩
  · rename_i e hp
    cases h
    exact ⟨_, hp, fun hok => by cases hok⟩
  · cases h

end ReceiveRun

/-! ## Everybody's files -/

def HubMove.Removes : HubMove → Prop
  | .receive _ io _ | .outcome _ _ io => io.remove = none
  | .command .. | .send .. => True

instance : (a : HubMove) → Decidable a.Removes
  | .receive _ io _ | .outcome _ _ io => inferInstanceAs (Decidable (io.remove = none))
  | .command .. | .send .. => .isTrue trivial

namespace Hub

variable {h h' : Hub} {id id' : String} {a : HubMove} {r : ReceiveRun} {result : Except String Unit}
  {io : Faults} {tools : Tools}

/-- The local files transfer `id` is responsible for: its staging file, or the
    copy that waits to go to a URI. -/
def Holds (h : Hub) (id path : String) : Prop :=
  h.disk.staging.Stages id path ∨ ∃ r, h.receives.get id = some r ∧ r.phase = .copy path

/-- A finish finds a free name. -/
def Roomy (h : Hub) : HubMove → Prop
  | .receive id io _ => ∀ r, h.receives.get id = some r →
      ∀ c, r.engineCall (h.cancelled r.id) = some c → h.disk.staging.HasRoom io c
  | _ => True

instance (h : Hub) : (a : HubMove) → Decidable (h.Roomy a)
  | .receive id io _ =>
    have (r : ReceiveRun) : Decidable (∀ c, r.engineCall (h.cancelled r.id) = some c →
        h.disk.staging.HasRoom io c) := Table.decidableFound (r.engineCall (h.cancelled r.id))
    Table.decidableFound (h.receives.get id)
  | .command .. | .send .. | .outcome .. => .isTrue trivial

/-- Nobody else's files are touched, and none is left behind. -/
structure Tidy (h : Hub) (a : HubMove) : Prop where
  others : ∀ id, a.transfer ≠ some id →
    (h.step a).disk.staging.incoming.get id = h.disk.staging.incoming.get id ∧
      ∀ path, h.Holds id path →
        (h.step a).disk.staging.files.read path = h.disk.staging.files.read path
  released : ∀ id path, h.Holds id path →
    (h.step a).Holds id path ∨ (h.step a).disk.staging.files.has path = false
  settled : ∀ env id io result, a = .outcome env id io → h.reported id = some result →
    (h.step a).disk.staging.incoming.get id = none ∧ ∀ path, ¬ (h.step a).Holds id path

/-- The files are in order: each is held by one transfer at most, an entry of the
    engine belongs to a receive that will still deal with it, and copies wait
    only for a URI. -/
structure Neat (h : Hub) : Prop where
  tracked : h.Tracked
  owned : Files.Owned h.Holds h.disk.staging.files
  entry : ∀ id, h.disk.staging.incoming.get id ≠ none →
    ∃ r, h.receives.get id = some r ∧ r.mayStage = true
  uri : ∀ id r path, h.receives.get id = some r → r.phase = .copy path →
    ∃ uri, r.task.saveTarget = .uri uri

theorem Neat.sound (h : Neat h') : h'.disk.staging.Sound where
  present := fun id path hst => h.owned.present id path (.inl hst)
  apart := fun id id' path hst hst' => h.owned.apart id id' path (.inl hst) (.inl hst')

/-- What a step does to the files, if transfer `id` takes it. -/
structure Deals (h h' : Hub) (id : String) : Prop where
  entries : ∀ id', id' ≠ id →
    h'.disk.staging.incoming.get id' = h.disk.staging.incoming.get id'
  holds : ∀ id' path, id' ≠ id → (h'.Holds id' path ↔ h.Holds id' path)
  frame : ∀ path, h.disk.staging.files.has path = true → ¬ h.Holds id path →
    h'.disk.staging.files.read path = h.disk.staging.files.read path
  acquired : ∀ path, h'.Holds id path → h'.disk.staging.files.has path = true ∧
    (h.Holds id path ∨ h.disk.staging.files.has path = false)
  released : ∀ path, h.Holds id path →
    h'.Holds id path ∨ h'.disk.staging.files.has path = false

theorem Deals.owned (hd : Deals h h' id) (ho : Files.Owned h.Holds h.disk.staging.files) :
    Files.Owned h'.Holds h'.disk.staging.files :=
  ho.step id (fun id' hne path => (hd.holds id' path hne).mp)
    (fun path hpath hnot => by rw [Files.has, hd.frame path hpath hnot]; exact hpath) hd.acquired

/-- What one task does to the disk is no concern of the other transfers. -/
theorem Deals.others (hd : Deals h h' id) (ho : Files.Owned h.Holds h.disk.staging.files)
    (hne : id' ≠ id) :
    h'.disk.staging.incoming.get id' = h.disk.staging.incoming.get id' ∧
      ∀ path, h.Holds id' path →
        h'.disk.staging.files.read path = h.disk.staging.files.read path :=
  ⟨hd.entries id' hne, fun path hpath => hd.frame path (ho.present id' path hpath)
    fun hown => hne (ho.apart id' id path hpath hown)⟩

theorem Deals.released_all (hd : Deals h h' id) (id' path : String) (hpath : h.Holds id' path) :
    h'.Holds id' path ∨ h'.disk.staging.files.has path = false := by
  by_cases hne : id' = id
  · subst hne
    exact hd.released path hpath
  · exact .inl ((hd.holds id' path hne).mpr hpath)

/-- A step that leaves the files and who holds them as they are. -/
theorem Deals.of_same (hstaging : h'.disk.staging = h.disk.staging)
    (hholds : ∀ id path, h'.Holds id path ↔ h.Holds id path)
    (ho : Files.Owned h.Holds h.disk.staging.files) (id : String) : Deals h h' id where
  entries := fun id' _ => by rw [hstaging]
  holds := fun id' path _ => hholds id' path
  frame := fun path _ _ => by rw [hstaging]
  acquired := fun path hpath => by
    have hheld := (hholds id path).mp hpath
    exact ⟨by rw [hstaging]; exact ho.present id path hheld, .inl hheld⟩
  released := fun path hpath => .inl ((hholds id path).mpr hpath)

/-! ### The moves -/

theorem reported_receive (ht : h.Tracked) (hrep : h.reported id = some result)
    (hr : h.receives.get id = some r) :
    r.result = some result := by
  have hsends : h.sends.get id = none := (ht.stage id).one_task hr
  simpa [reported, hr, hsends] using hrep

section Receive

variable {r : ReceiveRun} {io : Faults} {tools : Tools}

theorem holds_iff (hr : h.receives.get id = some r) (hid : r.id = id) (path : String) :
    h.Holds id path ↔ r.Holds h.disk.staging path := by
  simp [Holds, ReceiveRun.Holds, hr, hid]

/-- A turn of a receive deals with its own files only. -/
theorem receive_handles (hn : h.Neat) (hr : h.receives.get id = some r)
    (hroom : h.Roomy (.receive id io tools)) (hremove : io.remove = none) :
    r.Handles (h.receive r io tools).1 h.disk.staging (h.receive r io tools).2.1.staging := by
  have hid : r.id = id := (hn.tracked.stage id).recv_id hr
  refine ReceiveRun.step_handles hn.sound hremove (fun hp => hroom r hr _ ?_) (fun hp => ?_)
    (hn.uri id r · hr)
  · rw [ReceiveRun.engineCall, hp]
  -- an entry belongs to a receive that may still stage
  by_contra hsome
  obtain ⟨r', hr', hstage⟩ := hn.entry r.id hsome
  rw [hid, hr] at hr'
  rw [← Option.some.inj hr', hp] at hstage
  cases hstage

theorem receive_deals (hn : h.Neat) (hr : h.receives.get id = some r)
    (hroom : h.Roomy (.receive id io tools)) (hremove : io.remove = none) :
    Deals h (h.step (.receive id io tools)) id := by
  have hhandles := receive_handles hn hr hroom hremove
  have hid : r.id = id := (hn.tracked.stage id).recv_id hr
  have hid' : (h.receive r io tools).1.id = id :=
    (congrArg ReceiveTask.transferId (r.step_goes _ io tools h.disk).task).trans hid
  have hholds := holds_iff hr hid
  rw [step_receive hr]
  generalize h.receive r io tools = out at hhandles hid' ⊢
  have hholds' : ∀ path, Holds { h with
      receives := h.receives.insert id out.1, disk := out.2.1, log := h.log ++ out.2.2 } id path ↔
        out.1.Holds out.2.1.staging path := holds_iff (by simp) hid'
  refine ⟨fun id' hne => hhandles.entries id' (hid ▸ hne), fun id' path hne => ?_,
    fun path hpath hnot => ?_, fun path hpath => ?_, fun path hpath => ?_⟩
  · simp [Holds, Staging.Stages, hne, hhandles.entries id' (hid ▸ hne)]
  · exact hhandles.frame path hpath ((hholds path).not.mp hnot)
  · rw [hholds path]
    exact hhandles.acquired path ((hholds' path).mp hpath)
  · rw [hholds' path]
    exact hhandles.released path ((hholds path).mp hpath)

end Receive

section Outcome

variable {env : Env} {io : Faults} {result : Except String Unit}

/-- A transfer that has reported no longer copies, so it holds what the engine has staged. -/
theorem reported_not_copy (ht : h.Tracked) (hrep : h.reported id = some result) (path : String) :
    h.Holds id path ↔ h.disk.staging.Stages id path := by
  refine or_iff_left ?_
  rintro ⟨r, hr, hcopy⟩
  -- a copy is still to come, so nothing is reported yet
  obtain ⟨res, hended, -⟩ := ReceiveRun.phase_of_result (reported_receive ht hrep hr)
  rw [hcopy] at hended
  cases hended

/-- A transfer that reports success has left the engine. -/
theorem reported_ok (hn : h.Neat) (hrep : h.reported id = some (.ok ())) :
    h.disk.staging.incoming.get id = none := by
  by_contra hsome
  obtain ⟨r, hr, hstage⟩ := hn.entry id hsome
  obtain ⟨res, -, hpast⟩ := ReceiveRun.phase_of_result (reported_receive hn.tracked hrep hr)
  rw [hpast rfl] at hstage
  cases hstage

theorem abort_get (s : Staging) (io : Faults) (id : String) :
    (s.abort io id).2.incoming.get id = none := by
  rcases s.abort_cases io id with ⟨hnone, h⟩ | ⟨t, -, ⟨msg, -, h⟩ | ⟨-, h⟩⟩
  · rw [h]
    exact hnone
  · rw [h]
    simp
  · rw [h]
    simp [Staging.dropped]

/-- Once the outcome is taken the engine knows nothing of the transfer. -/
theorem outcome_settled (hn : h.Neat) (hrep : h.reported id = some result) :
    (h.step (.outcome env id io)).disk.staging.incoming.get id = none ∧
      ∀ path, ¬ (h.step (.outcome env id io)).Holds id path := by
  have hgone : (h.step (.outcome env id io)).disk.staging.incoming.get id = none := by
    cases result with
    | ok _ =>
      have hnone := reported_ok hn hrep
      rw [step_finished hrep]
      exact hnone
    | error reason =>
      rw [step_failed hrep]
      exact abort_get ..
  have hreceives : (h.step (.outcome env id io)).receives.get id = none := by
    simp [outcome_receives hrep]
  refine ⟨hgone, fun path => ?_⟩
  rintro (⟨t, ht, -⟩ | ⟨r, hr, -⟩)
  · rw [hgone] at ht
    cases ht
  · rw [hreceives] at hr
    cases hr

theorem outcome_deals (hn : h.Neat) (hrep : h.reported id = some result)
    (hremove : io.remove = none) : Deals h (h.step (.outcome env id io)) id := by
  have hnothing : ∀ path, ¬ (h.step (.outcome env id io)).Holds id path :=
    (outcome_settled hn hrep).2
  have hholds := reported_not_copy hn.tracked hrep
  cases result with
  | ok _ =>
    -- success: the file was handed over before, and nothing is held
    have hnone : ∀ path, ¬ h.Holds id path := fun path hpath => by
      obtain ⟨t, ht, -⟩ := (hholds path).mp hpath
      rw [reported_ok hn hrep] at ht
      cases ht
    rw [step_finished hrep] at hnothing ⊢
    exact ⟨fun _ _ => rfl, fun id' path hne => by simp [Holds, hne], fun _ _ _ => rfl,
      fun path hpath => absurd hpath (hnothing path),
      fun path hpath => absurd hpath (hnone path)⟩
  | error reason =>
    -- failure: the actor aborts the transfer in the engine
    have hframe := h.disk.staging.abort_frame io id
    rw [step_failed hrep] at hnothing ⊢
    refine ⟨hframe.entries, fun id' path hne => ?_, fun path hpath hnot => ?_,
      fun path hpath => absurd hpath (hnothing path), fun path hpath => ?_⟩
    · simp [Holds, Staging.Stages, hne, hframe.entries id' hne]
    · exact hframe.files path hpath (Staging.notOwn_iff.mpr fun hst => hnot (.inl hst))
    · have hst : h.disk.staging.Stages (EngineCall.abort id).id path := (hholds path).mp hpath
      have hdid := h.disk.staging.call_did io (.abort id)
      rcases hdid.releases hremove trivial hst with hst | hgone
      · exact absurd (.inl hst) (hnothing path)
      · exact .inr hgone

end Outcome

/-- A step that leaves the files alone and at most starts a receive. -/
structure Quiet (h h' : Hub) : Prop where
  disk : h'.disk = h.disk
  receives : ∀ id, h'.receives.get id = h.receives.get id ∨
    h.receives.get id = none ∧ ∃ r, h'.receives.get id = some r ∧ r.phase = .start

theorem Quiet.refl (h : Hub) : Quiet h h := ⟨rfl, fun _ => .inl rfl⟩

theorem Quiet.holds (hq : Quiet h h') (id path : String) : h'.Holds id path ↔ h.Holds id path := by
  unfold Holds
  rw [hq.disk]
  refine or_congr Iff.rfl ?_
  rcases hq.receives id with hsame | ⟨hnone, r, hr, hstart⟩
  · rw [hsame]
  · rw [hnone, hr]
    simp [hstart]

/-- Commands book and announce; no file is touched. -/
theorem books_quiet {m' : Manager} {c : Command} {all effects : List Effect}
    {control : Option Fingerprint} {wire : Wire} (ht : h.Tracked)
    (hb : Manager.Booking h.manager c all m' effects) :
    Quiet h (effects.foldl (perform control wire io) { h with manager := m' }) := by
  refine ⟨books_disk hb, fun id => ?_⟩
  cases hb with
  | aside | cancel => exact .inl rfl
  | @opens record _ _ _ rest hset hseq htarget hrest =>
    generalize record.state = state at hrest
    cases hrest with
    | receive task htask hsave =>
      by_cases heq : id = task.transferId
      · -- the id is new, so it has no task yet
        have hnone : h.receives.get id = none :=
          (ht.unused (by rw [heq, htask, ht.numbered.freshId_unused])).2.1
        exact .inr ⟨hnone, .new task wire control, by simp [perform, heq], rfl⟩
      · exact .inl (by simp [perform, heq])
    | send | finished | failed => exact .inl rfl

/-! ### Every step -/

/-- What leaves disk and holdings alone keeps the hub neat. -/
theorem Quiet.neat (hq : Quiet h h') (hn : h.Neat) (ht : h'.Tracked) : h'.Neat where
  tracked := ht
  owned := (Deals.of_same (congrArg Disk.staging hq.disk) hq.holds hn.owned "").owned hn.owned
  entry := fun id hget => by
    rw [hq.disk] at hget
    obtain ⟨r, hr, hstage⟩ := hn.entry id hget
    rcases hq.receives id with hsame | ⟨hnone, -⟩
    · exact ⟨r, hsame.trans hr, hstage⟩
    · rw [hnone] at hr
      cases hr
  uri := fun id r path hr hcopy => by
    rcases hq.receives id with hsame | ⟨-, r', hr', hstart⟩
    · exact hn.uri id r path (hsame ▸ hr) hcopy
    · rw [hr'] at hr
      cases hr
      rw [hstart] at hcopy
      cases hcopy

/-- What has been settled is settled, whichever move it was. -/
theorem Quiet.tidy (hq : Quiet h (h.step a)) (hn : h.Neat) : h.Tidy a where
  others := fun id _ => by rw [hq.disk]; exact ⟨rfl, fun _ _ => rfl⟩
  released := fun id path hpath => .inl ((hq.holds id path).mpr hpath)
  settled := by
    rintro _ _ _ _ rfl hrep
    exact outcome_settled hn hrep

theorem receive_neat (hn : h.Neat) (hr : h.receives.get id = some r)
    (hroom : h.Roomy (.receive id io tools))
    (hremove : io.remove = none) : (h.step (.receive id io tools)).Neat := by
  have hdeals := receive_deals hn hr hroom hremove
  have hhandles := receive_handles hn hr hroom hremove
  have hgoes := r.step_goes (h.cancelled r.id) io tools h.disk
  have hid : r.id = id := (hn.tracked.stage id).recv_id hr
  refine ⟨hn.tracked.step _, hdeals.owned hn.owned, fun id' hget => ?_,
    fun id' r' path hr' hcopy => ?_⟩
  · by_cases hne : id' = id
    · subst hne
      refine ⟨(h.receive r io tools).1, by simp [step_receive hr], ?_⟩
      by_contra hpast
      rw [step_receive hr] at hget
      exact hget (hid ▸ hhandles.settled (by simpa using hpast))
    · rw [hdeals.entries id' hne] at hget
      obtain ⟨r', hr', hstage⟩ := hn.entry id' hget
      exact ⟨r', by simp [step_receive hr, hne, hr'], hstage⟩
  · rw [step_receive hr] at hr'
    rcases Table.of_get_insert hr' with ⟨-, rfl⟩ | ⟨-, hold⟩
    · exact (hgoes.copies hcopy).2
    · exact hn.uri id' r' path hold hcopy

/-- The outcome handler aborts in the engine what the task left there. -/
theorem outcome_neat {env : Env} (hn : h.Neat) (hrep : h.reported id = some result)
    (hremove : io.remove = none) :
    (h.step (.outcome env id io)).Neat := by
  have hdeals : Deals h (h.step (.outcome env id io)) id := outcome_deals hn hrep hremove
  have hreceives : (h.step (.outcome env id io)).receives = h.receives.remove id :=
    outcome_receives hrep
  refine ⟨hn.tracked.step _, hdeals.owned hn.owned, fun id' hget => ?_,
    fun id' r' path hr' hcopy => ?_⟩
  · by_cases hne : id' = id
    · subst hne
      exact absurd (outcome_settled hn hrep).1 hget
    · rw [hdeals.entries id' hne] at hget
      obtain ⟨r', hr', hstage⟩ := hn.entry id' hget
      exact ⟨r', by simp [hreceives, hne, hr'], hstage⟩
  · rw [hreceives] at hr'
    exact hn.uri id' r' path (Table.of_get_remove hr').2 hcopy

/-- A step of transfer `id` that deals with its own files is tidy. -/
theorem Deals.tidy (hd : Deals h (h.step a) id) (hn : h.Neat) (ha : a.transfer = some id) :
    h.Tidy a where
  others := fun _ hne => hd.others hn.owned fun heq => hne (heq ▸ ha)
  released := hd.released_all
  settled := by
    rintro _ _ _ _ rfl hrep
    exact outcome_settled hn hrep

/-- **Step.** With room for its finishes and working removals, a step keeps the
    files in order and is tidy. -/
theorem Neat.step (hn : h.Neat) (hremove : a.Removes) (hroom : h.Roomy a) :
    (h.step a).Neat ∧ h.Tidy a := by
  have quiet (hq : Quiet h (h.step a)) : (h.step a).Neat ∧ h.Tidy a :=
    ⟨hq.neat hn (hn.tracked.step a), hq.tidy hn⟩
  rcases step_moves h a with hsame | hmoves
  · exact quiet (hsame.symm ▸ Quiet.refl h)
  · obtain ⟨h', hstep⟩ : ∃ h', h.step a = h' := ⟨_, rfl⟩
    rw [hstep] at hmoves
    cases hmoves with
    | command hc => exact quiet (hstep ▸ books_quiet hn.tracked (Manager.handle_books hc))
    | receive hr =>
      exact ⟨receive_neat hn hr hroom hremove, (receive_deals hn hr hroom hremove).tidy hn rfl⟩
    | send _ _ _ => exact quiet (hstep ▸ ⟨rfl, fun _ => .inl rfl⟩)
    | finished hrep | failed hrep =>
      exact ⟨outcome_neat hn hrep hremove, (outcome_deals hn hrep hremove).tidy hn rfl⟩

theorem start_neat (store : Store) (self : String) (identity : Identity) (target : SaveTarget)
    (tempDir : String) (files : LocalFiles) (remote : Files String UInt8) :
    (start (Manager.new store self identity target).loadPersisted tempDir files remote).Neat where
  tracked := start_tracked ..
  owned :=
    { present := by rintro id path (⟨t, ht, -⟩ | ⟨r, hr, -⟩) <;> [cases ht; cases hr]
      apart := by rintro id id' path (⟨t, ht, -⟩ | ⟨r, hr, -⟩) <;> [cases ht; cases hr] }
  entry := fun id hget => absurd rfl hget
  uri := fun id r path hr => by cases hr

/-- **No leftovers.** In every run in which removals succeed and every finish
    finds a free name, however the receives end: a step leaves the entries and
    files of other transfers as they are, a receive gives up a file only with the
    file gone, and once its outcome is taken it holds none and has no entry. -/
theorem no_leftovers (store : Store) (self : String) (identity : Identity)
    (target : SaveTarget) (tempDir : String) (files : LocalFiles) (remote : Files String UInt8)
    (moves : List HubMove) (hremove : ∀ a ∈ moves, a.Removes)
    (hroom : AllSteps Hub.step Roomy
      (start (Manager.new store self identity target).loadPersisted tempDir files remote) moves) :
    AllSteps Hub.step Tidy
      (start (Manager.new store self identity target).loadPersisted tempDir files remote) moves :=
  allSteps_of_invariant (start_neat ..) (fun _ _ hn ha => (hn.step ha.1 ha.2).1)
    (fun _ _ hn ha => (hn.step ha.1 ha.2).2) ((allSteps_of_forall_mem hremove).and hroom)

def crowdedHub : Hub :=
  start (Manager.new .empty "desk" default (.dir "/d")).loadPersisted "/tmp" Shared.crowd .empty

/-- One receive has staged its byte; an empty file named like its staging file is
    about to be finished. -/
def nameOfStaging : List HubMove :=
  [.command (.nominal 0) (.connected "phone" (.uniform 0 1)) none [],
   .command (.nominal 0) (.sharePayload "phone" (oneByteHeader "a") (.ok (.uniform 1 1))) none
     [.bytes [1]],
   .receive "t1" .none .none, .receive "t1" .none .none,
   .receive "t1" .none .none,
   .command (.nominal 0) (.packetFrom "phone" (Packet.new 0 typeShare (.object
     [("filename", .string "a.handfast-part")]))) none [],
   .receive "t2" .none .none]

theorem nameOfStaging_full :
    ¬ HasFreeName ((run Hub.step crowdedHub nameOfStaging).disk.staging.taken .none) "/d"
      "a.handfast-part" := by
  have hfits : AllSteps Hub.step Fits crowdedHub nameOfStaging := by decide
  rintro (hfree | ⟨n, -, hn, hfree⟩)
  · revert hfree
    decide
  · have hthere := Shared.crowd_has hn
    have hfinished : crowdedHub.Finished (joinPath "/d" (numberedName "a.handfast-part" n)) :=
      ⟨hthere, fun _ _ _ _ ht => by cases ht⟩
    have hkept := hfinished.run (start_tracked ..) hfits
    have hdir : (run Hub.step crowdedHub nameOfStaging).manager.saveTarget = .dir "/d" := by decide
    have hnow : (run Hub.step crowdedHub nameOfStaging).disk.staging.files.read
        (joinPath "/d" (numberedName "a.handfast-part" n)) =
          Shared.crowd.read (joinPath "/d" (numberedName "a.handfast-part" n)) := by
      rw [stored, hdir] at hkept
      exact hkept
    rw [Staging.taken, Bool.or_eq_false_iff, Files.has, hnow] at hfree
    exact absurd (hthere.symm.trans hfree.2) (by decide)

theorem finish_staging (hr : h.receives.get id = some r) (hid : r.id = id)
    (hphase : r.phase = .finish) :
    (h.step (.receive id io tools)).disk.staging = (h.disk.staging.finishReceive io id).2 := by
  rw [step_receive hr, Hub.receive, ReceiveRun.step_disk (by simp [hphase])]
  simp [ReceiveRun.engineCall, hphase, hid, ReceiveRun.afterCall, Staging.call]

/-- A finish without a free name replaces the staging file of another receive, if
    its file is named like that one. -/
theorem finish_not_tidy {t t' : IncomingTransfer} {bytes : Bytes} (htracked : h.Tracked)
    (hr : h.receives.get id = some r) (hphase : r.phase = .finish)
    (ht : h.disk.staging.incoming.get id = some t) (hdone : Staging.Complete t)
    (hbytes : h.disk.staging.files.read t.partPath = some bytes)
    (hfull : ¬ HasFreeName (h.disk.staging.taken .none) h.disk.staging.saveDir t.finalName)
    (hne : id ≠ id') (ht' : h.disk.staging.incoming.get id' = some t')
    (hpath : t'.partPath = joinPath h.disk.staging.saveDir t.finalName)
    (hdiff : h.disk.staging.files.read t'.partPath ≠ some bytes) :
    ¬ h.Tidy (.receive id .none tools) := by
  intro htidy
  -- a tidy step keeps the other staging file; this one moves our bytes there
  have hkept := (htidy.others id' fun h => hne (Option.some.inj h)).2 _ (.inl ⟨t', ht', rfl⟩)
  have hid : r.id = id := (htracked.stage id).recv_id hr
  rw [finish_staging hr hid hphase, Staging.finishReceive_overwrites ht hdone hbytes hfull,
    ← hpath] at hkept
  exact hdiff (hkept.symm.trans (Files.read_rename_target hbytes))

theorem nameOfStaging_not_tidy :
    (∀ a ∈ nameOfStaging ++ [.receive "t2" .none .none], a.Removes) ∧
    ¬ AllSteps Hub.step Tidy crowdedHub
      (nameOfStaging ++ [.receive "t2" .none .none]) := by
  refine ⟨by decide, fun htidy => ?_⟩
  obtain ⟨-, hlast, -⟩ := allSteps_append.mp htidy
  obtain ⟨r, hr, hphase⟩ : ∃ r, (run Hub.step crowdedHub nameOfStaging).receives.get "t2" =
      some r ∧ r.phase = .finish := ⟨_, rfl, rfl⟩
  have hentry : (run Hub.step crowdedHub nameOfStaging).disk.staging.incoming.get "t2" = some
      { info := { transferId := "t2", deviceId := "phone", fileName := "a.handfast-part"
                  fileSize := 0 }
        finalName := "a.handfast-part", partPath := "/d/a.handfast-part.handfast-part"
        received := 0 } := by decide
  have hother : (run Hub.step crowdedHub nameOfStaging).disk.staging.incoming.get "t1" = some
      { info := { transferId := "t1", deviceId := "phone", fileName := "a", fileSize := 1 }
        finalName := "a", partPath := "/d/a.handfast-part", received := 1 } := by decide
  have hempty : (run Hub.step crowdedHub nameOfStaging).disk.staging.files.read
      "/d/a.handfast-part.handfast-part" = some [] := by decide
  exact finish_not_tidy (run_tracked (start_tracked ..) nameOfStaging) hr hphase hentry (.inr rfl)
    hempty nameOfStaging_full (by decide) hother (by decide) (by decide) hlast

/-- A file of one byte is received into a directory of its own. -/
def oneReceive : List HubMove :=
  [.command (.nominal 0) (.connected "phone" (.uniform 0 1)) none [],
   .command (.nominal 0) (.sharePayload "phone" (oneByteHeader "a") (.ok (.uniform 1 1))) none
     [.bytes [1]],
   .receive "t1" .none .none, .receive "t1" .none .none,
   .receive "t1" .none .none, .receive "t1" .none .none,
   .outcome (.nominal 0) "t1" .none]

theorem no_leftovers_oneReceive :
    AllSteps Hub.step Tidy
      (start (Manager.new .empty "desk" default (.dir "/d")).loadPersisted "/tmp" .empty .empty)
      oneReceive :=
  no_leftovers .empty "desk" default (.dir "/d") "/tmp" .empty .empty oneReceive (by decide)
    (by decide)

end Hub
end Handfast.Daemon
