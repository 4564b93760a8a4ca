/-
  Handfast.Daemon.Delivery

  Where a received file ends up, and where the user is told it is.

  `Delivery` is one receive with a record of three paths: what `finish_receive`
  returned, the destination `move_into_uri` copied to, and the path in the
  `ShareReceived` event.  Between its steps other transfers call the engine, and
  the files of the machine and behind the URI change in any way.

  For a local directory the event carries the path of `finish_receive`.  For a
  URI the event is put together from the name the peer sent, but the copy goes
  to the name the file was finished under, which is sanitized and may be a
  numbered copy.  Whether the two agree is decided by the peer's name and by the
  names taken in the staging directory before the finish (`KeepsName`).
-/
import Handfast.Daemon.Containment
import Handfast.Daemon.Streams

namespace Handfast.Daemon

open Handfast.Lib Handfast.Protocol Handfast.Core

/-! ## The names of a finished file -/

/-- The path is one `free_destination` picks for what a peer sent as `raw`. -/
def Chosen (dir raw path : String) : Prop :=
  path = joinPath dir (sanitizeFileName raw) ∨
    ∃ n, 1 ≤ n ∧ n < maxNameCollisions ∧
      path = joinPath dir (numberedName (sanitizeFileName raw) n)

/-- The plain name, if it is free or nothing is; else the first numbered copy that is. -/
theorem freeDestination_cases (taken : String → Bool) (dir name : String) :
    ((taken (joinPath dir name) = false ∨ ¬ HasFreeName taken dir name) ∧
      freeDestination taken dir name = joinPath dir name) ∨
    ∃ n, 1 ≤ n ∧ n < maxNameCollisions ∧ taken (joinPath dir name) = true ∧
      taken (joinPath dir (numberedName name n)) = false ∧
      (∀ m, 1 ≤ m → m < n → taken (joinPath dir (numberedName name m)) = true) ∧
      freeDestination taken dir name = joinPath dir (numberedName name n) := by
  by_cases hfirst : taken (joinPath dir name) = false
  · exact .inl ⟨.inl hfirst, by simp [freeDestination, hfirst]⟩
  by_cases hfree : HasFreeName taken dir name
  · rw [Bool.not_eq_false] at hfirst
    cases hfind : (List.range' 1 (maxNameCollisions - 1)).find? fun n =>
        !taken (joinPath dir (numberedName name n)) with
    | none =>
      have htaken := freeDestination_free hfree
      simp [freeDestination, hfirst, hfind] at htaken
    | some n =>
      obtain ⟨hn, hmem, hbefore⟩ := List.find?_range'_eq_some.mp hfind
      rw [List.mem_range'_1] at hmem
      refine .inr ⟨n, hmem.1, by omega, hfirst, by simpa using hn, fun m hlo hlt => ?_, ?_⟩
      · simpa using hbefore m hlo hlt
      · simp [freeDestination, hfirst, hfind]
  · exact .inl ⟨.inr hfree, (freeDestination_taken hfree).1⟩

/-- The destination is the cleaned name, or that name with a number. -/
theorem freeDestination_chosen (taken : String → Bool) (dir raw : String) :
    Chosen dir raw (freeDestination taken dir (sanitizeFileName raw)) := by
  rcases freeDestination_cases taken dir (sanitizeFileName raw) with
    ⟨-, heq⟩ | ⟨n, hlo, hhi, -, -, -, heq⟩
  · exact .inl heq
  · exact .inr ⟨n, hlo, hhi, heq⟩

/-- Of the names tried for a file that a peer sent as `raw`, the one that is picked is `raw`
    itself.  It is its own sanitized form and free, or that and every numbered copy is taken; or
    it is a numbered copy of what sanitizing cuts it down to, the first that is free. -/
def KeepsName (taken : String → Bool) (dir raw : String) : Prop :=
  (sanitizeFileName raw = raw ∧ (taken (joinPath dir raw) = false ∨
      ¬ HasFreeName taken dir raw)) ∨
    ∃ n, 1 ≤ n ∧ n < maxNameCollisions ∧ numberedName (sanitizeFileName raw) n = raw ∧
      taken (joinPath dir raw) = false ∧ taken (joinPath dir (sanitizeFileName raw)) = true ∧
      ∀ m, 1 ≤ m → m < n → taken (joinPath dir (numberedName (sanitizeFileName raw) m)) = true

/-- `Path::file_name` finds the component that was joined last. -/
theorem pathFileName_joinPath (dir : String) {name : String} (h : SafeComponent name) :
    Manager.pathFileName (joinPath dir name) = some name := by
  have hdot : name.toList ≠ ['.'] := fun heq => h.notDot (String.toList_injective heq)
  have hdots : name.toList ≠ ['.', '.'] := fun heq => h.notDotDot (String.toList_injective heq)
  have hfilter : ((joinPath dir name).toList.splitOnP fun c => c = '/').filter
        (fun c => c ≠ [] ∧ c ≠ ['.']) =
      (segments (joinPath dir name)).filter fun c => c ≠ ['.'] := by
    rw [segments, List.filter_filter]
    refine List.filter_congr fun c _ => ?_
    cases c <;> simp
  have hlast : ((segments (joinPath dir name)).filter fun c => c ≠ ['.']).getLast? =
      some name.toList := by
    rw [segments_joinPath dir h, List.filter_append]
    simp [hdot]
  rw [Manager.pathFileName, hfilter, hlast]
  simp [hdots]

theorem Chosen.pathFileName {dir raw path : String} (h : Chosen dir raw path) :
    ∃ name, Manager.pathFileName path = some name ∧ path = joinPath dir name := by
  have hsafe := sanitizeFileName_safe raw
  rcases h with rfl | ⟨n, -, -, rfl⟩
  · exact ⟨_, pathFileName_joinPath dir hsafe, rfl⟩
  · exact ⟨_, pathFileName_joinPath dir (hsafe.numberedName n), rfl⟩

/-- The file keeps the name it was sent under exactly in the cases of `KeepsName`. -/
theorem freeDestination_keeps_iff (taken : String → Bool) (dir raw : String) :
    Manager.pathFileName (freeDestination taken dir (sanitizeFileName raw)) = some raw ↔
      KeepsName taken dir raw := by
  have hsafe := sanitizeFileName_safe raw
  rcases freeDestination_cases taken dir (sanitizeFileName raw) with
    ⟨hplain, heq⟩ | ⟨n, hlo, hhi, hfirst, hfree, hbefore, heq⟩
  · rw [heq, pathFileName_joinPath dir hsafe, Option.some.injEq]
    constructor
    · intro hname
      rw [hname] at hplain
      exact .inl ⟨hname, hplain⟩
    · rintro (⟨hname, -⟩ | ⟨n, hlo, hhi, hname, hfree, htaken, -⟩)
      · exact hname
      · rcases hplain with hplain | hnone
        · simp [hplain] at htaken
        · rw [← hname] at hfree
          exact absurd (.inr ⟨n, hlo, hhi, hfree⟩) hnone
  · rw [heq, pathFileName_joinPath dir (hsafe.numberedName n), Option.some.injEq]
    constructor
    · intro hname
      rw [hname] at hfree
      exact .inr ⟨n, hlo, hhi, hname, hfree, hfirst, hbefore⟩
    · rintro (⟨hname, hplain⟩ | ⟨k, hklo, -, hname, hkfree, -, hkbefore⟩)
      · rw [hname] at hfirst hfree
        rcases hplain with hplain | hnone
        · simp [hplain] at hfirst
        · exact absurd (.inr ⟨n, hlo, hhi, hfree⟩) hnone
      · -- both are the first free number
        rw [← hname] at hkfree
        rcases Nat.lt_trichotomy n k with hlt | rfl | hlt
        · simp [hkbefore n hlo hlt] at hfree
        · exact hname
        · simp [hbefore k hklo hlt] at hkfree

/-! ## One receive and its record -/

/-- A receive, the disk it works on and what became of it. -/
structure Delivery where
  recv : ReceiveRun
  disk : Disk
  /-- What `finish_receive` returned. -/
  finished : Option String
  /-- The destination `move_into_uri` copied to. -/
  copied : Option String
  /-- The path in the `ShareReceived` event. -/
  reported : Option String

inductive DeliveryMove where
  /-- A step of the receive. -/
  | own (cancelled : Bool) (io : Faults) (tools : Tools)
  /-- A call of the engine for another transfer. -/
  | other (io : Faults) (c : EngineCall)
  /-- Files come and go, here and behind the URI. -/
  | outside (files : LocalFiles) (remote : Files String UInt8)

namespace Delivery

def sharedPath : Event → Option String
  | .shareReceived path _ => some path
  | _ => none

/-- The path `finish_receive` returns in this step, if it is called and succeeds. -/
def finishes (s : Delivery) (io : Faults) : Option String :=
  match s.recv.phase with
  | .finish => (s.disk.staging.finishReceive io s.recv.id).1.toOption
  | _ => none

/-- The destination `move_into_uri` copies to in this step. -/
def copies (s : Delivery) (io : Faults) (tools : Tools) : Option String :=
  match s.recv.phase, s.recv.task.saveTarget with
  | .copy path, .uri uri =>
    if (s.disk.moveIntoUri io tools path uri).1.isOk then
      (Manager.pathFileName path).map (Disk.uriDestination uri)
    else none
  | _, _ => none

def step (s : Delivery) : DeliveryMove → Delivery
  | .own cancelled io tools =>
    let next := s.recv.step cancelled io tools s.disk
    { recv := next.1
      disk := next.2.1
      finished := (s.finishes io).or s.finished
      copied := (s.copies io tools).or s.copied
      reported := (next.2.2.findSome? sharedPath).or s.reported }
  | .other io c => { s with disk := { s.disk with staging := (s.disk.staging.call io c).2 } }
  | .outside files remote =>
    { s with disk := { staging := { s.disk.staging with files }, remote } }

def start (task : ReceiveTask) (w : Wire) (dir : String) (files : LocalFiles)
    (remote : Files String UInt8) : Delivery where
  recv := .new task w none
  disk := { staging := .idle dir files, remote }
  finished := none
  copied := none
  reported := none

/-- The file that was written for the user. -/
def stored (s : Delivery) : Option String :=
  match s.recv.task.saveTarget with
  | .dir _ => s.finished
  | .uri _ => s.copied

/-- Calls for other transfers carry other ids. -/
def Apart (task : ReceiveTask) : DeliveryMove → Prop
  | .other _ c => c.id ≠ task.transferId
  | _ => True

variable {s : Delivery} {dir path : String} {task : ReceiveTask} {moves : List DeliveryMove}

def AtPhase (s : Delivery) (dir : String) : ReceivePhase → Prop
  | .copy path => s.finished = some path ∧ Chosen dir s.recv.task.fileName path ∧ s.reported = none
  | .ended (.ok path) =>
    s.finished = some path ∧ Chosen dir s.recv.task.fileName path ∧
      s.reported = some (s.recv.sharePath path) ∧
      ∀ uri, s.recv.task.saveTarget = .uri uri →
        s.copied = (Manager.pathFileName path).map (Disk.uriDestination uri)
  | _ => s.reported = none

structure Inv (dir : String) (task : ReceiveTask) (s : Delivery) : Prop where
  spawned : s.recv.task = task
  named : s.disk.staging.Named dir
  entry : ∀ t, s.disk.staging.incoming.get task.transferId = some t →
    t.info.fileName = task.fileName
  phase : s.AtPhase dir s.recv.phase

theorem start_inv (task : ReceiveTask) (w : Wire) (dir : String) (files : LocalFiles)
    (remote : Files String UInt8) : Inv dir task (start task w dir files remote) :=
  ⟨rfl, Staging.named_idle dir files, fun _ h => (by cases h), rfl⟩

/-- Calls for other transfers leave the entry alone. -/
theorem Inv.other (h : Inv dir task s) (io : Faults) {c : EngineCall}
    (hc : c.id ≠ task.transferId) : Inv dir task (s.step (.other io c)) := by
  refine ⟨h.spawned, h.named.call io c, fun t ht => ?_, h.phase⟩
  rcases (s.disk.staging.call_did io c).entry ht with ⟨hstart, hid, -⟩ | ⟨t₀, ht₀, hinfo, -⟩
  · -- a start under our id would not be a call for another transfer
    refine absurd ?_ hc
    rw [hstart, hid]
    rfl
  · rw [← hinfo]
    exact h.entry t₀ ht₀

/-- Files that come and go are not in the books of the engine. -/
theorem Inv.outside (h : Inv dir task s) (files : LocalFiles) (remote : Files String UInt8) :
    Inv dir task (s.step (.outside files remote)) :=
  ⟨h.spawned, h.named.of_entries rfl fun _ t ht => .inr ⟨t, ht, rfl, rfl, rfl⟩, h.entry, h.phase⟩

/-! ### Steps of the receive -/

theorem copy_entries (hphase : s.recv.phase = .copy path) (cancelled : Bool) (io : Faults)
    (tools : Tools) :
    (s.step (.own cancelled io tools)).disk.staging.incoming = s.disk.staging.incoming ∧
      (s.step (.own cancelled io tools)).disk.staging.saveDir = s.disk.staging.saveDir := by
  have hremoved : ∀ d : Disk, d.staging = s.disk.staging →
      (d.removeLocal io path).staging.incoming = s.disk.staging.incoming ∧
        (d.removeLocal io path).staging.saveDir = s.disk.staging.saveDir := by
    intro d hd
    unfold Disk.removeLocal
    rw [← hd]
    cases io.remove <;> exact ⟨rfl, rfl⟩
  cases htarget : s.recv.task.saveTarget with
  | dir _ => simp [step, ReceiveRun.step, hphase, htarget]
  | uri uri =>
    rcases ReceiveRun.step_copy cancelled io tools s.disk hphase htarget with heq | ⟨name, -, heq⟩
    · simp only [step, heq]
      exact hremoved s.disk rfl
    · simp only [step, heq]
      exact hremoved _ (s.disk.copyOut_staging _ _)

theorem Inv.own_entries (h : Inv dir task s) (cancelled : Bool) (io : Faults) (tools : Tools) :
    (s.step (.own cancelled io tools)).disk.staging.Named dir ∧
      ∀ t, (s.step (.own cancelled io tools)).disk.staging.incoming.get task.transferId = some t →
        t.info.fileName = task.fileName := by
  by_cases hcopy : ∃ path, s.recv.phase = .copy path
  · obtain ⟨path, hphase⟩ := hcopy
    obtain ⟨hentries, hdir⟩ := copy_entries hphase cancelled io tools
    refine ⟨h.named.of_entries hdir fun id t ht => ?_, fun t ht => ?_⟩
    · rw [hentries] at ht
      exact .inr ⟨t, ht, rfl, rfl, rfl⟩
    · rw [hentries] at ht
      exact h.entry t ht
  · have hstaging : (s.step (.own cancelled io tools)).disk.staging =
        ReceiveRun.afterCall s.disk.staging io (s.recv.engineCall cancelled) :=
      congrArg Disk.staging (ReceiveRun.step_disk fun path hp => hcopy ⟨path, hp⟩)
    rw [hstaging]
    cases hc : s.recv.engineCall cancelled with
    | none => exact ⟨h.named, h.entry⟩
    | some c =>
      refine ⟨h.named.call io c, fun t ht => ?_⟩
      rcases (s.disk.staging.call_did io c).entry ht with ⟨hstart, -, -⟩ | ⟨t₀, ht₀, hinfo, -⟩
      · -- the entry is the one this receive has just started
        rw [hstart] at hc
        rw [ReceiveRun.engineCall_start hc, ReceiveRun.info, h.spawned]
      · rw [← hinfo]
        exact h.entry t₀ ht₀

/-- A step before the file is finished reports nothing. -/
theorem own_before {cancelled : Bool} {io : Faults} {tools : Tools}
    (hfinish : s.recv.phase ≠ .finish) (hcopy : ∀ path, s.recv.phase ≠ .copy path)
    (hended : ∀ result, s.recv.phase ≠ .ended result) (h : s.reported = none) :
    (s.step (.own cancelled io tools)).AtPhase dir
      (s.step (.own cancelled io tools)).recv.phase := by
  have hgoes := s.recv.step_goes cancelled io tools s.disk
  simp only [step]
  generalize (s.recv.step cancelled io tools s.disk).1 = r at hgoes
  generalize (s.recv.step cancelled io tools s.disk).2.2 = events at hgoes
  cases hgoes with
  | fails _ => simpa [AtPhase, ReceiveRun.goto] using h
  | begins _ _ => simpa [AtPhase, ReceiveRun.goto] using h
  | skips _ => simpa [AtPhase, ReceiveRun.goto] using h
  | @reads done _ =>
    rcases s.recv.readNext_phase done with ⟨e, hp⟩ | hp | ⟨chunk, hp⟩ <;>
      simpa [AtPhase, hp] using h
  | @writes done chunk _ =>
    rcases s.recv.afterWrite_phase (done + chunk.length) with hp | hp <;>
      simpa [AtPhase, hp, sharedPath] using h
  | hands hp => exact absurd hp hfinish
  | @stores path hp => exact absurd hp (not_or.mpr ⟨hfinish, hcopy path⟩)
  | rests hp => exact absurd hp (hended _)

/-- The entry carries the peer's name, so the destination is chosen from it. -/
theorem Inv.destination (h : Inv dir task s) {t : IncomingTransfer}
    (ht : s.disk.staging.incoming.get s.recv.id = some t) (io : Faults) :
    s.disk.staging.destination io t.finalName =
      freeDestination (s.disk.staging.taken io) dir (sanitizeFileName task.fileName) := by
  have hid : s.recv.id = task.transferId := by rw [ReceiveRun.id, h.spawned]
  rw [Staging.destination, h.named.finalName _ t ht, h.entry t (hid ▸ ht), h.named.saveDir]

/-- The engine's rename decides where the file lies; the copy to a URI starts from there. -/
theorem Inv.own_finish (h : Inv dir task s) (hphase : s.recv.phase = .finish) (cancelled : Bool)
    (io : Faults) (tools : Tools) :
    (s.step (.own cancelled io tools)).AtPhase dir
      (s.step (.own cancelled io tools)).recv.phase := by
  have hnone : s.reported = none := by simpa [hphase, AtPhase] using h.phase
  rcases s.disk.staging.finishReceive_cases io s.recv.id with ⟨e, hcall⟩ | ⟨t, ht, -, -, hcall⟩
  · simp [step, ReceiveRun.step, hphase, hcall, AtPhase, ReceiveRun.goto, hnone]
  · have hchosen : Chosen dir s.recv.task.fileName (s.disk.staging.destination io t.finalName) := by
      rw [h.destination ht, h.spawned]
      exact freeDestination_chosen _ _ _
    cases htarget : s.recv.task.saveTarget with
    | dir _ =>
      simp [step, ReceiveRun.step, hphase, hcall, htarget, finishes, AtPhase, ReceiveRun.goto,
        Except.toOption, ReceiveRun.shareReceived, sharedPath, ReceiveRun.sharePath, hchosen]
    | uri _ =>
      simp [step, ReceiveRun.step, hphase, hcall, htarget, finishes, AtPhase, ReceiveRun.goto,
        Except.toOption, hchosen, hnone]

/-- The step that copies the file into the URI. -/
theorem Inv.own_copy (h : Inv dir task s) (hphase : s.recv.phase = .copy path) (cancelled : Bool)
    (io : Faults) (tools : Tools) :
    (s.step (.own cancelled io tools)).AtPhase dir
      (s.step (.own cancelled io tools)).recv.phase := by
  obtain ⟨hfinished, hchosen, hnone⟩ : s.finished = some path ∧
      Chosen dir s.recv.task.fileName path ∧ s.reported = none := by
    simpa [hphase, AtPhase] using h.phase
  cases htarget : s.recv.task.saveTarget with
  | dir _ =>
    simp [step, ReceiveRun.step, hphase, htarget, finishes, AtPhase, ReceiveRun.goto,
      ReceiveRun.shareReceived, sharedPath, ReceiveRun.sharePath, hchosen, hfinished]
  | uri uri =>
    rcases s.disk.moveIntoUri_cases io tools path uri with ⟨e, hmove⟩ | ⟨name, hname, hmove⟩
    · simp [step, ReceiveRun.step, hphase, htarget, hmove, AtPhase, ReceiveRun.goto, hnone]
    · simp [step, ReceiveRun.step, hphase, htarget, hmove, finishes, copies, AtPhase,
        ReceiveRun.goto, ReceiveRun.shareReceived, sharedPath, ReceiveRun.sharePath, hchosen,
        hfinished, hname, Except.isOk, Except.toBool]

theorem Inv.own (h : Inv dir task s) (cancelled : Bool) (io : Faults) (tools : Tools) :
    Inv dir task (s.step (.own cancelled io tools)) := by
  obtain ⟨hnamed, hentry⟩ := h.own_entries cancelled io tools
  refine ⟨(s.recv.step_goes cancelled io tools s.disk).task.trans h.spawned, hnamed, hentry, ?_⟩
  have hat := h.phase
  cases hp : s.recv.phase with
  | start =>
    rw [hp] at hat
    exact own_before (by simp [hp]) (by simp [hp]) (by simp [hp]) hat
  | check done =>
    rw [hp] at hat
    exact own_before (by simp [hp]) (by simp [hp]) (by simp [hp]) hat
  | write done chunk =>
    rw [hp] at hat
    exact own_before (by simp [hp]) (by simp [hp]) (by simp [hp]) hat
  | finish => exact h.own_finish hp cancelled io tools
  | copy path => exact h.own_copy hp cancelled io tools
  | ended result =>
    -- a receive that has ended stays as it is
    rw [hp] at hat
    simpa [Delivery.step, ReceiveRun.step, hp, finishes, copies] using hat

/-- The task's own turns and those of other transfers keep the invariant. -/
theorem Inv.step (h : Inv dir task s) {a : DeliveryMove} (ha : Apart task a) :
    Inv dir task (s.step a) := by
  cases a with
  | own cancelled io tools => exact h.own cancelled io tools
  | other io c => exact h.other io ha
  | outside files remote => exact h.outside files remote

theorem run_inv (h : Inv dir task s)
    (hapart : ∀ a ∈ moves, Apart task a) : Inv dir task (run step s moves) :=
  (allStates_of_invariant (P := fun _ a => Apart task a) h (fun _ _ hs ha => hs.step ha)
    (allSteps_of_forall_mem hapart)).last

/-- The reported path is where the file was put. -/
theorem Inv.reported (h : Inv dir task s) (hpath : s.reported = some path) :
    ∃ final, s.finished = some final ∧ Chosen dir task.fileName final ∧
      path = s.recv.sharePath final ∧ ∀ uri, task.saveTarget = .uri uri →
        s.copied = (Manager.pathFileName final).map (Disk.uriDestination uri) := by
  have hat := h.phase
  -- in every other phase nothing was reported
  have hnone : s.reported ≠ none := by simp [hpath]
  cases hp : s.recv.phase with
  | ended result =>
    cases result with
    | ok final =>
      rw [hp] at hat
      obtain ⟨hfinished, hchosen, hreported, hcopied⟩ := hat
      rw [h.spawned] at hchosen hcopied
      exact ⟨final, hfinished, hchosen, Option.some.inj (hpath.symm.trans hreported), hcopied⟩
    | error e => exact absurd (by rw [hp] at hat; exact hat) hnone
  | copy final =>
    rw [hp] at hat
    exact absurd hat.2.2 hnone
  | _ => exact absurd (by rw [hp] at hat; exact hat) hnone

/-- Two names under one URI are two destinations. -/
theorem uriDestination_inj {uri a b : String}
    (h : Disk.uriDestination uri a = Disk.uriDestination uri b) : a = b := by
  have htext := congrArg String.toList h
  simp only [Disk.uriDestination, String.toList_append] at htext
  exact String.toList_injective (List.append_cancel_left htext)

/-- The step in which the file was finished. -/
theorem finished_in_run {final : String}
    (h : (run step s moves).finished = some final) : s.finished = some final ∨
      ∃ before cancelled io tools after, moves = before ++ .own cancelled io tools :: after ∧
        (run step s before).recv.phase = .finish ∧
        ((run step s before).disk.staging.finishReceive io (run step s before).recv.id).1 =
          .ok final := by
  induction moves generalizing s with
  | nil => exact .inl h
  | cons a moves ih =>
    rcases ih h with hnext | ⟨before, cancelled, io, tools, after, rfl, hrest⟩
    · cases a with
      | other io c => exact .inl hnext
      | outside files remote => exact .inl hnext
      | own cancelled io tools =>
        -- either this step finished, or an earlier one had
        rcases Option.or_eq_some_iff.mp hnext with hnow | ⟨-, hold⟩
        · refine .inr ⟨[], cancelled, io, tools, moves, rfl, ?_⟩
          unfold finishes at hnow
          split at hnow
          · rename_i hphase
            refine ⟨hphase, ?_⟩
            cases hcall : (s.disk.staging.finishReceive io s.recv.id).1 with
            | error e => simp [hcall, Except.toOption] at hnow
            | ok path => simpa [hcall, Except.toOption] using hnow
          · cases hnow
        · exact .inl hold
    · exact .inr ⟨a :: before, cancelled, io, tools, after, rfl, hrest⟩

/-- **The reported path.** A receive that has succeeded has finished its file in one
    of its steps.  The path in its `ShareReceived` event is that of the stored file
    if and only if the save target is local, or the staging directory as it was
    before that step let the file keep the very name the peer sent. -/
theorem reported_path_stored_iff (task : ReceiveTask) (w : Wire) (dir : String)
    (files : LocalFiles) (remote : Files String UInt8) (moves : List DeliveryMove)
    (hapart : ∀ a ∈ moves, Apart task a) {path : String}
    (hreported : (run step (start task w dir files remote) moves).reported = some path) :
    (∃ before cancelled io tools after, moves = before ++ .own cancelled io tools :: after ∧
      (run step (start task w dir files remote) before).recv.phase = .finish ∧
      ((run step (start task w dir files remote) moves).stored = some path ↔
        ∀ uri, task.saveTarget = .uri uri → KeepsName
          ((run step (start task w dir files remote) before).disk.staging.taken io) dir
          task.fileName)) ∧
    ∃ final, (run step (start task w dir files remote) moves).finished = some final ∧
      Chosen dir task.fileName final := by
  have hinv := run_inv (start_inv task w dir files remote) hapart
  obtain ⟨final, hfinished, hchosen, hpath, hcopied⟩ := hinv.reported hreported
  refine ⟨?_, final, hfinished, hchosen⟩
  obtain ⟨before, cancelled, io, tools, after, rfl, hphase, hfinal⟩ :=
    (finished_in_run hfinished).resolve_left (by simp [start])
  refine ⟨before, cancelled, io, tools, after, rfl, hphase, ?_⟩
  -- the name was picked in the directory as it was before the step
  have hkeeps : Manager.pathFileName final = some task.fileName ↔ KeepsName
      ((run step (start task w dir files remote) before).disk.staging.taken io) dir
      task.fileName := by
    have hbefore := run_inv (start_inv task w dir files remote)
      fun a ha => hapart a (List.mem_append_left _ ha)
    generalize run step (start task w dir files remote) before = s at hbefore hfinal ⊢
    rcases s.disk.staging.finishReceive_cases io s.recv.id with ⟨e, hcall⟩ | ⟨t, ht, -, -, hcall⟩
    · simp [hcall] at hfinal
    · obtain rfl : s.disk.staging.destination io t.finalName = final := by
        simpa [hcall] using hfinal
      rw [hbefore.destination ht, freeDestination_keeps_iff]
  generalize run step (start task w dir files remote) (before ++ .own cancelled io tools :: after)
    = s at hinv hreported hpath hcopied hfinished
  rw [← hkeeps]
  obtain ⟨name, hname, -⟩ := hchosen.pathFileName
  rw [stored, ReceiveRun.sharePath, hinv.spawned] at *
  cases htarget : task.saveTarget with
  | dir _ => simp [htarget, hfinished, hpath]
  | uri uri =>
    rw [htarget] at hpath
    -- the event names the peer's file name below the URI, the copy the final one
    simp only [hcopied uri htarget, hname, hpath, Option.map_some, Option.some.injEq]
    constructor
    · exact fun heq _ _ => uriDestination_inj heq
    · intro heq
      rw [heq uri rfl]

def emptyFile (fileName : String) (saveTarget : SaveTarget) : ReceiveTask where
  transferId := "t1"
  deviceId := "peer"
  fileName := fileName
  size := 0
  payload := none
  saveTarget := saveTarget

/-- A step in which every file operation and `gio` work. -/
def smooth : DeliveryMove := .own false .none ⟨.copied, .absent⟩

def intoShare (fileName uri : String) (files : LocalFiles) : Delivery :=
  run step (start (emptyFile fileName (.uri uri)) [] "/d" files .empty) [smooth, smooth, smooth]

/-- The peer's name is usable and free, so the share is told about the right file. -/
theorem reported_path_stored_share :
    (intoShare "a.txt" "smb://nas/in/" (Files.empty.put "/d/b.txt" [1])).stored =
      some "smb://nas/in/a.txt" := by
  obtain ⟨before, cancelled, io, tools, after, hmoves, hphase, hiff⟩ :=
    (reported_path_stored_iff (emptyFile "a.txt" (.uri "smb://nas/in/")) [] "/d"
      (Files.empty.put "/d/b.txt" [1]) .empty [smooth, smooth, smooth] (by simp [smooth, Apart])
      (by decide : _ = some "smb://nas/in/a.txt")).1
  refine hiff.mpr fun _ _ => .inl ⟨by decide, .inl ?_⟩
  -- only the second step is taken in the phase of the finish
  rcases before with _ | ⟨a, _ | ⟨b, _ | ⟨c, rest⟩⟩⟩
  · cases hphase
  · simp only [List.cons_append, List.nil_append, List.cons.injEq, smooth,
      DeliveryMove.own.injEq] at hmoves
    obtain ⟨rfl, ⟨-, rfl, -⟩, -⟩ := hmoves
    decide
  · simp only [List.cons_append, List.cons.injEq] at hmoves
    obtain ⟨rfl, rfl, -⟩ := hmoves
    cases hphase
  · simp at hmoves

/-- A name with a colon is stored with an underscore and reported with the colon;
    a file whose name is taken in the staging directory is stored as a numbered copy
    and reported under the plain name. -/
theorem reported_path_not_stored :
    (intoShare "a:b.txt" "smb://nas/in/" .empty).reported = some "smb://nas/in/a:b.txt" ∧
      (intoShare "a:b.txt" "smb://nas/in/" .empty).stored = some "smb://nas/in/a_b.txt" ∧
      (intoShare "a:b.txt" "smb://nas/in/" .empty).disk.remote.read "smb://nas/in/a:b.txt" = none ∧
      (intoShare "a.txt" "smb://nas/in" (Files.empty.put "/d/a.txt" [1])).reported =
        some "smb://nas/in/a.txt" ∧
      (intoShare "a.txt" "smb://nas/in" (Files.empty.put "/d/a.txt" [1])).stored =
        some "smb://nas/in/a (1).txt" := by
  decide

end Delivery

end Handfast.Daemon
