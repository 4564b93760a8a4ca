/-
  Handfast.Daemon.Sources

  The temporary files behind sends of non-local URIs.  `Sources` is the hub with
  the files that `materialize_uri` has created and that still exist.

  Responsibility for such a file passes from `materialize_uri` to `send_file`
  and from there to the task that streams it (`stream_outgoing`), which removes
  it however it ends.  On the way there are exits that forget it (`Leaks`): a
  copy, flush or wait that fails, an empty file, and a data port that cannot be
  bound.  As long as none of them is taken, every temporary file belongs to a
  send that is still running.
-/
import Handfast.Daemon.Backends
import Handfast.Daemon.Lifecycle

namespace Handfast.Daemon

open Handfast.Lib Handfast.Protocol Handfast.Core

/-! ## The exits of `send_file` -/

namespace Manager

variable {m : Manager} {env : Env} {d : String} {src : Materialized}

/-- A source that was made ready is not passed on: it is a regular file for a
    connected device, but an empty one, or no data port can be bound. -/
def Forgets (m : Manager) (env : Env) (d : String) (src : Materialized) : Prop :=
  ∃ file state, env.metadata src.localPath = .ok file ∧ file.isFile = true ∧
    m.devices.get d = some state ∧ state.isConnected = true ∧
    (file.len = 0 ∨ ∃ err, env.bindPort = .error err)

/-- What becomes of a source that was made ready. -/
inductive Fate (m : Manager) (env : Env) (d : String) (src : Materialized) :
    Manager × List Effect × Result String → Prop where
  /-- The send is refused, and the temporary file removed. -/
  | removed {err : Error} (h : ¬ m.Forgets env d src) :
      Fate m env d src (m, cleanupEffects src.cleanup, .error err)
  /-- Neither removed nor handed to a task. -/
  | forgotten {out : Manager × List Effect × Result String} (h : m.Forgets env d src)
      (hremove : ∀ path, Effect.removeFile path ∉ out.2.1)
      (hsend : ∀ task, Effect.send task ∉ out.2.1) : Fate m env d src out
  /-- A task streams it. -/
  | passed {m' : Manager} {before : List Effect} {task : SendTask} {id : String}
      (h : ¬ m.Forgets env d src) (hcleanup : task.cleanup = src.cleanup)
      (hid : task.transferId = m.freshId) (hremove : ∀ path, Effect.removeFile path ∉ before)
      (hsend : ∀ task, Effect.send task ∉ before) :
      Fate m env d src (m', before ++ [.send task], .ok id)

theorem sendEmpty_forgotten {fileName : String} {modifiedMs : Int} {state : DeviceState}
    (h : m.Forgets env d src) : Fate m env d src (m.sendEmpty env d fileName modifiedMs state) := by
  unfold sendEmpty
  cases state.sendOut env 0 with
  | error err => exact .forgotten h (by simp) (by simp)
  | ok conn => exact .forgotten h (by simp [registerTransfer]) (by simp [registerTransfer])

/-- What becomes of the temporary copy once the send was asked for. -/
theorem sendFile_fate {path : String} (hsrc : env.source path = .ok src) :
    Fate m env d src (m.sendFile env d path) := by
  unfold sendFile
  rw [hsrc]
  dsimp only
  cases hmeta : env.metadata src.localPath with
  | error err => exact .removed (by simp [Forgets, hmeta])
  | ok file =>
    dsimp only
    by_cases hfile : file.isFile = true
    · rw [if_neg (not_not.mpr hfile)]
      cases hd : m.devices.get d with
      | none => exact .removed (by simp [Forgets, hd])
      | some state =>
        dsimp only
        by_cases hconn : state.isConnected = true
        · rw [if_neg (not_not.mpr hconn)]
          by_cases hlen : file.len = 0
          · rw [if_pos hlen]
            exact sendEmpty_forgotten ⟨file, state, hmeta, hfile, hd, hconn, .inl hlen⟩
          · rw [if_neg hlen]
            unfold sendPayload
            cases hport : env.bindPort with
            | error err =>
              exact .forgotten ⟨file, state, hmeta, hfile, hd, hconn, .inr ⟨err, hport⟩⟩
                (by simp) (by simp)
            | ok port =>
              -- the data port is there and the file is not empty
              have hnot : ¬ m.Forgets env d src := by simp [Forgets, hmeta, hlen, hport]
              dsimp only
              cases state.sendOut env 0 with
              | error err => exact .removed hnot
              | ok conn =>
                refine .passed hnot rfl rfl ?_ ?_ <;> simp [registerTransfer]
        · rw [if_pos hconn]
          exact .removed (by simp [Forgets, hd, hconn])
    · rw [if_pos hfile]
      exact .removed (by simp [Forgets, hmeta, hfile])

end Manager

/-! ## The system -/

/-- The actor handles a `SendFile`. -/
def HubMove.isSendFile : HubMove → Bool
  | .command _ (.sendFile _ _ _) _ _ => true
  | _ => false

structure Sources where
  hub : Hub
  /-- The files `materialize_uri` has created and that still exist. -/
  temp : LocalFiles
  /-- The counter behind the names of temporary files. -/
  counter : Nat
  /-- `temp_dir()` and the process id. -/
  tempDir : String
  pid : Nat

inductive SourcesMove where
  /-- The actor handles a `SendFile`, with the clock's nanoseconds and what it finds
      of home directory, files and tools. -/
  | sendFile (env : Env) (home : Option String) (isFile : String → Bool) (nanos : Nat)
      (runs : CatRuns) (deviceId path : String) (reply : ReplyTo) (control : Option Fingerprint)
  /-- Any other move of the hub. -/
  | hub (a : HubMove)

namespace Sources

/-- A temporary file: process id, counter and nanoseconds make up its name. -/
def tempPath (s : Sources) (n nanos : Nat) : String :=
  joinPath s.tempDir
    (s!"handfast-src-{s.pid}-" ++ toString n ++ "-" ++ String.ofList (Nat.toDigits 16 nanos))

/-- The temporary files after the removals among some effects. -/
def removeAll (files : LocalFiles) (effects : List Effect) : LocalFiles :=
  effects.foldl (fun files e => match e with
    | .removeFile path => files.remove path
    | _ => files) files

/-- The effects of a move of the hub that may remove files. -/
def effectsOf (h : Hub) : HubMove → List Effect
  | .command env c _ _ => (h.manager.handle env c).2
  | .send id tick => ((h.sends.get id).map fun r => (r.step (h.cancelled r.id) tick).2).getD []
  | .receive _ _ _ | .outcome _ _ _ => []

def materialize (s : Sources) (home : Option String) (isFile : String → Bool) (nanos : Nat)
    (runs : CatRuns) (path : String) : Result Materialized × LocalFiles :=
  materializeSource home isFile runs (s.tempPath s.counter nanos) path s.temp

def step (s : Sources) : SourcesMove → Sources
  | .sendFile env home isFile nanos runs deviceId path reply control =>
    let made := s.materialize home isFile nanos runs path
    let env := { env with source := fun _ => made.1 }
    { s with
      hub := s.hub.step (.command env (.sendFile deviceId path reply) control [])
      temp := removeAll made.2 (s.hub.manager.handle env (.sendFile deviceId path reply)).2
      -- only a temporary name uses up a number
      counter := if NonLocal path then s.counter + 1 else s.counter }
  | .hub a =>
    -- sends are asked for through `sendFile`
    if a.isSendFile then s
    else { s with hub := s.hub.step a, temp := removeAll s.temp (effectsOf s.hub a) }

def start (hub : Hub) (tempDir : String) (pid : Nat) : Sources where
  hub := hub
  temp := .empty
  counter := 0
  tempDir := tempDir
  pid := pid

/-- A send that is running, and whose transfer is still active, will remove the file. -/
def Held (h : Hub) (path : String) : Prop :=
  ∃ id r, h.sends.get id = some r ∧ r.task.cleanup = some path ∧ r.result = none ∧
    (h.manager.transfers.get id).map TransferRecord.state = some .active

/-- Every temporary file belongs to a send. -/
def Kept (s : Sources) : Prop := ∀ path, s.temp.has path = true → Held s.hub path

/-- The move leaves a temporary file behind: the tool that reads the URI breaks off
    after the file was created, or `send_file` forgets it. -/
def Leaks (s : Sources) : SourcesMove → Prop
  | .sendFile env home isFile nanos runs deviceId path _ _ =>
    NonLocal path ∧ (breaksOff runs.inOrder = true ∨
      ∃ src, (s.materialize home isFile nanos runs path).1 = .ok src ∧
        s.hub.manager.Forgets env deviceId src)
  | .hub _ => False

/-! ## Temporary files -/

variable {s : Sources} {files : LocalFiles} {effects : List Effect} {path : String}

theorem has_removeAll :
    (removeAll files effects).has path = true ↔
      files.has path = true ∧ Effect.removeFile path ∉ effects := by
  induction effects generalizing files with
  | nil => simp [removeAll]
  | cons e rest ih =>
    rw [removeAll, List.foldl_cons]
    refine ih.trans ?_
    cases e with
    | removeFile path' =>
      by_cases hpath : path = path'
      · simp [Files.has, hpath]
      · simp [Files.has, hpath]
    | _ => simp

theorem joinPath_inj {dir a b : String} (h : joinPath dir a = joinPath dir b) : a = b := by
  have htext := congrArg String.toList h
  unfold joinPath at htext
  cases hlast : dir.toList.getLast? with
  | none => exact String.toList_injective (by simpa [hlast] using htext)
  | some c =>
    apply String.toList_injective
    by_cases hc : c = '/'
    · simpa [hlast, hc] using htext
    · simpa [hlast, hc] using htext

/-- What stands before the first separator is determined. -/
theorem eq_of_append_sep {α : Type} [DecidableEq α] {x y z w : List α} {a : α} (hx : a ∉ x)
    (hy : a ∉ y) (h : x ++ a :: z = y ++ a :: w) : x = y := by
  have hfront : ∀ {xs zs : List α}, a ∉ xs →
      (xs ++ a :: zs).takeWhile (fun b => b ≠ a) = xs := by
    intro xs zs hxs
    rw [List.takeWhile_append_of_pos]
    · simp
    · intro b hb
      simp only [ne_eq, decide_not, Bool.not_eq_eq_eq_not, Bool.not_true, decide_eq_false_iff_not]
      rintro rfl
      exact hxs hb
  rw [← hfront hx, h, hfront hy]

/-- The number can be read off a temporary file's name. -/
theorem tempPath_inj {n n' nanos nanos' : Nat} (h : s.tempPath n nanos = s.tempPath n' nanos') :
    n = n' := by
  have hdash : ∀ k : Nat, '-' ∉ (toString k).toList := by
    intro k hmem
    rw [Nat.toString_eq_ofList_toDigits, String.toList_ofList] at hmem
    have hdigit := Nat.isDigit_of_mem_toDigits (by decide) (by decide) hmem
    exact absurd hdigit (by decide)
  have hname := joinPath_inj h
  generalize s!"handfast-src-{s.pid}-" = front at hname
  have htext := congrArg String.toList hname
  simp only [String.toList_append, List.append_assoc] at htext
  have hrest := List.append_cancel_left htext
  exact toString_nat_inj (String.toList_injective (eq_of_append_sep (hdash n) (hdash n') hrest))

theorem step_tempPath (a : SourcesMove) (n nanos : Nat) :
    (s.step a).tempPath n nanos = s.tempPath n nanos := by
  have hsame : (s.step a).tempDir = s.tempDir ∧ (s.step a).pid = s.pid := by
    cases a with
    | sendFile => simp only [step, and_self]
    | hub a =>
      simp only [step]
      split <;> simp only [and_self]
  unfold tempPath
  rw [hsame.1, hsame.2]

def Issued (s : Sources) (path : String) : Prop :=
  ∃ n nanos, n < s.counter ∧ path = s.tempPath n nanos

/-- The next temporary path was not used before. -/
theorem not_issued (s : Sources) (nanos : Nat) : ¬ s.Issued (s.tempPath s.counter nanos) := by
  rintro ⟨n, nanos', hn, heq⟩
  have hsame := tempPath_inj heq
  omega

/-- Temporary files, and those sends will remove, have names that were given out. -/
structure Known (s : Sources) : Prop where
  tracked : s.hub.Tracked
  temp : ∀ path, s.temp.has path = true → s.Issued path
  cleanup : ∀ id r path, s.hub.sends.get id = some r → r.task.cleanup = some path →
    s.Issued path

/-! ## What a step does to the sends -/

variable {h : Hub} {id d path' tmp : String} {control : Option Fingerprint} {wire : Wire}
  {io : Faults} {env : Env} {a : HubMove} {r : SendRun} {m : Manager} {reply : ReplyTo}
  {written : Bytes} {leaks : Prop}

theorem performed_sends (hno : ∀ task, Effect.send task ∉ effects) (h : Hub) :
    (effects.foldl (Hub.perform control wire io) h).sends = h.sends := by
  induction effects generalizing h with
  | nil => rfl
  | cons e rest ih =>
    rw [List.foldl_cons, ih fun task ht => hno task (List.mem_cons_of_mem e ht)]
    cases e with
    | send task => exact absurd List.mem_cons_self (hno task)
    | _ => rfl

theorem handle_sends {c : Command} (hno : ∀ task, Effect.send task ∉ (h.manager.handle env c).2) :
    (h.handle env c control wire io).sends = h.sends :=
  performed_sends (fun task ht => hno task (List.mem_of_mem_filter ht)) _

/-- Only a `SendFile` starts a send. -/
theorem command_sends {c : Command} (hc : c.isOutcome = false)
    (ha : (HubMove.command env c control wire).isSendFile = false) :
    (h.handle env c control wire io).sends = h.sends := by
  have hb : h.manager.Booking c (h.manager.handle env c).2 (h.manager.handle env c).1
      (ofTransfers (h.manager.handle env c).2) := Manager.handle_books hc
  rw [Hub.handle]
  generalize ofTransfers (h.manager.handle env c).2 = effects at hb ⊢
  generalize (h.manager.handle env c).2 = all, (h.manager.handle env c).1 = m' at hb ⊢
  cases hb with
  | aside | cancel => rfl
  | @opens record _ _ _ rest hset hseq htarget hrest =>
    generalize record.state = state at hrest
    cases hrest with
    | receive | finished | failed => rfl
    | send task _ _ _ hstarts =>
      cases hstarts
      cases ha

/-- A transfer with a send is active. -/
theorem active_of_sending (ht : h.Tracked) (hr : h.sends.get id = some r) :
    (h.manager.transfers.get id).map TransferRecord.state = some .active := by
  have hstage := ht.stage id
  generalize hv : h.view id = v at hstage
  have hsending : v.sending = some r := by rw [← hv]; exact hr
  have hstate : v.state = (h.manager.transfers.get id).map TransferRecord.state := by rw [← hv]; rfl
  rw [← hstate]
  cases hstage with
  | sending => rfl
  | _ => cases hsending

/-! ## Moves that are no `SendFile` -/

theorem step_hub (ha : a.isSendFile = false) :
    s.step (.hub a) =
      { s with hub := s.hub.step a, temp := removeAll s.temp (effectsOf s.hub a) } := by
  simp [step, ha]

theorem Known.hub (hk : Known s) (a : HubMove) : Known (s.step (.hub a)) := by
  cases ha : a.isSendFile with
  | true => simpa [step, ha] using hk
  | false =>
    rw [step_hub ha]
    refine ⟨hk.tracked.step a, fun path hpath => hk.temp path (has_removeAll.mp hpath).1, ?_⟩
    intro id r path hr hpath
    cases Hub.step_sends hr with
    | kept hr => exact hk.cleanup id r path hr hpath
    | @started env c _ _ _ hs =>
      generalize (s.hub.manager.handle env c).2 = effects at hs
      cases hs
      cases ha
    | @stepped tick _ r₀ hr₀ =>
      -- the task of the send does not change
      rw [(r₀.step_wires _ tick).task] at hpath
      exact hk.cleanup id r₀ path hr₀ hpath

/-- A send that ends removes its temporary copy. -/
theorem step_cleans (cancelled : Bool) (tick : SendTick) (h : r.result = none)
    (hpath : r.task.cleanup = some path) :
    (r.step cancelled tick).1.result = none ∨
      Effect.removeFile path ∈ (r.step cancelled tick).2 := by
  have hclose : Effect.removeFile path ∈ Manager.cleanupEffects r.task.cleanup := by
    simp [Manager.cleanupEffects, hpath]
  -- every branch that ends the task goes through the cleanup
  unfold SendRun.step
  cases hp : r.phase with
  | accept =>
    dsimp only
    split
    · exact .inr hclose
    · split
      · exact .inr hclose
      · exact .inl rfl
  | pump =>
    dsimp only
    split
    · exact .inr hclose
    · split
      · exact .inr hclose
      · exact .inr hclose
      · split
        · exact .inr hclose
        · split
          · exact .inr (List.mem_cons_of_mem _ hclose)
          · left
            simp [SendRun.result, SendRun.wrote, hp]
  | ended result =>
    rw [SendRun.result, hp] at h
    rcases result with _ | _ <;> cases h

/-- A send that runs has no outcome yet. -/
theorem not_reported_of_running (ht : h.Tracked) (hr : h.sends.get id = some r)
    (hrun : r.result = none) : h.reported id = none := by
  have hnone : h.receives.get id = none := by
    cases hrecv : h.receives.get id with
    | none => rfl
    | some r' =>
      have hsending : (h.view id).sending = none := (ht.stage id).one_task hrecv
      exact absurd (hr.symm.trans hsending) (Option.some_ne_none r)
  simp [Hub.reported, hnone, hr, hrun]

theorem Kept.hub (hkept : Kept s) (hk : Known s) (a : HubMove) : Kept (s.step (.hub a)) := by
  cases ha : a.isSendFile with
  | true => simpa [step, ha] using hkept
  | false =>
    rw [step_hub ha]
    intro path hpath
    obtain ⟨id, r, hr, hcleanup, hrun, -⟩ := hkept path (has_removeAll.mp hpath).1
    suffices hheld : ∃ r', (s.hub.step a).sends.get id = some r' ∧ r'.task.cleanup = some path ∧
        r'.result = none by
      obtain ⟨r', hr', hcleanup', hrun'⟩ := hheld
      exact ⟨id, r', hr', hcleanup', hrun', active_of_sending (hk.tracked.step a) hr'⟩
    rcases Hub.step_moves s.hub a with hsame | hmoves
    · rw [hsame]
      exact ⟨r, hr, hcleanup, hrun⟩
    · generalize s.hub.step a = h' at hmoves ⊢
      cases hmoves with
      | command hc =>
        rw [command_sends hc ha]
        exact ⟨r, hr, hcleanup, hrun⟩
      | receive _ => exact ⟨r, hr, hcleanup, hrun⟩
      | @send id' tick r₀ _ hr₀ =>
        by_cases hid : id = id'
        · subst hid
          obtain rfl : r₀ = r := Option.some.inj (hr₀.symm.trans hr)
          -- the send goes on, or its file is among those removed
          rcases step_cleans (s.hub.cancelled r₀.id) tick hrun hcleanup with hon | hrem
          · exact ⟨_, by simp, by rwa [(r₀.step_wires _ tick).task], hon⟩
          · have hnot := (has_removeAll.mp hpath).2
            simp only [effectsOf, hr, Option.map_some, Option.getD_some] at hnot
            exact absurd hrem hnot
        · exact ⟨r, by simpa [hid] using hr, hcleanup, hrun⟩
      | @finished _ id' _ hrep | @failed _ id' _ _ hrep =>
        have hid : id ≠ id' := by
          rintro rfl
          rw [not_reported_of_running hk.tracked hr hrun] at hrep
          cases hrep
        exact ⟨r, by simpa [hid] using hr, hcleanup, hrun⟩

/-! ## `SendFile` -/

/-- What a `SendFile` leaves of temporary files and sends.  `tmp` is the name for a
    temporary file, which a URI uses up. -/
inductive Sent (s : Sources) (leaks uri : Prop) (tmp : String) :
    LocalFiles → Table String SendRun → Prop where
  /-- No new temporary file. -/
  | clean {temp : LocalFiles} {sends : Table String SendRun} (hleaks : ¬ leaks)
      (htemp : ∀ path, temp.has path = true → s.temp.has path = true)
      (hsends : sends = s.hub.sends ∨ ∃ r, r.task.cleanup = none ∧
        sends = s.hub.sends.insert s.hub.manager.freshId r) : Sent s leaks uri tmp temp sends
  /-- A new file without a send. -/
  | behind {temp : LocalFiles} (hleaks : leaks) (huri : uri) (htmp : temp.has tmp = true)
      (htemp : ∀ path, temp.has path = true → s.temp.has path = true ∨ path = tmp) :
      Sent s leaks uri tmp temp s.hub.sends
  /-- A new file with a send. -/
  | passed {temp : LocalFiles} {r : SendRun} (hleaks : ¬ leaks) (huri : uri)
      (htemp : ∀ path, temp.has path = true → s.temp.has path = true ∨ path = tmp)
      (hcleanup : r.task.cleanup = some tmp) (hrun : r.result = none) :
      Sent s leaks uri tmp temp (s.hub.sends.insert s.hub.manager.freshId r)

/-- A source that could not be made ready ends the command at once. -/
theorem sendFile_unready {err : Error}
    (h : env.source path = .error err) : m.sendFile env d path = (m, [], .error err) := by
  rw [Manager.sendFile, h]

theorem handle_sendFile (h : Hub) :
    h.step (.command env (.sendFile d path reply) control wire) =
      h.handle env (.sendFile d path reply) control wire .none := rfl

/-- The sends after a `SendFile` that starts a task. -/
theorem passed_sends {m' : Manager} {before : List Effect} {task : SendTask}
    {result : Result String}
    (hout : h.manager.sendFile env d path = (m', before ++ [.send task], result))
    (hsend : ∀ task, Effect.send task ∉ before) :
    (h.step (.command env (.sendFile d path reply) control wire)).sends =
      h.sends.insert task.transferId (.new task control) := by
  have heffects : (h.manager.handle env (.sendFile d path reply)).2 =
      before ++ [.send task] ++ [.replied reply (.transfer result)] := by
    simp [Manager.handle, hout]
  rw [handle_sendFile, Hub.handle, heffects, ofTransfers_append, ofTransfers_append,
    List.foldl_append, List.foldl_append]
  have hreply : ofTransfers [.replied reply (.transfer result)] = [] := rfl
  have htask : ofTransfers [.send task] = [.send task] := rfl
  rw [hreply, htask, List.foldl_nil, List.foldl_cons, List.foldl_nil]
  have hnone : ∀ task, Effect.send task ∉ ofTransfers before :=
    fun task ht => hsend task (List.mem_of_mem_filter ht)
  simp only [Hub.perform]
  rw [performed_sends hnone]

/-- The sends after a `SendFile` that starts none. -/
theorem refused_sends (hsend : ∀ task, Effect.send task ∉ (h.manager.sendFile env d path).2.1) :
    (h.step (.command env (.sendFile d path reply) control wire)).sends = h.sends := by
  rw [handle_sendFile]
  refine handle_sends fun task ht => ?_
  rcases List.mem_append.mp ht with ht | ht
  · exact hsend task ht
  · simp at ht

/-- The removals of a `SendFile` are those of `send_file`. -/
theorem has_afterSend :
    (removeAll files (m.handle env (.sendFile d path reply)).2).has path' = true ↔
      files.has path' = true ∧ Effect.removeFile path' ∉ (m.sendFile env d path).2.1 := by
  have heffects : (m.handle env (.sendFile d path reply)).2 =
      (m.sendFile env d path).2.1 ++ [.replied reply (.transfer (m.sendFile env d path).2.2)] := rfl
  rw [has_removeAll, heffects]
  simp

theorem has_put
    (h : (files.put tmp written).has path' = true) : files.has path' = true ∨ path' = tmp := by
  by_cases hpath : path' = tmp
  · exact .inr hpath
  · exact .inl (by simpa [Files.has, hpath] using h)

/-- A source that is the temporary file, and what `send_file` does with it. -/
theorem ready_sent {src : Materialized} {uri : Prop} (huri : uri) (hsrc : env.source path = .ok src)
    (hcleanup : src.cleanup = some tmp) (hleaks : leaks ↔ s.hub.manager.Forgets env d src) :
    Sent s leaks uri tmp
      (removeAll (s.temp.put tmp written)
        (s.hub.manager.handle env (.sendFile d path reply)).2)
      (s.hub.step (.command env (.sendFile d path reply) control wire)).sends := by
  have hfate : s.hub.manager.Fate env d src (s.hub.manager.sendFile env d path) :=
    Manager.sendFile_fate hsrc
  have hnew : ∀ path', (removeAll (s.temp.put tmp written)
      (s.hub.manager.handle env (.sendFile d path reply)).2).has path' = true →
        s.temp.has path' = true ∨ path' = tmp :=
    fun path' hpath' => has_put (has_afterSend.mp hpath').1
  generalize hout : s.hub.manager.sendFile env d path = out at hfate
  cases hfate with
  | removed hforgets =>
    refine .clean (hleaks.not.mpr hforgets) (fun path' hpath' => ?_) (.inl ?_)
    · -- the file that was just made is removed again
      refine (hnew path' hpath').resolve_right ?_
      rintro rfl
      refine (has_afterSend.mp hpath').2 ?_
      simp [hout, Manager.cleanupEffects, hcleanup]
    · refine refused_sends fun task ht => ?_
      simp [hout, Manager.cleanupEffects, hcleanup] at ht
  | forgotten hforgets hremove hsend =>
    rw [refused_sends (by rw [hout]; exact hsend)]
    refine .behind (hleaks.mpr hforgets) huri ?_ hnew
    rw [has_afterSend, hout]
    exact ⟨by simp [Files.has], hremove tmp⟩
  | passed hforgets hsame hid hremove hsend =>
    rw [passed_sends hout hsend, hid]
    exact .passed (hleaks.not.mpr hforgets) huri hnew (hsame.trans hcleanup) rfl

/-- A local source leaves no temporary file. -/
theorem local_sent {uri : Prop} (hsrc : ∀ src, env.source path = .ok src → src.cleanup = none)
    (hleaks : ¬ leaks) :
    Sent s leaks uri tmp
      (removeAll s.temp (s.hub.manager.handle env (.sendFile d path reply)).2)
      (s.hub.step (.command env (.sendFile d path reply) control wire)).sends := by
  refine .clean hleaks (fun path' hpath' => (has_afterSend.mp hpath').1) ?_
  cases hmade : env.source path with
  | error err => exact .inl (refused_sends (by simp [sendFile_unready hmade]))
  | ok src =>
    have hfate : s.hub.manager.Fate env d src (s.hub.manager.sendFile env d path) :=
      Manager.sendFile_fate hmade
    generalize hout : s.hub.manager.sendFile env d path = out at hfate
    cases hfate with
    | removed _ =>
      refine .inl (refused_sends fun task ht => ?_)
      simp [hout, Manager.cleanupEffects, hsrc src hmade] at ht
    | forgotten _ _ hsend => exact .inl (refused_sends (by rw [hout]; exact hsend))
    | @passed _ _ task _ _ hsame hid _ hsend =>
      refine .inr ⟨.new task control, hsame.trans (hsrc src hmade), ?_⟩
      rw [passed_sends hout hsend, hid]

section SendFile

variable {a : SourcesMove} {home : Option String} {isFile : String → Bool} {nanos : Nat}
  {runs : CatRuns} (ha : a = .sendFile env home isFile nanos runs d path reply control)

include ha

/-- What one `SendFile` does, whatever its source. -/
theorem sendFile_sent (hk : Known s) :
    Sent s (s.Leaks a) (NonLocal path) (s.tempPath s.counter nanos) (s.step a).temp
      (s.step a).hub.sends := by
  subst ha
  have hfree : s.temp.has (s.tempPath s.counter nanos) = false := by
    rw [← Bool.not_eq_true]
    exact fun hhas => s.not_issued nanos (hk.temp _ hhas)
  by_cases hlocal : NonLocal path
  · have hmade : s.materialize home isFile nanos runs path =
        materializeUri runs (trimmed path) (s.tempPath s.counter nanos) s.temp := by
      simp [materialize, materializeSource, hlocal.1, hlocal.2]
    have hleft := materializeUri_left hfree runs (trimmed path)
    simp only [step, Leaks]
    rw [← hmade] at hleft
    -- what the download left behind decides how the send goes on
    generalize s.materialize home isFile nanos runs path = made at hleft
    cases hleft with
    | @nothing e hbroken =>
      refine local_sent (by simp) ?_
      rintro ⟨-, h | ⟨src, h, -⟩⟩
      · rw [hbroken] at h
        cases h
      · cases h
    | @behind e written hbroken =>
      have hunready : ∀ m : Manager, m.sendFile { env with source := fun _ => .error e } d path =
          (m, [], .error e) := fun m => sendFile_unready rfl
      rw [refused_sends (by simp [hunready])]
      refine .behind ⟨hlocal, .inl hbroken⟩ hlocal ?_ fun path' hpath' =>
        has_put (has_afterSend.mp hpath').1
      rw [has_afterSend, hunready]
      simp [Files.has]
    | @ready written hbroken =>
      refine ready_sent hlocal rfl rfl ?_
      simp only [hlocal, hbroken, Bool.false_eq_true, false_or, true_and, Except.ok.injEq,
        exists_eq_left']
      exact Iff.rfl
  · have hmade : (s.materialize home isFile nanos runs path).2 = s.temp ∧
        ∀ src, (s.materialize home isFile nanos runs path).1 = .ok src → src.cleanup = none := by
      -- a path or a `file://` URI: nothing is downloaded
      unfold materialize materializeSource
      cases hfront : cutFront "file://" (trimmed path) with
      | some rest => exact ⟨rfl, fun src hsrc => materializePath_cleanup hsrc⟩
      | none =>
        have hscheme : ¬ hasScheme (trimmed path) = true := fun h => hlocal ⟨hfront, h⟩
        dsimp only
        rw [if_neg hscheme]
        exact ⟨rfl, fun src hsrc => materializePath_cleanup hsrc⟩
    simp only [step, hmade.1]
    refine local_sent ?_ ?_
    · dsimp only
      exact hmade.2
    · rintro ⟨huri, -⟩
      exact hlocal huri

theorem Known.sendFile (hk : Known s) : Known (s.step a) := by
  have hsent := sendFile_sent ha hk
  have htracked : (s.step a).hub.Tracked := by
    simp only [ha, step]
    exact hk.tracked.step _
  have hold : ∀ path', s.Issued path' → (s.step a).Issued path' := by
    rintro path' ⟨n, nanos', hn, heq⟩
    refine ⟨n, nanos', ?_, by rw [step_tempPath, heq]⟩
    simp only [ha, step]
    split <;> omega
  have hnew : NonLocal path → (s.step a).Issued (s.tempPath s.counter nanos) := by
    intro huri
    exact ⟨s.counter, nanos, by simp [ha, step, huri], by rw [step_tempPath]⟩
  -- the rest follows from `hsent`, whatever the step computes
  generalize s.step a = s' at *
  refine ⟨htracked, ?_, ?_⟩
  · intro path' hpath'
    generalize s'.temp = temp at hsent hpath'
    generalize s'.hub.sends = sends at hsent
    cases hsent with
    | clean _ htemp _ => exact hold path' (hk.temp path' (htemp path' hpath'))
    | behind _ huri _ htemp | passed _ huri htemp _ _ =>
      rcases htemp path' hpath' with hbefore | rfl
      · exact hold path' (hk.temp path' hbefore)
      · exact hnew huri
  · intro id r path' hr hcleanup
    generalize s'.temp = temp at hsent
    generalize s'.hub.sends = sends at hsent hr
    cases hsent with
    | clean _ _ hsends =>
      rcases hsends with rfl | ⟨r₀, hnone, rfl⟩
      · exact hold path' (hk.cleanup id r path' hr hcleanup)
      · rcases Table.of_get_insert hr with ⟨-, rfl⟩ | ⟨-, hr⟩
        · rw [hnone] at hcleanup
          cases hcleanup
        · exact hold path' (hk.cleanup id r path' hr hcleanup)
    | behind _ _ _ _ => exact hold path' (hk.cleanup id r path' hr hcleanup)
    | @passed r₀ _ huri _ htask _ =>
      rcases Table.of_get_insert hr with ⟨-, rfl⟩ | ⟨-, hr⟩
      · obtain rfl : s.tempPath s.counter nanos = path' :=
          Option.some.inj (htask.symm.trans hcleanup)
        exact hnew huri
      · exact hold path' (hk.cleanup id r path' hr hcleanup)

/-- A `SendFile` keeps every file with its send, unless it leaks one. -/
theorem kept_sendFile_iff (hk : Known s) (hkept : Kept s) :
    Kept (s.step a) ↔ ¬ s.Leaks a := by
  have hsent := sendFile_sent ha hk
  have htracked := (hk.sendFile ha).tracked
  generalize s.Leaks a = leaks at *
  generalize s.step a = s' at *
  -- a send that was there is not replaced by the new one
  have hstays : ∀ path', Held s.hub path' →
      (∀ id r, id ≠ s.hub.manager.freshId → s.hub.sends.get id = some r →
        s'.hub.sends.get id = some r) → Held s'.hub path' := by
    rintro path' ⟨id, r, hr, hcleanup, hrun, -⟩ hsame
    have hid : id ≠ s.hub.manager.freshId := by
      rintro rfl
      have hunused := (hk.tracked.unused hk.tracked.numbered.freshId_unused).2.2
      exact absurd (hr.symm.trans hunused) (Option.some_ne_none r)
    have hr' := hsame id r hid hr
    exact ⟨id, r, hr', hcleanup, hrun, active_of_sending htracked hr'⟩
  generalize htemp' : s'.temp = temp at hsent
  generalize hsends' : s'.hub.sends = sends at hsent
  cases hsent with
  | clean hleaks htemp hsends =>
    refine iff_of_true (fun path' hpath' => ?_) hleaks
    refine hstays path' (hkept path' (htemp path' (htemp' ▸ hpath'))) fun id r hid hr => ?_
    rcases hsends with hsends | ⟨r₀, -, hsends⟩
    · rwa [hsends', hsends]
    · rw [hsends', hsends]
      simpa [hid] using hr
  | behind hleaks _ htmp _ =>
    refine iff_of_false (fun hkept' => ?_) (not_not.mpr hleaks)
    obtain ⟨id, r, hr, hcleanup, -⟩ := hkept' _ (htemp' ▸ htmp)
    rw [hsends'] at hr
    exact s.not_issued nanos (hk.cleanup id r _ hr hcleanup)
  | @passed r₀ hleaks _ htemp hcleanup hrun =>
    refine iff_of_true (fun path' hpath' => ?_) hleaks
    rcases htemp path' (htemp' ▸ hpath') with hbefore | rfl
    · refine hstays path' (hkept path' hbefore) fun id r hid hr => ?_
      rw [hsends']
      simpa [hid] using hr
    · have hr₀ : s'.hub.sends.get s.hub.manager.freshId = some r₀ := by simp [hsends']
      exact ⟨_, r₀, hr₀, hcleanup, hrun, active_of_sending htracked hr₀⟩

end SendFile

/-! ## Whole runs -/

theorem Known.step (hk : Known s) (a : SourcesMove) : Known (s.step a) := by
  cases a with
  | sendFile => exact hk.sendFile rfl
  | hub a => exact hk.hub a

/-- One step: every temporary file has an owner exactly if the step leaks none. -/
theorem kept_step_iff (hk : Known s) (hkept : Kept s) (a : SourcesMove) :
    Kept (s.step a) ↔ ¬ s.Leaks a := by
  cases a with
  | sendFile => exact kept_sendFile_iff rfl hk hkept
  | hub a => exact iff_of_true (hkept.hub hk a) id

theorem start_known (hub : Hub) (ht : hub.Tracked) (hnone : ∀ id, hub.sends.get id = none)
    (tempDir : String) (pid : Nat) : Known (start hub tempDir pid) where
  tracked := ht
  temp := fun path hpath => by simp [start, Files.has, Files.empty] at hpath
  cleanup := fun id r path hr _ => by
    change hub.sends.get id = some r at hr
    rw [hnone id] at hr
    cases hr

/-- **Temporary sources.** In every run of the daemon, the temporary files of
    non-local sends all belong to sends that are still running, exactly as long as
    no `SendFile` leaks one. -/
theorem temporary_sources_kept_iff (store : Store) (self : String) (identity : Identity)
    (target : SaveTarget) (dir : String) (files : LocalFiles) (remote : Files String UInt8)
    (tempDir : String) (pid : Nat) (moves : List SourcesMove) :
    let s := start (Hub.start (Manager.new store self identity target).loadPersisted dir files
      remote) tempDir pid
    AllStates step Kept s moves ↔ AllSteps step (fun s a => ¬ s.Leaks a) s moves := by
  intro s
  have hknown : Known s := start_known _ (Hub.start_tracked ..) (fun _ => rfl) tempDir pid
  have hkept : Kept s := fun path hpath => by simp [s, start, Files.has, Files.empty] at hpath
  exact allStates_iff_allSteps Known hknown hkept (fun s a hk => hk.step a)
    fun s a hk hkept => kept_step_iff hk hkept a

/-- The phone is connected, and an empty file is to be sent from a share. -/
def emptyFromShare : List SourcesMove :=
  [.hub (.command (.nominal 0) (.connected "phone" (.uniform 0 7)) none []),
   .sendFile (.nominal 1) none (fun _ => false) 255
     { gio := .succeeded [], gvfsCat := .absent, kioclient5 := .absent } "phone"
     "smb://nas/notes.txt" 0 none]

/-- The tool that reads the URI stops in the middle. -/
def brokenCopy : List SourcesMove :=
  [.hub (.command (.nominal 0) (.connected "phone" (.uniform 0 7)) none []),
   .sendFile (.nominal 1) none (fun _ => false) 255
     { gio := .broken .copy [1] "Input/output error", gvfsCat := .absent, kioclient5 := .absent }
     "phone" "smb://nas/notes.txt" 0 none]

def fresh : Sources :=
  start (Hub.start (Manager.new .empty "desk" default (.dir "/d")).loadPersisted "/s" .empty
    .empty) "/tmp" 9

/-- The empty file is announced and its transfer finished, and the temporary file
    stays; so does one whose copy broke off, with no transfer at all. -/
theorem empty_share_leaves_temporary :
    ((run step fresh emptyFromShare).hub.manager.transfers.get "t1").map
        (fun record => record.state) = some .finished ∧
      (run step fresh emptyFromShare).temp.has "/tmp/handfast-src-9-0-ff" = true ∧
      (run step fresh emptyFromShare).hub.sends.get "t1" = none ∧
      (run step fresh brokenCopy).temp.has "/tmp/handfast-src-9-0-ff" = true ∧
      (run step fresh brokenCopy).hub.manager.transfers.get "t1" = none := by
  decide

end Sources

end Handfast.Daemon
