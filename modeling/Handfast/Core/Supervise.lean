/-
  Handfast.Core.Supervise

  The supervisor (`crates/core/src/supervise.rs`), as the watcher of one task.

  The watcher calls the factory of its task, waits until the child ends and
  looks at how.  A child that finishes or is cancelled ends the watch.  After an
  error or a panic the watcher logs the crash, sleeps and calls the factory
  again.  The factory may use up what lives behind its closure, the `cell`, and
  the watcher does not know.

  Times are in milliseconds.  Superseding a name and `shutdown_all` stop a
  watcher from outside and are left out.
-/
import Handfast.Core.Bus
import Mathlib.Data.List.DropRight

namespace Handfast.Core

/-- First retry delay after a crash. -/
def baseBackoff : Nat := 100

/-- Upper bound for retry delays. -/
def maxBackoff : Nat := 30000

/-- Continuous healthy runtime that resets the backoff sequence. -/
def healthyWindow : Nat := 30000

/-- The retry delay for the n-th consecutive failure. -/
def backoffDelay (consecutiveFailures : Nat) : Nat :=
  min (baseBackoff * 2 ^ min (consecutiveFailures - 1) 20) maxBackoff

/-- `{delay:?}`: milliseconds, or seconds without trailing zeros. -/
def durationText (ms : Nat) : String :=
  let fraction := ((toString (1000 + ms % 1000)).toList.drop 1).rdropWhile fun c => c = '0'
  if ms < 1000 then s!"{ms}ms"
  else if fraction = [] then s!"{ms / 1000}s"
  else s!"{ms / 1000}." ++ String.ofList fraction ++ "s"

inductive Exit where
  | finished
  | failed (err : Error)
  | panicked (detail : String)
  | cancelled

/-- What a factory builds: a child that runs, or one that is over when it is first
    polled. -/
inductive Attempt (Child : Type) where
  | alive (child : Child)
  | ended (exit : Exit)

inductive WatchPhase (Child : Type) where
  | running (child : Child) (started : Nat)
  | sleeping (wakeAt : Nat)
  | ended

/-- A watcher with what the closure of its factory holds. -/
structure Watch (Cell Child : Type) where
  name : String
  cell : Cell
  consecutiveFailures : Nat
  restarts : Nat
  phase : WatchPhase Child

namespace Watch

variable {Cell Child : Type} {factory : Cell → Cell × Attempt Child} {w : Watch Cell Child}

def child (w : Watch Cell Child) : Option Child :=
  match w.phase with
  | .running child _ => some child
  | _ => none

def reportCrash (w : Watch Cell Child) (detail : String) : Event :=
  .logRecord "error" s!"supervisor: task '{w.name}' {detail}"

def crashed (w : Watch Cell Child) (started now : Nat) (detail : String) :
    Watch Cell Child × List Event :=
  let restarts := w.restarts + 1
  let failures :=
    if now - started ≥ healthyWindow then 0 else min (w.consecutiveFailures + 1) (2 ^ 32 - 1)
  let delay := backoffDelay failures
  ({ w with
     restarts
     consecutiveFailures := failures
     phase := .sleeping (now + delay) },
   [w.reportCrash detail,
    .logRecord "warn" (s!"supervisor: restarting '{w.name}' (restart #{restarts}, " ++
      s!"retry in {durationText delay})")])

def onExit (w : Watch Cell Child) (started now : Nat) : Exit → Watch Cell Child × List Event
  -- Clean completion: this task's supervision ends.
  | .finished | .cancelled => ({ w with phase := .ended }, [])
  | .failed err => w.crashed started now ("failed: " ++ err.text)
  | .panicked detail => w.crashed started now ("panicked: " ++ detail)

def attempt (w : Watch Cell Child) (factory : Cell → Cell × Attempt Child) (now : Nat) :
    Watch Cell Child × List Event :=
  let (cell, attempt) := factory w.cell
  match attempt with
  | .alive child => ({ w with cell, phase := .running child now }, [])
  | .ended exit => { w with cell }.onExit now now exit

def spawn (name : String) (cell : Cell) (factory : Cell → Cell × Attempt Child) (now : Nat) :
    Watch Cell Child × List Event :=
  attempt { name, cell, consecutiveFailures := 0, restarts := 0, phase := .ended } factory now

/-- The watcher wakes up, if it sleeps and its time has come. -/
def wake (w : Watch Cell Child) (factory : Cell → Cell × Attempt Child) (now : Nat) :
    Watch Cell Child × List Event :=
  match w.phase with
  | .sleeping wakeAt => if wakeAt ≤ now then w.attempt factory now else (w, [])
  | _ => (w, [])

/-! ## A factory that is used up -/

/-- The factory builds no child from this cell, and leaves the cell so. -/
def Spent (factory : Cell → Cell × Attempt Child) (cell : Cell) : Prop :=
  ∃ exit, factory cell = (cell, .ended exit)

theorem onExit_child (w : Watch Cell Child) (started now : Nat) (exit : Exit) :
    (w.onExit started now exit).1.child = none := by
  cases exit <;> rfl

theorem onExit_cell (w : Watch Cell Child) (started now : Nat) (exit : Exit) :
    (w.onExit started now exit).1.cell = w.cell := by
  cases exit <;> rfl

/-- A spent factory stays so when the watcher wakes up. -/
theorem wake_cell (now : Nat)
    (hspent : Spent factory w.cell) : (w.wake factory now).1.cell = w.cell := by
  unfold wake
  split
  · split
    · obtain ⟨exit, hexit⟩ := hspent
      simp only [attempt, hexit]
      exact onExit_cell _ _ _ _
    · rfl
  · rfl

/-- Without a child and with a spent factory, waking up brings no child. -/
theorem wake_child (now : Nat) (hspent : Spent factory w.cell) (hchild : w.child = none) :
    (w.wake factory now).1.child = none := by
  unfold wake
  split
  · split
    · obtain ⟨exit, hexit⟩ := hspent
      simp only [attempt, hexit]
      exact onExit_child _ _ _ _
    · exact hchild
  · exact hchild

end Watch

end Handfast.Core
