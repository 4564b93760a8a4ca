/-
  Handfast.Core.Backoff

  The delays between the restarts of a task that crashes again and again
  (`watch_loop` of `crates/core/src/supervise.rs`).

  `restartDelays` runs the watcher through a list of crashes and notes how long
  it sleeps after each.  What it sleeps depends on the run times alone
  (`restartDelays_eq`): the watcher carries the number of consecutive failures
  from crash to crash, a run of at least `healthyWindow` sets it to zero, and a
  shorter one counts.  A crash that ends a healthy run is therefore not counted
  as a failure itself, and the crash after it starts the sequence over.
-/
import Handfast.Core.Supervise

namespace Handfast.Core

/-- A crash of the child: how long the child ran (in nanoseconds), how it ended, and by how
    much the timer is late when it wakes the watcher afterwards. -/
structure Crash where
  run : Nat
  exit : Exit
  late : Nat
  crashed : exit ≠ .finished ∧ exit ≠ .cancelled

def Healthy (run : Nat) : Prop := healthyWindow * 10 ^ 6 ≤ run

instance (run : Nat) : Decidable (Healthy run) := inferInstanceAs (Decidable (_ ≤ _))

namespace Watch

variable {Cell Child : Type} {failures : Nat}

/-- How long the watcher sleeps after each crash of its child.  The factory builds a child
    each time: one that is over when it is first polled has run for no time
    (`attempt_ended`). -/
def restartDelays (build : Cell → Cell × Child) (w : Watch Cell Child) : List Crash → List Nat
  | [] => []
  | crash :: crashes =>
    match w.phase with
    | .running _ started =>
      let now := started + crash.run / 10 ^ 6
      let next := (w.onExit started now crash.exit).1
      match next.phase with
      | .sleeping wakeAt =>
        let factory := fun cell => ((build cell).1, Attempt.alive (build cell).2)
        (wakeAt - now) ::
          restartDelays build (next.wake factory (wakeAt + crash.late)).1 crashes
      | _ => []
    | _ => []

/-! ## The number of consecutive failures -/

def nextFailures (failures run : Nat) : Nat :=
  if Healthy run then 0 else min (failures + 1) (2 ^ 32 - 1)

def delaysAfter (failures : Nat) : List Nat → List Nat
  | [] => []
  | run :: runs =>
    backoffDelay (nextFailures failures run) :: delaysAfter (nextFailures failures run) runs

@[simp] theorem delaysAfter_length (failures : Nat) (runs : List Nat) :
    (delaysAfter failures runs).length = runs.length := by
  induction runs generalizing failures with
  | nil => rfl
  | cons run runs ih => simp [delaysAfter, ih]

/-- The clock of the watcher counts whole milliseconds, which is fine enough for the
    comparison. -/
theorem healthy_iff (started run : Nat) :
    started + run / 10 ^ 6 - started ≥ healthyWindow ↔ Healthy run := by
  simp only [Healthy, healthyWindow]
  omega

theorem onExit_crash (w : Watch Cell Child) (started : Nat) (crash : Crash) :
    let now := started + crash.run / 10 ^ 6
    let next := (w.onExit started now crash.exit).1
    next.consecutiveFailures = nextFailures w.consecutiveFailures crash.run ∧
      next.phase =
        .sleeping (now + backoffDelay (nextFailures w.consecutiveFailures crash.run)) := by
  have hcount (detail : String) :
      (w.crashed started (started + crash.run / 10 ^ 6) detail).1.consecutiveFailures =
        nextFailures w.consecutiveFailures crash.run := by
    simp only [crashed, nextFailures, healthy_iff]
  obtain ⟨run, exit, late, hfinished, hcancelled⟩ := crash
  cases exit with
  | finished => exact absurd rfl hfinished
  | cancelled => exact absurd rfl hcancelled
  | failed err => exact ⟨hcount _, by rw [← hcount ("failed: " ++ err.text)]; rfl⟩
  | panicked detail => exact ⟨hcount _, by rw [← hcount ("panicked: " ++ detail)]; rfl⟩

/-- A watcher whose timer fires runs a child again and still counts its failures. -/
theorem wake_alive {w : Watch Cell Child} {wakeAt : Nat} (hsleeping : w.phase = .sleeping wakeAt)
    (build : Cell → Cell × Child) (late : Nat) :
    let next := (w.wake (fun cell => ((build cell).1, .alive (build cell).2)) (wakeAt + late)).1
    next.consecutiveFailures = w.consecutiveFailures ∧
      next.phase = .running (build w.cell).2 (wakeAt + late) := by
  simp [wake, hsleeping, attempt]

theorem restartDelays_eq (build : Cell → Cell × Child) (w : Watch Cell Child) {child : Child}
    {started : Nat} (hrunning : w.phase = .running child started) (crashes : List Crash) :
    w.restartDelays build crashes =
      delaysAfter w.consecutiveFailures (crashes.map Crash.run) := by
  induction crashes generalizing w child started with
  | nil => rfl
  | cons crash crashes ih =>
    obtain ⟨hfailures, hsleeping⟩ := w.onExit_crash started crash
    obtain ⟨hkept, hagain⟩ := wake_alive hsleeping build crash.late
    have hrest := ih _ hagain
    rw [hkept, hfailures] at hrest
    simp only [restartDelays, hrunning, hsleeping, List.map_cons, delaysAfter, hrest,
      Nat.add_sub_cancel_left]

/-! ## The law -/

/-- The delay before restart `i` is the first one at the first crash and after a healthy run,
    and twice the one before, up to the limit, otherwise. -/
def LawAt (runs delays : List Nat) (i : Nat) : Prop :=
  ∀ run delay, runs[i]? = some run → delays[i]? = some delay →
    delay =
      if i = 0 ∨ Healthy run then baseBackoff
      else min maxBackoff (2 * (delays[i - 1]?).getD 0)

/-- Crash `i` ends a short run right after a healthy one. -/
def StartsOver (runs : List Nat) (i : Nat) : Prop :=
  0 < i ∧ (∃ run, runs[i - 1]? = some run ∧ Healthy run) ∧
    ∃ run, runs[i]? = some run ∧ ¬ Healthy run

/-- One more failure doubles the delay, unless none was counted before. -/
theorem backoffDelay_succ (h : 0 < failures) :
    backoffDelay (min (failures + 1) (2 ^ 32 - 1)) =
      min maxBackoff (2 * backoffDelay failures) := by
  simp only [backoffDelay, baseBackoff, maxBackoff]
  by_cases hfew : failures ≤ 20
  · -- the doubling is visible only up to the ninth failure
    have hpow : 2 ^ failures = 2 * 2 ^ (failures - 1) := by
      rw [← Nat.pow_succ', Nat.succ_eq_add_one, Nat.sub_add_cancel h]
    rw [Nat.min_eq_left (by omega : failures + 1 ≤ 2 ^ 32 - 1), Nat.add_sub_cancel,
      Nat.min_eq_left hfew, Nat.min_eq_left (by omega : failures - 1 ≤ 20), hpow]
    omega
  · have hmany : 19 ≤ min (failures - 1) 20 := by omega
    have hmore : 19 ≤ min (min (failures + 1) (2 ^ 32 - 1) - 1) 20 := by omega
    have hlarge (k : Nat) (hk : 19 ≤ k) : 524288 ≤ 2 ^ k :=
      Nat.pow_le_pow_right (by decide : 0 < 2) hk
    have h1 := hlarge _ hmany
    have h2 := hlarge _ hmore
    omega

theorem nextFailures_pos {run : Nat} (h : ¬ Healthy run) :
    0 < nextFailures failures run := by
  rw [nextFailures, if_neg h]
  omega

/-- The delay after the second of two runs follows from the delay after the first, unless the
    first was healthy and the second was not. -/
theorem delay_step (failures first second : Nat) :
    (backoffDelay (nextFailures (nextFailures failures first) second) =
      if Healthy second then baseBackoff
      else min maxBackoff (2 * backoffDelay (nextFailures failures first))) ↔
      ¬ (Healthy first ∧ ¬ Healthy second) := by
  by_cases hsecond : Healthy second
  · simp only [hsecond, not_true, and_false, not_false_iff, iff_true, if_true, nextFailures]
    rfl
  · rw [if_neg hsecond, nextFailures, if_neg hsecond]
    by_cases hfirst : Healthy first
    · -- no failure is on record, so the short run counts as the first one
      simp only [nextFailures, hfirst, hsecond, if_true, not_false_iff, and_self, not_true,
        iff_false]
      decide
    · exact iff_of_true (backoffDelay_succ (nextFailures_pos hfirst)) fun h => hfirst h.1

theorem lawAt_delaysAfter (failures : Nat) (runs : List Nat) (i : Nat) :
    LawAt runs (delaysAfter failures runs) (i + 1) ↔ ¬ StartsOver runs (i + 1) := by
  induction runs generalizing failures i with
  | nil => simp [LawAt, StartsOver]
  | cons first runs ih =>
    cases i with
    | zero =>
      cases runs with
      | nil => simp [LawAt, StartsOver]
      | cons second runs =>
        have hstep := delay_step failures first second
        simpa [LawAt, StartsOver, delaysAfter] using hstep
    | succ i =>
      have hrest := ih (nextFailures failures first) i
      simpa [LawAt, StartsOver, delaysAfter] using hrest

/-- **The backoff law**, for a task that is spawned and crashes over and over: each delay is
    the one the law gives exactly if the crash does not end a short run right after a healthy
    one. -/
theorem restart_backoff_law_iff (name : String) (cell : Cell) (build : Cell → Cell × Child)
    (now : Nat) (crashes : List Crash) (i : Nat) :
    let runs := crashes.map Crash.run
    let w := (spawn name cell (fun cell => ((build cell).1, .alive (build cell).2)) now).1
    (w.restartDelays build crashes).length = crashes.length ∧
      (LawAt runs (w.restartDelays build crashes) i ↔ ¬ StartsOver runs i) := by
  intro runs w
  have hdelays : w.restartDelays build crashes = delaysAfter 0 runs :=
    restartDelays_eq build w rfl crashes
  rw [hdelays]
  refine ⟨by simp [runs], ?_⟩
  cases i with
  | succ i => exact lawAt_delaysAfter 0 runs i
  | zero =>
    -- the first delay is the same whether the run counts as a failure or not
    have hfirst (run : Nat) : backoffDelay (nextFailures 0 run) = baseBackoff := by
      unfold nextFailures
      split <;> rfl
    cases runs with
    | nil => simp [LawAt, StartsOver]
    | cons run runs => simp [LawAt, StartsOver, delaysAfter, hfirst]

/-- A run of 30 s, then one of a second: the second delay is not doubled. -/
theorem healthy_then_short_not_doubled :
    let crashes : List Crash :=
      [⟨30 * 10 ^ 9, .panicked "boom", 0, nofun, nofun⟩,
       ⟨10 ^ 9, .panicked "boom", 0, nofun, nofun⟩]
    let w := (spawn "scanner" () (fun _ => ((), .alive ())) 0).1
    ¬ LawAt (crashes.map Crash.run) (w.restartDelays (fun _ => ((), ())) crashes) 1 := by
  intro crashes w
  have hdelays : w.restartDelays (fun _ => ((), ())) crashes = [100, 100] :=
    (restartDelays_eq (fun _ => ((), ())) w rfl crashes).trans (by decide)
  rw [hdelays]
  simp [crashes, LawAt, Healthy, healthyWindow, maxBackoff]

end Watch

end Handfast.Core
