/-
  Handfast.Core.Teardown

  Superseding and shutting down (`crates/core/src/supervise.rs`): what
  `Supervisor::spawn` and `shutdown_all` do to the watchers and children of
  earlier calls.

  Actors.  Spawn call `g` supervises the name `name g`; its watcher, its slot
  and its children carry the same number.  Child `(g, n)` is the `n`-th attempt
  of watcher `g`.  Any number of calls of `shutdown_all` may be made.  Each
  shared access is one `Move`.

  Tasks.  Aborting a task only asks for its end.  A watcher stops where it
  awaits: before its first poll, at its child or in its sleep.  It then drops
  what it owns, and dropping a `JoinHandle` detaches the child.  A child stops
  some time after it was aborted.

  The watcher takes its child's handle out of the slot and awaits it, so the
  slot is empty nearly always and an aborted watcher leaves its child running.
  `Tended` is the invariant of the runs in which no watcher is aborted at such a
  moment and `shutdown_all` does not overlap with other calls.

  Restart counters, delays and log records are in `Core.Supervise`.
-/
import Handfast.Lib.Trace
import Mathlib.Data.List.Perm.Basic
import Mathlib.Logic.Function.Basic

namespace Handfast.Core

open Handfast.Lib

/-- A child task: its watcher and the number of the attempt. -/
abbrev Task := Nat × Nat

/-- Where a call of `Supervisor::spawn` stands. -/
inductive SpawnPhase where
  | idle
  /-- `shutdown` was not set. -/
  | checked
  /-- The watcher is spawned but not in the map. -/
  | spawned
  /-- It is in the map, and `previous` is out of it. -/
  | inserted (previous : Option Nat)
  /-- The slot of the old entry is empty, its watcher not aborted. -/
  | emptied (old : Nat)
  | returned
  deriving DecidableEq, Repr

/-- Where a `watch_loop` stands. -/
inductive WatcherPhase where
  | absent
  /-- Spawned, not polled yet. -/
  | fresh
  /-- At the head of the loop. -/
  | checking
  /-- With a new child in hand. -/
  | parking (n : Nat)
  /-- The child is in the slot. -/
  | taking
  | awaiting (n : Nat)
  /-- The child has crashed. -/
  | crashed
  | sleeping
  | ended
  deriving DecidableEq, Repr

/-- Where a call of `shutdown_all` stands. -/
inductive ShutdownPhase where
  | idle
  /-- `shutdown` is set. -/
  | stored
  | aborting (todo done : List Nat)
  /-- Awaits the watchers and empties their slots. -/
  | collecting (todo : List Nat) (children : List Task)
  | killing (todo children : List Task)
  | joining (todo : List Task)
  | returned
  deriving DecidableEq, Repr

def ShutdownPhase.Drained : ShutdownPhase → Prop
  | idle | stored => False
  | _ => True

/-- Watchers the call has aborted and whose children it still handles. -/
def ShutdownPhase.handled : ShutdownPhase → List Nat
  | aborting _ done => done
  | collecting todo children => todo ++ children.map Prod.fst
  | killing todo _ => todo.map Prod.fst
  | _ => []

structure Supervisor where
  shutdown : Bool
  /-- The entries of the map. -/
  children : List Nat
  spawnCall : Nat → SpawnPhase
  watcher : Nat → WatcherPhase
  /-- Watchers that were aborted. -/
  aborted : Nat → Bool
  latestChild : Nat → Option Nat
  /-- Children a watcher has started. -/
  attempts : Nat → Nat
  running : List Task
  /-- Children that were aborted, and children that failed or panicked. -/
  killed : List Task
  failed : List Task
  shutdownCall : Nat → ShutdownPhase
  -- history
  /-- Spawn calls that got past the check, and calls of `shutdown_all`. -/
  entered : List Nat
  begun : List Nat

namespace Supervisor

def start : Supervisor where
  shutdown := false
  children := []
  spawnCall := fun _ => .idle
  watcher := fun _ => .absent
  aborted := fun _ => false
  latestChild := fun _ => none
  attempts := fun _ => 0
  running := []
  killed := []
  failed := []
  shutdownCall := fun _ => .idle
  entered := []
  begun := []

inductive Move where
  -- a spawn call
  | check (g : Nat)
  | launch (g : Nat)
  | insert (g : Nat)
  | takeOld (g : Nat)
  | abortOld (g : Nat)
  -- a watcher
  | poll (g : Nat)
  | test (g : Nat)
  | park (g : Nat)
  | take (g : Nat)
  | observe (g : Nat)
  | recheck (g : Nat)
  | wake (g : Nat)
  | cancel (g : Nat)
  -- a child
  | exit (c : Task) (crash : Bool)
  | stop (c : Task)
  -- a call of `shutdown_all`; the map is drained in any order
  | store (i : Nat)
  | drain (i : Nat) (entries : List Nat)
  | abortWatcher (i : Nat)
  | collect (i : Nat)
  | kill (i : Nat)
  | join (i : Nat)
  deriving DecidableEq, Repr

variable (name : Nat → String)

def setSpawn (s : Supervisor) (g : Nat) (p : SpawnPhase) : Supervisor :=
  { s with spawnCall := Function.update s.spawnCall g p }

def setWatcher (s : Supervisor) (g : Nat) (p : WatcherPhase) : Supervisor :=
  { s with watcher := Function.update s.watcher g p }

def setShutdown (s : Supervisor) (i : Nat) (p : ShutdownPhase) : Supervisor :=
  { s with shutdownCall := Function.update s.shutdownCall i p }

/-- `latest_child.take()`, with an abort of the child that was there. -/
def killLatest (s : Supervisor) (g : Nat) : Supervisor :=
  match s.latestChild g with
  | some n =>
    { s with
      latestChild := Function.update s.latestChild g none
      killed := s.killed ++ [(g, n)] }
  | none => s

def abort (s : Supervisor) (g : Nat) : Supervisor :=
  { s with aborted := Function.update s.aborted g true }

def spawnStep (s : Supervisor) (g : Nat) : SpawnPhase → Supervisor
  | .idle =>
    if s.shutdown then s.setSpawn g .returned
    else { s.setSpawn g .checked with entered := s.entered ++ [g] }
  | .checked => (s.setSpawn g .spawned).setWatcher g .fresh
  | .spawned =>
    { s.setSpawn g (.inserted (s.children.find? fun h => name h = name g)) with
      children := g :: s.children.filter fun h => name h ≠ name g }
  | .inserted none => s.setSpawn g .returned
  | .inserted (some old) => (s.setSpawn g (.emptied old)).killLatest old
  | .emptied old => (s.setSpawn g .returned).abort old
  | .returned => s

/-- The head of the watcher's loop: end, or start a child. -/
def attempt (s : Supervisor) (g : Nat) : Supervisor :=
  if s.shutdown then s.setWatcher g .ended
  else
    { s.setWatcher g (.parking (s.attempts g)) with
      running := s.running ++ [(g, s.attempts g)]
      attempts := Function.update s.attempts g (s.attempts g + 1) }

/-- One access of a call of `shutdown_all` other than draining the map. -/
def shutdownStep (s : Supervisor) (i : Nat) : ShutdownPhase → Supervisor
  | .idle => { s.setShutdown i .stored with shutdown := true, begun := s.begun ++ [i] }
  | .stored => s
  | .aborting (g :: todo) done => (s.setShutdown i (.aborting todo (done ++ [g]))).abort g
  | .aborting [] done => s.setShutdown i (.collecting done [])
  | .collecting (g :: todo) children =>
    -- awaiting the dead watcher guarantees no further child writes
    if s.watcher g = .ended then
      { s.setShutdown i (.collecting todo
          (children ++ (s.latestChild g).toList.map fun n => (g, n))) with
        latestChild := Function.update s.latestChild g none }
    else s
  | .collecting [] children => s.setShutdown i (.killing children children)
  | .killing (c :: todo) children =>
    { s.setShutdown i (.killing todo children) with killed := s.killed ++ [c] }
  | .killing [] children => s.setShutdown i (.joining children)
  | .joining (c :: todo) => if c ∈ s.running then s else s.setShutdown i (.joining todo)
  | .joining [] => s.setShutdown i .returned
  | .returned => s

def step (s : Supervisor) : Move → Supervisor
  | .check g => if s.spawnCall g = .idle then s.spawnStep name g .idle else s
  | .launch g => if s.spawnCall g = .checked then s.spawnStep name g .checked else s
  | .insert g => if s.spawnCall g = .spawned then s.spawnStep name g .spawned else s
  | .takeOld g =>
    match s.spawnCall g with
    | .inserted previous => s.spawnStep name g (.inserted previous)
    | _ => s
  | .abortOld g =>
    match s.spawnCall g with
    | .emptied old => s.spawnStep name g (.emptied old)
    | _ => s
  -- a task that was aborted while it was not running is not polled again
  | .poll g =>
    if s.watcher g = .fresh ∧ s.aborted g = false then s.setWatcher g .checking else s
  | .test g => if s.watcher g = .checking then s.attempt g else s
  | .park g =>
    match s.watcher g with
    | .parking n =>
      { s.setWatcher g .taking with latestChild := Function.update s.latestChild g (some n) }
    | _ => s
  | .take g =>
    if s.watcher g = .taking then
      match s.latestChild g with
      | some n =>
        { s.setWatcher g (.awaiting n) with
          latestChild := Function.update s.latestChild g none }
      | none => s.setWatcher g .ended
    else s
  | .observe g =>
    match s.watcher g with
    | .awaiting n =>
      if (g, n) ∈ s.running then s
      else if (g, n) ∈ s.failed then s.setWatcher g .crashed
      else s.setWatcher g .ended
    | _ => s
  | .recheck g =>
    if s.watcher g = .crashed then
      if s.shutdown then s.setWatcher g .ended else s.setWatcher g .sleeping
    else s
  | .wake g =>
    if s.watcher g = .sleeping ∧ s.aborted g = false then s.setWatcher g .checking else s
  | .cancel g =>
    if s.aborted g then
      match s.watcher g with
      | .fresh | .awaiting _ | .sleeping => s.setWatcher g .ended
      | _ => s
    else s
  | .exit c crash =>
    if c ∈ s.running then
      { s with
        running := s.running.filter fun d => d ≠ c
        failed := if crash then s.failed ++ [c] else s.failed }
    else s
  | .stop c =>
    if c ∈ s.running ∧ c ∈ s.killed then
      { s with running := s.running.filter fun d => d ≠ c }
    else s
  | .store i => if s.shutdownCall i = .idle then s.shutdownStep i .idle else s
  | .drain i entries =>
    if s.shutdownCall i = .stored ∧ entries.Perm s.children then
      { s.setShutdown i (.aborting entries []) with children := [] }
    else s
  | .abortWatcher i =>
    match s.shutdownCall i with
    | .aborting todo done => s.shutdownStep i (.aborting todo done)
    | _ => s
  | .collect i =>
    match s.shutdownCall i with
    | .collecting todo children => s.shutdownStep i (.collecting todo children)
    | _ => s
  | .kill i =>
    match s.shutdownCall i with
    | .killing todo children => s.shutdownStep i (.killing todo children)
    | _ => s
  | .join i =>
    match s.shutdownCall i with
    | .joining todo => s.shutdownStep i (.joining todo)
    | _ => s

/-! ## What teardown promises -/

def CallsReturned (s : Supervisor) (x : String) : Prop :=
  ∀ g ∈ s.entered, name g = x → s.spawnCall g = .returned

def AbortsDone (s : Supervisor) (x : String) : Prop :=
  (∀ c ∈ s.killed, name c.1 = x → c ∉ s.running) ∧
    ∀ g ∈ s.entered, name g = x → s.aborted g = true → s.watcher g = .ended

/-- One child per name, and none once `shutdown_all` has returned. -/
structure TornDown (s : Supervisor) : Prop where
  single : ∀ x, CallsReturned name s x → AbortsDone name s x →
    ∀ c ∈ s.running, ∀ d ∈ s.running, name c.1 = x → name d.1 = x → c = d
  none : ∀ i, s.shutdownCall i = .returned → s.running = []

/-- Every running child of this watcher is aborted already, and the watcher is
    not about to start one. -/
def Harmless (s : Supervisor) (g : Nat) : Prop :=
  (∀ c ∈ s.running, c.1 = g → c ∈ s.killed) ∧ (s.watcher g = .checking → s.shutdown = true)

/-- Nothing else is under way when `shutdown_all` drains the map. -/
structure Undisturbed (s : Supervisor) (i : Nat) : Prop where
  spawns : ∀ g ∈ s.entered, s.spawnCall g = .returned
  kills : ∀ c ∈ s.killed, c ∉ s.running
  shutdowns : ∀ j ∈ s.begun,
    j = i ∨ s.shutdownCall j = .stored ∨ s.shutdownCall j = .returned

/-- Watchers are aborted only when that is harmless, and `shutdown_all` is
    undisturbed. -/
def Careful (s : Supervisor) : Move → Prop
  | .abortOld g =>
    match s.spawnCall g with
    | .emptied old => Harmless s old
    | _ => True
  | .drain i entries =>
    s.shutdownCall i = .stored → entries.Perm s.children → Undisturbed s i
  | .abortWatcher i =>
    match s.shutdownCall i with
    | .aborting (g :: _) _ => Harmless s g
    | _ => True
  | _ => True

/-! ## The invariant -/

/-- The attempt the watcher has in hand or in its slot. -/
def current (s : Supervisor) (g : Nat) : Option Nat :=
  match s.watcher g with
  | .parking n | .awaiting n => some n
  | .taking => s.latestChild g
  | _ => none

/-- The slot only matters while the watcher takes from it. -/
theorem current_of_not_taking {s : Supervisor} {g : Nat} (h : s.watcher g ≠ .taking)
    (killed : List Task) (slot : Nat → Option Nat) :
    { s with latestChild := slot, killed := killed }.current g = s.current g := by
  unfold current
  cases hphase : s.watcher g with
  | taking => exact absurd hphase h
  | absent | fresh | checking | parking _ | awaiting _ | crashed | sleeping | ended => rfl

/-- Someone will abort the watcher of `g` in time, or find it in the map. -/
inductive Owned (s : Supervisor) (g : Nat) : Prop
  | caller (h : s.spawnCall g = .spawned)
  | map (h : g ∈ s.children)
  | superseder (h : Nat) (hname : name h = name g)
      (hcall : s.spawnCall h = .inserted (some g) ∨ s.spawnCall h = .emptied g)
  | shutdown (i : Nat) (todo done : List Nat)
      (hcall : s.shutdownCall i = .aborting todo done) (hmem : g ∈ todo)

/-- What holds once call `i` of `shutdown_all` has emptied the map. -/
structure Closed (s : Supervisor) (i : Nat) : Prop where
  children : s.children = []
  spawns : ∀ g ∈ s.entered, s.spawnCall g = .returned
  kills : ∀ c ∈ s.killed, c ∉ s.running
  todo : ∀ j todo done, s.shutdownCall j = .aborting todo done → todo ≠ [] → j = i
  names : ∀ todo done, s.shutdownCall i = .aborting todo done →
    ∀ g ∈ todo, ∀ h ∈ todo, name g = name h → g = h
  handled : ∀ g ∈ (s.shutdownCall i).handled, s.aborted g = true

structure Tended (s : Supervisor) : Prop where
  current : ∀ c ∈ s.running, c ∈ s.killed ∨ s.current c.1 = some c.2
  harmless : ∀ g, s.aborted g = true → Harmless s g
  owned : ∀ g, s.watcher g ≠ .absent → s.aborted g = true ∨ Owned name s g
  launched : ∀ c ∈ s.running, s.watcher c.1 ≠ .absent
  before : ∀ g, s.spawnCall g = .idle ∨ s.spawnCall g = .checked → s.watcher g = .absent
  entered : ∀ g, s.spawnCall g = .idle ∨ s.spawnCall g = .returned ∨ g ∈ s.entered
  begun : ∀ i, s.shutdownCall i = .idle ∨ (i ∈ s.begun ∧ s.shutdown = true)
  distinct : ∀ g ∈ s.children, ∀ h ∈ s.children, name g = name h → g = h
  closed : ∀ i, (s.shutdownCall i).Drained → Closed name s i

variable {name} {s : Supervisor} {g i n : Nat} {p : WatcherPhase} {slot : Nat → Option Nat}
  {running children : List Task} {todo : List Nat}

theorem tended_start : Tended name start where
  current _ h := by simp [start] at h
  harmless _ h := by simp [start] at h
  owned _ h := absurd rfl h
  launched _ h := by simp [start] at h
  before _ _ := rfl
  entered _ := .inl rfl
  begun _ := .inl rfl
  distinct _ h := by simp [start] at h
  closed _ h := h.elim

theorem aborted_abort {k : Nat} : (s.abort g).aborted k = true ↔ k = g ∨ s.aborted k = true := by
  by_cases hk : k = g <;> simp [Supervisor.abort, hk]

theorem Owned.congr {t : Supervisor} (h : Owned name s g) (hspawn : t.spawnCall = s.spawnCall)
    (hchildren : t.children = s.children)
    (hshutdown : t.shutdownCall = s.shutdownCall) : Owned name t g := by
  cases h with
  | caller h => exact .caller (hspawn ▸ h)
  | map h => exact .map (hchildren ▸ h)
  | superseder k hk hcall => exact .superseder k hk (hspawn ▸ hcall)
  | shutdown i todo done hcall hmem => exact .shutdown i todo done (hshutdown ▸ hcall) hmem

/-- A change of phase of call `g` matters only to what `g` itself owns. -/
theorem Owned.setSpawn {k : Nat} {p : SpawnPhase} (h : Owned name s k)
    (hcaller : k = g → s.spawnCall g = .spawned → Owned name (s.setSpawn g p) k)
    (hsuper : name g = name k →
      s.spawnCall g = .inserted (some k) ∨ s.spawnCall g = .emptied k →
      Owned name (s.setSpawn g p) k) : Owned name (s.setSpawn g p) k := by
  have hother : ∀ l, l ≠ g → (s.setSpawn g p).spawnCall l = s.spawnCall l :=
    fun l hl => Function.update_of_ne hl ..
  cases h with
  | caller hk =>
    by_cases hkg : k = g
    · exact hcaller hkg (hkg ▸ hk)
    · exact .caller ((hother k hkg).trans hk)
  | map hk => exact .map hk
  | superseder l hl hcall =>
    by_cases hlg : l = g
    · subst hlg
      exact hsuper hl hcall
    · exact .superseder l hl (by rwa [hother l hlg])
  | shutdown i todo done hcall hmem => exact .shutdown i todo done hcall hmem

section Rules

variable (h : Tended name s)

include h

theorem Tended.shutdown_of_drained (hi : (s.shutdownCall i).Drained) : s.shutdown = true := by
  obtain hidle | hbegun := h.begun i
  · rw [hidle] at hi
    exact hi.elim
  · exact hbegun.2

/-- Once the map was emptied no spawn call is under way. -/
theorem Tended.spawn_over (hi : (s.shutdownCall i).Drained) (g : Nat) :
    s.spawnCall g = .idle ∨ s.spawnCall g = .returned :=
  (h.entered g).imp_right fun hg => hg.elim id ((h.closed i hi).spawns g)

/-- An unaborted child belongs to a watcher that was not aborted. -/
theorem Tended.not_aborted {c : Task} (hc : c ∈ s.running)
    (hkilled : c ∉ s.killed) : Owned name s c.1 :=
  (h.owned c.1 (h.launched c hc)).resolve_left fun ha =>
    hkilled ((h.harmless c.1 ha).1 c hc rfl)

/-! ## The promise follows -/

/-- With no spawn call for its name under way, an owned watcher is in the map or
    about to be aborted by `shutdown_all`. -/
theorem Tended.owned_cases {x : String} (hcalls : CallsReturned name s x)
    (hname : name g = x) (ho : Owned name s g) :
    g ∈ s.children ∨ ∃ i todo done, s.shutdownCall i = .aborting todo done ∧ g ∈ todo := by
  -- a call that has not returned would be among those that have
  have hover : ∀ k, name k = x → s.spawnCall k = .idle ∨ s.spawnCall k = .returned :=
    fun k hk => (h.entered k).imp_right fun hin => hin.elim id fun hmem => hcalls k hmem hk
  cases ho with
  | caller hg => simpa [hg] using hover g hname
  | map hg => exact .inl hg
  | superseder k hk hcall =>
    have hk' := hover k (hk.trans hname)
    rcases hcall with hcall | hcall <;> simp [hcall] at hk'
  | shutdown i todo done hcall hmem => exact .inr ⟨i, todo, done, hcall, hmem⟩

theorem Tended.single {x : String} (hcalls : CallsReturned name s x) {k : Nat}
    (hg : Owned name s g) (hk : Owned name s k) (hgx : name g = x) (hkx : name k = x) : g = k := by
  have hsame : name g = name k := hgx.trans hkx.symm
  obtain hg | ⟨i, todo, done, hi, hg⟩ := h.owned_cases hcalls hgx hg
  · obtain hk | ⟨j, todo, done, hj, hk⟩ := h.owned_cases hcalls hkx hk
    · exact h.distinct g hg k hk hsame
    · have hempty := (h.closed j (by rw [hj]; trivial)).children
      simp [hempty] at hg
  · have hclosed := h.closed i (by rw [hi]; trivial)
    obtain hk | ⟨j, todo', done', hj, hk⟩ := h.owned_cases hcalls hkx hk
    · simp [hclosed.children] at hk
    · -- only one call can have entries left
      obtain rfl : j = i := hclosed.todo j todo' done' hj (List.ne_nil_of_mem hk)
      obtain ⟨rfl, rfl⟩ := ShutdownPhase.aborting.inj (hi.symm.trans hj)
      exact hclosed.names todo done hi g hg k hk hsame

/-- The promise follows from the invariant. -/
theorem Tended.tornDown : TornDown name s where
  single := by
    intro x hcalls haborts c hc d hd hcx hdx
    have hlive : ∀ c ∈ s.running, name c.1 = x → c ∉ s.killed :=
      fun c hc hx hk => haborts.1 c hk hx hc
    have hsame : c.1 = d.1 :=
      h.single hcalls (h.not_aborted hc (hlive c hc hcx)) (h.not_aborted hd (hlive d hd hdx))
        hcx hdx
    have hcur := (h.current c hc).resolve_left (hlive c hc hcx)
    have hdur := (h.current d hd).resolve_left (hlive d hd hdx)
    rw [hsame, hdur] at hcur
    exact Prod.ext hsame (Option.some.inj hcur).symm
  none := by
    intro i hi
    have hdrained : (s.shutdownCall i).Drained := by rw [hi]; trivial
    have hclosed := h.closed i hdrained
    refine List.eq_nil_iff_forall_not_mem.mpr fun c hc => ?_
    have hcalls : CallsReturned name s (name c.1) := fun g hg _ => hclosed.spawns g hg
    have howned := h.not_aborted hc fun hk => hclosed.kills c hk hc
    obtain hmap | ⟨j, todo, done, hj, hmem⟩ := h.owned_cases hcalls rfl howned
    · simp [hclosed.children] at hmap
    · obtain rfl := hclosed.todo j todo done hj (List.ne_nil_of_mem hmem)
      cases hi.symm.trans hj

/-! ## Watchers and children -/

/-- **Watcher rule.** A watcher goes on to phase `p`, with slot and children as
    given.  New children are its own, and it has at most one that is not aborted. -/
theorem Tended.watch {attempts : Nat → Nat}
    (hlaunched : s.watcher g ≠ .absent ∨ s.spawnCall g = .spawned) (hp : p ≠ .absent)
    (hslot : ∀ k, k ≠ g → slot k = s.latestChild k)
    (hnew : ∀ c ∈ running, c ∈ s.running ∨ (c.1 = g ∧ s.shutdown = false))
    (hcurrent : ∀ n, (g, n) ∈ running → (g, n) ∈ s.killed ∨
      ({ s.setWatcher g p with latestChild := slot } : Supervisor).current g = some n)
    (haborted : s.aborted g = true →
      (∀ c ∈ running, c ∈ s.running) ∧ (p = .checking → s.shutdown = true)) :
    Tended name { s.setWatcher g p with
      latestChild := slot, attempts := attempts, running := running } where
  current := by
    rintro ⟨k, n⟩ hc
    by_cases hk : k = g
    · subst hk
      exact hcurrent n hc
    · have hold : (k, n) ∈ s.running := (hnew _ hc).resolve_right fun hg => hk hg.1
      refine (h.current _ hold).imp_right fun hcur => ?_
      simp only [Supervisor.current, setWatcher, Function.update_of_ne hk, hslot k hk] at hcur ⊢
      exact hcur
  harmless := by
    intro k hk
    by_cases hkg : k = g
    · subst hkg
      obtain ⟨hsub, hcheck⟩ := haborted hk
      refine ⟨fun c hc => (h.harmless k hk).1 c (hsub c hc), fun hphase => hcheck ?_⟩
      simpa [setWatcher] using hphase
    · refine ⟨fun c hc hck => ?_, fun hphase => ?_⟩
      · have hold : c ∈ s.running := (hnew c hc).resolve_right fun hg => hkg (hck.symm.trans hg.1)
        exact (h.harmless k hk).1 c hold hck
      · refine (h.harmless k hk).2 ?_
        simpa [setWatcher, Function.update_of_ne hkg] using hphase
  owned := by
    intro k hk
    have hold : s.watcher k ≠ .absent ∨ s.spawnCall k = .spawned := by
      by_cases hkg : k = g
      · rwa [hkg]
      · exact .inl (by simpa [setWatcher, Function.update_of_ne hkg] using hk)
    obtain hold | hspawned := hold
    · exact (h.owned k hold).imp_right fun ho => ho.congr rfl rfl rfl
    · exact .inr (.caller hspawned)
  launched := by
    intro c hc
    by_cases hcg : c.1 = g
    · simpa [setWatcher, hcg] using hp
    · have hold : c ∈ s.running := (hnew c hc).resolve_right fun hg => hcg hg.1
      simpa [setWatcher, Function.update_of_ne hcg] using h.launched c hold
  before := by
    intro k hk
    have hkg : k ≠ g := by
      rintro rfl
      obtain hlaunched | hspawned := hlaunched
      · exact hlaunched (h.before k hk)
      · have hearly : s.spawnCall k = .idle ∨ s.spawnCall k = .checked := hk
        simp [hspawned] at hearly
    simpa [setWatcher, Function.update_of_ne hkg] using h.before k hk
  entered := h.entered
  begun := h.begun
  distinct := h.distinct
  closed i hi :=
    { h.closed i hi with
      kills := fun c hc hr => by
        have hdown := h.shutdown_of_drained hi
        have hold : c ∈ s.running := (hnew c hr).resolve_right fun hg => by simp [hdown] at hg
        exact (h.closed i hi).kills c hc hold }

theorem Tended.setWatcher
    (hlaunched : s.watcher g ≠ .absent ∨ s.spawnCall g = .spawned) (hp : p ≠ .absent)
    (hcurrent : ∀ n, (g, n) ∈ s.running → (g, n) ∈ s.killed ∨ (s.setWatcher g p).current g = some n)
    (hcheck : s.aborted g = true → p = .checking → s.shutdown = true) :
    Tended name (s.setWatcher g p) := by
  have hwatch : Tended name { s.setWatcher g p with
      latestChild := s.latestChild, attempts := s.attempts, running := s.running } :=
    h.watch hlaunched hp (fun _ _ => rfl) (fun _ hc => .inl hc) hcurrent
      fun ha => ⟨fun _ hc => hc, hcheck ha⟩
  exact hwatch

/-- Without a child in hand every running child of the watcher is aborted. -/
theorem Tended.killed_of_current (hnone : s.current g = none)
    (hn : (g, n) ∈ s.running) : (g, n) ∈ s.killed := by
  refine (h.current _ hn).resolve_right fun hcur => ?_
  simp [hnone] at hcur

theorem Tended.children_end {failed : List Task} (hsub : ∀ c ∈ running, c ∈ s.running) :
    Tended name { s with running := running, failed := failed } :=
  { h with
    current := fun c hc => h.current c (hsub c hc)
    harmless := fun k hk => ⟨fun c hc => (h.harmless k hk).1 c (hsub c hc), (h.harmless k hk).2⟩
    owned := fun k hk => (h.owned k hk).imp_right fun ho => ho.congr rfl rfl rfl
    launched := fun c hc => h.launched c (hsub c hc)
    closed := fun i hi =>
      { h.closed i hi with kills := fun c hc hr => (h.closed i hi).kills c hc (hsub c hr) } }

/-! ## Aborts -/

theorem Tended.abort (hg : Harmless s g) : Tended name (s.abort g) :=
  { h with
    harmless := fun k hk => by
      rcases aborted_abort.mp hk with rfl | hk
      · exact hg
      · exact h.harmless k hk
    owned := fun k hk => (h.owned k hk).imp (fun ha => aborted_abort.mpr (.inr ha))
      fun ho => ho.congr rfl rfl rfl
    closed := fun i hi =>
      { h.closed i hi with
        handled := fun k hk => aborted_abort.mpr (.inr ((h.closed i hi).handled k hk)) } }

/-- Children may be aborted if that cannot outlast a call of `shutdown_all`. -/
theorem Tended.kill {killed : List Task} (hkilled : ∀ c ∈ s.killed, c ∈ killed)
    (hslot : ∀ c ∈ s.running, s.watcher c.1 = .taking → slot c.1 = s.latestChild c.1 ∨
      (s.latestChild c.1 = some c.2 → c ∈ killed))
    (hclosed : ∀ i, (s.shutdownCall i).Drained → ∀ c ∈ killed, c ∉ s.running) :
    Tended name { s with latestChild := slot, killed := killed } :=
  { h with
    current := fun c hc => by
      obtain hk | hcur := h.current c hc
      · exact .inl (hkilled c hk)
      · by_cases htaking : s.watcher c.1 = .taking
        · have hlatest : s.latestChild c.1 = some c.2 := by
            simpa [Supervisor.current, htaking] using hcur
          obtain hsame | hkill := hslot c hc htaking
          · exact .inr (by simpa [Supervisor.current, htaking, hsame] using hlatest)
          · exact .inl (hkill hlatest)
        · rw [Supervisor.current_of_not_taking htaking]
          exact .inr hcur
    harmless := fun k hk =>
      ⟨fun c hc hck => hkilled c ((h.harmless k hk).1 c hc hck), (h.harmless k hk).2⟩
    owned := fun k hk => (h.owned k hk).imp_right fun ho => ho.congr rfl rfl rfl
    closed := fun i hi => { h.closed i hi with kills := hclosed i hi } }

theorem Tended.killLatest (hopen : ∀ i, ¬ (s.shutdownCall i).Drained) :
    Tended name (s.killLatest g) := by
  unfold Supervisor.killLatest
  split
  · rename_i n hlatest
    refine h.kill (fun c hc => List.mem_append_left _ hc) (fun c _ _ => ?_)
      fun i hi => absurd hi (hopen i)
    by_cases hcg : c.1 = g
    · refine .inr fun hc => ?_
      rw [hcg, hlatest] at hc
      have hcn : c = (g, n) := Prod.ext hcg (Option.some.inj hc).symm
      simp [hcn]
    · exact .inl (Function.update_of_ne hcg ..)
  · exact h

/-! ## Spawn calls -/

/-- A spawn call under way keeps the map open. -/
theorem Tended.open_of_spawn {p : SpawnPhase} (hg : s.spawnCall g = p)
    (hp : p ≠ .idle ∧ p ≠ .returned) (i : Nat) : ¬ (s.shutdownCall i).Drained := by
  intro hi
  have hover := h.spawn_over hi g
  rw [hg] at hover
  exact hover.elim hp.1 hp.2

/-- **Spawn rule.** A spawn call goes on to phase `p`; what it owned it hands on. -/
theorem Tended.setSpawn {p : SpawnPhase} {entered : List Nat}
    (howned : ∀ k, Owned name s k → s.aborted k = true ∨ Owned name (s.setSpawn g p) k)
    (hbefore : p = .idle ∨ p = .checked → s.watcher g = .absent)
    (hentered : p = .returned ∨ g ∈ entered) (hsub : ∀ k ∈ s.entered, k ∈ entered)
    (hclosed : ∀ i, (s.shutdownCall i).Drained → p = .returned ∧ entered = s.entered) :
    Tended name { s.setSpawn g p with entered := entered } :=
  { h with
    owned := fun k hk => (h.owned k hk).elim .inl fun ho =>
      (howned k ho).imp_right fun ho => ho.congr rfl rfl rfl
    before := fun k hk => by
      by_cases hkg : k = g
      · subst hkg
        exact hbefore (by simpa [Supervisor.setSpawn] using hk)
      · exact h.before k (by simpa [Supervisor.setSpawn, Function.update_of_ne hkg] using hk)
    entered := fun k => by
      by_cases hkg : k = g
      · subst hkg
        exact .inr (by simpa [Supervisor.setSpawn] using hentered)
      · have hk := (h.entered k).imp_right (Or.imp_right (hsub k))
        simpa [Supervisor.setSpawn, Function.update_of_ne hkg] using hk
    closed := fun i hi => by
      obtain ⟨rfl, rfl⟩ := hclosed i hi
      refine { h.closed i hi with spawns := fun k hk => ?_ }
      by_cases hkg : k = g
      · simp [Supervisor.setSpawn, hkg]
      · simpa [Supervisor.setSpawn, Function.update_of_ne hkg] using (h.closed i hi).spawns k hk }

theorem Tended.check (hphase : s.spawnCall g = .idle) : Tended name (s.spawnStep name g .idle) := by
  have howned : ∀ p k, Owned name s k → s.aborted k = true ∨ Owned name (s.setSpawn g p) k :=
    fun p k ho => .inr (ho.setSpawn (by simp [hphase]) (by simp [hphase]))
  simp only [spawnStep]
  split
  · have hreturned : Tended name { s.setSpawn g .returned with entered := s.entered } :=
      h.setSpawn (howned _) (by simp) (.inl rfl) (fun _ hk => hk) fun _ _ => ⟨rfl, rfl⟩
    exact hreturned
  · rename_i hopen
    refine h.setSpawn (howned _) (fun _ => h.before g (.inl hphase)) (.inr (by simp))
      (fun _ hk => List.mem_append_left _ hk) fun i hi => ?_
    exact absurd (h.shutdown_of_drained hi) hopen

theorem Tended.launch (hphase : s.spawnCall g = .checked) :
    Tended name (s.spawnStep name g .checked) := by
  have habsent := h.before g (.inr hphase)
  have hin : g ∈ s.entered := by simpa [hphase] using h.entered g
  have hspawned : Tended name { s.setSpawn g .spawned with entered := s.entered } :=
    h.setSpawn (fun k ho => .inr (ho.setSpawn (by simp [hphase]) (by simp [hphase]))) (by simp)
      (.inr hin) (fun _ hk => hk)
      fun i hi => absurd hi (h.open_of_spawn hphase (by simp) i)
  refine Tended.setWatcher hspawned (.inr (by simp [Supervisor.setSpawn])) (by simp) ?_ (by simp)
  -- there is no child yet
  exact fun n hn => absurd habsent (h.launched _ hn)

theorem Tended.insert (hphase : s.spawnCall g = .spawned) :
    Tended name (s.spawnStep name g .spawned) := by
  have hself : (s.spawnStep name g .spawned).spawnCall g =
      .inserted (s.children.find? fun l => name l = name g) := Function.update_self ..
  have hother : ∀ l, l ≠ g → (s.spawnStep name g .spawned).spawnCall l = s.spawnCall l :=
    fun l hl => Function.update_of_ne hl ..
  have hmap : ∀ l, l ∈ (s.spawnStep name g .spawned).children ↔
      l = g ∨ (l ∈ s.children ∧ name l ≠ name g) := by
    intro l
    simp [spawnStep]
  refine ⟨h.current, h.harmless, ?_, h.launched, ?_, ?_, h.begun, ?_, ?_⟩
  · intro k hk
    refine (h.owned k hk).imp_right fun ho => ?_
    by_cases hkg : k = g
    · exact .map ((hmap k).mpr (.inl hkg))
    cases ho with
    | caller hk => exact .caller ((hother k hkg).trans hk)
    | map hmem =>
      by_cases hname : name k = name g
      · -- the entry that is replaced
        have hsome : (s.children.find? fun l => name l = name g).isSome :=
          List.find?_isSome.mpr ⟨k, hmem, by simpa using hname⟩
        obtain ⟨l, hl⟩ := Option.isSome_iff_exists.mp hsome
        have hlname : name l = name g := by simpa using List.find?_some hl
        have hlk : l = k :=
          h.distinct l (List.mem_of_find?_eq_some hl) k hmem (hlname.trans hname.symm)
        exact .superseder g hname.symm (.inl (by rw [hself, hl, hlk]))
      · exact .map ((hmap k).mpr (.inr ⟨hmem, hname⟩))
    | superseder l hl hcall =>
      have hlg : l ≠ g := by
        rintro rfl
        simp [hphase] at hcall
      exact .superseder l hl (by rwa [hother l hlg])
    | shutdown i todo done hcall hmem => exact .shutdown i todo done hcall hmem
  · intro k hk
    have hkg : k ≠ g := by
      rintro rfl
      simp [hself] at hk
    exact h.before k (by rwa [hother k hkg] at hk)
  · intro k
    by_cases hkg : k = g
    · subst hkg
      have hin : k ∈ s.entered := by simpa [hphase] using h.entered k
      exact .inr (.inr hin)
    · rw [hother k hkg]
      exact h.entered k
  · intro k hk l hl hname
    rcases (hmap k).mp hk with rfl | hk <;> rcases (hmap l).mp hl with rfl | hl
    · rfl
    · exact absurd hname.symm hl.2
    · exact absurd hname hk.2
    · exact h.distinct k hk.1 l hl.1 hname
  · exact fun i hi => absurd hi (h.open_of_spawn hphase (by simp) i)

theorem Tended.takeOld {previous : Option Nat} (hphase : s.spawnCall g = .inserted previous) :
    Tended name (s.spawnStep name g (.inserted previous)) := by
  have hopen := h.open_of_spawn hphase (by simp)
  have hin : g ∈ s.entered := by simpa [hphase] using h.entered g
  cases previous with
  | none =>
    have hreturned : Tended name { s.setSpawn g .returned with entered := s.entered } :=
      h.setSpawn (fun k ho => .inr (ho.setSpawn (by simp [hphase]) (by simp [hphase])))
        (by simp) (.inl rfl) (fun _ hk => hk) fun _ _ => ⟨rfl, rfl⟩
    exact hreturned
  | some old =>
    have hself : (s.setSpawn g (.emptied old)).spawnCall g = .emptied old :=
      Function.update_self ..
    have hemptied : Tended name { s.setSpawn g (.emptied old) with entered := s.entered } := by
      refine h.setSpawn (fun k ho => .inr (ho.setSpawn (by simp [hphase]) fun hname hk => ?_))
        (by simp) (.inr hin) (fun _ hk => hk) fun i hi => absurd hi (hopen i)
      have hold : old = k := by simpa [hphase] using hk
      exact .superseder g hname (.inr (hold ▸ hself))
    exact hemptied.killLatest hopen

theorem Tended.abortOld {old : Nat} (hphase : s.spawnCall g = .emptied old)
    (hold : Harmless s old) : Tended name (s.spawnStep name g (.emptied old)) := by
  have habort := h.abort hold
  have hreturned : Tended name
      { (s.abort old).setSpawn g .returned with entered := (s.abort old).entered } := by
    refine habort.setSpawn (fun k ho => ?_) (by simp) (.inl rfl) (fun _ hk => hk)
      fun _ _ => ⟨rfl, rfl⟩
    by_cases hk : k = old
    · exact .inl (aborted_abort.mpr (.inl hk))
    · refine .inr (ho.setSpawn (fun _ hg => ?_) fun _ hg => ?_)
      · exact absurd (hphase.symm.trans hg) (by simp)
      · have hcall : s.spawnCall g = .inserted (some k) ∨ s.spawnCall g = .emptied k := hg
        simp [hphase, Ne.symm hk] at hcall
  exact hreturned

/-! ## Calls of `shutdown_all` -/

theorem Tended.store (hphase : s.shutdownCall i = .idle) :
    Tended name (s.shutdownStep i .idle) := by
  have hself : (s.shutdownStep i .idle).shutdownCall i = .stored := Function.update_self ..
  have hother : ∀ j, j ≠ i → (s.shutdownStep i .idle).shutdownCall j = s.shutdownCall j :=
    fun j hj => Function.update_of_ne hj ..
  -- what the other calls are doing is what they were doing
  have hcalls : ∀ j todo done, (s.shutdownStep i .idle).shutdownCall j = .aborting todo done ↔
      s.shutdownCall j = .aborting todo done := by
    intro j todo done
    by_cases hj : j = i
    · simp [hj, hself, hphase]
    · rw [hother j hj]
  refine ⟨h.current, fun k hk => ⟨(h.harmless k hk).1, fun _ => rfl⟩, ?_, h.launched, h.before,
    h.entered, ?_, h.distinct, ?_⟩
  · intro k hk
    refine (h.owned k hk).imp_right fun ho => ?_
    cases ho with
    | caller hk => exact .caller hk
    | map hk => exact .map hk
    | superseder l hl hcall => exact .superseder l hl hcall
    | shutdown j todo done hcall hmem =>
      exact .shutdown j todo done ((hcalls j todo done).mpr hcall) hmem
  · intro j
    by_cases hj : j = i
    · exact .inr ⟨by simp [shutdownStep, hj], rfl⟩
    · rw [hother j hj]
      exact (h.begun j).imp_right fun hb => ⟨List.mem_append_left _ hb.1, rfl⟩
  · intro j hj
    have hji : j ≠ i := by
      rintro rfl
      rw [hself] at hj
      exact hj
    have hc := h.closed j (by rwa [hother j hji] at hj)
    refine ⟨hc.children, hc.spawns, hc.kills, fun k todo done hk => ?_, fun todo done hk => ?_, ?_⟩
    · exact hc.todo k todo done ((hcalls k todo done).mp hk)
    · exact hc.names todo done ((hcalls j todo done).mp hk)
    · rw [hother j hji]
      exact hc.handled

theorem Tended.drain {entries : List Nat} (hphase : s.shutdownCall i = .stored)
    (hperm : entries.Perm s.children) (hcalm : Undisturbed s i) :
    Tended name { s.setShutdown i (.aborting entries []) with children := [] } := by
  have hself : (s.setShutdown i (.aborting entries [])).shutdownCall i = .aborting entries [] :=
    Function.update_self ..
  have hother : ∀ j, j ≠ i →
      (s.setShutdown i (.aborting entries [])).shutdownCall j = s.shutdownCall j :=
    fun j hj => Function.update_of_ne hj ..
  -- no other call has watchers to abort
  have halone : ∀ j todo done, j ≠ i → s.shutdownCall j ≠ .aborting todo done := by
    intro j todo done hj hcall
    obtain hidle | ⟨hbegun, -⟩ := h.begun j
    · simp [hidle] at hcall
    · obtain rfl | hstored | hreturned := hcalm.shutdowns j hbegun
      · exact hj rfl
      · simp [hstored] at hcall
      · simp [hreturned] at hcall
  refine ⟨h.current, h.harmless, ?_, h.launched, h.before, h.entered, ?_, by simp, ?_⟩
  · intro k hk
    refine (h.owned k hk).imp_right fun ho => ?_
    cases ho with
    | caller hk => exact .caller hk
    | map hk => exact .shutdown i entries [] hself (hperm.mem_iff.mpr hk)
    | superseder l hl hcall => exact .superseder l hl hcall
    | shutdown j todo done hcall hmem =>
      have hji : j ≠ i := by
        rintro rfl
        simp [hphase] at hcall
      exact absurd hcall (halone j todo done hji)
  · intro j
    by_cases hj : j = i
    · subst hj
      have hb : j ∈ s.begun ∧ s.shutdown = true := by simpa [hphase] using h.begun j
      exact .inr hb
    · have hb := h.begun j
      rw [← hother j hj] at hb
      exact hb
  · intro j hj
    by_cases hji : j = i
    · subst hji
      refine ⟨rfl, hcalm.spawns, hcalm.kills, fun k todo done hk _ => ?_, ?_, ?_⟩
      · by_contra hkj
        exact halone k todo done hkj ((hother k hkj).symm.trans hk)
      · intro todo done hk g hg l hl
        obtain ⟨rfl, -⟩ := ShutdownPhase.aborting.inj (hself.symm.trans hk)
        exact h.distinct g (hperm.mem_iff.mp hg) l (hperm.mem_iff.mp hl)
      · intro g hg
        have hnone : g ∈ ((s.setShutdown j (.aborting entries [])).shutdownCall j).handled := hg
        rw [hself] at hnone
        cases hnone
    · have hold : (s.shutdownCall j).Drained := by
        have hdrained : ((s.setShutdown i (.aborting entries [])).shutdownCall j).Drained := hj
        rwa [hother j hji] at hdrained
      have hc := h.closed j hold
      have hempty : entries = [] := List.perm_nil.mp (hc.children ▸ hperm)
      refine ⟨rfl, hc.spawns, hc.kills, fun k todo done hk hne => ?_, fun todo done hk => ?_, ?_⟩
      · by_cases hki : k = i
        · subst hki
          obtain ⟨rfl, -⟩ := ShutdownPhase.aborting.inj (hself.symm.trans hk)
          exact absurd hempty hne
        · exact absurd ((hother k hki).symm.trans hk) (halone k todo done hki)
      · exact hc.names todo done ((hother j hji).symm.trans hk)
      · intro g hg
        have hin : g ∈ ((s.setShutdown i (.aborting entries [])).shutdownCall j).handled := hg
        rw [hother j hji] at hin
        exact hc.handled g hin

/-- **Shutdown rule.** A call that has emptied the map goes on to phase `p`. -/
theorem Tended.advance {p : ShutdownPhase}
    (hi : (s.shutdownCall i).Drained)
    (htodo : ∀ todo' done', p = .aborting todo' done' →
      ∃ todo done, s.shutdownCall i = .aborting todo done ∧ ∀ g ∈ todo', g ∈ todo)
    (hhandled : ∀ g ∈ p.handled, s.aborted g = true)
    (howned : ∀ todo done, s.shutdownCall i = .aborting todo done → ∀ g ∈ todo,
      s.aborted g = true ∨ ∃ todo' done', p = .aborting todo' done' ∧ g ∈ todo') :
    Tended name (s.setShutdown i p) := by
  have hself : (s.setShutdown i p).shutdownCall i = p := Function.update_self ..
  have hother : ∀ j, j ≠ i → (s.setShutdown i p).shutdownCall j = s.shutdownCall j :=
    fun j hj => Function.update_of_ne hj ..
  have hbegun : i ∈ s.begun ∧ s.shutdown = true := by
    refine (h.begun i).resolve_left fun hidle => ?_
    rw [hidle] at hi
    exact hi
  -- who has watchers left to abort had some before
  have hleft : ∀ k todo' done', (s.setShutdown i p).shutdownCall k = .aborting todo' done' →
      ∃ todo done, s.shutdownCall k = .aborting todo done ∧ ∀ g ∈ todo', g ∈ todo := by
    intro k todo' done' hk
    by_cases hki : k = i
    · subst hki
      exact htodo todo' done' (hself.symm.trans hk)
    · exact ⟨todo', done', (hother k hki).symm.trans hk, fun _ hg => hg⟩
  refine ⟨h.current, h.harmless, ?_, h.launched, h.before, h.entered, ?_, h.distinct, ?_⟩
  · intro k hk
    refine (h.owned k hk).elim .inl fun ho => ?_
    cases ho with
    | caller hk => exact .inr (.caller hk)
    | map hk => exact .inr (.map hk)
    | superseder l hl hcall => exact .inr (.superseder l hl hcall)
    | shutdown j todo done hcall hmem =>
      by_cases hji : j = i
      · subst hji
        obtain ha | ⟨todo', done', rfl, hmem'⟩ := howned todo done hcall k hmem
        · exact .inl ha
        · exact .inr (.shutdown j todo' done' hself hmem')
      · exact .inr (.shutdown j todo done ((hother j hji).trans hcall) hmem)
  · intro j
    by_cases hji : j = i
    · subst hji
      exact .inr hbegun
    · rw [hother j hji]
      exact h.begun j
  · intro j hj
    have hold : (s.shutdownCall j).Drained := by
      by_cases hji : j = i
      · rwa [hji]
      · rwa [hother j hji] at hj
    have hc := h.closed j hold
    refine ⟨hc.children, hc.spawns, hc.kills, fun k todo' done' hk hne => ?_,
      fun todo' done' hk g hg l hl => ?_, ?_⟩
    · obtain ⟨todo, done, hcall, hsub⟩ := hleft k todo' done' hk
      obtain ⟨g, hg⟩ := List.exists_mem_of_ne_nil todo' hne
      exact hc.todo k todo done hcall (List.ne_nil_of_mem (hsub g hg))
    · obtain ⟨todo, done, hcall, hsub⟩ := hleft j todo' done' hk
      exact hc.names todo done hcall g (hsub g hg) l (hsub l hl)
    · by_cases hji : j = i
      · subst hji
        rw [hself]
        exact hhandled
      · rw [hother j hji]
        exact hc.handled

theorem Tended.abortWatcher {done : List Nat} (hphase : s.shutdownCall i = .aborting todo done)
    (hharmless : ∀ g rest, todo = g :: rest → Harmless s g) :
    Tended name (s.shutdownStep i (.aborting todo done)) := by
  have hi : (s.shutdownCall i).Drained := by rw [hphase]; trivial
  have hdone : ∀ g ∈ done, s.aborted g = true := by
    simpa [hphase, ShutdownPhase.handled] using (h.closed i hi).handled
  cases todo with
  | nil =>
    refine h.advance hi (by simp) (by simpa [ShutdownPhase.handled] using hdone) ?_
    intro todo done' hcall g hg
    obtain ⟨rfl, -⟩ := ShutdownPhase.aborting.inj (hphase.symm.trans hcall)
    cases hg
  | cons g todo =>
    have habort := h.abort (hharmless g todo rfl)
    refine habort.advance (p := .aborting todo (done ++ [g])) hi ?_ ?_ ?_
    · intro todo' done' hp
      obtain ⟨rfl, -⟩ := ShutdownPhase.aborting.inj hp
      exact ⟨g :: todo, done, hphase, fun k hk => List.mem_cons_of_mem g hk⟩
    · intro k hk
      have hmem : k ∈ done ++ [g] := hk
      rcases List.mem_append.mp hmem with hk | hk
      · exact aborted_abort.mpr (.inr (hdone k hk))
      · exact aborted_abort.mpr (.inl (List.mem_singleton.mp hk))
    · intro todo' done' hcall k hk
      obtain ⟨rfl, -⟩ := ShutdownPhase.aborting.inj (hphase.symm.trans hcall)
      rcases List.mem_cons.mp hk with hk | hk
      · exact .inl (aborted_abort.mpr (.inl hk))
      · exact .inr ⟨todo, _, rfl, hk⟩

/-- The later phases have no watchers left to abort. -/
theorem Tended.advance_late {p : ShutdownPhase} (hi : (s.shutdownCall i).Drained)
    (hlate : ∀ todo done, s.shutdownCall i ≠ .aborting todo done)
    (hp : ∀ todo done, p ≠ .aborting todo done)
    (hhandled : ∀ g ∈ p.handled, s.aborted g = true) : Tended name (s.setShutdown i p) :=
  h.advance hi (fun _ _ hpa => absurd hpa (hp _ _)) hhandled
    fun _ _ hcall => absurd hcall (hlate _ _)

theorem Tended.collect (hphase : s.shutdownCall i = .collecting todo children) :
    Tended name (s.shutdownStep i (.collecting todo children)) := by
  have hi : (s.shutdownCall i).Drained := by rw [hphase]; trivial
  have hhandled : ∀ g ∈ todo ++ children.map Prod.fst, s.aborted g = true := by
    simpa only [hphase, ShutdownPhase.handled] using (h.closed i hi).handled
  cases todo with
  | nil => exact h.advance_late hi (by simp [hphase]) (by simp) hhandled
  | cons g todo =>
    simp only [shutdownStep]
    split <;> [rename_i hended; exact h]
    -- an ended watcher has no child in its slot that counts
    have hslot : Tended name { s with
        latestChild := Function.update s.latestChild g none, killed := s.killed } := by
      refine h.kill (fun _ hc => hc) (fun c _ htaking => .inl ?_)
        fun j hj => (h.closed j hj).kills
      refine Function.update_of_ne ?_ ..
      rintro rfl
      simp [hended] at htaking
    refine hslot.advance_late hi (by simp [hphase]) (by simp) fun k hk => hhandled k ?_
    simp only [ShutdownPhase.handled, List.map_append, List.mem_append, List.map_map] at hk
    simp only [List.cons_append, List.mem_cons, List.mem_append]
    rcases hk with hk | hk | hk
    · exact .inr (.inl hk)
    · exact .inr (.inr hk)
    · obtain ⟨n, -, rfl⟩ := List.mem_map.mp hk
      exact .inl rfl

theorem Tended.killNext {todo : List Task} (hphase : s.shutdownCall i = .killing todo children) :
    Tended name (s.shutdownStep i (.killing todo children)) := by
  have hi : (s.shutdownCall i).Drained := by rw [hphase]; trivial
  have hhandled : ∀ g ∈ todo.map Prod.fst, s.aborted g = true := by
    simpa only [hphase, ShutdownPhase.handled] using (h.closed i hi).handled
  cases todo with
  | nil => exact h.advance_late hi (by simp [hphase]) (by simp) (by simp [ShutdownPhase.handled])
  | cons c todo =>
    have hover : c ∉ s.running := by
      intro hc
      have hkilled := (h.harmless c.1 (hhandled c.1 (by simp))).1 c hc rfl
      exact (h.closed i hi).kills c hkilled hc
    have hkill : Tended name { s with
        latestChild := s.latestChild, killed := s.killed ++ [c] } := by
      refine h.kill (fun _ hd => List.mem_append_left _ hd) (fun _ _ _ => .inl rfl) ?_
      intro j hj d hd
      rcases List.mem_append.mp hd with hd | hd
      · exact (h.closed j hj).kills d hd
      · rwa [List.mem_singleton.mp hd]
    exact hkill.advance_late (p := .killing todo children) hi (by simp [hphase]) (by simp)
      fun g hg => hhandled g (List.mem_cons_of_mem _ hg)

/-! ## Runs -/

/-- The head of the loop: a watcher that was aborted does not get past it. -/
theorem Tended.attempt (hphase : s.watcher g = .checking) : Tended name (s.attempt g) := by
  have hnone : s.current g = none := by simp [Supervisor.current, hphase]
  have hlaunched : s.watcher g ≠ .absent := by simp [hphase]
  unfold Supervisor.attempt
  split
  · exact h.setWatcher (.inl hlaunched) (by simp) (fun n hn => .inl (h.killed_of_current hnone hn))
      (by simp)
  · rename_i hopen
    have hopen : s.shutdown = false := by simpa using hopen
    refine h.watch (.inl hlaunched) (by simp) (fun _ _ => rfl) (fun c hc => ?_) (fun n hn => ?_)
      fun ha => ?_
    · refine (List.mem_append.mp hc).imp_right fun hc => ?_
      exact ⟨by rw [List.mem_singleton.mp hc], hopen⟩
    · rcases List.mem_append.mp hn with hn | hn
      · exact .inl (h.killed_of_current hnone hn)
      · obtain ⟨-, rfl⟩ := Prod.mk.inj (List.mem_singleton.mp hn)
        exact .inr (by simp [Supervisor.current, Supervisor.setWatcher])
    · have hdown := (h.harmless g ha).2 hphase
      simp [hopen] at hdown

/-- A watcher without a running child of its own may go on to any such phase. -/
theorem Tended.setWatcher_free (hlaunched : s.watcher g ≠ .absent)
    (hp : p ≠ .absent) (hfree : ∀ n, (g, n) ∈ s.running → (g, n) ∈ s.killed)
    (hcheck : s.aborted g = true → p = .checking → s.shutdown = true) :
    Tended name (s.setWatcher g p) :=
  h.setWatcher (.inl hlaunched) hp (fun n hn => .inl (hfree n hn)) hcheck

theorem Tended.take (hphase : s.watcher g = .taking) : Tended name (s.step name (.take g)) := by
  have hlaunched : s.watcher g ≠ .absent := by simp [hphase]
  simp only [Supervisor.step, if_pos hphase]
  split
  · rename_i n hlatest
    have hwatch : Tended name { s.setWatcher g (.awaiting n) with
        latestChild := Function.update s.latestChild g none
        attempts := s.attempts
        running := s.running } := by
      refine h.watch (.inl hlaunched) (by simp) (fun k hk => Function.update_of_ne hk ..)
        (fun _ hc => .inl hc) (fun m hm => (h.current _ hm).imp_right fun hcur => ?_)
        fun ha => ⟨fun _ hc => hc, by simp⟩
      have hmn : n = m := by simpa [Supervisor.current, hphase, hlatest] using hcur
      simp [Supervisor.current, Supervisor.setWatcher, hmn]
    exact hwatch
  · rename_i hlatest
    have hnone : s.current g = none := by simp [Supervisor.current, hphase, hlatest]
    exact h.setWatcher_free hlaunched (by simp) (fun n hn => h.killed_of_current hnone hn) (by simp)

theorem Tended.park (hphase : s.watcher g = .parking n) :
    Tended name { s.setWatcher g .taking with
      latestChild := Function.update s.latestChild g (some n) } := by
  have hwatch : Tended name { s.setWatcher g .taking with
      latestChild := Function.update s.latestChild g (some n)
      attempts := s.attempts
      running := s.running } := by
    refine h.watch (.inl (by simp [hphase])) (by simp) (fun k hk => Function.update_of_ne hk ..)
      (fun _ hc => .inl hc) (fun m hm => (h.current _ hm).imp_right fun hcur => ?_)
      fun ha => ⟨fun _ hc => hc, by simp⟩
    have hmn : n = m := by simpa [Supervisor.current, hphase] using hcur
    simp [Supervisor.current, Supervisor.setWatcher, hmn]
  exact hwatch

theorem Tended.killed_of_over (hphase : s.watcher g = .awaiting n)
    (hover : (g, n) ∉ s.running) {m : Nat} (hm : (g, m) ∈ s.running) : (g, m) ∈ s.killed := by
  refine (h.current _ hm).resolve_right fun hcur => ?_
  obtain rfl : n = m := by simpa [Supervisor.current, hphase] using hcur
  exact hover hm

/-- A move whose guard fails changes nothing. -/
theorem Tended.ite {t : Supervisor} {q : Prop} [Decidable q]
    (ht : q → Tended name t) : Tended name (if q then t else s) := by
  split
  · exact ht ‹_›
  · exact h

/-- Every careful move keeps the invariant. -/
theorem Tended.step (m : Move) (hm : Careful s m) : Tended name (s.step name m) := by
  cases m with
  | check g => exact h.ite h.check
  | launch g => exact h.ite h.launch
  | insert g => exact h.ite h.insert
  | takeOld g =>
    simp only [Supervisor.step]
    split <;> [rename_i previous hphase; exact h]
    exact h.takeOld hphase
  | abortOld g =>
    simp only [Supervisor.step]
    split <;> [rename_i old hphase; exact h]
    exact h.abortOld hphase (by simpa [Careful, hphase] using hm)
  | poll g =>
    refine h.ite fun hready => ?_
    have hnone : s.current g = none := by simp [Supervisor.current, hready.1]
    exact h.setWatcher_free (by simp [hready.1]) (by simp)
      (fun n hn => h.killed_of_current hnone hn) (by simp [hready.2])
  | test g => exact h.ite h.attempt
  | park g =>
    simp only [Supervisor.step]
    split <;> [rename_i n hphase; exact h]
    exact h.park hphase
  | take g =>
    by_cases hphase : s.watcher g = .taking
    · exact h.take hphase
    · simpa [Supervisor.step, hphase] using h
  | observe g =>
    simp only [Supervisor.step]
    split <;> [rename_i n hphase; exact h]
    split <;> [exact h; rename_i hover]
    split <;>
      exact h.setWatcher_free (by simp [hphase]) (by simp)
        (fun m hm => h.killed_of_over hphase hover hm) (by simp)
  | recheck g =>
    refine h.ite fun hphase => ?_
    have hnone : s.current g = none := by simp [Supervisor.current, hphase]
    split <;>
      exact h.setWatcher_free (by simp [hphase]) (by simp)
        (fun n hn => h.killed_of_current hnone hn) (by simp)
  | wake g =>
    refine h.ite fun hready => ?_
    have hnone : s.current g = none := by simp [Supervisor.current, hready.1]
    exact h.setWatcher_free (by simp [hready.1]) (by simp)
      (fun n hn => h.killed_of_current hnone hn) (by simp [hready.2])
  | cancel g =>
    refine h.ite fun haborted => ?_
    -- it was harmless to abort this watcher: what it drops is over or aborted
    have hfree : ∀ n, (g, n) ∈ s.running → (g, n) ∈ s.killed :=
      fun n hn => (h.harmless g haborted).1 _ hn rfl
    split
    · rename_i hphase
      exact h.setWatcher_free (by simp [hphase]) (by simp) hfree (by simp)
    · rename_i n hphase
      exact h.setWatcher_free (by simp [hphase]) (by simp) hfree (by simp)
    · rename_i hphase
      exact h.setWatcher_free (by simp [hphase]) (by simp) hfree (by simp)
    · exact h
  | exit c crash => exact h.ite fun _ => h.children_end fun _ hd => List.mem_of_mem_filter hd
  | stop c => exact h.ite fun _ => h.children_end fun _ hd => List.mem_of_mem_filter hd
  | store i => exact h.ite h.store
  | drain i entries => exact h.ite fun hready => h.drain hready.1 hready.2 (hm hready.1 hready.2)
  | abortWatcher i =>
    simp only [Supervisor.step]
    split <;> [rename_i todo done hphase; exact h]
    refine h.abortWatcher hphase fun g rest htodo => ?_
    subst htodo
    simpa [Careful, hphase] using hm
  | collect i =>
    simp only [Supervisor.step]
    split <;> [rename_i todo children hphase; exact h]
    exact h.collect hphase
  | kill i =>
    simp only [Supervisor.step]
    split <;> [rename_i todo children hphase; exact h]
    exact h.killNext hphase
  | join i =>
    simp only [Supervisor.step]
    split <;> [rename_i todo hphase; exact h]
    have hi : (s.shutdownCall i).Drained := by rw [hphase]; trivial
    have hnext : ∀ p, (∀ todo done, p ≠ .aborting todo done) → p.handled = [] →
        Tended name (s.setShutdown i p) := fun p hp hnone =>
      h.advance_late hi (by simp [hphase]) hp (by simp [hnone])
    cases todo with
    | nil => exact hnext .returned (by simp) rfl
    | cons c todo =>
      simp only [shutdownStep]
      split <;> [exact h; exact hnext (.joining todo) (by simp) rfl]

end Rules

/-- **Teardown.** For every assignment of names and every interleaving: if watchers
    are aborted only when that is harmless and no call of `shutdown_all` is
    disturbed, then there is at most one child per name once the calls for it have
    returned and what they aborted has stopped, and no child from the return of
    `shutdown_all` on. -/
theorem tornDown_of_careful (name : Nat → String) (moves : List Move)
    (h : AllSteps (step name) Careful start moves) :
    AllStates (step name) (TornDown name) start moves := by
  have htended : AllStates (step name) (Tended name) start moves :=
    allStates_of_invariant tended_start (fun _ m hs hm => hs.step m hm) h
  exact htended.mono fun _ hs => hs.tornDown

instance (s : Supervisor) (g : Nat) : Decidable (Harmless s g) :=
  inferInstanceAs (Decidable ((∀ c ∈ s.running, c.1 = g → c ∈ s.killed) ∧
    (s.watcher g = .checking → s.shutdown = true)))

instance (s : Supervisor) (i : Nat) : Decidable (Undisturbed s i) :=
  decidable_of_iff ((∀ g ∈ s.entered, s.spawnCall g = .returned) ∧
      (∀ c ∈ s.killed, c ∉ s.running) ∧ ∀ j ∈ s.begun,
        j = i ∨ s.shutdownCall j = .stored ∨ s.shutdownCall j = .returned)
    ⟨fun h => ⟨h.1, h.2.1, h.2.2⟩, fun h => ⟨h.spawns, h.kills, h.shutdowns⟩⟩

instance (s : Supervisor) : (m : Move) → Decidable (Careful s m)
  | .abortOld g =>
    match h : s.spawnCall g with
    | .emptied old => decidable_of_iff (Harmless s old) (by simp [Careful, h])
    | .idle | .checked | .spawned | .inserted _ | .returned => .isTrue (by simp [Careful, h])
  | .abortWatcher i =>
    match h : s.shutdownCall i with
    | .aborting (g :: _) _ => decidable_of_iff (Harmless s g) (by simp [Careful, h])
    | .aborting [] _ | .idle | .stored | .collecting _ _ | .killing _ _ | .joining _
    | .returned => .isTrue (by simp [Careful, h])
  | .drain i entries => inferInstanceAs (Decidable (s.shutdownCall i = .stored →
      entries.Perm s.children → Undisturbed s i))
  | .check _ | .launch _ | .insert _ | .takeOld _ | .poll _ | .test _ | .park _ | .take _
  | .observe _ | .recheck _ | .wake _ | .cancel _ | .exit _ _ | .stop _ | .store _ | .collect _
  | .kill _ | .join _ => .isTrue trivial

def spawning (g : Nat) : List Move :=
  [.check g, .launch g, .insert g, .takeOld g, .abortOld g]

/-- A watcher from its first poll until it awaits its first child. -/
def awaitsChild (g : Nat) : List Move := [.poll g, .test g, .park g, .take g]

/-- Call `i` of `shutdown_all` with one entry whose watcher stops at once. -/
def shuttingDown (i g : Nat) : List Move :=
  [.store i, .drain i [g], .abortWatcher i, .cancel g, .abortWatcher i, .collect i, .collect i,
    .kill i, .join i]

/-- A crashed child's watcher is superseded in its sleep; the second child ends
    before the supervisor is shut down. -/
theorem tornDown_of_careful_asleep :
    AllStates (step fun _ => "sync") (TornDown fun _ => "sync") start
      (spawning 0 ++ awaitsChild 0 ++ [.exit (0, 0) true, .observe 0, .recheck 0] ++ spawning 1 ++
        [.cancel 0] ++ awaitsChild 1 ++ [.exit (1, 0) false, .observe 1] ++ shuttingDown 0 1) :=
  tornDown_of_careful (fun _ => "sync") _ (by decide)

/-- An aborted watcher drops the handle of the child it awaits.  After a second
    spawn of the name both children run, and after `shutdown_all` the child still
    runs. -/
theorem detached_child_runs :
    ¬ AllStates (step fun _ => "sync") (TornDown fun _ => "sync") start
      (spawning 0 ++ awaitsChild 0 ++ spawning 1 ++ [.cancel 0] ++ awaitsChild 1) ∧
    ¬ AllStates (step fun _ => "sync") (TornDown fun _ => "sync") start
      (spawning 0 ++ awaitsChild 0 ++ shuttingDown 0 0) := by
  constructor
  · intro h
    have hsame := h.last.single "sync" (by unfold CallsReturned; decide)
      (by unfold AbortsDone; decide) (0, 0) (by decide) (1, 0) (by decide) rfl rfl
    simp at hsame
  · intro h
    have hnone := h.last.none 0 (by decide)
    revert hnone
    decide

end Supervisor

end Handfast.Core
