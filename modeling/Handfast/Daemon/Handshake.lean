/-
  Handfast.Daemon.Handshake

  Pairing between two daemons, as a protocol.  On the wire there are two pair
  packets only, `pair: true` and `pair: false`; what a packet is sent as is one
  of four things (`Letter`), and a request has a number.  A party reads a
  packet by its own state: with a request of its own pending any packet is the
  answer to it, otherwise `true` is a request and `false` a revocation.

  The parties agree whenever nothing is on the wire, as long as every letter is
  read as what it was sent as (`Legal`).  Two things carry the proof.  What a
  party will have pinned once its queue is read (`outcome`) is the same on
  both sides.  And an answer to a request that is no longer pending can never
  be read, so it keeps the wire busy for ever (`Doomed`); agreement is only
  owed while there is none.
-/
import Handfast.Lib.Duplex
import Mathlib.Data.List.Pairwise

namespace Handfast.Daemon

open Handfast.Lib

/-! ## Parties and letters -/

/-- What a pair packet is sent as; an answer names the request it answers. -/
inductive Letter where
  | request (n : Nat)
  | accept (n : Nat)
  | refuse (n : Nat)
  | revoke
  deriving DecidableEq

namespace Letter

/-- The `pair` field of the packet. -/
def wants : Letter → Bool
  | request _ | accept _ => true
  | refuse _ | revoke => false

def number : Letter → Option Nat
  | request n | accept n | refuse n => some n
  | revoke => none

theorem number_isSome {l : Letter} (h : l.wants = true) : l.number.isSome = true := by
  cases l with
  | request n => rfl
  | accept n => rfl
  | refuse n => cases h
  | revoke => cases h

/-- The letter answers request `n`. -/
def Answers (l : Letter) (n : Nat) : Prop := l = accept n ∨ l = refuse n

/-- The own request `k`, crossed by request `m`, is going to be read as the
    acceptance of `m`. -/
def crossed (k m : Nat) (l : Letter) : Letter := if l = request k then accept m else l

@[simp] theorem crossed_wants (k m : Nat) (l : Letter) : (l.crossed k m).wants = l.wants := by
  unfold crossed
  split
  · rename_i h
    rw [h]
    rfl
  · rfl

end Letter

/-- One daemon's pairing state with the other. -/
@[ext] structure Party where
  pinned : Bool
  /-- The own request whose answer is awaited. -/
  slot : Option Nat
  /-- The other's request that awaits the user. -/
  parked : Option Nat
  /-- The number the next request would get. -/
  next : Nat
  deriving DecidableEq

/-- Two daemons and the letters on their way. -/
abbrev Handshake := Duplex Party Letter

inductive Move where
  | start
  | unpair
  /-- Answer the parked request, if there is one. -/
  | answer (accept : Bool)
  /-- Drop the parked request without an answer. -/
  | forget

namespace Party

def does (p : Party) : Move → Party × List Letter
  | .start =>
    if p.pinned then ({ p with next := p.next + 1 }, [])
    else ({ p with slot := some p.next, next := p.next + 1 }, [.request p.next])
  | .unpair => ({ p with pinned := false, next := p.next + 1 }, [.revoke])
  | .answer accept =>
    match p.parked with
    | none => ({ p with next := p.next + 1 }, [])
    | some n =>
      ({ p with parked := none, pinned := p.pinned || accept, next := p.next + 1 },
       [if accept then .accept n else .refuse n])
  | .forget => ({ p with parked := none, next := p.next + 1 }, [])

variable {p : Party}

theorem does_start_paired (h : p.pinned = true) :
    p.does .start = ({ p with next := p.next + 1 }, []) := if_pos h

theorem does_start_unpaired (h : ¬ p.pinned = true) :
    p.does .start =
      ({ p with slot := some p.next, next := p.next + 1 }, [.request p.next]) := if_neg h

theorem does_answer_none (accept : Bool) (h : p.parked = none) :
    p.does (.answer accept) = ({ p with next := p.next + 1 }, []) := by
  simp only [does]
  split
  · rfl
  · rename_i n hn
    rw [h] at hn
    cases hn

theorem does_answer_some {n : Nat} (accept : Bool) (h : p.parked = some n) :
    p.does (.answer accept) =
      ({ p with parked := none, pinned := p.pinned || accept, next := p.next + 1 },
       [if accept then .accept n else .refuse n]) := by
  simp only [does, h]

def reads (p : Party) (l : Letter) : Party :=
  match p.slot with
  | some _ => { p with slot := none, pinned := p.pinned || l.wants, next := p.next + 1 }
  | none =>
    if l.wants then { p with parked := l.number, next := p.next + 1 }
    else { p with parked := none, pinned := false, next := p.next + 1 }

end Party

/-- A turn of a daemon: a move of its own, or reading the next letter. -/
inductive Turn where
  | move (move : Move)
  | read

namespace Handshake

/-- If the letter `side` reads is a request that crossed its own, the own one
    is going to be read as an acceptance. -/
def cross (h : Handshake) (side : Side) (l : Letter) : Handshake :=
  match (h.state side).slot, l with
  | some k, .request m => h.relabel side.other (Letter.crossed k m)
  | _, _ => h

@[simp] theorem cross_state (h : Handshake) (side : Side) (l : Letter) :
    (h.cross side l).state = h.state := by
  unfold cross
  split <;> rfl

@[simp] theorem cross_wire (h : Handshake) (side : Side) (l : Letter) :
    (h.cross side l).wire side = h.wire side := by
  unfold cross
  split <;> simp

def step (h : Handshake) (side : Side) : Turn → Handshake
  | .move move => h.act side ((h.state side).does move).1 ((h.state side).does move).2
  | .read =>
    match h.wire side with
    | [] => h
    | l :: _ => ((h.cross side l).pop side).act side ((h.state side).reads l) []

/-- The letter a party reads next is read as what it was sent as: a request or
    a revocation with no own request pending, an answer while the request it
    answers is; or it is a request that crosses one's own.  And a party does
    not revoke while its own request is pending. -/
def Legal (h : Handshake) (side : Side) : Turn → Prop
  | .move .unpair => (h.state side).slot = none
  | .read =>
    match h.wire side, (h.state side).slot with
    | .request _ :: _, some k => .request k ∈ h.wire side.other
    | .accept n :: _, slot => slot = some n
    | .refuse n :: _, slot => slot = some n
    | .revoke :: _, slot => slot = none
    | _, _ => True
  | .move .start | .move (.answer _) | .move .forget => True

/-! ## What the wire will settle -/

/-- What a letter makes of the reader's pin. -/
def settles (pinned : Bool) : Letter → Bool
  | .accept _ => true
  | .revoke => false
  | .request _ | .refuse _ => pinned

/-- What a party will have pinned once it has read its queue. -/
def outcome (pinned : Bool) (ls : List Letter) : Bool := ls.foldl settles pinned

/-- Every revocation on the wire was sent before request `k`. -/
def Ordered (k : Nat) : List Letter → Prop
  | [] => True
  | l :: ls => (l = .revoke → .request k ∈ ls) ∧ Ordered k ls

variable {b : Bool} {k m n : Nat} {l : Letter} {ls : List Letter}

@[simp] theorem outcome_nil : outcome b [] = b := rfl

@[simp] theorem outcome_cons : outcome b (l :: ls) = outcome (settles b l) ls := rfl

@[simp] theorem outcome_snoc : outcome b (ls ++ [l]) = settles (outcome b ls) l := by
  simp [outcome]

theorem outcome_of_no_revoke (h : .revoke ∉ ls) : outcome true ls = true := by
  induction ls with
  | nil => rfl
  | cons l ls ih =>
    have hl : settles true l = true := by
      cases l with
      | revoke => exact absurd List.mem_cons_self h
      | _ => rfl
    rw [outcome_cons, hl]
    exact ih fun hmem => h (List.mem_cons_of_mem l hmem)

theorem outcome_of_no_accept (h : ∀ n, .accept n ∉ ls) : outcome false ls = false := by
  induction ls with
  | nil => rfl
  | cons l ls ih =>
    have hl : settles false l = false := by
      cases l with
      | accept n => exact absurd List.mem_cons_self (h n)
      | _ => rfl
    rw [outcome_cons, hl]
    exact ih fun n hmem => h n (List.mem_cons_of_mem l hmem)

theorem ordered_snoc_request : Ordered k (ls ++ [.request k]) := by
  induction ls with
  | nil => exact ⟨nofun, trivial⟩
  | cons l ls ih => exact ⟨fun _ => by simp, ih⟩

/-- Anything but a revocation can follow. -/
theorem Ordered.snoc (h : Ordered k ls) (hl : l ≠ .revoke) : Ordered k (ls ++ [l]) := by
  induction ls with
  | nil => exact ⟨fun he => absurd he hl, trivial⟩
  | cons l' ls ih => exact ⟨fun he => List.mem_append_left _ (h.1 he), ih h.2⟩

/-- Without the request there is no revocation either. -/
theorem Ordered.no_revoke (h : Ordered k ls) (hk : .request k ∉ ls) : .revoke ∉ ls := by
  induction ls with
  | nil => exact List.not_mem_nil
  | cons l ls ih =>
    have hrest : .request k ∉ ls := fun hmem => hk (List.mem_cons_of_mem l hmem)
    intro hmem
    rcases List.mem_cons.mp hmem with he | hmem
    · exact hrest (h.1 he.symm)
    · exact ih h.2 hrest hmem

theorem crossed_eq_revoke : l.crossed k m = .revoke ↔ l = .revoke := by
  unfold Letter.crossed
  split
  · rename_i hl
    simp [hl]
  · rfl

/-- A crossed request counts as an acceptance, so the letters end paired. -/
theorem outcome_crossed (h : Ordered k ls) (hk : .request k ∈ ls) :
    outcome b (ls.map (Letter.crossed k m)) = true := by
  induction ls generalizing b with
  | nil => exact absurd hk List.not_mem_nil
  | cons l ls ih =>
    rw [List.map_cons, outcome_cons]
    by_cases hrest : .request k ∈ ls
    · exact ih h.2 hrest
    · -- the request itself; no revocation follows it
      have hl : l = .request k := ((List.mem_cons.mp hk).resolve_right hrest).symm
      have hnone : .revoke ∉ ls.map (Letter.crossed k m) := by
        intro hmem
        obtain ⟨l', hl', he⟩ := List.mem_map.mp hmem
        exact h.2.no_revoke hrest (crossed_eq_revoke.mp he ▸ hl')
      rw [hl]
      simpa [Letter.crossed, settles] using outcome_of_no_revoke hnone

/-! ## The numbers of requests -/

def requests (ls : List Letter) : List Nat :=
  ls.filterMap fun l =>
    match l with
    | .request n => some n
    | _ => none

@[simp] theorem requests_nil : requests [] = [] := rfl

@[simp] theorem requests_cons_request :
    requests (.request n :: ls) = n :: requests ls := rfl

@[simp] theorem requests_append (ls ls' : List Letter) :
    requests (ls ++ ls') = requests ls ++ requests ls' := List.filterMap_append

theorem mem_requests : n ∈ requests ls ↔ .request n ∈ ls := by
  unfold requests
  rw [List.mem_filterMap]
  constructor
  · rintro ⟨l, hl, hn⟩
    cases l <;> simp at hn
    exact hn ▸ hl
  · exact fun h => ⟨.request n, h, rfl⟩

theorem requests_tail_sublist : (requests ls).Sublist (requests (l :: ls)) :=
  (List.sublist_cons_self l ls).filterMap _

theorem requests_crossed_sublist :
    (requests (ls.map (Letter.crossed k m))).Sublist (requests ls) := by
  induction ls with
  | nil => exact .slnil
  | cons l ls ih =>
    by_cases hl : l = .request k
    · subst hl
      simpa [Letter.crossed, requests] using ih.cons k
    · have hsame : l.crossed k m = l := by simp [Letter.crossed, hl]
      rw [List.map_cons, hsame]
      cases l with
      | request n => exact ih.cons_cons n
      | _ => exact ih

/-- The requests of a party that the other has parked or is going to read carry
    increasing numbers below the next one, and so do the answers to it. -/
structure Fresh (next : Nat) (parked : Option Nat) (sent received : List Letter) : Prop where
  sorted : (parked.toList ++ requests sent).Pairwise (· < ·)
  lt : ∀ n ∈ parked.toList ++ requests sent, n < next
  answered_lt : ∀ l ∈ received, ∀ n, l.Answers n → n < next

namespace Fresh

variable {next next' n : Nat} {parked parked' : Option Nat}
  {sent sent' received received' : List Letter}

theorem of_sublist (h : Fresh next parked sent received)
    (hs : (parked'.toList ++ requests sent').Sublist (parked.toList ++ requests sent)) :
    Fresh next parked' sent' received where
  sorted := h.sorted.sublist hs
  lt := fun n hmem => h.lt n (hs.subset hmem)
  answered_lt := h.answered_lt

theorem later (h : Fresh next parked sent received) : Fresh (next + 1) parked sent received where
  sorted := h.sorted
  lt := fun n hn => Nat.lt_succ_of_lt (h.lt n hn)
  answered_lt := fun l hl n hn => Nat.lt_succ_of_lt (h.answered_lt l hl n hn)

theorem send (h : Fresh next parked sent received) (hl : requests [l] = []) :
    Fresh next parked (sent ++ [l]) received := by
  have hsame : requests (sent ++ [l]) = requests sent := by
    rw [requests_append, hl, List.append_nil]
  exact h.of_sublist (hsame ▸ .refl _)

/-- A letter comes in; if it is an answer, to a request that was made. -/
theorem receive (h : Fresh next parked sent received)
    (hl : ∀ n, l.Answers n → n < next) : Fresh next parked sent (received ++ [l]) :=
  { h with
    answered_lt := fun l' hl' n hn => by
      rcases List.mem_append.mp hl' with hl' | hl'
      · exact h.answered_lt l' hl' n hn
      · exact hl n (List.mem_singleton.mp hl' ▸ hn) }

theorem forget (h : Fresh next parked sent received) : Fresh next none sent received :=
  h.of_sublist (List.sublist_append_right _ _)

theorem pop_sent (h : Fresh next parked (l :: sent) received) :
    Fresh next parked sent received :=
  h.of_sublist (List.Sublist.append_left requests_tail_sublist _)

theorem pop_received (h : Fresh next parked sent (l :: received)) :
    Fresh next parked sent received :=
  { h with answered_lt := fun l' hl' => h.answered_lt l' (List.mem_cons_of_mem l hl') }

/-- A request that is parked is no longer on the way. -/
theorem park (h : Fresh next parked (.request n :: sent) received) :
    Fresh next (some n) sent received :=
  h.of_sublist (List.sublist_append_right _ _)

theorem crossed_sent (h : Fresh next parked sent received) :
    Fresh next parked (sent.map (Letter.crossed k m)) received :=
  h.of_sublist (List.Sublist.append_left requests_crossed_sublist _)

theorem crossed_received (h : Fresh next parked sent received) (hm : m < next) :
    Fresh next parked sent (received.map (Letter.crossed k m)) :=
  { h with
    answered_lt := fun l hl n hn => by
      obtain ⟨l', hl', rfl⟩ := List.mem_map.mp hl
      unfold Letter.crossed at hn
      split at hn
      · rcases hn with hn | hn <;> cases hn
        exact hm
      · exact h.answered_lt l' hl' n hn }

/-- A new request gets the next number. -/
theorem ask (h : Fresh next parked sent received) :
    Fresh (next + 1) parked (sent ++ [.request next]) received where
  sorted := by
    rw [requests_append, ← List.append_assoc]
    exact List.pairwise_append.mpr ⟨h.sorted, List.pairwise_singleton _ _, fun n hn n' hn' => by
      rw [List.mem_singleton.mp hn']
      exact h.lt n hn⟩
  lt := by
    intro n hn
    rw [requests_append, ← List.append_assoc] at hn
    rcases List.mem_append.mp hn with hn | hn
    · exact Nat.lt_succ_of_lt (h.lt n hn)
    · rw [List.mem_singleton.mp hn]
      exact Nat.lt_succ_self _
  answered_lt := fun l hl n hn => Nat.lt_succ_of_lt (h.answered_lt l hl n hn)

theorem parked_not_mem (h : Fresh next (some n) sent received) :
    .request n ∉ sent := by
  intro hmem
  have hsorted := List.pairwise_cons.mp h.sorted
  exact Nat.lt_irrefl n (hsorted.1 n (mem_requests.mpr hmem))

theorem head_not_mem (h : Fresh next parked (.request n :: sent) received) :
    .request n ∉ sent := by
  intro hmem
  have hsorted := (List.pairwise_append.mp h.sorted).2.1
  exact Nat.lt_irrefl n ((List.pairwise_cons.mp hsorted).1 n (mem_requests.mpr hmem))

end Fresh

def AllFresh (h : Handshake) : Prop :=
  ∀ x, Fresh (h.state x).next (h.state x.other).parked (h.wire x.other) (h.wire x)

/-! ## Answers nobody waits for -/

/-- Some letter answers a request that is not pending. -/
def Doomed (h : Handshake) : Prop :=
  ∃ x n, (∃ l ∈ h.wire x, l.Answers n) ∧ (h.state x).slot ≠ some n

/-- What both parties will have pinned is the same, and a party's revocations
    were sent before the request it has pending. -/
structure Good (h : Handshake) : Prop where
  agree : outcome (h.state .left).pinned (h.wire .left) =
    outcome (h.state .right).pinned (h.wire .right)
  ordered : ∀ x k, (h.state x).slot = some k → Ordered k (h.wire x.other)

structure Inv (h : Handshake) : Prop where
  fresh : AllFresh h
  good : Doomed h ∨ Good h

/-! ## What a legal move does -/

/-- The legal moves of `side`, one case per thing that can happen. -/
inductive Moves (h : Handshake) (side : Side) : Handshake → Prop
  /-- Nothing but the number of the next request changes. -/
  | tick : Moves h side (h.act side { h.state side with next := (h.state side).next + 1 } [])
  | stay : Moves h side h
  | ask : Moves h side (h.act side
      { h.state side with slot := some (h.state side).next, next := (h.state side).next + 1 }
      [.request (h.state side).next])
  | unpair (hslot : (h.state side).slot = none) : Moves h side (h.act side
      { h.state side with pinned := false, next := (h.state side).next + 1 } [.revoke])
  | accept (n : Nat) (hparked : (h.state side).parked = some n) : Moves h side (h.act side
      { h.state side with parked := none, pinned := true, next := (h.state side).next + 1 }
      [.accept n])
  | refuse (n : Nat) (hparked : (h.state side).parked = some n) : Moves h side (h.act side
      { h.state side with parked := none, next := (h.state side).next + 1 } [.refuse n])
  | forget : Moves h side (h.act side
      { h.state side with parked := none, next := (h.state side).next + 1 } [])
  /-- A request is parked. -/
  | park (m : Nat) (rest : List Letter) (hwire : h.wire side = .request m :: rest)
      (hslot : (h.state side).slot = none) : Moves h side ((h.pop side).act side
      { h.state side with parked := some m, next := (h.state side).next + 1 } [])
  /-- A request is taken for the answer to one's own, which is still on its way. -/
  | cross (k m : Nat) (rest : List Letter) (hwire : h.wire side = .request m :: rest)
      (hslot : (h.state side).slot = some k) (hmem : .request k ∈ h.wire side.other) :
      Moves h side (((h.relabel side.other (Letter.crossed k m)).pop side).act side
      { h.state side with slot := none, pinned := true, next := (h.state side).next + 1 } [])
  | accepted (n : Nat) (rest : List Letter) (hwire : h.wire side = .accept n :: rest)
      (hslot : (h.state side).slot = some n) : Moves h side ((h.pop side).act side
      { h.state side with slot := none, pinned := true, next := (h.state side).next + 1 } [])
  | refused (n : Nat) (rest : List Letter) (hwire : h.wire side = .refuse n :: rest)
      (hslot : (h.state side).slot = some n) : Moves h side ((h.pop side).act side
      { h.state side with slot := none, next := (h.state side).next + 1 } [])
  | revoked (rest : List Letter) (hwire : h.wire side = .revoke :: rest)
      (hslot : (h.state side).slot = none) : Moves h side ((h.pop side).act side
      { h.state side with parked := none, pinned := false, next := (h.state side).next + 1 } [])

variable {h h' x : Handshake} {side : Side} {turn : Turn} {sent : List Letter}

theorem moves_read (hlegal : h.Legal side .read) : h.Moves side (h.step side .read) := by
  cases hw : h.wire side with
  | nil => simpa [step, hw] using Moves.stay
  | cons l rest =>
    -- without a request of its own a party awaits no answer
    cases hs : (h.state side).slot with
    | none =>
      cases l with
      | request m => simpa [step, hw, cross, Party.reads, hs, Letter.wants, Letter.number]
          using Moves.park m rest hw hs
      | accept n => simp [Legal, hw, hs] at hlegal
      | refuse n => simp [Legal, hw, hs] at hlegal
      | revoke => simpa [step, hw, cross, Party.reads, hs, Letter.wants]
          using Moves.revoked rest hw hs
    | some k =>
      cases l with
      | request m =>
        have hmem : .request k ∈ h.wire side.other := by simpa [Legal, hw, hs] using hlegal
        simpa [step, hw, cross, Party.reads, hs, Letter.wants]
          using Moves.cross k m rest hw hs hmem
      | accept n =>
        have hk : k = n := by simpa [Legal, hw, hs] using hlegal
        simpa [step, hw, cross, Party.reads, hs, Letter.wants]
          using Moves.accepted n rest hw (hk ▸ hs)
      | refuse n =>
        have hk : k = n := by simpa [Legal, hw, hs] using hlegal
        simpa [step, hw, cross, Party.reads, hs, Letter.wants]
          using Moves.refused n rest hw (hk ▸ hs)
      | revoke => simp [Legal, hw, hs] at hlegal

/-- Every legal turn is one of the moves. -/
theorem moves_of_legal (hlegal : h.Legal side turn) :
    h.Moves side (h.step side turn) := by
  cases turn with
  | read => exact moves_read hlegal
  | move move =>
    cases move with
    | start =>
      by_cases hpin : (h.state side).pinned = true
      · rw [step, Party.does_start_paired hpin]
        exact .tick
      · rw [step, Party.does_start_unpaired hpin]
        exact .ask
    | unpair => exact .unpair hlegal
    | answer accept =>
      cases hparked : (h.state side).parked with
      | none =>
        rw [step, Party.does_answer_none accept hparked]
        exact .tick
      | some n =>
        rw [step, Party.does_answer_some accept hparked]
        cases accept with
        | true => simpa using Moves.accept n hparked
        | false => simpa using Moves.refuse n hparked
    | forget => exact .forget

/-! ## Legal moves keep the invariant -/

theorem allFresh_act {p : Party} :
    AllFresh (x.act side p sent) ↔
      Fresh p.next (x.state side.other).parked (x.wire side.other ++ sent) (x.wire side) ∧
        Fresh (x.state side.other).next p.parked (x.wire side) (x.wire side.other ++ sent) := by
  rw [AllFresh, Side.forall_iff side]
  simp

/-- Request numbers stay fresh. -/
theorem Moves.allFresh (hmove : h.Moves side h') (hf : h.AllFresh) : AllFresh h' := by
  have hown := hf side
  have hother := hf side.other
  rw [Side.other_other] at hother
  cases hmove with
  | stay => exact hf
  | tick => exact allFresh_act.mpr (by simpa using ⟨hown.later, hother⟩)
  | ask => exact allFresh_act.mpr ⟨hown.ask, hother.receive nofun⟩
  | unpair hslot => exact allFresh_act.mpr ⟨hown.later.send rfl, hother.receive nofun⟩
  -- an answer carries the number of the request that was parked
  | accept n hparked =>
    have hn := hother.lt n (by simp [hparked])
    exact allFresh_act.mpr ⟨hown.later.send rfl, hother.forget.receive fun k hk => by
      rcases hk with hk | hk <;> cases hk
      exact hn⟩
  | refuse n hparked =>
    have hn := hother.lt n (by simp [hparked])
    exact allFresh_act.mpr ⟨hown.later.send rfl, hother.forget.receive fun k hk => by
      rcases hk with hk | hk <;> cases hk
      exact hn⟩
  | forget => exact allFresh_act.mpr (by simpa using ⟨hown.later, hother.forget⟩)
  | park m rest hw hslot =>
    rw [hw] at hown hother
    exact allFresh_act.mpr (by simpa [hw] using ⟨hown.later.pop_received, hother.park⟩)
  | cross k m rest hw hslot hmem =>
    -- the own request turns into an acceptance of the other
    have hm := hother.lt m (by simp [hw])
    rw [hw] at hown hother
    exact allFresh_act.mpr (by
      simpa [hw] using
        ⟨hown.later.pop_received.crossed_sent, hother.pop_sent.crossed_received hm⟩)
  | accepted n rest hw hslot =>
    rw [hw] at hown hother
    exact allFresh_act.mpr (by simpa [hw] using ⟨hown.later.pop_received, hother.pop_sent⟩)
  | refused n rest hw hslot =>
    rw [hw] at hown hother
    exact allFresh_act.mpr (by simpa [hw] using ⟨hown.later.pop_received, hother.pop_sent⟩)
  | revoked rest hw hslot =>
    rw [hw] at hown hother
    exact allFresh_act.mpr (by
      simpa [hw] using ⟨hown.later.pop_received, hother.pop_sent.forget⟩)

theorem answers_crossed (hl : l.Answers n) : l.crossed k m = l := by
  rcases hl with rfl | rfl <;> rfl

/-- The slot holds what it held, nothing, or a number never used before. -/
theorem Moves.slot (hmove : h.Moves side h') :
    (h'.state side).slot = (h.state side).slot ∨ (h'.state side).slot = none ∨
      (h'.state side).slot = some (h.state side).next := by
  cases hmove <;> simp

theorem Moves.state_other (hmove : h.Moves side h') :
    (h'.state side.other).slot = (h.state side.other).slot := by
  cases hmove <;> simp

/-- An answer that is not awaited is not read. -/
theorem Moves.unawaited_mem (hmove : h.Moves side h') (hl : l ∈ h.wire side) (hn : l.Answers n)
    (hslot : (h.state side).slot ≠ some n) : l ∈ h'.wire side := by
  have hpop : ∀ {l' rest}, h.wire side = l' :: rest → l ≠ l' → l ∈ rest := by
    intro l' rest hw hne
    exact (List.mem_cons.mp (hw ▸ hl)).resolve_left hne
  cases hmove with
  | park m rest hw hs =>
    simpa [hw] using hpop hw (by rintro rfl; rcases hn with hn | hn <;> cases hn)
  | cross k m rest hw hs hmem =>
    simpa [hw] using hpop hw (by rintro rfl; rcases hn with hn | hn <;> cases hn)
  | accepted k rest hw hs =>
    simpa [hw] using hpop hw (by
      rintro rfl
      rcases hn with hn | hn <;> cases hn
      exact hslot hs)
  | refused k rest hw hs =>
    simpa [hw] using hpop hw (by
      rintro rfl
      rcases hn with hn | hn <;> cases hn
      exact hslot hs)
  | revoked rest hw hs =>
    simpa [hw] using hpop hw (by rintro rfl; rcases hn with hn | hn <;> cases hn)
  | _ => simpa using hl

/-- An answer stays on the wire until the other side reads it. -/
theorem Moves.answer_mem_other (hmove : h.Moves side h') (hl : l ∈ h.wire side.other)
    (hn : l.Answers n) : l ∈ h'.wire side.other := by
  cases hmove with
  | cross k m rest hw hs hmem =>
    simp only [Duplex.act_wire_other, Duplex.pop_wire_other, Duplex.relabel_wire,
      List.append_nil]
    exact List.mem_map.mpr ⟨l, hl, answers_crossed hn⟩
  | _ => simp [hl]

/-- An answer nobody waits for stays so. -/
theorem Moves.doomed (hmove : h.Moves side h') (hf : h.AllFresh) (hd : h.Doomed) :
    Doomed h' := by
  obtain ⟨x, n, ⟨l, hl, hn⟩, hslot⟩ := hd
  have hx : x = side ∨ x = side.other := by cases x <;> cases side <;> simp [Side.other]
  rcases hx with rfl | rfl
  · refine ⟨x, n, ⟨l, hmove.unawaited_mem hl hn hslot, hn⟩, ?_⟩
    rcases hmove.slot with hs | hs | hs
    · rw [hs]
      exact hslot
    · rw [hs]
      exact nofun
    · rw [hs]
      intro he
      have hlt := (hf x).answered_lt l hl n hn
      rw [Option.some.inj he] at hlt
      exact Nat.lt_irrefl n hlt
  · exact ⟨side.other, n, ⟨l, hmove.answer_mem_other hl hn, hn⟩, by rwa [hmove.state_other]⟩

/-- Seen from either side it is the same statement. -/
theorem good_iff (side : Side) :
    Good x ↔
      outcome (x.state side).pinned (x.wire side) =
          outcome (x.state side.other).pinned (x.wire side.other) ∧
        (∀ k, (x.state side).slot = some k → Ordered k (x.wire side.other)) ∧
        ∀ k, (x.state side.other).slot = some k → Ordered k (x.wire side) := by
  constructor
  · intro hg
    refine ⟨?_, hg.ordered side, by simpa using hg.ordered side.other⟩
    cases side
    · exact hg.agree
    · exact hg.agree.symm
  · rintro ⟨hagree, hown, hother⟩
    refine ⟨?_, (Side.forall_iff side).mpr ⟨hown, by simpa using hother⟩⟩
    cases side
    · exact hagree
    · exact hagree.symm

theorem awaited (hd : ¬ Doomed x) (hl : l ∈ x.wire side)
    (hn : l.Answers n) : (x.state side).slot = some n := by
  by_contra hslot
  exact hd ⟨side, n, ⟨l, hl, hn⟩, hslot⟩

/-- Unless the handshake is doomed, an answer on the way is awaited. -/
theorem awaited_other {p : Party} (hd : ¬ Doomed (x.act side p sent))
    (hl : l ∈ x.wire side.other ++ sent)
    (hn : l.Answers n) : (x.state side.other).slot = some n := by
  have hmem : l ∈ (x.act side p sent).wire side.other := by simpa using hl
  simpa using awaited hd hmem hn

theorem Ordered.tail (hk : Ordered k (l :: ls)) : Ordered k ls := hk.2

/-- While every answer is awaited, the parties stay on the way to agreement. -/
theorem Moves.good (hmove : h.Moves side h') (hf : h.AllFresh) (hd : ¬ h.Doomed)
    (hd' : ¬ Doomed h') (hg : h.Good) : Good h' := by
  obtain ⟨hagree, hown, hother⟩ := (good_iff side).mp hg
  have hfresh := hf side.other
  rw [Side.other_other] at hfresh
  rw [good_iff side]
  cases hmove with
  | stay => exact ⟨hagree, hown, hother⟩
  | tick => simpa using ⟨hagree, hown, hother⟩
  | ask =>
    refine ⟨by simpa [settles] using hagree, ?_, by simpa using hother⟩
    simpa using ordered_snoc_request
  | unpair hslot =>
    -- no acceptance is on its way: it would answer a pending request
    have hnone : outcome false (h.wire side) = false := by
      refine outcome_of_no_accept fun n hmem => ?_
      have := awaited hd hmem (.inl rfl)
      rw [hslot] at this
      cases this
    refine ⟨by simpa [settles] using hnone, ?_, by simpa using hother⟩
    simp [hslot]
  | accept n hparked =>
    -- the request is pending there, so no revocation follows it here
    have hpending : (h.state side.other).slot = some n :=
      awaited_other hd' (List.mem_append_right _ List.mem_cons_self) (.inl rfl)
    rw [hparked] at hfresh
    have hnone := (hother n hpending).no_revoke hfresh.parked_not_mem
    refine ⟨by simpa [settles] using outcome_of_no_revoke hnone, ?_, by simpa using hother⟩
    simpa using fun k hk => (hown k hk).snoc (by simp)
  | refuse n hparked =>
    refine ⟨by simpa [settles] using hagree, ?_, by simpa using hother⟩
    simpa using fun k hk => (hown k hk).snoc (by simp)
  | forget => simpa using ⟨hagree, hown, hother⟩
  | park m rest hw hslot =>
    rw [hw] at hagree hother
    refine ⟨by simpa [hw, settles] using hagree, by simp [hslot], ?_⟩
    simpa [hw] using fun k hk => (hother k hk).tail
  | cross k m rest hw hslot hmem =>
    have hcrossed : .accept m ∈ (h.wire side.other).map (Letter.crossed k m) :=
      List.mem_map.mpr ⟨.request k, hmem, by simp [Letter.crossed]⟩
    have hpending : (h.state side.other).slot = some m := by
      simpa using awaited_other hd' (by simpa using hcrossed) (.inl rfl)
    rw [hw] at hfresh hother
    have hnone := (hother m hpending).tail.no_revoke hfresh.head_not_mem
    have hthere : outcome (h.state side.other).pinned
        ((h.wire side.other).map (Letter.crossed k m)) = true :=
      outcome_crossed (hown k hslot) hmem
    refine ⟨?_, by simp, ?_⟩
    · simpa [hw, hthere] using outcome_of_no_revoke hnone
    · simpa [hw] using fun j hj => (hother j hj).tail
  | accepted n rest hw hslot =>
    rw [hw] at hagree hother
    refine ⟨by simpa [hw, settles] using hagree, by simp, ?_⟩
    simpa [hw] using fun k hk => (hother k hk).tail
  | refused n rest hw hslot =>
    rw [hw] at hagree hother
    refine ⟨by simpa [hw, settles] using hagree, by simp, ?_⟩
    simpa [hw] using fun k hk => (hother k hk).tail
  | revoked rest hw hslot =>
    rw [hw] at hagree hother
    refine ⟨by simpa [hw, settles] using hagree, by simp [hslot], ?_⟩
    simpa [hw] using fun k hk => (hother k hk).tail

/-- Legal moves keep the invariant. -/
theorem Inv.step (hi : h.Inv) (hlegal : h.Legal side turn) :
    Inv (h.step side turn) := by
  have hmove := moves_of_legal hlegal
  refine ⟨hmove.allFresh hi.fresh, ?_⟩
  by_cases hd : h.Doomed
  · exact .inl (hmove.doomed hi.fresh hd)
  · by_cases hd' : Doomed (h.step side turn)
    · exact .inl hd'
    · exact .inr (hmove.good hi.fresh hd hd' (hi.good.resolve_left hd))

/-- With nothing on the wire the parties agree. -/
theorem Inv.agree (hi : h.Inv) (hw : ∀ x, h.wire x = []) :
    (h.state .left).pinned = (h.state .right).pinned := by
  rcases hi.good with ⟨x, n, ⟨l, hl, -⟩, -⟩ | hg
  · rw [hw x] at hl
    exact absurd hl List.not_mem_nil
  · simpa [hw] using hg.agree

end Handshake
end Handfast.Daemon
