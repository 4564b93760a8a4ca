/-
  Handfast.Lib.Dialogue

  Two parties that follow fixed scripts of sends and receives, joined by a FIFO
  queue in each direction.  Every party has at most one move, and moves of the
  two do not disturb each other (`Moves.commute`).  So one order of moves that
  gets both scripts to their ends is enough: a state from which there is one
  (`Completes`) stays such a state whoever moves next (`Completes.after`), and
  two parties that both lack input have both finished (`Completes.stuck`).

  Messages in turn (`message_left`, `message_right`) and two messages that
  cross (`crossing`) build such states.
-/
import Handfast.Lib.Duplex
import Mathlib.Data.List.Basic
import Mathlib.Logic.Relation

namespace Handfast.Lib

/-- One action of a script, on one item. -/
inductive Act (M : Type) where
  | send (m : M)
  | recv (m : M)

namespace Dialogue

variable {M : Type}

/-- A script for each party, and what is on its way to each. -/
abbrev State (M : Type) := Duplex (List (Act M)) M

/-- The only move a party has: the first action of its script. -/
inductive Moves (x : State M) (side : Side) : State M → Prop
  | send {m : M} {s : List (Act M)} (h : x.state side = .send m :: s) :
      Moves x side (x.act side s [m])
  | recv {m : M} {s : List (Act M)} {rest : List M} (h : x.state side = .recv m :: s)
      (hwire : x.wire side = m :: rest) : Moves x side ((x.pop side).act side s [])

/-- Some order of moves ends both scripts and leaves nothing on the way. -/
inductive Completes : State M → Prop
  | done {x : State M} (hstate : ∀ side, x.state side = []) (hwire : ∀ side, x.wire side = []) :
      Completes x
  | move {x y : State M} {side : Side} (h : Moves x side y) (next : Completes y) : Completes x

variable {x y z : State M} {side : Side} {s l r : List (Act M)} {ms rest used sent : List M}

/-! ## Moves of the two parties -/

theorem Moves.unique (h : Moves x side y) (h' : Moves x side z) : y = z := by
  cases h with
  | send h =>
    cases h' with
    | send h' =>
      rw [h] at h'
      cases h'
      rfl
    | recv h' =>
      rw [h] at h'
      cases h'
  | recv h =>
    cases h' with
    | send h' =>
      rw [h] at h'
      cases h'
    | recv h' =>
      rw [h] at h'
      cases h'
      rfl

/-- Moves of the two parties can be made in either order. -/
theorem Moves.commute (hy : Moves x side y) (hz : Moves x side.other z) :
    ∃ w, Moves y side.other w ∧ Moves z side w := by
  cases hy with
  | @send m s h =>
    cases hz with
    | @send m' s' h' =>
      refine ⟨(x.act side s [m]).act side.other s' [m'], .send (by simpa using h'), ?_⟩
      have hback : Moves (x.act side.other s' [m']) side
          ((x.act side.other s' [m']).act side s [m]) := .send (by simpa using h)
      convert hback using 1
      apply Duplex.ext_sides side <;> simp
    | @recv m' s' rest h' hwire =>
      -- what is sent goes behind what the other one takes
      have hnext : (x.act side s [m]).wire side.other = m' :: (rest ++ [m]) := by simp [hwire]
      refine ⟨((x.act side s [m]).pop side.other).act side.other s' [],
        .recv (by simpa using h') hnext, ?_⟩
      have hback : Moves ((x.pop side.other).act side.other s' []) side
          (((x.pop side.other).act side.other s' []).act side s [m]) := .send (by simpa using h)
      convert hback using 1
      apply Duplex.ext_sides side <;> simp [hwire]
  | @recv m s rest h hwire =>
    cases hz with
    | @send m' s' h' =>
      have hnext : (x.act side.other s' [m']).wire side = m :: (rest ++ [m']) := by simp [hwire]
      refine ⟨((x.pop side).act side s []).act side.other s' [m'],
        .send (by simpa using h'), ?_⟩
      have hback : Moves (x.act side.other s' [m']) side
          (((x.act side.other s' [m']).pop side).act side s []) :=
        .recv (by simpa using h) hnext
      convert hback using 1
      apply Duplex.ext_sides side <;> simp [hwire]
    | @recv m' s' rest' h' hwire' =>
      refine ⟨(((x.pop side).act side s []).pop side.other).act side.other s' [],
        .recv (by simpa using h') (by simpa using hwire'), ?_⟩
      have hback : Moves ((x.pop side.other).act side.other s' []) side
          ((((x.pop side.other).act side.other s' []).pop side).act side s []) :=
        .recv (by simpa using h) (by simpa using hwire)
      convert hback using 1
      apply Duplex.ext_sides side <;> simp

/-- **One good order is enough.** Whatever move is made, both can still finish. -/
theorem Completes.after (hx : Completes x) (h : Moves x side y) : Completes y := by
  induction hx generalizing side y with
  | done hstate _ =>
    cases h with
    | send h =>
      rw [hstate side] at h
      cases h
    | recv h =>
      rw [hstate side] at h
      cases h
  | @move x z side' h' next ih =>
    by_cases hside : side = side'
    · subst hside
      rwa [h.unique h']
    · -- the good order starts with the other party; its move is still possible
      obtain rfl : side' = side.other := by
        cases side <;> cases side' <;> simp_all [Side.other]
      obtain ⟨w, hyw, hzw⟩ := h.commute h'
      exact .move hyw (ih hzw)

/-! ## Several moves of one party -/

/-- A party receives `used` and then sends `sent`. -/
structure Advances (x : State M) (side : Side) (used sent : List M) (y : State M) : Prop where
  script : x.state side = used.map .recv ++ (sent.map .send ++ y.state side)
  taken : x.wire side = used ++ y.wire side
  given : y.wire side.other = x.wire side.other ++ sent
  other : y.state side.other = x.state side.other

theorem Advances.steps (h : Advances x side used sent y) :
    Relation.ReflTransGen (fun x y => Moves x side y) x y := by
  induction used generalizing x with
  | nil =>
    induction sent generalizing x with
    | nil =>
      obtain rfl : x = y := Duplex.ext_sides side (by simpa using h.script) h.other.symm
        (by simpa using h.taken) (by simpa using h.given.symm)
      exact .refl
    | cons m sent ih =>
      refine .head (.send h.script) (ih ⟨by simp, ?_, ?_, ?_⟩)
      · simpa using h.taken
      · simpa using h.given
      · simpa using h.other
  | cons m used ih =>
    refine .head (.recv h.script h.taken) (ih ⟨by simp, ?_, ?_, ?_⟩)
    · simp [h.taken]
    · simpa using h.given
    · simpa using h.other

/-- After any moves both can still finish. -/
theorem Completes.forward (hx : Completes x) (h : Advances x side used sent y) : Completes y := by
  have hsteps := h.steps
  clear h
  induction hsteps with
  | refl => exact hx
  | tail _ hmove ih => exact ih.after hmove

/-- If both can finish after some moves, they can before. -/
theorem Completes.backward (h : Advances x side used sent y) (hy : Completes y) : Completes x := by
  have hsteps := h.steps
  clear h
  induction hsteps using Relation.ReflTransGen.head_induction_on with
  | refl => exact hy
  | head hmove _ ih => exact .move hmove ih

/-! ## What is on the way -/

def sends (s : List (Act M)) : List M :=
  s.filterMap fun | .send m => some m | .recv _ => none

def recvs (s : List (Act M)) : List M :=
  s.filterMap fun | .send _ => none | .recv m => some m

@[simp] theorem sends_cons_send (m : M) (s : List (Act M)) : sends (.send m :: s) = m :: sends s :=
  rfl

@[simp] theorem sends_cons_recv (m : M) (s : List (Act M)) : sends (.recv m :: s) = sends s := rfl

@[simp] theorem recvs_cons_send (m : M) (s : List (Act M)) : recvs (.send m :: s) = recvs s := rfl

@[simp] theorem recvs_cons_recv (m : M) (s : List (Act M)) : recvs (.recv m :: s) = m :: recvs s :=
  rfl

@[simp] theorem sends_append (s t : List (Act M)) : sends (s ++ t) = sends s ++ sends t := by
  simp [sends]

@[simp] theorem recvs_append (s t : List (Act M)) : recvs (s ++ t) = recvs s ++ recvs t := by
  simp [recvs]

@[simp] theorem sends_send (ms : List M) : sends (ms.map .send) = ms := by
  simp [sends, List.filterMap_map]

@[simp] theorem sends_recv (ms : List M) : sends (ms.map .recv) = [] := by
  simp [sends, List.filterMap_map]

@[simp] theorem recvs_recv (ms : List M) : recvs (ms.map .recv) = ms := by
  simp [recvs, List.filterMap_map]

/-- What is on the way and what the other party still sends is what a party still receives. -/
theorem Completes.balanced (hx : Completes x) (side : Side) :
    x.wire side ++ sends (x.state side.other) = recvs (x.state side) := by
  revert side
  induction hx with
  | done hstate hwire =>
    intro side
    rw [hstate, hstate, hwire]
    rfl
  | @move x y side h next ih =>
    rw [Side.forall_iff side] at ih ⊢
    rw [Side.other_other] at ih ⊢
    cases h with
    | send h =>
      refine ⟨?_, ?_⟩
      · simpa [h] using ih.1
      · simpa [h] using ih.2
    | recv h hwire =>
      refine ⟨?_, ?_⟩
      · simpa [h, hwire] using ih.1
      · simpa [h] using ih.2

/-! ## Parties that lack input -/

/-- A party that takes what there is and then needs more. -/
def Short (x : State M) (side : Side) : Prop :=
  ∃ m s, x.state side = (x.wire side).map .recv ++ .recv m :: s

/-- Who has finished has nothing left to read. -/
theorem Completes.wire_of_finished (hx : Completes x) (h : x.state side = []) :
    x.wire side = [] := by
  have hbalance := hx.balanced side
  rw [h] at hbalance
  exact (List.append_eq_nil_iff.mp hbalance).1

/-- **No deadlock.** Parties that have finished or lack input have all finished. -/
theorem Completes.stuck (hx : Completes x) (h : ∀ side, x.state side = [] ∨ Short x side)
    (side : Side) : x.state side = [] := by
  -- let both parties take what is there
  have hscript : ∀ side, ∃ s, x.state side = (x.wire side).map .recv ++ s ∧
      (s = [] → x.state side = []) ∧ ∀ m t, s ≠ .send m :: t := by
    intro side
    rcases h side with hdone | ⟨m, t, hshort⟩
    · refine ⟨[], ?_, fun _ => hdone, by simp⟩
      rw [hdone, hx.wire_of_finished hdone]
      rfl
    · exact ⟨.recv m :: t, hshort, nofun, by simp⟩
  choose left hleft hempty hrecv using hscript
  let half : State M :=
    ⟨Function.update x.state .left (left .left), Function.update x.wire .left []⟩
  have hfirst : Advances x .left (x.wire .left) [] half :=
    ⟨by simpa [half] using hleft .left, by simp [half], by simp [half, Side.other],
      by simp [half, Side.other]⟩
  have hsecond : Advances half .right (x.wire .right) [] ⟨left, fun _ => []⟩ :=
    ⟨by simpa [half] using hleft .right, by simp [half], by simp [half, Side.other],
      by simp [half, Side.other]⟩
  cases (hx.forward hfirst).forward hsecond with
  | done hstate _ => exact hempty side (hstate side)
  | @move _ _ mover hmove =>
    cases hmove with
    -- neither sends next, and there is nothing left to take
    | send hsend => exact absurd hsend (hrecv mover _ _)
    | recv _ hwire => cases hwire

/-! ## States that complete -/

/-- Two scripts with nothing on the way. -/
def quiet (l r : List (Act M)) : State M where
  state
    | .left => l
    | .right => r
  wire _ := []

theorem completes_nil : Completes (quiet [] [] : State M) :=
  .done (fun side => by cases side <;> rfl) fun _ => rfl

/-- A message of the left party, received before anything else happens. -/
theorem message_left (ms : List M) (h : Completes (quiet l r)) :
    Completes (quiet (ms.map .send ++ l) (ms.map .recv ++ r)) := by
  let sent : State M := ⟨(quiet l (ms.map .recv ++ r)).state, fun | .left => [] | .right => ms⟩
  have hreceive : Advances sent .right ms [] (quiet l r) := ⟨rfl, by simp [sent, quiet], rfl, rfl⟩
  have hsend : Advances (quiet (ms.map .send ++ l) (ms.map .recv ++ r)) .left [] ms sent :=
    ⟨rfl, rfl, rfl, rfl⟩
  exact .backward hsend (.backward hreceive h)

/-- A message of the right party, received before anything else happens. -/
theorem message_right (ms : List M) (h : Completes (quiet l r)) :
    Completes (quiet (ms.map .recv ++ l) (ms.map .send ++ r)) := by
  let sent : State M := ⟨(quiet (ms.map .recv ++ l) r).state, fun | .left => ms | .right => []⟩
  have hreceive : Advances sent .left ms [] (quiet l r) := ⟨rfl, by simp [sent, quiet], rfl, rfl⟩
  have hsend : Advances (quiet (ms.map .recv ++ l) (ms.map .send ++ r)) .right [] ms sent :=
    ⟨rfl, rfl, rfl, rfl⟩
  exact .backward hsend (.backward hreceive h)

/-- Two messages that cross: both parties send first. -/
theorem crossing (ls rs : List M) :
    Completes (quiet (ls.map .send ++ rs.map .recv) (rs.map .send ++ ls.map .recv)) := by
  let oneSent : State M :=
    ⟨(quiet (rs.map .recv) (rs.map .send ++ ls.map .recv)).state, fun | .left => [] | .right => ls⟩
  let bothSent : State M :=
    ⟨(quiet (rs.map .recv) (ls.map .recv)).state, fun | .left => rs | .right => ls⟩
  let oneRead : State M := ⟨(quiet [] (ls.map .recv)).state, fun | .left => [] | .right => ls⟩
  have hfirst : Advances (quiet (ls.map .send ++ rs.map .recv) (rs.map .send ++ ls.map .recv))
      .left [] ls oneSent := ⟨rfl, rfl, rfl, rfl⟩
  have hsecond : Advances oneSent .right [] rs bothSent := ⟨rfl, rfl, rfl, rfl⟩
  have hthird : Advances bothSent .left rs [] oneRead :=
    ⟨by simp [bothSent, oneRead, quiet], by simp [bothSent, oneRead],
      by simp [bothSent, oneRead, Side.other], rfl⟩
  have hfourth : Advances oneRead .right ls [] (quiet [] []) :=
    ⟨by simp [oneRead, quiet], by simp [oneRead, quiet], rfl, rfl⟩
  exact .backward hfirst (.backward hsecond (.backward hthird (.backward hfourth completes_nil)))

end Dialogue
end Handfast.Lib
