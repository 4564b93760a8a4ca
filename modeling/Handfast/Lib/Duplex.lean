/-
  Handfast.Lib.Duplex

  Two parties joined by a FIFO queue in each direction.  A move of one party is
  a new state together with what it sends (`act`), and taking the next message
  or several off the own queue (`pop`, `discard`).  The equations say what both parties and both
  queues are afterwards; with `Side.forall_iff` an invariant of both sides
  becomes one goal for the party that moved and one for the other.
-/
import Mathlib.Logic.Function.Basic

namespace Handfast.Lib

inductive Side where
  | left
  | right
  deriving DecidableEq

namespace Side

def other : Side → Side
  | left => right
  | right => left

@[simp] theorem other_other (side : Side) : side.other.other = side := by cases side <;> rfl

@[simp] theorem other_ne (side : Side) : side.other ≠ side := by cases side <;> decide

@[simp] theorem ne_other (side : Side) : side ≠ side.other := (other_ne side).symm

theorem forall_iff (side : Side) {P : Side → Prop} : (∀ x, P x) ↔ P side ∧ P side.other := by
  constructor
  · exact fun h => ⟨h side, h side.other⟩
  · rintro ⟨h, h'⟩ x
    cases side <;> cases x
    · exact h
    · exact h'
    · exact h'
    · exact h

end Side

/-- The states of two parties and the messages on their way to each. -/
structure Duplex (S M : Type) where
  state : Side → S
  wire : Side → List M

namespace Duplex

variable {S M : Type} (x : Duplex S M) (side : Side)

/-- A party goes to state `s` and sends messages. -/
def act (s : S) (sent : List M) : Duplex S M where
  state := Function.update x.state side s
  wire := Function.update x.wire side.other (x.wire side.other ++ sent)

/-- A party takes the next message off its queue. -/
def pop : Duplex S M :=
  { x with wire := Function.update x.wire side (x.wire side).tail }

/-- A party takes the next `n` messages off its queue. -/
def discard (n : Nat) : Duplex S M :=
  { x with wire := Function.update x.wire side ((x.wire side).drop n) }

/-- Change the messages on their way to a party. -/
def relabel (f : M → M) : Duplex S M :=
  { x with wire := Function.update x.wire side ((x.wire side).map f) }

/-- Two pairs are equal if they agree on one side and on the other. -/
theorem ext_sides {x y : Duplex S M} (side : Side) (hs : x.state side = y.state side)
    (hs' : x.state side.other = y.state side.other) (hw : x.wire side = y.wire side)
    (hw' : x.wire side.other = y.wire side.other) : x = y := by
  obtain ⟨state, wire⟩ := x
  obtain ⟨state', wire'⟩ := y
  obtain rfl : state = state' := funext ((Side.forall_iff side).mpr ⟨hs, hs'⟩)
  obtain rfl : wire = wire' := funext ((Side.forall_iff side).mpr ⟨hw, hw'⟩)
  rfl

section Equations

variable {x side} {s : S} {sent : List M} {f : M → M} {n : Nat}

@[simp] theorem act_state : (x.act side s sent).state side = s := by simp [act]

@[simp] theorem act_state_other :
    (x.act side s sent).state side.other = x.state side.other := by simp [act]

@[simp] theorem act_wire : (x.act side s sent).wire side = x.wire side := by simp [act]

@[simp] theorem act_wire_other :
    (x.act side s sent).wire side.other = x.wire side.other ++ sent := by simp [act]

@[simp] theorem act_other_state : (x.act side.other s sent).state side = x.state side := by
  simp [act]

@[simp] theorem act_other_wire :
    (x.act side.other s sent).wire side = x.wire side ++ sent := by simp [act]

@[simp] theorem act_self : x.act side (x.state side) [] = x := by simp [act]

@[simp] theorem pop_state : (x.pop side).state = x.state := rfl

@[simp] theorem pop_wire : (x.pop side).wire side = (x.wire side).tail := by simp [pop]

@[simp] theorem pop_wire_other : (x.pop side).wire side.other = x.wire side.other := by
  simp [pop]

@[simp] theorem pop_other_wire : (x.pop side.other).wire side = x.wire side := by simp [pop]

@[simp] theorem discard_state : (x.discard side n).state = x.state := rfl

@[simp] theorem discard_wire : (x.discard side n).wire side = (x.wire side).drop n := by
  simp [discard]

@[simp] theorem discard_wire_other :
    (x.discard side n).wire side.other = x.wire side.other := by simp [discard]

@[simp] theorem relabel_state : (x.relabel side f).state = x.state := rfl

@[simp] theorem relabel_wire : (x.relabel side f).wire side = (x.wire side).map f := by
  simp [relabel]

@[simp] theorem relabel_other_wire : (x.relabel side.other f).wire side = x.wire side := by
  simp [relabel]

end Equations

end Duplex
end Handfast.Lib
