/-
  Handfast.Lib.Files

  A flat file system: every path holds the content of one file or nothing.
  The operations are those a program stages its output with, each a point
  update: create, append, rename, remove.  Directories, permissions and open
  handles are left out; whether an operation fails is decided by its caller.

  `read_*` reduces every sequence of operations to a comparison of paths.
  `Owned` is for parties that share the files, each with paths of its own; its
  step rule is all that is needed to keep them apart.
-/
import Mathlib.Logic.Function.Basic

namespace Handfast.Lib

/-- Files by path; `B` is the type of one byte. -/
@[ext] structure Files (P B : Type) where
  read : P → Option (List B)

namespace Files

variable {P B : Type} {fs : Files P B}

def empty : Files P B := ⟨fun _ => none⟩

/-- A file exists at `p`. -/
def has (fs : Files P B) (p : P) : Bool := (fs.read p).isSome

theorem has_eq_false {p : P} : fs.has p = false ↔ fs.read p = none := by
  simp [has]

theorem has_eq_true {p : P} : fs.has p = true ↔ ∃ b, fs.read p = some b := by
  simp [has, Option.isSome_iff_exists]

variable [DecidableEq P]

/-- Make `bytes` the content of the file at `p`. -/
def put (fs : Files P B) (p : P) (bytes : List B) : Files P B :=
  ⟨Function.update fs.read p (some bytes)⟩

/-- Delete the file at `p`. -/
def remove (fs : Files P B) (p : P) : Files P B := ⟨Function.update fs.read p none⟩

/-- Append to the file at `p`, if there is one. -/
def append (fs : Files P B) (p : P) (bytes : List B) : Files P B :=
  match fs.read p with
  | some old => fs.put p (old ++ bytes)
  | none => fs

/-- Move the file at `p` to `q`; a file that was at `q` is gone. -/
def rename (fs : Files P B) (p q : P) : Files P B :=
  match fs.read p with
  | some bytes => (fs.remove p).put q bytes
  | none => fs

/-! ## Reading after an update -/

variable {fs fs' fs'' : Files P B} {p q r : P} {bytes : List B}

@[simp] theorem read_put : (fs.put p bytes).read q = if q = p then some bytes else fs.read q := by
  simp [put, Function.update_apply]

@[simp] theorem read_remove : (fs.remove p).read q = if q = p then none else fs.read q := by
  simp [remove, Function.update_apply]

theorem read_append_self {old : List B} (h : fs.read p = some old) :
    (fs.append p bytes).read p = some (old ++ bytes) := by
  simp [append, h]

theorem read_append_of_ne (h : q ≠ p) : (fs.append p bytes).read q = fs.read q := by
  unfold append
  cases fs.read p with
  | none => rfl
  | some old => simp [h]

theorem rename_eq (h : fs.read p = some bytes) :
    fs.rename p q = (fs.remove p).put q bytes := by
  rw [rename, h]

theorem read_rename_target (h : fs.read p = some bytes) :
    (fs.rename p q).read q = some bytes := by
  simp [rename_eq h]

theorem read_rename_source (h : fs.read p = some bytes) (hpq : p ≠ q) :
    (fs.rename p q).read p = none := by
  simp [rename_eq h, hpq]

theorem read_rename_of_ne (hp : r ≠ p) (hq : r ≠ q) : (fs.rename p q).read r = fs.read r := by
  unfold rename
  cases fs.read p with
  | none => rfl
  | some bytes => simp [hp, hq]

/-! ## Holding files

Several parties share a file system, each holding some of the paths.  A step of
one party that spares the files it does not hold, and takes up only paths that
were free, keeps the parties apart. -/

section Owned

omit [DecidableEq P]

variable {I : Type} {holds holds' : I → P → Prop}

/-- A path with a file is not one without. -/
theorem ne_of_has (hp : fs.has p = true) (hq : fs.has q = false) : p ≠ q := by
  rintro rfl
  rw [hp] at hq
  cases hq

/-- A path that is held has a file, and one holder. -/
structure Owned (holds : I → P → Prop) (fs : Files P B) : Prop where
  present : ∀ i p, holds i p → fs.has p = true
  apart : ∀ i j p, holds i p → holds j p → i = j

/-- A step of one owner that spares the files of the others keeps the ownership. -/
theorem Owned.step (h : Owned holds fs) (i : I)
    (hothers : ∀ j, j ≠ i → ∀ p, holds' j p → holds j p)
    (hframe : ∀ p, fs.has p = true → ¬ holds i p → fs'.has p = true)
    (hown : ∀ p, holds' i p → fs'.has p = true ∧ (holds i p ∨ fs.has p = false)) :
    Owned holds' fs' := by
  -- nobody else holds a path the party holds now
  have hfresh : ∀ j p, j ≠ i → holds' j p → ¬ holds' i p := by
    intro j p hne hj hi
    have hj' := hothers j hne p hj
    rcases (hown p hi).2 with hold | hfree
    · exact hne (h.apart j i p hj' hold)
    · exact ne_of_has (h.present j p hj') hfree rfl
  constructor
  · intro j p hj
    by_cases hne : j = i
    · subst hne
      exact (hown p hj).1
    · have hj' := hothers j hne p hj
      exact hframe p (h.present j p hj') fun hi => hne (h.apart j i p hj' hi)
  · intro j k p hj hk
    by_cases hji : j = i
    · by_contra hne
      subst hji
      exact hfresh k p (Ne.symm hne) hk hj
    · by_cases hki : k = i
      · subst hki
        exact absurd hk (hfresh j p hji hj)
      · exact h.apart j k p (hothers j hji p hj) (hothers k hki p hk)

end Owned

end Files
end Handfast.Lib
