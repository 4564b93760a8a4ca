/-
  Handfast.Lib.Trace

  Runs of a deterministic machine over a list of inputs, and the rules that
  turn facts about one step into facts about every run.

  `run` is the state after a list of inputs.  `AllSteps P` says that every step
  of the run meets `P`, a predicate on the state before the step and its input:
  it serves both as the legality of a run (what the environment may do) and as
  a property proved of it.  The rules are invariant induction
  (`allSteps_of_invariant`, `allStates_of_invariant`), equivalence step by step
  (`allSteps_congr`, `allStates_iff_allSteps`), transport along a projection
  onto a smaller machine (`allStates_map`, `run_filterMap`) and, for two runs
  side by side, unwinding (`unwinding`).  For endless runs of several parties,
  a measure that every effective step lowers brings a fair run to its end
  (`fair_ends`).
-/
import Mathlib.Data.List.Basic
import Mathlib.Data.List.Forall2
import Mathlib.Order.WellFounded

namespace Handfast.Lib

variable {S S' A : Type}

/-- The state reached from `s` by the inputs of a list, taken from the left. -/
def run (step : S → A → S) (s : S) (as : List A) : S := as.foldl step s

/-- Every step of the run from `s` meets `P` (state before the step, input). -/
def AllSteps (step : S → A → S) (P : S → A → Prop) : S → List A → Prop
  | _, [] => True
  | s, a :: as => P s a ∧ AllSteps step P (step s a) as

/-- Every state of the run from `s`, first and last included, satisfies `Q`. -/
def AllStates (step : S → A → S) (Q : S → Prop) : S → List A → Prop
  | s, [] => Q s
  | s, a :: as => Q s ∧ AllStates step Q (step s a) as

/-- A decidable condition can be checked along a run. -/
instance AllSteps.decidable (step : S → A → S) (P : S → A → Prop) [∀ s a, Decidable (P s a)] :
    (s : S) → (as : List A) → Decidable (AllSteps step P s as)
  | _, [] => .isTrue trivial
  | s, a :: as =>
    have := AllSteps.decidable step P (step s a) as
    inferInstanceAs (Decidable (P s a ∧ AllSteps step P (step s a) as))

section Rules

variable {step : S → A → S} {P Q : S → A → Prop} {Inv : S → Prop} {s : S} {as : List A}

@[simp] theorem run_nil : run step s [] = s := rfl

@[simp] theorem run_cons (a : A) (as : List A) :
    run step s (a :: as) = run step (step s a) as := rfl

theorem run_append (as bs : List A) :
    run step s (as ++ bs) = run step (run step s as) bs := by
  simp [run]

/-- An input of a longer history is its last one or an input of the history before. -/
theorem append_singleton_eq_iff {xs ys zs : List A} {x y : A} :
    xs ++ [x] = ys ++ y :: zs ↔
      (xs = ys ∧ x = y ∧ zs = []) ∨ ∃ zs', zs = zs' ++ [x] ∧ xs = ys ++ y :: zs' := by
  constructor
  · intro h
    rcases List.eq_nil_or_concat zs with rfl | ⟨zs', z, rfl⟩
    · obtain ⟨rfl, hlast⟩ := List.append_inj' h rfl
      exact .inl ⟨rfl, (List.cons.inj hlast).1, rfl⟩
    · rw [List.concat_eq_append, ← List.cons_append, ← List.append_assoc] at h
      obtain ⟨hinit, hlast⟩ := List.append_inj' h rfl
      obtain rfl : x = z := (List.cons.inj hlast).1
      exact .inr ⟨zs', List.concat_eq_append, hinit⟩
  · rintro (⟨rfl, rfl, rfl⟩ | ⟨zs', rfl, rfl⟩)
    · rfl
    · simp

@[simp] theorem allSteps_nil : AllSteps step P s [] ↔ True := Iff.rfl

@[simp] theorem allSteps_cons {a : A} :
    AllSteps step P s (a :: as) ↔ P s a ∧ AllSteps step P (step s a) as := Iff.rfl

theorem allSteps_append {bs : List A} :
    AllSteps step P s (as ++ bs) ↔ AllSteps step P s as ∧ AllSteps step P (run step s as) bs := by
  induction as generalizing s with
  | nil => simp [run]
  | cons a as ih =>
    rw [List.cons_append, allSteps_cons, allSteps_cons, ih, run_cons, and_assoc]

/-- A condition on the inputs alone. -/
theorem allSteps_of_forall_mem {p : A → Prop} (h : ∀ a ∈ as, p a) :
    AllSteps step (fun _ a => p a) s as := by
  induction as generalizing s with
  | nil => trivial
  | cons a as ih =>
    exact ⟨h a List.mem_cons_self, ih fun b hb => h b (List.mem_cons_of_mem a hb)⟩

theorem AllSteps.and (hp : AllSteps step P s as)
    (hq : AllSteps step Q s as) : AllSteps step (fun s a => P s a ∧ Q s a) s as := by
  induction as generalizing s with
  | nil => trivial
  | cons a as ih => exact ⟨⟨hp.1, hq.1⟩, ih hp.2 hq.2⟩

/-- **Step rule.** Under an invariant, a property of every single step is a
    property of every step of a run. -/
theorem allSteps_of_invariant (hinit : Inv s) (hstep : ∀ s a, Inv s → P s a → Inv (step s a))
    (hgood : ∀ s a, Inv s → P s a → Q s a) (hp : AllSteps step P s as) : AllSteps step Q s as := by
  induction as generalizing s with
  | nil => trivial
  | cons a as ih =>
    exact ⟨hgood s a hinit hp.1, ih (hstep s a hinit hp.1) hp.2⟩

/-- **Equivalence rule.** Step properties that agree on each single step under an
    invariant agree on runs, if the steps that have them keep the invariant. -/
theorem allSteps_congr (I : S → Prop) (hinit : I s) (hstep : ∀ s a, I s → Q s a → I (step s a))
    (h : ∀ s a, I s → (P s a ↔ Q s a)) :
    AllSteps step P s as ↔ AllSteps step Q s as := by
  induction as generalizing s with
  | nil => exact Iff.rfl
  | cons a as ih =>
    constructor
    · rintro ⟨ha, hrest⟩
      have hq := (h s a hinit).mp ha
      exact ⟨hq, (ih (hstep s a hinit hq)).mp hrest⟩
    · rintro ⟨hq, hrest⟩
      exact ⟨(h s a hinit).mpr hq, (ih (hstep s a hinit hq)).mpr hrest⟩

/-- **State rule.** An invariant holds in every state of the run. -/
theorem allStates_of_invariant (hinit : Inv s) (hstep : ∀ s a, Inv s → P s a → Inv (step s a))
    (hp : AllSteps step P s as) : AllStates step Inv s as := by
  induction as generalizing s with
  | nil => exact hinit
  | cons a as ih => exact ⟨hinit, ih (hstep s a hinit hp.1) hp.2⟩

/-- The state rule where nothing is asked of the steps. -/
theorem allStates_of_preserved (hinit : Inv s) (hstep : ∀ s a, Inv s → Inv (step s a)) :
    AllStates step Inv s as :=
  allStates_of_invariant (P := fun _ _ => True) hinit (fun s a h _ => hstep s a h)
    (allSteps_of_forall_mem fun _ _ => trivial)

theorem AllStates.head {Q : S → Prop} (h : AllStates step Q s as) : Q s := by
  cases as with
  | nil => exact h
  | cons a as => exact h.1

theorem AllStates.last {Q : S → Prop} (h : AllStates step Q s as) : Q (run step s as) := by
  induction as generalizing s with
  | nil => exact h
  | cons a as ih => exact ih h.2

theorem AllStates.allSteps {Q : S → Prop} (h : AllStates step Q s as)
    (hp : ∀ s a, Q s → P s a) : AllSteps step P s as := by
  induction as generalizing s with
  | nil => trivial
  | cons a as ih => exact ⟨hp s a h.1, ih h.2⟩

/-- **Safety rule.** If a good state stays good in exactly the steps that meet
    `P`, then all states of a run are good exactly if all its steps meet `P`. -/
theorem allStates_iff_allSteps (I : S → Prop) {Q : S → Prop} (hinit : I s) (hgood : Q s)
    (hstep : ∀ s a, I s → I (step s a)) (h : ∀ s a, I s → Q s → (Q (step s a) ↔ P s a)) :
    AllStates step Q s as ↔ AllSteps step P s as := by
  induction as generalizing s with
  | nil => exact iff_of_true hgood trivial
  | cons a as ih =>
    constructor
    · rintro ⟨-, hrest⟩
      exact ⟨(h s a hinit hgood).mp hrest.head,
        (ih (hstep s a hinit) hrest.head).mp hrest⟩
    · rintro ⟨ha, hrest⟩
      have hnext := (h s a hinit hgood).mpr ha
      exact ⟨hgood, (ih (hstep s a hinit) hnext).mpr hrest⟩

theorem AllStates.mono {Q R : S → Prop} (h : ∀ s, Q s → R s)
    (hq : AllStates step Q s as) : AllStates step R s as := by
  induction as generalizing s with
  | nil => exact h s hq
  | cons a as ih => exact ⟨h s hq.1, ih hq.2⟩

end Rules

section Projection

variable {step : S → A → S} {step' : S' → A → S'} {f : S → S'}

/-- States of a projected machine are the projections of the run's states. -/
theorem allStates_map {Q : S' → Prop} (h : ∀ s a, f (step s a) = step' (f s) a) (s : S)
    (as : List A) :
    AllStates step (fun s => Q (f s)) s as ↔ AllStates step' Q (f s) as := by
  induction as generalizing s with
  | nil => exact Iff.rfl
  | cons a as ih => exact and_congr Iff.rfl ((ih (step s a)).trans (by rw [h]))

/-- A part of the state that changes with some inputs only, and then as `read`
    says, is a run of `read` over those. -/
theorem run_filterMap {B V : Type} (view : S → V) (read : V → B → V) (relevant : A → Option B)
    {as : List A}
    (h : ∀ s, ∀ a ∈ as, view (step s a) = (relevant a).elim (view s) (read (view s))) (s : S) :
    view (run step s as) = run read (view s) (as.filterMap relevant) := by
  induction as generalizing s with
  | nil => rfl
  | cons a as ih =>
    have hrest := ih (fun s a' ha' => h s a' (List.mem_cons_of_mem a ha')) (step s a)
    rw [run_cons, hrest, h s a List.mem_cons_self]
    cases hrel : relevant a with
    | none => rw [List.filterMap_cons_none hrel]; rfl
    | some b => rw [List.filterMap_cons_some hrel]; rfl

end Projection

section Outputs

variable {O : Type} {step : S → A → S} {out : S → A → List O} {s t : S}

/-- What the run from `s` puts out, step after step. -/
def outputs (step : S → A → S) (out : S → A → List O) : S → List A → List O
  | _, [] => []
  | s, a :: as => out s a ++ outputs step out (step s a) as

theorem outputs_append (as bs : List A) :
    outputs step out s (as ++ bs) =
      outputs step out s as ++ outputs step out (run step s as) bs := by
  induction as generalizing s with
  | nil => rfl
  | cons a as ih => simp [outputs, ih]

/-- **Simulation.** If a view of the state moves as an abstract machine does, which puts
    out the same, then so does a whole run. -/
theorem run_simulates {B V : Type} {read : V → B → V} {tell : V → B → List O} (view : S → V)
    (input : A → B) (I : S → Prop) (hinit : I s) (hkeeps : ∀ s a, I s → I (step s a))
    (hstep : ∀ s a, I s → view (step s a) = read (view s) (input a))
    (hout : ∀ s a, I s → out s a = tell (view s) (input a)) (as : List A) :
    view (run step s as) = run read (view s) (as.map input) ∧
      outputs step out s as = outputs read tell (view s) (as.map input) := by
  induction as generalizing s with
  | nil => exact ⟨rfl, rfl⟩
  | cons a as ih =>
    obtain ⟨hview, houts⟩ := ih (hkeeps s a hinit)
    rw [hstep s a hinit] at hview houts
    exact ⟨hview, congrArg₂ (· ++ ·) (hout s a hinit) houts⟩

/-- **Conservation.** If each step accounts for what it holds and takes in by what it gives
    out and holds then, so does a whole run. -/
theorem outputs_conserved {hold : S → List O} {takes : S → A → List O}
    (h : ∀ s a, (hold s ++ takes s a).Perm (out s a ++ hold (step s a))) (as : List A) :
    (hold s ++ outputs step takes s as).Perm (outputs step out s as ++ hold (run step s as)) := by
  induction as generalizing s with
  | nil => simp [outputs]
  | cons a as ih =>
    have hhere : ((hold s ++ takes s a) ++ outputs step takes (step s a) as).Perm
        (out s a ++ (hold (step s a) ++ outputs step takes (step s a) as)) := by
      rw [← List.append_assoc]
      exact (h s a).append_right _
    have hlater := hhere.trans (ih.append_left _)
    simpa [outputs] using hlater

variable {R : S → S → Prop} {E : A → A → Prop} {low : A → Bool} {bs : List A}

/-- Inputs nobody may see keep the relation and put nothing out. -/
theorem run_unseen (hright : ∀ s t a, low a = false → R s t → R s (step t a))
    (hquiet : ∀ s a, low a = false → out s a = []) (hbs : ∀ b ∈ bs, low b = false) (h : R s t) :
    R s (run step t bs) ∧ outputs step out t bs = [] := by
  induction bs generalizing t with
  | nil => exact ⟨h, rfl⟩
  | cons b bs ih =>
    have hb := hbs b List.mem_cons_self
    obtain ⟨hrun, hout⟩ := ih (fun c hc => hbs c (List.mem_cons_of_mem b hc)) (hright s t b hb h)
    exact ⟨hrun, by rw [outputs, hquiet t b hb, hout]; rfl⟩

/-- **Unwinding rule.** If inputs that may not be seen keep a relation on either
    side and put nothing out, and matching inputs keep it and put out the same,
    then runs whose visible inputs match end related with the same output. -/
theorem unwinding (hleft : ∀ s t a, low a = false → R s t → R (step s a) t)
    (hright : ∀ s t a, low a = false → R s t → R s (step t a))
    (hquiet : ∀ s a, low a = false → out s a = [])
    (hsync : ∀ s t a b, low a = true → E a b → R s t → R (step s a) (step t b) ∧ out s a = out t b)
    {as : List A} (h : R s t) (hab : List.Forall₂ E (as.filter low) (bs.filter low)) :
    R (run step s as) (run step t bs) ∧ outputs step out s as = outputs step out t bs := by
  induction as generalizing s t bs with
  | nil =>
    have hnone : bs.filter low = [] := List.forall₂_nil_left_iff.mp hab
    obtain ⟨hrun, hout⟩ := run_unseen hright hquiet
      (fun b hb => by simpa using List.filter_eq_nil_iff.mp hnone b hb) h
    exact ⟨hrun, hout.symm⟩
  | cons a as ih =>
    cases ha : low a with
    | false =>
      rw [List.filter_cons_of_neg (by simp [ha])] at hab
      rw [run_cons, outputs, hquiet s a ha]
      exact ih (hleft s t a ha h) hab
    | true =>
      -- the matching input of the other run comes after a stretch of unseen ones
      rw [List.filter_cons_of_pos ha] at hab
      obtain ⟨b, rest, hEab, hrest, hbs⟩ := List.forall₂_cons_left_iff.mp hab
      obtain ⟨pre, post, rfl, hpre, -, rfl⟩ := List.filter_eq_cons_iff.mp hbs
      obtain ⟨hstretch, hnone⟩ := run_unseen hright hquiet
        (fun c hc => by simpa using hpre c hc) h
      obtain ⟨hnext, hout⟩ := hsync s _ a b ha hEab hstretch
      obtain ⟨hrun, houts⟩ := ih hnext hrest
      rw [run_append, outputs_append, hnone]
      exact ⟨hrun, by rw [List.nil_append, outputs, outputs, hout, houts]⟩

end Outputs

section Fair

variable {P : Type} {step : S → A → S} {who : A → P} {Inv Done : S → Prop} {s : S}

/-- The state after the first `k` inputs of an endless schedule. -/
def after (step : S → A → S) (s : S) (schedule : Nat → A) (k : Nat) : S :=
  run step s ((List.range k).map schedule)

/-- Every party has a turn again and again. -/
def Fair (who : A → P) (schedule : Nat → A) : Prop := ∀ p k, ∃ j, k ≤ j ∧ who (schedule j) = p

variable {schedule : Nat → A} {turn : A → Option P}

theorem after_succ (k : Nat) :
    after step s schedule (k + 1) = step (after step s schedule k) (schedule k) := by
  simp [after, List.range_succ, run_append]

theorem after_stable {j k : Nat} (hstep : ∀ s a, Inv s → Inv (step s a)) (hkj : k ≤ j)
    (hk : Inv (after step s schedule k)) : Inv (after step s schedule j) := by
  induction hkj with
  | refl => exact hk
  | step _ ih =>
    rw [after_succ]
    exact hstep _ _ ih

theorem after_invariant (hinit : Inv s) (hstep : ∀ s a, Inv s → Inv (step s a)) (k : Nat) :
    Inv (after step s schedule k) :=
  after_stable hstep (Nat.zero_le k) hinit

/-- The parties of a system whose other inputs come when they come: every party has a
    turn again and again. -/
def FairTo (who : A → Option P) (schedule : Nat → A) : Prop :=
  ∀ p k, ∃ j, k ≤ j ∧ who (schedule j) = some p

def startingWith (inputs : List A) (schedule : Nat → A) (k : Nat) : A :=
  inputs[k]?.getD (schedule k)

theorem FairTo.startingWith (h : FairTo turn schedule) (inputs : List A) :
    FairTo turn (startingWith inputs schedule) := by
  intro p k
  obtain ⟨j, hkj, hj⟩ := h p (max k inputs.length)
  refine ⟨j, (le_max_left ..).trans hkj, ?_⟩
  rw [Lib.startingWith, List.getElem?_eq_none ((le_max_right ..).trans hkj)]
  exact hj

theorem after_startingWith (inputs : List A) :
    after step s (startingWith inputs schedule) inputs.length = run step s inputs := by
  have hinputs : (List.range inputs.length).map (startingWith inputs schedule) = inputs := by
    refine List.ext_getElem (by simp) fun k hk hk' => ?_
    simp [startingWith, hk']
  rw [after, hinputs]

/-- **Fair runs end.** If a step lowers a measure or leaves it and whoever is ready, the turn of
    a party that is ready lowers it, and in a state that is not final some party is ready, then a
    fair run reaches a final state. -/
theorem fairTo_ends {M : Type} [Preorder M] [WellFoundedLT M] (measure : S → M)
    (Ready : S → P → Prop) (I D : S → Prop) (hinit : I s) (hstep : ∀ s a, I s → I (step s a))
    (hmove : ∀ s a, I s → measure (step s a) < measure s ∨
      (measure (step s a) = measure s ∧ ∀ p, Ready s p → Ready (step s a) p))
    (hready : ∀ s a p, I s → turn a = some p → Ready s p → measure (step s a) < measure s)
    (hlive : ∀ s, I s → ¬ D s → ∃ p, Ready s p)
    (hfair : FairTo turn schedule) : ∃ k, D (after step s schedule k) := by
  -- until the turn of party `p` comes the measure falls or `p` stays ready
  have hfalls : ∀ d k p, turn (schedule (k + d)) = some p →
      Ready (after step s schedule k) p →
      ∃ j, measure (after step s schedule j) < measure (after step s schedule k) := by
    intro d
    induction d with
    | zero =>
      intro k p hp hr
      exact ⟨k + 1, by rw [after_succ]; exact hready _ _ p (after_invariant hinit hstep k) hp hr⟩
    | succ d ih =>
      intro k p hp hr
      rcases hmove _ (schedule k) (after_invariant hinit hstep k) with hless | ⟨hsame, hkeeps⟩
      · exact ⟨k + 1, by rwa [after_succ]⟩
      · have hr' : Ready (after step s schedule (k + 1)) p := by
          rw [after_succ]
          exact hkeeps p hr
        obtain ⟨j, hj⟩ := ih (k + 1) p (by rwa [Nat.add_right_comm]) hr'
        exact ⟨j, by rwa [after_succ, hsame] at hj⟩
  -- so some state has a least measure, and that one is final
  let k := Function.argmin fun k => measure (after step s schedule k)
  have hleast := Function.not_lt_argmin fun k => measure (after step s schedule k)
  refine ⟨k, ?_⟩
  by_contra hnot
  obtain ⟨p, hr⟩ := hlive _ (after_invariant hinit hstep k) hnot
  obtain ⟨j, hkj, hp⟩ := hfair p k
  obtain ⟨i, hi⟩ := hfalls (j - k) k p (by rwa [Nat.add_sub_cancel' hkj]) hr
  exact hleast i hi

/-- The rule for steps that do nothing or lower the measure. -/
theorem fair_ends (measure : S → Nat) (hinit : Inv s) (hstep : ∀ s a, Inv s → Inv (step s a))
    (hmove : ∀ s a, Inv s → step s a = s ∨ measure (step s a) < measure s)
    (hlive : ∀ s, Inv s → ¬ Done s → ∃ p, ∀ a, who a = p → measure (step s a) < measure s)
    (hfair : Fair who schedule) : ∃ k, Done (after step s schedule k) := by
  have hturns : FairTo (fun a => some (who a)) schedule := by
    intro p k
    obtain ⟨j, hkj, hj⟩ := hfair p k
    exact ⟨j, hkj, congrArg some hj⟩
  refine fairTo_ends measure (fun s p => ∀ a, who a = p → measure (step s a) < measure s)
    Inv Done hinit hstep (fun s a hs => ?_) (fun s a p _ hp hr => hr a (Option.some.inj hp)) hlive
    hturns
  rcases hmove s a hs with hsame | hless
  · exact .inr ⟨by rw [hsame], fun p hr => by rwa [hsame]⟩
  · exact .inl hless

end Fair

end Handfast.Lib
