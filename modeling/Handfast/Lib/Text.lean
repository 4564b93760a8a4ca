/-
  Handfast.Lib.Text

  Searching and replacing in a text: the first and the last place of a pattern
  (`find`, `rfind`) and replacing every place from the left (`replace`).

  That a pattern occurs is `pat <:+: text`.  `FirstAt pat a` says that a pattern
  behind the text `a` is the first one, whatever follows; the three functions
  have one equation each for a text put together that way.  A character the
  pattern does not have separates what is in front of it from what is behind
  (`infix_append_cons`), so an occurrence in a long text is found piece by piece.
-/
import Mathlib.Data.List.Infix

namespace Handfast.Lib.Text

variable {α : Type} [DecidableEq α]

def find (pat : List α) : List α → Option Nat
  | [] => if pat = [] then some 0 else none
  | x :: xs => if pat <+: x :: xs then some 0 else (find pat xs).map (· + 1)

def rfind (pat : List α) : List α → Option Nat
  | [] => if pat = [] then some 0 else none
  | x :: xs =>
    match rfind pat xs with
    | some n => some (n + 1)
    | none => if pat <+: x :: xs then some 0 else none

/-- Replace occurrences from the left, after skipping some characters. -/
def replaceFrom (pat new : List α) : Nat → List α → List α
  | _, [] => []
  | skip + 1, _ :: xs => replaceFrom pat new skip xs
  | 0, x :: xs =>
    if pat <+: x :: xs then new ++ replaceFrom pat new (pat.length - 1) xs
    else x :: replaceFrom pat new 0 xs

/-- Replace every occurrence of a pattern that is not empty. -/
def replace (pat new text : List α) : List α := replaceFrom pat new 0 text

def unlines (sep : α) (lines : List (List α)) : List α := lines.flatMap (· ++ [sep])

/-- A pattern right behind `a` is the first occurrence of a text. -/
def FirstAt (pat a : List α) : Prop := ¬ pat <:+: a ++ pat.dropLast

/-- The pattern occurs, and at one place only. -/
def Once (pat text : List α) : Prop :=
  ∃ a b, text = a ++ (pat ++ b) ∧ ∀ a' b', text = a' ++ (pat ++ b') → a' = a

omit [DecidableEq α]

variable {pat new text a b : List α} {c x : α}

/-! ## Occurrences -/

/-- A character outside the pattern is a border no occurrence crosses. -/
theorem infix_append_cons (hc : c ∉ pat) :
    pat <:+: a ++ c :: b ↔ pat <:+: a ∨ pat <:+: b := by
  constructor
  · rintro ⟨s, t, h⟩
    rw [List.append_assoc] at h
    rcases List.append_eq_append_iff.mp h with ⟨mid, rfl, hmid⟩ | ⟨mid, rfl, hmid⟩
    · -- the occurrence begins in `a`
      rcases List.append_eq_append_iff.mp hmid with ⟨rest, rfl, -⟩ | ⟨rest, rfl, hrest⟩
      · exact .inl ⟨s, rest, by simp⟩
      · cases rest with
        | nil => exact .inl ⟨s, [], by simp⟩
        | cons y rest =>
          obtain ⟨rfl, -⟩ := List.cons.inj hrest
          simp at hc
    · -- the occurrence begins at the border or behind it
      cases mid with
      | nil =>
        cases pat with
        | nil => exact .inl (List.nil_infix)
        | cons y pat =>
          obtain ⟨rfl, -⟩ := List.cons.inj hmid
          simp at hc
      | cons y mid =>
        obtain ⟨rfl, hb⟩ := List.cons.inj hmid
        exact .inr ⟨mid, t, (List.append_assoc mid pat t).trans hb.symm⟩
  · rintro (h | h)
    · exact h.trans (List.infix_append' [] a (c :: b))
    · exact h.trans ⟨a ++ [c], [], by simp⟩

theorem infix_of_cons (hc : pat.head? ≠ some c) (h : pat <:+: c :: b) : pat <:+: b := by
  rcases List.infix_cons_iff.mp h with hpre | hrest
  · cases pat with
    | nil => exact List.nil_infix
    | cons y pat => exact absurd (congrArg some (List.cons_prefix_cons.mp hpre).1) hc
  · exact hrest

/-- An occurrence without line ends is in one line. -/
theorem infix_unlines {sep : α} (hsep : sep ∉ pat) (lines : List (List α)) :
    pat <:+: unlines sep lines ++ b ↔ (∃ line ∈ lines, pat <:+: line) ∨ pat <:+: b := by
  induction lines with
  | nil => simp [unlines]
  | cons line lines ih =>
    have hcons : unlines sep (line :: lines) ++ b = line ++ sep :: (unlines sep lines ++ b) := by
      simp [unlines]
    rw [hcons, infix_append_cons hsep, ih, List.exists_mem_cons_iff, or_assoc]

theorem cons_dropLast_prefix : x :: (a ++ pat.dropLast) <+: x :: (a ++ (pat ++ b)) := by
  rw [List.cons_prefix_cons]
  refine ⟨rfl, (List.prefix_append_right_inj a).mpr ?_⟩
  exact (List.dropLast_prefix pat).trans (List.prefix_append pat b)

/-- An occurrence that begins in front of `a`'s end is in `a` and the pattern's beginning. -/
theorem prefix_of_first (h : pat <+: x :: (a ++ (pat ++ b))) :
    pat <+: x :: (a ++ pat.dropLast) := by
  refine List.prefix_of_prefix_length_le h cons_dropLast_prefix ?_
  simp only [List.length_cons, List.length_append, List.length_dropLast]
  omega

theorem FirstAt.not_prefix (h : FirstAt pat (x :: a)) : ¬ pat <+: x :: (a ++ (pat ++ b)) :=
  fun hpre => h (prefix_of_first hpre).isInfix

theorem FirstAt.tail (h : FirstAt pat (x :: a)) : FirstAt pat a :=
  fun hinfix => h (List.infix_cons hinfix)

/-- A pattern that occurs has a first occurrence. -/
theorem exists_first (hpat : pat ≠ []) (h : pat <:+: text) :
    ∃ a b, text = a ++ (pat ++ b) ∧ FirstAt pat a := by
  induction text with
  | nil => exact absurd (List.eq_nil_of_infix_nil h) hpat
  | cons x xs ih =>
    by_cases hpre : pat <+: x :: xs
    · obtain ⟨b, hb⟩ := hpre
      refine ⟨[], b, hb.symm, fun hinfix => ?_⟩
      -- a pattern does not fit into its own beginning
      have hlen := hinfix.length_le
      have hpos := List.length_pos_iff.mpr hpat
      rw [List.nil_append, List.length_dropLast] at hlen
      omega
    · obtain ⟨a, b, rfl, hfirst⟩ := ih ((List.infix_cons_iff.mp h).resolve_left hpre)
      refine ⟨x :: a, b, rfl, fun hinfix => ?_⟩
      rcases List.infix_cons_iff.mp hinfix with hpre' | hrest
      · exact hpre (hpre'.trans cons_dropLast_prefix)
      · exact hfirst hrest

/-- A pattern whose first character does not come again in it occurs once exactly
    if it does not occur behind its first occurrence. -/
theorem once_iff {rest : List α} (hc : c ∉ rest) (hfirst : FirstAt (c :: rest) a) :
    Once (c :: rest) (a ++ (c :: rest ++ b)) ↔ ¬ c :: rest <:+: b := by
  constructor
  · -- two places, one behind the other
    rintro ⟨a₀, b₀, -, hunique⟩ ⟨s, t, rfl⟩
    have hone := hunique a _ rfl
    have htwo := hunique (a ++ (c :: rest ++ s)) t (by simp)
    rw [← hone] at htwo
    simp at htwo
  · intro hbehind
    refine ⟨a, b, rfl, fun a' b' h => ?_⟩
    rcases List.append_eq_append_iff.mp h with ⟨mid, rfl, hmid⟩ | ⟨mid, rfl, hmid⟩
    · -- a later place: inside this occurrence `c` does not come again, behind it nothing does
      cases mid with
      | nil => rw [List.append_nil]
      | cons y mid =>
        obtain ⟨-, hmid⟩ := List.cons.inj hmid
        rcases List.append_eq_append_iff.mp hmid with ⟨gap, rfl, rfl⟩ | ⟨gap, rfl, hgap⟩
        · exact absurd ⟨gap, b', List.append_assoc ..⟩ hbehind
        · cases gap with
          | nil => exact absurd ⟨[], b', hgap⟩ hbehind
          | cons z gap =>
            obtain ⟨rfl, -⟩ := List.cons.inj hgap
            simp at hc
    · -- an earlier place would come before the first
      cases mid with
      | nil => rw [List.append_nil]
      | cons y mid =>
        have hpre : c :: rest <+: y :: (mid ++ (c :: rest ++ b)) := ⟨b', hmid⟩
        refine absurd ?_ hfirst
        rw [List.append_assoc]
        exact (prefix_of_first hpre).isInfix.trans (List.suffix_append a' _).isInfix

/-! ## Searching -/

variable [DecidableEq α]

theorem find_append (hpat : pat ≠ []) (h : FirstAt pat a) :
    find pat (a ++ (pat ++ b)) = some a.length := by
  induction a with
  | nil =>
    obtain ⟨y, rest, rfl⟩ := List.exists_cons_of_ne_nil hpat
    exact if_pos (List.prefix_append (y :: rest) b)
  | cons x a ih =>
    rw [List.cons_append, find, if_neg h.not_prefix, ih h.tail]
    rfl

theorem rfind_eq_none (hpat : pat ≠ []) (h : ¬ pat <:+: text) : rfind pat text = none := by
  induction text with
  | nil => exact if_neg hpat
  | cons x xs ih =>
    rw [List.infix_cons_iff, not_or] at h
    rw [rfind, ih h.2]
    exact if_neg h.1

/-- The last occurrence: the pattern does not come again from its second character on. -/
theorem rfind_append (hpat : pat ≠ []) (h : ¬ pat <:+: pat.tail ++ b) :
    rfind pat (a ++ (pat ++ b)) = some a.length := by
  induction a with
  | nil =>
    obtain ⟨y, rest, rfl⟩ := List.exists_cons_of_ne_nil hpat
    have hrest : rfind (y :: rest) (rest ++ b) = none := rfind_eq_none hpat h
    rw [List.nil_append, List.cons_append, rfind, hrest]
    exact if_pos (List.prefix_append (y :: rest) b)
  | cons x a ih =>
    rw [List.cons_append, rfind, ih]
    rfl

/-! ## Replacing -/

theorem replaceFrom_eq (skip : Nat) :
    replaceFrom pat new skip text = replace pat new (text.drop skip) := by
  induction skip generalizing text with
  | zero => rfl
  | succ skip ih =>
    cases text with
    | nil => rfl
    | cons x xs => exact ih

theorem replace_append (hpat : pat ≠ []) (h : FirstAt pat a) :
    replace pat new (a ++ (pat ++ b)) = a ++ (new ++ replace pat new b) := by
  induction a with
  | nil =>
    obtain ⟨y, rest, rfl⟩ := List.exists_cons_of_ne_nil hpat
    have hpre : y :: rest <+: y :: (rest ++ b) := List.prefix_append (y :: rest) b
    rw [List.nil_append, List.nil_append, replace, List.cons_append, replaceFrom, if_pos hpre,
      replaceFrom_eq]
    simp
  | cons x a ih =>
    rw [List.cons_append, replace, replaceFrom, if_neg h.not_prefix]
    exact congrArg (x :: ·) (ih h.tail)

theorem replace_eq_self (h : ¬ pat <:+: text) : replace pat new text = text := by
  induction text with
  | nil => rfl
  | cons x xs ih =>
    rw [List.infix_cons_iff, not_or] at h
    rw [replace, replaceFrom, if_neg h.1]
    exact congrArg (x :: ·) (ih h.2)

/-- Replacing by a text that is not shorter makes nothing shorter. -/
theorem length_le_replace (hpat : pat ≠ []) (h : pat.length ≤ new.length) (text : List α) :
    text.length ≤ (replace pat new text).length := by
  have hpos := List.length_pos_iff.mpr hpat
  -- with the characters still to be skipped added, for the induction
  suffices hskip : ∀ skip, text.length ≤ (replaceFrom pat new skip text).length + skip from hskip 0
  induction text with
  | nil => exact fun skip => Nat.zero_le _
  | cons x xs ih =>
    intro skip
    cases skip with
    | succ skip =>
      have hxs := ih skip
      rw [replaceFrom, List.length_cons]
      omega
    | zero =>
      rw [replaceFrom]
      split
      · have hxs := ih (pat.length - 1)
        rw [List.length_append, List.length_cons]
        omega
      · have hxs := ih 0
        rw [List.length_cons, List.length_cons]
        omega

/-- One occurrence adds at least the difference. -/
theorem length_add_le_replace (hpat : pat ≠ []) (hle : pat.length ≤ new.length)
    (h : pat <:+: text) :
    text.length + new.length ≤ (replace pat new text).length + pat.length := by
  obtain ⟨a, b, rfl, hfirst⟩ := exists_first hpat h
  have hrest := length_le_replace hpat hle b
  rw [replace_append hpat hfirst]
  simp only [List.length_append]
  omega

end Handfast.Lib.Text
