/-
  Handfast.Lib.Rows

  Lists of rows with a key: an ordered listing in which a program looks up,
  changes, replaces or removes the row of a key.  Keys may repeat; a lookup
  finds the first row, as a linear search does.

  One equation for each operation says what a lookup finds afterwards
  (`find_modify`, `find_upsert`, `find_ensure`, `find_filter`), so clients never
  look inside the list.
-/
import Mathlib.Data.List.Nodup

namespace Handfast.Lib.Rows

variable {α κ : Type} [DecidableEq κ] (key : α → κ)

def find (k : κ) (rows : List α) : Option α := rows.find? fun row => key row = k

/-- Change the first row with this key, if there is one. -/
def modify (k : κ) (f : α → α) : List α → List α
  | [] => []
  | row :: rows => if key row = k then f row :: rows else row :: modify k f rows

/-- Replace the first row with the key of `new`, or append `new`. -/
def upsert (new : α) : List α → List α
  | [] => [new]
  | row :: rows => if key row = key new then new :: rows else row :: upsert new rows

variable {key} {k k' : κ} {row new : α} {rows : List α} {f : α → α}

@[simp] theorem find_nil : find key k [] = none := rfl

theorem find_cons_self (h : key row = k) : find key k (row :: rows) = some row := by
  simp [find, h]

theorem find_cons_of_ne (h : key row ≠ k) : find key k (row :: rows) = find key k rows := by
  simp [find, h]

theorem key_of_find (h : find key k rows = some row) : key row = k := by
  simpa using List.find?_some h

theorem find_eq_none (h : k ∉ rows.map key) : find key k rows = none := by
  rw [find, List.find?_eq_none]
  intro row hrow hkey
  exact h (List.mem_map.mpr ⟨row, hrow, by simpa using hkey⟩)

/-- With distinct keys, every row is the one a lookup finds. -/
theorem find_of_mem (hnodup : (rows.map key).Nodup) (hrow : row ∈ rows) :
    find key (key row) rows = some row := by
  induction rows with
  | nil => cases hrow
  | cons head rest ih =>
    rw [List.map_cons, List.nodup_cons] at hnodup
    rcases List.mem_cons.mp hrow with rfl | hrest
    · exact find_cons_self rfl
    · have hne : key head ≠ key row := fun he =>
        hnodup.1 (he ▸ List.mem_map_of_mem hrest)
      rw [find_cons_of_ne hne]
      exact ih hnodup.2 hrest

@[simp] theorem length_modify : (modify key k f rows).length = rows.length := by
  induction rows with
  | nil => rfl
  | cons row rows ih =>
    rw [modify]
    split
    · rfl
    · rw [List.length_cons, List.length_cons, ih]

/-- `modify` keeps every key in its place. -/
theorem map_modify (hf : ∀ row, key (f row) = key row) :
    (modify key k f rows).map key = rows.map key := by
  induction rows with
  | nil => rfl
  | cons row rows ih =>
    rw [modify]
    split
    · rw [List.map_cons, List.map_cons, hf]
    · rw [List.map_cons, List.map_cons, ih]

/-- `upsert` adds a new key at the end. -/
theorem map_upsert_eq : (upsert key new rows).map key =
    if key new ∈ rows.map key then rows.map key else rows.map key ++ [key new] := by
  induction rows with
  | nil => rfl
  | cons row rows ih =>
    by_cases hrow : key row = key new
    · rw [upsert, if_pos hrow, List.map_cons, List.map_cons, hrow, if_pos List.mem_cons_self]
    · rw [upsert, if_neg hrow, List.map_cons, ih, List.map_cons]
      simp only [List.mem_cons, or_iff_right (Ne.symm hrow)]
      split <;> rfl

/-- `upsert` keeps every key in its place. -/
theorem map_upsert : rows.map key <+: (upsert key new rows).map key := by
  rw [map_upsert_eq]
  split
  · exact ⟨[], List.append_nil _⟩
  · exact ⟨[key new], rfl⟩

theorem nodup_upsert (h : (rows.map key).Nodup) :
    ((upsert key new rows).map key).Nodup := by
  rw [map_upsert_eq]
  split
  · exact h
  · rename_i hnew
    exact h.append (List.nodup_singleton _) (by simpa using hnew)

/-- `modify` touches the row found under `k` only. -/
theorem find_modify (hf : ∀ row, key (f row) = key row) :
    find key k' (modify key k f rows) =
      if k' = k then (find key k' rows).map f else find key k' rows := by
  induction rows with
  | nil => simp [modify]
  | cons row rows ih =>
    by_cases hrow : key row = k
    · rw [modify, if_pos hrow]
      by_cases hk : k' = k
      · have hrow' : key row = k' := hrow.trans hk.symm
        rw [if_pos hk, find_cons_self ((hf row).trans hrow'), find_cons_self hrow']
        rfl
      · have hne : key row ≠ k' := fun he => hk (he.symm.trans hrow)
        rw [if_neg hk, find_cons_of_ne (by rwa [hf]), find_cons_of_ne hne]
    · rw [modify, if_neg hrow]
      by_cases hrow' : key row = k'
      · -- the row looked for stands before the one that changes
        have hk : k' ≠ k := fun he => hrow (hrow'.trans he)
        rw [if_neg hk, find_cons_self hrow', find_cons_self hrow']
      · rw [find_cons_of_ne hrow', find_cons_of_ne hrow', ih]

/-- An upsert is seen under its own key only. -/
theorem find_upsert :
    find key k (upsert key new rows) = if k = key new then some new else find key k rows := by
  induction rows with
  | nil =>
    by_cases hk : k = key new
    · rw [upsert, if_pos hk, find_cons_self hk.symm]
    · rw [upsert, if_neg hk, find_cons_of_ne (Ne.symm hk)]
  | cons row rows ih =>
    by_cases hrow : key row = key new
    · rw [upsert, if_pos hrow]
      by_cases hk : k = key new
      · rw [if_pos hk, find_cons_self hk.symm]
      · have hne : key row ≠ k := fun he => hk (he.symm.trans hrow)
        rw [if_neg hk, find_cons_of_ne (Ne.symm hk), find_cons_of_ne hne]
    · rw [upsert, if_neg hrow]
      by_cases hrow' : key row = k
      · have hk : k ≠ key new := fun he => hrow (hrow'.trans he)
        rw [if_neg hk, find_cons_self hrow', find_cons_self hrow']
      · rw [find_cons_of_ne hrow', find_cons_of_ne hrow', ih]

/-- A row that is missing is appended; the others are found as before. -/
theorem find_ensure (hnew : key new = k) :
    find key k' (if rows.any fun row => key row = k then rows else rows ++ [new]) =
      if k' = k then some ((find key k rows).getD new) else find key k' rows := by
  cases hfind : find key k rows with
  | some row =>
    have hany : (rows.any fun row => key row = k) = true := by
      simpa using ⟨row, List.mem_of_find?_eq_some hfind, key_of_find hfind⟩
    rw [if_pos hany]
    by_cases hk : k' = k
    · rw [if_pos hk, hk, hfind]
      rfl
    · rw [if_neg hk]
  | none =>
    have hnone : ¬ (rows.any fun row => key row = k) = true := by
      simpa [find] using hfind
    rw [if_neg hnone, find, List.find?_append]
    by_cases hk : k' = k
    · subst hk
      rw [if_pos rfl, ← find, hfind]
      simp [hnew]
    · have hne : key new ≠ k' := fun he => hk (he.symm.trans hnew)
      rw [if_neg hk, ← find]
      simp [hne]

theorem find_filter :
    find key k' (rows.filter fun row => key row ≠ k) =
      if k' = k then none else find key k' rows := by
  by_cases hk : k' = k
  · rw [if_pos hk]
    refine find_eq_none fun hmem => ?_
    obtain ⟨row, hrow, hkey⟩ := List.mem_map.mp hmem
    have hne : key row ≠ k := by simpa using (List.mem_filter.mp hrow).2
    exact hne (hkey.trans hk)
  · rw [if_neg hk, find, find, List.find?_filter]
    congr 1
    funext row
    -- a row found under `k'` passes the filter
    by_cases hrow : key row = k'
    · simp [hrow, hk]
    · simp [hrow]

end Handfast.Lib.Rows
