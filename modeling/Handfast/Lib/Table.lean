/-
  Handfast.Lib.Table

  Finite keyed tables: Mathlib's association lists with one value type for all
  keys, behind the three operations of a hash map (`get`, `insert`, `remove`).

  A program that keeps its state in hash maps is modelled with `Table`; the
  iteration order a hash map leaves open is the order of `entries`.  Two
  equations (`get_insert`, `get_remove`) reduce every sequence of updates to a
  comparison of keys, so later proofs never look inside the list.
-/
import Mathlib.Data.List.AList

namespace Handfast.Lib

/-- A finite table from keys `α` to values `β`, with distinct keys. -/
def Table (α β : Type) : Type := AList fun _ : α => β

namespace Table

variable {α β : Type}

def empty : Table α β := (∅ : AList fun _ : α => β)

instance : Inhabited (Table α β) := ⟨empty⟩

def entries (t : Table α β) : List (α × β) :=
  (AList.entries t).map fun e => (e.1, e.2)

variable [DecidableEq α] {t : Table α β} {k : α} {v : β} {kvs : List (α × β)}

/-- The value stored under `k`, if any. -/
def get (t : Table α β) (k : α) : Option β := AList.lookup k t

/-- Store `v` under `k`, replacing an earlier value. -/
def insert (t : Table α β) (k : α) (v : β) : Table α β := AList.insert k v t

/-- Forget the value stored under `k`. -/
def remove (t : Table α β) (k : α) : Table α β := AList.erase k t

/-- Insert the pairs of a list from left to right: a later pair wins. -/
def insertAll (t : Table α β) (kvs : List (α × β)) : Table α β :=
  kvs.foldl (fun t kv => t.insert kv.1 kv.2) t

/-! ## What a lookup returns after an update -/

@[simp] theorem get_empty (k : α) : (empty : Table α β).get k = none := rfl

@[simp] theorem get_insert (t : Table α β) (k k' : α) (v : β) :
    (t.insert k v).get k' = if k' = k then some v else t.get k' := by
  by_cases h : k' = k
  · subst h
    rw [if_pos rfl]
    exact AList.lookup_insert t
  · rw [if_neg h]
    exact AList.lookup_insert_ne h

@[simp] theorem get_remove (t : Table α β) (k k' : α) :
    (t.remove k).get k' = if k' = k then none else t.get k' := by
  by_cases h : k' = k
  · subst h
    rw [if_pos rfl]
    exact AList.lookup_erase k' t
  · rw [if_neg h]
    exact AList.lookup_erase_ne h

theorem get_insert_of_ne {k' : α} (h : k' ≠ k) :
    (t.insert k v).get k' = t.get k' := by
  rw [get_insert, if_neg h]

/-- What is found after an insertion is the new value or was there before. -/
theorem of_get_insert {k' : α} {w : β} (h : (t.insert k v).get k' = some w) :
    k' = k ∧ v = w ∨ k' ≠ k ∧ t.get k' = some w := by
  rw [get_insert] at h
  split at h
  · exact .inl ⟨‹_›, Option.some.inj h⟩
  · exact .inr ⟨‹_›, h⟩

/-- What is found after a removal was there before. -/
theorem of_get_remove {k' : α} {w : β} (h : (t.remove k).get k' = some w) :
    k' ≠ k ∧ t.get k' = some w := by
  rw [get_remove] at h
  split at h
  · cases h
  · exact ⟨‹_›, h⟩

/-- A condition on the value found, if one is found. -/
instance decidableFound {p : β → Prop} [DecidablePred p] (o : Option β) :
    Decidable (∀ v, o = some v → p v) :=
  match o with
  | none => .isTrue (by simp)
  | some v => decidable_of_iff (p v) (by simp)

/-! ## Folding a list of pairs into a table -/

@[simp] theorem insertAll_nil (t : Table α β) : t.insertAll [] = t := rfl

@[simp] theorem insertAll_cons (t : Table α β) (kv : α × β) (kvs : List (α × β)) :
    t.insertAll (kv :: kvs) = (t.insert kv.1 kv.2).insertAll kvs := rfl

/-- The last pair with a key decides what is found under it. -/
theorem get_insertAll (t : Table α β) (kvs : List (α × β)) (k : α) :
    (t.insertAll kvs).get k = (kvs.reverse.lookup k).or (t.get k) := by
  induction kvs generalizing t with
  | nil => rfl
  | cons kv rest ih =>
    obtain ⟨k', v⟩ := kv
    rw [insertAll_cons, ih, get_insert, List.reverse_cons, List.lookup_append, Option.or_assoc]
    congr 1
    by_cases hk : k = k'
    · simp [hk]
    · simp [hk, List.lookup_cons, beq_false_of_ne hk]

/-- A key that occurs in none of the pairs keeps its value. -/
theorem get_insertAll_of_not_mem
    (h : ∀ kv ∈ kvs, kv.1 ≠ k) : (t.insertAll kvs).get k = t.get k := by
  induction kvs generalizing t with
  | nil => rfl
  | cons kv rest ih =>
    rw [insertAll_cons, ih (fun e he => h e (List.mem_cons_of_mem _ he))]
    exact get_insert_of_ne (Ne.symm (h kv List.mem_cons_self))

/-- With distinct keys, each pair of the list is found under its key. -/
theorem get_insertAll_of_mem (hnd : (kvs.map Prod.fst).Nodup) (hmem : (k, v) ∈ kvs) :
    (t.insertAll kvs).get k = some v := by
  induction kvs generalizing t with
  | nil => exact absurd hmem (by simp)
  | cons kv rest ih =>
    obtain ⟨hhead, htail⟩ := List.nodup_cons.mp hnd
    rw [insertAll_cons]
    rcases List.mem_cons.mp hmem with rfl | hrest
    · rw [get_insertAll_of_not_mem]
      · simp
      · intro e he hk
        exact hhead (List.mem_map.mpr ⟨e, he, hk⟩)
    · exact ih htail hrest

/-! ## Entries -/

theorem mem_entries_iff :
    (k, v) ∈ t.entries ↔ t.get k = some v := by
  constructor
  · intro h
    obtain ⟨e, he, heq⟩ := List.mem_map.mp h
    obtain ⟨rfl, rfl⟩ := Prod.mk.inj heq
    exact AList.mem_lookup_iff.mpr he
  · intro h
    exact List.mem_map.mpr ⟨⟨k, v⟩, AList.mem_lookup_iff.mp h, rfl⟩

omit [DecidableEq α] in
theorem nodup_keys_entries (t : Table α β) : (t.entries.map Prod.fst).Nodup := by
  have h : t.entries.map Prod.fst = AList.keys t := by
    simp [entries, AList.keys, List.keys, Function.comp_def]
  rw [h]
  exact AList.keys_nodup t

end Table
end Handfast.Lib
