/-
  Handfast.Lib.Stream

  Reading items from a byte stream that arrives in pieces.

  A stream is the list of its reads, each of at least one byte; how it is cut
  into reads is up to the transport.  A `Decoder` looks at the bytes gathered
  so far and cuts off one item, or asks for more; its decision stands whatever
  follows (`stable`).  `pull` is the loop around it: what it returns depends on
  the bytes alone, not on the reads (`pull_eq_some`, `pull_eq_none`).

  `calls` asks a reader again and again.  A reader that returns an item for its
  encoding and leaves the bytes behind it (`Decodes`) returns a whole list of
  encoded items one by one (`calls_encoded`).
-/
import Mathlib.Data.List.Basic

namespace Handfast.Lib

variable {B R U : Type}

abbrev Chunk (B : Type) := { xs : List B // xs ≠ [] }

/-- The bytes of the reads that are still to come. -/
def unread (chunks : List (Chunk B)) : List B := chunks.flatMap Subtype.val

@[simp] theorem unread_nil : unread ([] : List (Chunk B)) = [] := rfl

@[simp] theorem unread_cons (c : Chunk B) (cs : List (Chunk B)) :
    unread (c :: cs) = c.1 ++ unread cs := rfl

theorem unread_append (cs ds : List (Chunk B)) : unread (cs ++ ds) = unread cs ++ unread ds := by
  simp [unread]

theorem eq_nil_of_unread {cs : List (Chunk B)} (h : unread cs = []) : cs = [] := by
  cases cs with
  | nil => rfl
  | cons c cs => exact absurd (List.append_eq_nil_iff.mp h).1 c.2

/-! ## Decoders -/

/-- Cuts an item off the bytes gathered so far, with the number of bytes it
    takes. -/
structure Decoder (B R : Type) where
  cut : List B → Option (R × Nat)
  le : ∀ {xs : List B} {r : R} {n : Nat}, cut xs = some (r, n) → n ≤ xs.length
  /-- More bytes do not change the decision. -/
  stable : ∀ {xs : List B} {r : R} {n : Nat} (ys : List B),
    cut xs = some (r, n) → cut (xs ++ ys) = some (r, n)

/-- What a reader holds: the bytes it has gathered and the reads to come. -/
structure Gathered (B : Type) where
  buf : List B
  chunks : List (Chunk B)

def Gathered.bytes (g : Gathered B) : List B := g.buf ++ unread g.chunks

namespace Decoder

/-- Read until an item can be cut off; `none` if the reads run out first. -/
def pull (D : Decoder B R) : List (Chunk B) → List B → Option (R × Gathered B)
  | [], buf => (D.cut buf).map fun item => (item.1, ⟨buf.drop item.2, []⟩)
  | c :: cs, buf =>
    match D.cut buf with
    | some (r, n) => some (r, ⟨buf.drop n, c :: cs⟩)
    | none => D.pull cs (buf ++ c.1)

variable {D : Decoder B R} {r : R} {n : Nat} {cs : List (Chunk B)} {buf : List B}

/-- **Reads do not matter.** What can be cut off all the bytes is returned, and
    nothing behind it is lost. -/
theorem pull_eq_some (h : D.cut (buf ++ unread cs) = some (r, n)) :
    ∃ g, D.pull cs buf = some (r, g) ∧ g.bytes = (buf ++ unread cs).drop n := by
  induction cs generalizing buf with
  | nil =>
    rw [unread_nil, List.append_nil] at h ⊢
    exact ⟨⟨buf.drop n, []⟩, by rw [pull, h]; rfl, by simp [Gathered.bytes]⟩
  | cons c cs ih =>
    cases hcut : D.cut buf with
    | some item =>
      -- decided by what is gathered, so decided the same way by everything
      have hsame := D.stable (unread (c :: cs)) hcut
      obtain rfl : (r, n) = item := Option.some.inj (h.symm.trans hsame)
      refine ⟨⟨buf.drop n, c :: cs⟩, by rw [pull, hcut], ?_⟩
      rw [Gathered.bytes, List.drop_append_of_le_length (D.le hcut)]
    | none =>
      have hassoc : buf ++ unread (c :: cs) = buf ++ c.1 ++ unread cs := by simp
      rw [hassoc] at h ⊢
      obtain ⟨g, hpull, hbytes⟩ := ih h
      exact ⟨g, by rw [pull, hcut]; exact hpull, hbytes⟩

theorem pull_eq_none (h : D.cut (buf ++ unread cs) = none) : D.pull cs buf = none := by
  induction cs generalizing buf with
  | nil =>
    rw [unread_nil, List.append_nil] at h
    rw [pull, h]
    rfl
  | cons c cs ih =>
    have hcut : D.cut buf = none := by
      cases hcut : D.cut buf with
      | none => rfl
      | some item =>
        rw [D.stable _ hcut] at h
        cases h
    rw [pull, hcut]
    exact ih (by simpa using h)

end Decoder

/-! ## Lines -/

/-- The first separator of a list is where it is. -/
theorem line_unique {c : B} {a b a' b' : List B} (ha : c ∉ a) (ha' : c ∉ a')
    (h : a ++ c :: b = a' ++ c :: b') : a = a' ∧ b = b' := by
  rcases List.append_eq_append_iff.mp h with ⟨mid, rfl, hrest⟩ | ⟨mid, rfl, hrest⟩
  · cases mid with
    | nil => exact ⟨(List.append_nil a).symm, (List.cons.inj hrest).2⟩
    | cons x mid =>
      obtain ⟨rfl, -⟩ := List.cons.inj hrest
      simp at ha'
  · cases mid with
    | nil => exact ⟨List.append_nil a', (List.cons.inj hrest).2.symm⟩
    | cons x mid =>
      obtain ⟨rfl, -⟩ := List.cons.inj hrest
      simp at ha

/-- Bytes before the separator belong to the line. -/
theorem line_extends {c : B} {a b xs ys : List B} (hxs : c ∉ xs)
    (h : xs ++ ys = a ++ c :: b) : ∃ more, a = xs ++ more ∧ ys = more ++ c :: b := by
  rcases List.append_eq_append_iff.mp h with ⟨more, ha, hys⟩ | ⟨more, hmore, hrest⟩
  · exact ⟨more, ha, hys⟩
  · cases more with
    | nil => exact ⟨[], by simpa using hmore.symm, by simpa using hrest.symm⟩
    | cons x more =>
      obtain ⟨rfl, -⟩ := List.cons.inj hrest
      rw [hmore] at hxs
      simp at hxs

/-! ## Calling a reader again and again -/

/-- The results of `n` calls in a row.  A call that has to wait is the last. -/
def calls (next : U → Option (R × U)) : Nat → U → List (Option R)
  | 0, _ => []
  | n + 1, u =>
    match next u with
    | none => [none]
    | some (r, u') => some r :: calls next n u'

/-- Bytes that start with `enc` make the reader return `r` and leave the rest. -/
def Decodes (next : U → Option (R × U)) (bytes : U → List B) (enc : List B) (r : R) : Prop :=
  ∀ u rest, bytes u = enc ++ rest → ∃ u', next u = some (r, u') ∧ bytes u' = rest

/-- **Lists of items.** Encoded items are returned in order, then the reader
    stands at what follows them. -/
theorem calls_encoded {next : U → Option (R × U)} {bytes : U → List B}
    {items : List (List B × R)} (h : ∀ item ∈ items, Decodes next bytes item.1 item.2) {u : U}
    {rest : List B} (hu : bytes u = (items.map Prod.fst).flatten ++ rest) (n : Nat) :
    ∃ u', bytes u' = rest ∧
      calls next (items.length + n) u = items.map (fun item => some item.2) ++ calls next n u' := by
  induction items generalizing u with
  | nil => exact ⟨u, hu, by simp⟩
  | cons item items ih =>
    have hfirst : bytes u = item.1 ++ ((items.map Prod.fst).flatten ++ rest) := by simpa using hu
    obtain ⟨u₁, hnext, hu₁⟩ := h item List.mem_cons_self u _ hfirst
    obtain ⟨u', hu', hcalls⟩ := ih (fun x hx => h x (List.mem_cons_of_mem item hx)) hu₁
    refine ⟨u', hu', ?_⟩
    have hcount : (item :: items).length + n = items.length + n + 1 := by
      rw [List.length_cons]
      omega
    rw [hcount, calls, hnext]
    simp [hcalls]

end Handfast.Lib
