/-
  Handfast.Daemon.Link

  Pairing with one device, as a machine of its own.  A `Link` is what pairing
  is about: whether the device is known, which certificate is pinned and which
  one the live connection presents, whose answer is awaited, whether a request
  is parked, and the pin on disk.  Identities, addresses, plugins and transfers
  play no part in it.

  `Link.step` says what each input does.  The results are the shape every link
  keeps (`Link.Sound`), and from it the one description of how a pin can change
  (`Link.step_pinned`): an input that completes a pairing pins the live
  certificate, an input that revokes removes the pin, nothing else touches it.
-/
import Handfast.Daemon.Frame

namespace Handfast.Daemon

open Handfast.Protocol

/-- The pairing state of one device. -/
@[ext] structure Link where
  known : Bool
  pinned : Option String
  live : Option String
  outbound : Option ConnId
  pending : Option ReplyTo
  /-- Deadline of a parked request. -/
  parked : Option Nat
  /-- The pin of the persisted row, if there is a row. -/
  row : Option (Option String)
  deriving DecidableEq

/-- What can happen to a link.  `saved` tells whether the store accepts the
    write, `queued` whether the outbound queue accepts the packet. -/
inductive Link.Input where
  | announce
  | attach (conn : ConnId) (fingerprint : Fingerprint)
  | close
  /-- A well-formed pair packet arrives. -/
  | pair (wants auto : Bool) (now : Nat) (saved : Bool)
  | start (reply : ReplyTo) (queued : Bool)
  | unpair (saved : Bool)
  | answer (accept : Bool) (now : Nat) (saved : Bool)
  | expire
  | idle

namespace Link

/-- The link of a device nobody has heard of. -/
def unknown : Link where
  known := false
  pinned := none
  live := none
  outbound := none
  pending := none
  parked := none
  row := none

def stored (l : Link) : Option String := l.row.join

/-- The fingerprint a completed pairing pins. -/
def trustFingerprint (l : Link) : String := (l.live.or l.pinned).getD ""

/-- Record a trust decision, in memory and (if `saved`) on disk. -/
def persist (l : Link) (paired saved : Bool) : Link :=
  if l.known then
    let pin := if paired then some l.trustFingerprint else none
    { l with pinned := pin, row := if saved then some pin else l.row }
  else l

def step (l : Link) : Input → Link
  | .announce => { l with known := true }
  | .attach conn fingerprint =>
    if Manager.gateRejects l.pinned (hex fingerprint) then l
    else { l with known := true, outbound := some conn, live := some (hex fingerprint) }
  | .close => { l with outbound := none, live := none, pending := none, parked := none }
  | .pair wants auto now saved =>
    -- the answer to our own request
    if l.pending.isSome then
      if wants then { l with pending := none }.persist true saved
      else { l with pending := none }
    else if wants then
      -- a request of theirs
      if l.outbound.isNone then l
      else if auto then l.persist true saved
      else { l with parked := some (now + incomingPairTimeout) }
    else { l with parked := none }.persist false saved
  | .start reply queued =>
    if l.outbound.isSome ∧ l.pinned.isNone then
      { l with pending := if queued then some reply else none }
    else l
  | .unpair saved => l.persist false saved
  | .answer accept now saved =>
    match l.parked with
    | none => l
    | some deadline =>
      -- an answer that comes too late only clears the request
      let l := { l with parked := none }
      if now ≤ deadline ∧ accept then l.persist true saved else l
  | .expire => { l with parked := none }
  | .idle => l

/-- The link a restarted daemon has: the persisted pin, nothing live.  Our own
    id is not restored. -/
def restart (l : Link) (own : Bool) : Link :=
  { unknown with
    known := l.row.isSome && !own
    pinned := if own then none else l.stored
    row := l.row }

/-! ## What changes a pin -/

/-- The input completes a pairing: an awaited acceptance, an auto-accepted
    request, or the user accepting a parked request in time. -/
def Completes (l : Link) : Input → Prop
  | .pair wants auto _ _ => wants ∧ (l.pending.isSome ∨ (auto ∧ l.outbound.isSome))
  | .answer accept now _ => accept ∧ ∃ deadline ∈ l.parked, now ≤ deadline
  | .announce | .attach _ _ | .close | .start _ _ | .unpair _ | .expire | .idle => False

def Revokes (l : Link) : Input → Prop
  | .pair wants _ _ _ => wants = false ∧ l.pending = none
  | .unpair _ => True
  | .announce | .attach _ _ | .close | .start _ _ | .answer _ _ _ | .expire | .idle => False

instance (l : Link) : (i : Input) → Decidable (l.Completes i)
  | .pair wants auto _ _ =>
    inferInstanceAs (Decidable (wants ∧ (l.pending.isSome ∨ (auto ∧ l.outbound.isSome))))
  | .answer accept now _ =>
    inferInstanceAs (Decidable (accept ∧ ∃ deadline ∈ l.parked, now ≤ deadline))
  | .announce | .attach _ _ | .close | .start _ _ | .unpair _ | .expire | .idle =>
    inferInstanceAs (Decidable False)

instance (l : Link) : (i : Input) → Decidable (l.Revokes i)
  | .pair wants _ _ _ => inferInstanceAs (Decidable (wants = false ∧ l.pending = none))
  | .unpair _ => inferInstanceAs (Decidable True)
  | .announce | .attach _ _ | .close | .start _ _ | .answer _ _ _ | .expire | .idle =>
    inferInstanceAs (Decidable False)

/-! ## The shape of a link -/

/-- The invariant of every link: a live connection has a queue and a
    certificate, a pending or parked pairing has a live connection, only known
    devices have any of these, and the gate held when the connection came up. -/
structure Sound (l : Link) : Prop where
  live_iff : l.live.isSome = l.outbound.isSome
  pending_attached : l.pending.isSome → l.outbound.isSome
  parked_attached : l.parked.isSome → l.outbound.isSome
  attached_known : l.outbound.isSome → l.known = true
  pinned_known : l.pinned.isSome → l.known = true
  live_pinned : ∀ f g, l.pinned = some f → l.live = some g → g = f

theorem unknown_sound : unknown.Sound := by constructor <;> simp [unknown]

theorem restart_sound (l : Link) (own : Bool) : (l.restart own).Sound := by
  constructor <;> simp [restart, unknown, stored]
  cases own <;> cases l.row <;> simp

variable {l : Link} {i : Input} {reply : ReplyTo}

/-- A sound link with a live connection pins the live certificate. -/
theorem Sound.trustFingerprint_eq (h : l.Sound) (hc : l.outbound.isSome) :
    l.live = some l.trustFingerprint := by
  rw [← h.live_iff, Option.isSome_iff_exists] at hc
  obtain ⟨f, hf⟩ := hc
  simp [Link.trustFingerprint, hf]

/-- A completed pairing has a live connection. -/
theorem Sound.attached_of_completes (h : l.Sound) (hc : l.Completes i) :
    l.outbound.isSome := by
  cases i with
  | pair wants auto now saved =>
    rcases hc.2 with hp | ⟨-, ho⟩
    · exact h.pending_attached hp
    · exact ho
  | answer accept now saved =>
    obtain ⟨-, deadline, hd, -⟩ := hc
    exact h.parked_attached (by simp [Option.mem_def.mp hd])
  | _ => exact hc.elim

/-- A trust decision is about the pin and its row only. -/
@[simp] theorem persist_keeps (p s : Bool) :
    (l.persist p s).outbound = l.outbound ∧ (l.persist p s).live = l.live ∧
      (l.persist p s).pending = l.pending ∧ (l.persist p s).parked = l.parked ∧
      (l.persist p s).known = l.known := by
  unfold persist
  split <;> simp

theorem Sound.persist (h : l.Sound) (paired saved : Bool) : (l.persist paired saved).Sound where
  live_iff := by simpa using h.live_iff
  pending_attached := by simpa using h.pending_attached
  parked_attached := by simpa using h.parked_attached
  attached_known := by simpa using h.attached_known
  pinned_known := by
    intro hp
    simp only [persist_keeps]
    -- a trust decision about an unknown device is not recorded
    by_contra hk
    simp only [Link.persist, hk] at hp
    exact hk (h.pinned_known hp)
  live_pinned := by
    intro f g hf hg
    simp only [persist_keeps] at hg
    by_cases hk : l.known
    · cases paired <;> simp [Link.persist, hk, Link.trustFingerprint, hg] at hf
      exact hf
    · simp only [Link.persist, hk] at hf
      exact h.live_pinned f g hf hg

theorem Sound.clear_pending (h : l.Sound) : { l with pending := none }.Sound :=
  { h with pending_attached := by simp }

theorem Sound.clear_parked (h : l.Sound) : { l with parked := none }.Sound :=
  { h with parked_attached := by simp }

/-- Every input keeps the shape. -/
theorem Sound.step (h : l.Sound) (i : Input) : (l.step i).Sound := by
  cases i with
  | announce => exact { h with attached_known := fun _ => rfl, pinned_known := fun _ => rfl }
  | attach conn fingerprint =>
    simp only [Link.step]
    split
    · exact h
    · rename_i hgate
      refine ⟨rfl, fun _ => rfl, fun _ => rfl, fun _ => rfl, fun _ => rfl, ?_⟩
      intro f g hf hg
      -- the gate let the connection in, so it presents the pin
      cases hg
      exact (Manager.gateRejects_eq_false.mp (by simpa using hgate) f hf).symm
  | close => exact ⟨by simp [Link.step], by simp [Link.step], by simp [Link.step],
      by simp [Link.step], h.pinned_known, by simp [Link.step]⟩
  | pair wants auto now saved =>
    simp only [Link.step]
    split
    · split
      · exact h.clear_pending.persist true saved
      · exact h.clear_pending
    · split
      · split
        · exact h
        · rename_i hout
          split
          · exact h.persist true saved
          · -- only a connected device is asked about
            exact { h with parked_attached := by simpa [Option.isSome_iff_ne_none] using hout }
      · exact h.clear_parked.persist false saved
  | start reply queued =>
    simp only [Link.step]
    split
    · rename_i hready
      -- a call waits only on a live connection
      exact { h with pending_attached := fun _ => hready.1 }
    · exact h
  | unpair saved => exact h.persist false saved
  | answer accept now saved =>
    simp only [Link.step]
    split
    · exact h
    · split
      · exact h.clear_parked.persist true saved
      · exact h.clear_parked
  | expire => exact h.clear_parked
  | idle => exact h

/-! ## How a pin can change -/

theorem persist_pinned (hk : l.known = true) (paired saved : Bool) :
    (l.persist paired saved).pinned = if paired then some l.trustFingerprint else none := by
  simp [persist, hk]

theorem Sound.persist_true_pinned (h : l.Sound) (hc : l.outbound.isSome) (saved : Bool) :
    (l.persist true saved).pinned = l.live := by
  rw [persist_pinned (h.attached_known hc), h.trustFingerprint_eq hc]
  rfl

theorem Sound.persist_false_pinned (h : l.Sound) (saved : Bool) :
    (l.persist false saved).pinned = none := by
  by_cases hk : l.known
  · simp [persist_pinned hk]
  · have hp : l.pinned = none := by
      by_contra hne
      exact hk (h.pinned_known (Option.isSome_iff_ne_none.mpr hne))
    simp [Link.persist, hk, hp]

/-- **How a pin can change.** -/
theorem step_pinned (h : l.Sound) (i : Input) :
    (l.step i).pinned =
      if l.Completes i then l.live else if l.Revokes i then none else l.pinned := by
  cases i with
  | announce => rfl
  | attach conn fingerprint =>
    simp only [step, Completes, Revokes]
    split <;> rfl
  | close => rfl
  | pair wants auto now saved =>
    cases hp : l.pending with
    | some reply =>
      cases wants with
      | true =>
        -- whoever waits has a connection, so its certificate is what gets pinned
        have hout : { l with pending := none }.outbound.isSome :=
          h.pending_attached (by simp [hp])
        simpa [step, Completes, hp] using h.clear_pending.persist_true_pinned hout saved
      | false => simp [step, Completes, Revokes, hp]
    | none =>
      cases wants with
      | false =>
        simpa [step, Completes, Revokes, hp] using h.clear_parked.persist_false_pinned saved
      | true =>
        cases hout : l.outbound with
        | none => simp [step, Completes, Revokes, hp, hout]
        | some conn =>
          cases auto with
          | false => simp [step, Completes, Revokes, hp, hout]
          | true =>
            simpa [step, Completes, hp, hout] using
              h.persist_true_pinned (by simp [hout]) saved
  | start reply queued =>
    simp only [step, Completes, Revokes]
    split <;> rfl
  | unpair saved => simpa [step, Completes, Revokes] using h.persist_false_pinned saved
  | answer accept now saved =>
    cases hp : l.parked with
    | none => simp [step, Completes, Revokes, hp]
    | some deadline =>
      by_cases hok : now ≤ deadline ∧ accept = true
      · have hout : { l with parked := none }.outbound.isSome :=
          h.parked_attached (by simp [hp])
        simpa [step, Completes, hp, hok.1, hok.2] using
          h.clear_parked.persist_true_pinned hout saved
      · -- late or refused: neither completes nor revokes
        have hok' : ¬ (accept = true ∧ now ≤ deadline) := fun h' => hok h'.symm
        simp only [step, Completes, Revokes, hp, hok, Option.mem_some_iff,
          exists_eq_left', hok', ↓reduceIte]
  | expire => rfl
  | idle => rfl

/-- An input pins an unpaired device exactly if it completes a pairing. -/
theorem step_pins_iff (h : l.Sound) (hp : l.pinned = none) (i : Input) :
    (l.step i).pinned.isSome ↔ l.Completes i := by
  rw [step_pinned h]
  constructor
  · intro hs
    by_contra hc
    simp [hc, hp] at hs
  · intro hc
    rw [if_pos hc, h.live_iff]
    exact h.attached_of_completes hc

/-! ## The connection and the row -/

def attachment (l : Link) : Option ConnId × Option String := (l.outbound, l.live)

@[simp] theorem persist_attachment (p s : Bool) :
    (l.persist p s).attachment = l.attachment := by
  simp [attachment]

/-- Only a connection coming up or going down changes what is live. -/
theorem step_attachment (i : Input) :
    (l.step i).attachment =
      match i with
      | .attach conn fingerprint =>
        if Manager.gateRejects l.pinned (hex fingerprint) then l.attachment
        else (some conn, some (hex fingerprint))
      | .close => (none, none)
      | _ => l.attachment := by
  cases i with
  | attach conn fingerprint => simp only [step]; split <;> rfl
  -- a pairing writes the store and leaves the connection alone
  | pair wants auto now saved =>
    simp only [step]
    split
    · split
      · rw [persist_attachment]; rfl
      · rfl
    · split
      · split
        · rfl
        · split
          · rw [persist_attachment]
          · rfl
      · rw [persist_attachment]; rfl
  | start reply queued => simp only [step]; split <;> rfl
  | unpair saved => exact persist_attachment false saved
  | answer accept now saved =>
    simp only [step]
    split
    · rfl
    · split
      · rw [persist_attachment]; rfl
      · rfl
  | announce | close | expire | idle => rfl

/-- Whether the store accepts what the input writes. -/
def Input.saved : Input → Bool
  | .pair _ _ _ saved | .unpair saved | .answer _ _ saved => saved
  | .announce | .attach _ _ | .close | .start _ _ | .expire | .idle => true

theorem persist_row (paired saved : Bool) :
    (l.persist paired saved).row =
      if l.known ∧ saved then some (l.persist paired saved).pinned else l.row := by
  by_cases hk : l.known <;> cases saved <;> simp [persist, hk]

/-- **How a row can change.** A trust decision about a known device is written
    if the store accepts it; nothing else touches the row. -/
theorem step_row (i : Input) :
    (l.step i).row =
      if (l.Completes i ∨ l.Revokes i) ∧ l.known ∧ i.saved then some (l.step i).pinned
      else l.row := by
  cases i with
  | attach conn fingerprint => simp only [step, Completes, Revokes]; split <;> simp
  | pair wants auto now saved =>
    cases hp : l.pending with
    | some reply =>
      cases wants with
      | true => simp [step, Completes, Input.saved, hp, persist_row]
      | false => simp [step, Completes, Revokes, hp]
    | none =>
      cases wants with
      | false => simp [step, Completes, Revokes, Input.saved, hp, persist_row]
      | true =>
        cases hout : l.outbound with
        | none => simp [step, Completes, Revokes, hp, hout]
        | some conn =>
          cases auto <;>
            simp [step, Completes, Revokes, Input.saved, hp, hout, persist_row]
  | start reply queued => simp only [step, Completes, Revokes]; split <;> simp
  | unpair saved => simp [step, Completes, Revokes, Input.saved, persist_row]
  | answer accept now saved =>
    cases hp : l.parked with
    | none => simp [step, Completes, Revokes, hp]
    | some deadline =>
      by_cases hok : now ≤ deadline <;> cases accept <;>
        simp [step, Completes, Revokes, Input.saved, hp, hok, persist_row]
  | announce | close | expire | idle => simp [step, Completes, Revokes]

/-- A device is never forgotten while the daemon runs. -/
theorem step_known (hk : l.known = true) (i : Input) : (l.step i).known = true := by
  cases i with
  | attach conn fingerprint => simp only [step]; split <;> simp [hk]
  | pair wants auto now saved =>
    simp only [step]
    split
    · split <;> simp [hk]
    · split
      · split
        · exact hk
        · split <;> simp [hk]
      · simp [hk]
  | start reply queued => simp only [step]; split <;> exact hk
  | unpair saved => simp [step, hk]
  | answer accept now saved =>
    simp only [step]
    split
    · exact hk
    · split <;> simp [hk]
  | announce => rfl
  | close | expire | idle => exact hk

/-- A device without an entry gets no row. -/
theorem row_origin (h : (l.step i).row.isSome) : l.row.isSome ∨ l.known = true := by
  rw [step_row] at h
  split at h
  · rename_i hw
    exact .inr hw.2.1
  · exact .inl h

/-! ## Pairing calls -/

/-- The pairing calls an input resolves: with the peer's decision, or (`none`)
    with an error. -/
def resolves (l : Link) : Input → List (ReplyTo × Option Bool)
  | .close => (l.pending.map fun reply => (reply, none)).toList
  | .pair wants _ _ _ => (l.pending.map fun reply => (reply, some wants)).toList
  | .start reply queued =>
    if l.outbound.isSome ∧ l.pinned.isNone then
      (l.pending.map fun old => (old, none)).toList ++ if queued then [] else [(reply, none)]
    else [(reply, none)]
  | .announce | .attach _ _ | .unpair _ | .answer _ _ _ | .expire | .idle => []

/-- Who waits for the peer's answer after an input. -/
theorem step_pending (i : Input) :
    (l.step i).pending =
      match i with
      | .close | .pair _ _ _ _ => none
      | .start reply queued =>
        if l.outbound.isSome ∧ l.pinned.isNone then (if queued then some reply else none)
        else l.pending
      | _ => l.pending := by
  cases i with
  | attach conn fingerprint => simp only [step]; split <;> rfl
  | pair wants auto now saved =>
    cases hp : l.pending with
    | some reply => cases wants <;> simp [step, hp]
    | none =>
      cases wants <;> cases ho : l.outbound <;> cases auto <;> simp [step, hp, ho]
  | start reply queued => simp only [step]; split <;> rfl
  | unpair saved => simp [step]
  | answer accept now saved =>
    simp only [step]
    split
    · rfl
    · split
      · simp
      · rfl
  | announce | close | expire | idle => rfl

/-- A slot is filled by a start-pairing call only. -/
theorem pending_origin (h : (l.step i).pending = some reply) :
    l.pending = some reply ∨ ∃ queued, i = .start reply queued := by
  rw [step_pending] at h
  cases i with
  | start reply' queued =>
    simp only at h
    split at h
    · cases queued with
      | true => exact .inr ⟨true, by rw [Option.some.inj h]⟩
      | false => cases h
    · exact .inl h
  | close | pair wants auto now saved => cases h
  | _ => exact .inl h

/-- A call that loses its slot is resolved. -/
theorem pending_kept_or_resolved (h : l.pending = some reply) :
    (l.step i).pending = some reply ∨ reply ∈ (l.resolves i).map Prod.fst := by
  rw [step_pending]
  cases i with
  | start reply' queued =>
    simp only [resolves]
    split
    · exact .inr (by simp [h])
    · exact .inl h
  | close | pair wants auto now saved => exact .inr (by simp [resolves, h])
  | _ => exact .inl h

/-- A new call gets the slot or is resolved. -/
theorem start_pending_or_resolved (reply : ReplyTo) (queued : Bool) :
    (l.step (.start reply queued)).pending = some reply ∨
      reply ∈ (l.resolves (.start reply queued)).map Prod.fst := by
  rw [step_pending]
  simp only [resolves]
  split
  · cases queued with
    | true => exact .inl rfl
    | false => exact .inr (by simp)
  · exact .inr (by simp)

/-- A call is resolved with a decision by a pair packet that finds it waiting. -/
theorem mem_resolves_some {b : Bool} :
    (reply, some b) ∈ l.resolves i ↔
      l.pending = some reply ∧ ∃ auto now saved, i = .pair b auto now saved := by
  cases i with
  | pair wants auto now saved =>
    cases hp : l.pending with
    | none => simp [resolves, hp]
    | some old =>
      simp only [resolves, hp, Option.map_some, Option.toList_some, List.mem_singleton,
        Prod.mk.injEq, Option.some.injEq, Input.pair.injEq]
      constructor
      · rintro ⟨rfl, rfl⟩
        exact ⟨rfl, auto, now, saved, rfl, rfl, rfl, rfl⟩
      · rintro ⟨rfl, -, -, -, rfl, -⟩
        exact ⟨rfl, rfl⟩
  | start reply' queued =>
    simp only [resolves]
    split <;> cases queued <;> simp
  | _ => simp [resolves]

/-! ## Parked requests -/

def Parks (l : Link) : Input → Prop
  | .pair wants auto _ _ =>
    wants = true ∧ auto = false ∧ l.pending = none ∧ l.outbound.isSome
  | .announce | .attach _ _ | .close | .start _ _ | .unpair _ | .answer _ _ _ | .expire
  | .idle => False

instance (l : Link) : (i : Input) → Decidable (l.Parks i)
  | .pair wants auto _ _ =>
    inferInstanceAs
      (Decidable (wants = true ∧ auto = false ∧ l.pending = none ∧ l.outbound.isSome))
  | .announce | .attach _ _ | .close | .start _ _ | .unpair _ | .answer _ _ _ | .expire
  | .idle => inferInstanceAs (Decidable False)

/-- **How a parked request can change.** It stays, it is gone, or the input parks a
    new one until its own deadline. -/
theorem step_parked (i : Input) :
    (l.step i).parked = l.parked ∨ (l.step i).parked = none ∨
      l.Parks i ∧ ∃ wants auto now saved, i = .pair wants auto now saved ∧
        (l.step i).parked = some (now + incomingPairTimeout) := by
  cases i with
  | attach conn fingerprint =>
    simp only [step]
    split <;> exact .inl rfl
  | pair wants auto now saved =>
    cases hp : l.pending with
    | some reply => cases wants <;> exact .inl (by simp [step, hp])
    | none =>
      cases wants with
      | false => exact .inr (.inl (by simp [step, hp]))
      | true =>
        cases ho : l.outbound with
        | none => exact .inl (by simp [step, hp, ho])
        | some conn =>
          -- a request that is not accepted at once is parked
          cases auto with
          | true => exact .inl (by simp [step, hp, ho])
          | false =>
            exact .inr (.inr ⟨⟨rfl, rfl, hp, by simp [ho]⟩, true, false, now, saved, rfl,
              by simp [step, hp, ho]⟩)
  | start reply queued =>
    simp only [step]
    split <;> exact .inl rfl
  | unpair saved => exact .inl (by simp [step])
  | answer accept now saved =>
    simp only [step]
    split
    · exact .inl rfl
    · split <;> exact .inr (.inl (by simp))
  | close | expire => exact .inr (.inl rfl)
  | announce | idle => exact .inl rfl

theorem parked_origin (h : (l.step i).parked.isSome) :
    l.parked.isSome ∨ l.Parks i := by
  rcases l.step_parked i with hsame | hnone | ⟨hparks, -⟩
  · exact .inl (hsame ▸ h)
  · rw [hnone] at h
    cases h
  · exact .inr hparks

/-- The input neither ends the connection or replaces it, nor withdraws or replaces
    a request. -/
def Calm (l : Link) : Input → Prop
  | .close => False
  | .attach _ fingerprint => Manager.gateRejects l.pinned (hex fingerprint) = true
  | .pair _ _ _ _ => l.pending.isSome = true
  | .announce | .start _ _ | .unpair _ | .answer _ _ _ | .expire | .idle => True

instance (l : Link) : (i : Input) → Decidable (l.Calm i)
  | .close => inferInstanceAs (Decidable False)
  | .attach _ fingerprint =>
    inferInstanceAs (Decidable (Manager.gateRejects l.pinned (hex fingerprint) = true))
  | .pair _ _ _ _ => inferInstanceAs (Decidable (l.pending.isSome = true))
  | .announce | .start _ _ | .unpair _ | .answer _ _ _ | .expire | .idle =>
    inferInstanceAs (Decidable True)

/-- A calm input keeps the connection. -/
theorem Calm.outbound (h : l.Calm i) : (l.step i).outbound = l.outbound := by
  have hattached := congrArg Prod.fst (l.step_attachment i)
  cases i with
  | attach conn fingerprint =>
    have hrejects : Manager.gateRejects l.pinned (hex fingerprint) = true := h
    dsimp only at hattached
    rw [if_pos hrejects] at hattached
    exact hattached
  | close => exact h.elim
  | _ => exact hattached

/-- A parked request stays, unless the input decides about it. -/
theorem Calm.parked (h : l.Calm i) (hanswer : ∀ accept now saved, i ≠ .answer accept now saved)
    (hexpire : i ≠ .expire) : (l.step i).parked = l.parked := by
  cases i with
  | attach conn fingerprint =>
    have hrejects : Manager.gateRejects l.pinned (hex fingerprint) = true := h
    rw [step, if_pos hrejects]
  | close => exact h.elim
  | pair wants auto now saved =>
    have hpending : l.pending.isSome = true := h
    cases wants <;> simp [step, hpending]
  | start reply queued =>
    simp only [step]
    split <;> rfl
  | unpair saved => simp [step]
  | answer accept now saved => exact absurd rfl (hanswer accept now saved)
  | expire => exact absurd rfl hexpire
  | announce | idle => rfl

theorem Calm.parked_none (h : l.Calm i) (hnone : l.parked = none) :
    (l.step i).parked = none := by
  rcases l.step_parked i with hsame | hgone | ⟨hparks, wants, auto, now, saved, rfl, -⟩
  · exact hsame.trans hnone
  · exact hgone
  · -- parking needs that no answer is awaited
    have hpending : l.pending.isSome = true := h
    rw [hparks.2.2.1] at hpending
    cases hpending

end Link
end Handfast.Daemon
