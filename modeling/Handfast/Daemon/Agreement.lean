/-
  Handfast.Daemon.Agreement

  Two device managers joined by a connection.  Each is the actor with its
  callers; what one queues for the other is delivered in order.  Beside them
  runs the pairing protocol (`Handshake`), which remembers what each packet was
  sent as; the managers never see it.  They follow it move by move
  (`Tracked.step`), so they agree on being paired whenever the wire is empty,
  as long as every packet is read as what it was sent as.

  The actor does not make sure of that.  The reply slot of `start_pairing`
  outlives an `Unpair` and a call that gave up, and the next packet is then
  read as an answer; two runs show how the daemons come to disagree.
-/
import Handfast.Daemon.Calls
import Handfast.Daemon.Handshake
import Handfast.Daemon.Outbox

namespace Handfast.Daemon

open Handfast.Lib Handfast.Protocol Handfast.Core

/-! ## Two managers and a wire -/

/-- Two daemons with their callers, and the packets on their way to each. -/
abbrev Daemons := Duplex Callers Packet

inductive DaemonMove where
  | start
  | unpair
  | answer (accept : Bool)
  /-- The timer of a parked request fires. -/
  | expire
  /-- The next packet is handled. -/
  | read
  /-- A waiting `start_pairing` call times out. -/
  | giveUp (reply : ReplyTo)

/-- The packets a daemon queues for its peer while it handles a command. -/
def posted (caller : Callers) (peer : String) (env : Env) (c : Command) : List Packet :=
  (sentTo id peer (caller.mgr.handle env (caller.issued c)).2).map Prod.snd

namespace Daemons

-- the ids by which the daemons know each other
variable (name : Side → String)

/-- A daemon handles a command; what it queues for its peer goes on the wire. -/
def perform (net : Daemons) (side : Side) (env : Env) (c : Command) : Daemons :=
  net.act side ((net.state side).step (.command env c))
    (posted (net.state side) (name side.other) env c)

def step (net : Daemons) (a : Side × Env × DaemonMove) : Daemons :=
  let (side, env, move) := a
  let peer := name side.other
  match move with
  | .start => perform name net side env (.startPairing peer 0)
  | .unpair => perform name net side env (.unpair peer 0)
  | .answer accept => perform name net side env (.pairingAnswer peer accept 0)
  | .expire => perform name net side env (.pairingTimeout peer)
  | .read =>
    match net.wire side with
    | [] => net
    | packet :: _ => perform name (net.pop side) side env (.packetFrom peer packet)
  | .giveUp reply => net.act side ((net.state side).step (.timeout reply)) []

/-- A daemon's pairing state with its peer. -/
def link (net : Daemons) (side : Side) : Link := (net.state side).mgr.link (name side.other)

/-- Nothing is on the wire, nobody waits, nothing is parked. -/
def Quiet (net : Daemons) : Prop :=
  ∀ x, net.wire x = [] ∧ (net.state x).waiting = [] ∧ (link name net x).parked = none

/-- In a quiet state both are paired with each other or none is. -/
def Agreed (net : Daemons) : Prop :=
  net.Quiet name → ((link name net .left).pinned.isSome ↔ (link name net .right).pinned.isSome)

end Daemons

/-! ## The protocol beside them -/

/-- The user's answer to a parked request; one that comes too late is dropped. -/
def answerMove (l : Link) (env : Env) (accept : Bool) : Move :=
  match l.parked with
  | some deadline => if env.now > deadline then .forget else .answer accept
  | none => .answer accept

/-- Two daemons, and what the packets on their way were sent as. -/
structure Duo where
  net : Daemons
  letters : Handshake

namespace Duo

variable (name : Side → String)

def turn (net : Daemons) (a : Side × Env × DaemonMove) : Option Turn :=
  let (side, env, move) := a
  match move with
  | .start => some (.move .start)
  | .unpair => some (.move .unpair)
  | .answer accept => some (.move (answerMove (net.link name side) env accept))
  | .expire => some (.move (.answer false))
  | .read => some .read
  | .giveUp _ => none

def step (s : Duo) (a : Side × Env × DaemonMove) : Duo where
  net := s.net.step name a
  letters := (turn name s.net a).elim s.letters (s.letters.step a.1)

/-- The daemons run as without the protocol beside them. -/
theorem step_net (s : Duo) (a : Side × Env × DaemonMove) :
    (s.step name a).net = s.net.step name a := rfl

/-- Packets are read as what they were sent as, and no daemon revokes while its
    own request is pending. -/
def Legal (s : Duo) (a : Side × Env × DaemonMove) : Prop :=
  match turn name s.net a with
  | some turn => s.letters.Legal a.1 turn
  | none => True

end Duo

/-- Two daemons about to be connected, on any stores: neither accepts requests
    by itself, both let the connection in, and they start out agreed. -/
structure Setup where
  name : Side → String
  store : Side → Store
  identity : Side → Identity
  target : Side → SaveTarget
  transport : Side → Transport
  asks : ∀ x, (store x).kv.get "pairing.auto_accept" ≠ some "1"
  accepted : ∀ x, Manager.gateRejects
    (((Manager.new (store x) (name x) (identity x) (target x)).loadPersisted.link
      (name x.other)).pinned) (hex (transport x).peerFingerprint) = false
  agreed : ((Manager.new (store .left) (name .left) (identity .left)
      (target .left)).loadPersisted.link (name .right)).pinned.isSome =
    ((Manager.new (store .right) (name .right) (identity .right)
      (target .right)).loadPersisted.link (name .left)).pinned.isSome

namespace Setup

variable (setup : Setup)

def daemon (x : Side) : Manager :=
  (Manager.new (setup.store x) (setup.name x) (setup.identity x) (setup.target x)).loadPersisted

def connected : Daemons where
  state := fun x => (Callers.start (setup.daemon x)).step
    (.command (.nominal 0) (.connected (setup.name x.other) (setup.transport x)))
  wire := fun _ => []

/-- The protocol starts with the pins the daemons start with. -/
def joined : Duo where
  net := setup.connected
  letters :=
    { state := fun x =>
        { pinned := ((setup.daemon x).link (setup.name x.other)).pinned.isSome
          slot := none
          parked := none
          next := 1 }
      wire := fun _ => [] }

end Setup

/-! ## Moves of a link with a live connection -/

namespace Link

variable {l : Link} {reply : ReplyTo} {saved auto : Bool} {now deadline : Nat}

theorem isSome_persist (hk : l.known = true) (paired saved : Bool) :
    (l.persist paired saved).pinned.isSome = paired := by
  rw [persist_pinned hk]
  cases paired <;> rfl

theorem step_start_paired {queued : Bool} (hp : l.pinned.isSome) :
    l.step (.start reply queued) = l := by
  have : ¬ l.pinned.isNone = true := by simpa [Option.isSome_iff_ne_none] using hp
  simp [step, this]

theorem step_start_unpaired (ho : l.outbound.isSome) (hp : l.pinned = none) :
    l.step (.start reply true) = { l with pending := some reply } := by
  simp [step, ho, hp]

theorem step_pair_pending {wants : Bool} (hp : l.pending.isSome) :
    l.step (.pair wants auto now saved) =
      if wants then { l with pending := none }.persist true saved
      else { l with pending := none } := by
  simp only [step, if_pos hp]

theorem step_pair_request (ho : l.outbound.isSome) (hp : l.pending = none) :
    l.step (.pair true false now saved) =
      { l with parked := some (now + incomingPairTimeout) } := by
  have hnone : ¬ l.outbound.isNone = true := by simpa [Option.isSome_iff_ne_none] using ho
  simp [step, hp, hnone]

theorem step_pair_revoke (hp : l.pending = none) :
    l.step (.pair false auto now saved) = { l with parked := none }.persist false saved := by
  simp [step, hp]

theorem step_answer_late {accept : Bool} (hd : l.parked = some deadline) (hlate : now > deadline) :
    l.step (.answer accept now saved) = { l with parked := none } := by
  simp [step, hd, Nat.not_le.mpr hlate]

theorem step_answer_accept (hd : l.parked = some deadline) (hlate : ¬ now > deadline) :
    l.step (.answer true now saved) = { l with parked := none }.persist true saved := by
  simp [step, hd, Nat.not_lt.mp hlate]

theorem step_answer_refuse (hd : l.parked = some deadline) :
    l.step (.answer false now saved) = { l with parked := none } := by
  simp [step, hd]

end Link

/-! ## The managers follow the protocol -/

/-- A daemon with a live connection to its peer that asks its user about requests
    is where the protocol has it. -/
structure Party.Tracks (p : Party) (caller : Callers) (peer : String) : Prop where
  pinned : p.pinned = (caller.mgr.link peer).pinned.isSome
  slot : p.slot = (caller.mgr.link peer).pending
  parked : p.parked.isSome = (caller.mgr.link peer).parked.isSome
  next : p.next = caller.next
  sound : (caller.mgr.link peer).Sound
  attached : (caller.mgr.link peer).outbound.isSome
  asks : caller.mgr.store.kv.get "pairing.auto_accept" ≠ some "1"

/-- The packet says on the wire what the letter was sent as. -/
def Carries (packet : Packet) (l : Letter) : Prop :=
  packet.ptype = typePair ∧ Manager.wantsPair packet = some l.wants

theorem carries_pairPacket {env : Env} {pair : Bool} {l : Letter} (h : l.wants = pair) :
    Carries (pairPacket env pair) l := by
  subst h
  exact ⟨rfl, rfl⟩

/-- On the wire a crossed request looks as before. -/
theorem carries_cross {packets : List Packet} {h : Handshake} {side : Side} {l : Letter}
    (hc : List.Forall₂ Carries packets (h.wire side.other)) :
    List.Forall₂ Carries packets ((h.cross side l).wire side.other) := by
  unfold Handshake.cross
  split
  · rw [Duplex.relabel_wire, List.forall₂_map_right_iff]
    exact hc.imp fun _ _ h => ⟨h.1, by rw [Letter.crossed_wants]; exact h.2⟩
  · exact hc

namespace Duo

variable {name : Side → String} {s : Duo} {side : Side} {env : Env}

/-- Both daemons are where the protocol has them, and so are the packets. -/
structure Tracked (name : Side → String) (s : Duo) : Prop where
  party : ∀ x, (s.letters.state x).Tracks (s.net.state x) (name x.other)
  wire : ∀ x, List.Forall₂ Carries (s.net.wire x) (s.letters.wire x)

/-- A move of one side keeps the other where it is. -/
theorem Tracked.act (h : s.Tracked name) {caller : Callers} {packets : List Packet} {p : Party}
    {letters : List Letter} (hp : p.Tracks caller (name side.other))
    (hl : List.Forall₂ Carries packets letters) :
    Tracked name
      { net := s.net.act side caller packets, letters := s.letters.act side p letters } where
  party := (Side.forall_iff side).mpr
    ⟨by simpa using hp, by simpa using h.party side.other⟩
  wire := (Side.forall_iff side).mpr
    ⟨by simpa using h.wire side, by simpa using List.rel_append (h.wire side.other) hl⟩

end Duo

namespace Party.Tracks

variable {p p' : Party} {caller : Callers} {peer : String} {env : Env} {c : Command}

/-- A command moves the daemon as the protocol says if it moves the link so. -/
theorem command (h : p.Tracks caller peer) {l : Link}
    (hl : (caller.mgr.link peer).step
      (caller.mgr.linkInput env peer (caller.issued c)) = l)
    (hlive : l.attachment = (caller.mgr.link peer).attachment)
    (hpin : p'.pinned = l.pinned.isSome) (hslot : p'.slot = l.pending)
    (hparked : p'.parked.isSome = l.parked.isSome) (hnext : p'.next = p.next + 1) :
    p'.Tracks (caller.step (.command env c)) peer := by
  have hlink : (caller.step (.command env c)).mgr.link peer = l := by
    rw [Callers.step_link, hl]
  refine ⟨by rw [hlink, hpin], by rw [hlink, hslot], by rw [hlink, hparked], ?_, ?_, ?_, ?_⟩
  · rw [hnext, h.next]
    rfl
  · rw [hlink, ← hl]
    exact h.sound.step _
  · rw [hlink, show l.outbound = _ from congrArg Prod.fst hlive]
    exact h.attached
  · rw [Callers.step_kv]
    exact h.asks

theorem known (h : p.Tracks caller peer) : (caller.mgr.link peer).known = true :=
  h.sound.attached_known h.attached

end Party.Tracks

/-- Handling the command, the daemon makes the move. -/
structure Follows (p : Party) (caller : Callers) (peer : String) (env : Env) (c : Command)
    (move : Move) : Prop where
  party : (p.does move).1.Tracks (caller.step (.command env c)) peer
  letters : List.Forall₂ Carries (posted caller peer env c) (p.does move).2

section Moves

variable {p : Party} {caller : Callers} {peer : String} {env : Env}

/-- With room in the queue, what is posted is what the pairing machine puts out. -/
theorem posted_eq {c : Command} {i : Link.Input} (hroom : env.trySend 0 = none)
    (hi : caller.mgr.linkInput env peer (caller.issued c) = i) (hne : i ≠ .idle) :
    posted caller peer env c =
      ((caller.mgr.link peer).posts true i).map fun x => pairPacket env x.2 := by
  subst hi
  rw [posted, Manager.handle_sent hne, hroom, List.map_map]
  rfl

theorem Party.Tracks.post (h : p.Tracks caller peer) (pair : Bool) :
    ((caller.mgr.link peer).post true pair).map (fun x => pairPacket env x.2) =
      [pairPacket env pair] := by
  obtain ⟨conn, hout⟩ := Option.isSome_iff_exists.mp h.attached
  simp [Link.post, hout]

/-- A start-pairing call is the party's `start`. -/
theorem follows_start (h : p.Tracks caller peer) (hroom : env.trySend 0 = none) :
    Follows p caller peer env (.startPairing peer 0) .start := by
  have hi : caller.mgr.linkInput env peer (caller.issued (.startPairing peer 0)) =
      .start caller.next true := by
    simp [Manager.linkInput, Callers.issued, Command.device, Command.linkInput, hroom]
  have hsent : posted caller peer env (.startPairing peer 0) =
      if (caller.mgr.link peer).pinned.isSome then [] else [pairPacket env true] := by
    rw [posted_eq hroom hi (by simp), Link.posts]
    cases (caller.mgr.link peer).pinned with
    | none => exact h.post true
    | some pin => rfl
  by_cases hpin : (caller.mgr.link peer).pinned.isSome = true
  · have hdoes := Party.does_start_paired (h.pinned.trans hpin)
    refine ⟨?_, by rw [hsent, hdoes, if_pos hpin]; exact .nil⟩
    rw [hdoes]
    exact h.command ((congrArg _ hi).trans (Link.step_start_paired hpin)) rfl h.pinned h.slot
      h.parked rfl
  · have hdoes := Party.does_start_unpaired (h.pinned ▸ hpin)
    refine ⟨?_, by rw [hsent, hdoes, if_neg hpin]; exact .cons (carries_pairPacket rfl) .nil⟩
    rw [hdoes]
    have hnone := Option.not_isSome_iff_eq_none.mp hpin
    exact h.command ((congrArg _ hi).trans (Link.step_start_unpaired h.attached hnone)) rfl
      h.pinned (congrArg some h.next) h.parked rfl

/-- An unpair call is the party's `unpair`. -/
theorem follows_unpair (h : p.Tracks caller peer) (hroom : env.trySend 0 = none) :
    Follows p caller peer env (.unpair peer 0) .unpair := by
  have hi : caller.mgr.linkInput env peer (caller.issued (.unpair peer 0)) =
      .unpair env.storeWrite.isNone := by
    simp [Manager.linkInput, Callers.issued, Command.device, Command.linkInput]
  have hsent : posted caller peer env (.unpair peer 0) = [pairPacket env false] :=
    (posted_eq hroom hi (by simp)).trans (h.post false)
  refine ⟨h.command (congrArg _ hi) (Link.persist_attachment _ _)
    (Link.isSome_persist h.known _ _).symm
    (by simpa [Party.does, Link.step] using h.slot)
    (by simpa [Party.does, Link.step] using h.parked) rfl, ?_⟩
  rw [hsent]
  exact .cons (carries_pairPacket rfl) .nil

/-- An answer in time is sent, a late one dropped, and without a parked request
    nothing happens. -/
theorem follows_answer (h : p.Tracks caller peer) (hroom : env.trySend 0 = none)
    (accept : Bool) :
    Follows p caller peer env (.pairingAnswer peer accept 0)
      (answerMove (caller.mgr.link peer) env accept) := by
  have hi : caller.mgr.linkInput env peer (caller.issued (.pairingAnswer peer accept 0)) =
      .answer accept env.now env.storeWrite.isNone := by
    simp [Manager.linkInput, Callers.issued, Command.device, Command.linkInput]
  have hsent := posted_eq hroom hi (by simp)
  have hparked := h.parked
  unfold answerMove
  cases hd : (caller.mgr.link peer).parked with
  | none =>
    rw [Link.posts, hd] at hsent
    rw [hd] at hparked
    -- nothing is parked: neither level does anything
    have hdoes := Party.does_answer_none accept (by simpa using hparked)
    refine ⟨?_, by rw [hsent, hdoes]; exact .nil⟩
    rw [hdoes]
    have hl : (caller.mgr.link peer).step (.answer accept env.now env.storeWrite.isNone) =
        caller.mgr.link peer := by
      simp [Link.step, hd]
    exact h.command ((congrArg _ hi).trans hl) rfl h.pinned h.slot h.parked rfl
  | some deadline =>
    rw [Link.posts, hd] at hsent
    rw [hd] at hparked
    obtain ⟨n, hn⟩ := Option.isSome_iff_exists.mp hparked
    by_cases hlate : env.now > deadline
    -- too late: the request is only forgotten
    · rw [if_neg (by simpa using hlate)] at hsent
      simp only [if_pos hlate]
      refine ⟨h.command ((congrArg _ hi).trans (Link.step_answer_late hd hlate)) rfl h.pinned
        h.slot rfl rfl, ?_⟩
      rw [hsent]
      exact .nil
    · rw [if_pos (by simpa using hlate), h.post] at hsent
      simp only [if_neg hlate]
      have hdoes := Party.does_answer_some accept hn
      refine ⟨?_, ?_⟩
      · rw [hdoes]
        cases accept with
        | true =>
          exact h.command ((congrArg _ hi).trans (Link.step_answer_accept hd hlate))
            (Link.persist_attachment _ _) (by simp [Link.isSome_persist, h.known])
            (by simpa using h.slot) (by simp) rfl
        | false =>
          exact h.command ((congrArg _ hi).trans (Link.step_answer_refuse hd)) rfl
            (by simpa using h.pinned) h.slot rfl rfl
      · rw [hsent, hdoes]
        cases accept <;> exact .cons (carries_pairPacket rfl) .nil

/-- A timeout counts as a refusal. -/
theorem follows_expire (h : p.Tracks caller peer) (hroom : env.trySend 0 = none) :
    Follows p caller peer env (.pairingTimeout peer) (.answer false) := by
  have hi : caller.mgr.linkInput env peer (caller.issued (.pairingTimeout peer)) = .expire := by
    simp [Manager.linkInput, Callers.issued, Command.device, Command.linkInput]
  have hl := congrArg (caller.mgr.link peer).step hi
  have hsent := posted_eq hroom hi (by simp)
  rw [Link.posts, ← h.parked] at hsent
  cases hn : p.parked with
  | none =>
    have hdoes := Party.does_answer_none false hn
    refine ⟨?_, by rw [hsent, hdoes, hn]; exact .nil⟩
    rw [hdoes]
    exact h.command hl rfl h.pinned h.slot (by simp [hn, Link.step]) rfl
  | some n =>
    have hdoes := Party.does_answer_some false hn
    rw [hn, Option.isSome_some, if_pos rfl, h.post] at hsent
    refine ⟨?_, by rw [hsent, hdoes]; exact .cons (carries_pairPacket rfl) .nil⟩
    rw [hdoes]
    exact h.command hl rfl (by simpa [Link.step] using h.pinned) h.slot rfl rfl

/-- The daemon reads a packet as the protocol says, and does not answer at once. -/
theorem follows_read (env : Env) (h : p.Tracks caller peer) {packet : Packet} {l : Letter}
    (hc : Carries packet l) :
    (p.reads l).Tracks (caller.step (.command env (.packetFrom peer packet))) peer ∧
      posted caller peer env (.packetFrom peer packet) = [] := by
  have hauto := Manager.autoAccept_eq_false h.asks env
  have hi : caller.mgr.linkInput env peer (caller.issued (.packetFrom peer packet)) =
      .pair l.wants false env.now env.storeWrite.isNone := by
    simp [Manager.linkInput, Callers.issued, Command.device, Command.linkInput, hc.1, hc.2, hauto]
  have hne : caller.mgr.linkInput env peer (caller.issued (.packetFrom peer packet)) ≠ .idle := by
    simp [hi]
  have hsent : posted caller peer env (.packetFrom peer packet) = [] := by
    rw [posted, Manager.handle_sent hne, hi]
    simp [Link.posts]
  refine ⟨?_, hsent⟩
  have hslot := h.slot
  unfold Party.reads
  cases hp : (caller.mgr.link peer).pending with
  -- the answer to our own request
  | some reply =>
    rw [hslot, hp]
    have hl := (congrArg _ hi).trans (Link.step_pair_pending (Option.isSome_of_eq_some hp))
    cases hw : l.wants with
    | true =>
      rw [hw] at hl
      exact h.command hl (Link.persist_attachment _ _) (by simp [Link.isSome_persist, h.known])
        (by simp) (by simpa using h.parked) rfl
    | false =>
      rw [hw] at hl
      exact h.command hl rfl (by simpa using h.pinned) rfl h.parked rfl
  -- a request or a revocation of theirs
  | none =>
    rw [hslot, hp]
    cases hw : l.wants with
    | true =>
      rw [hw] at hi
      exact h.command ((congrArg _ hi).trans (Link.step_pair_request h.attached hp)) rfl
        h.pinned hp.symm (Letter.number_isSome hw) rfl
    | false =>
      rw [hw] at hi
      exact h.command ((congrArg _ hi).trans (Link.step_pair_revoke hp))
        (Link.persist_attachment _ _) (by simp [Link.isSome_persist, h.known])
        (by simp [hp]) (by simp) rfl

/-- A call that gives up is no business of the actor's. -/
theorem Party.Tracks.giveUp (h : p.Tracks caller peer) (reply : ReplyTo) :
    p.Tracks (caller.step (.timeout reply)) peer :=
  ⟨h.pinned, h.slot, h.parked, h.next, h.sound, h.attached, h.asks⟩

end Moves

/-! ## Whole runs -/

namespace Duo

variable {name : Side → String} {s : Duo} {side : Side}

theorem Tracked.move (h : s.Tracked name) {env : Env} {c : Command} {move : Move}
    (hf : Follows (s.letters.state side) (s.net.state side) (name side.other) env c move) :
    Tracked name
      { net := s.net.perform name side env c, letters := s.letters.step side (.move move) } :=
  h.act hf.party hf.letters

/-- A packet leaves the wire together with its letter. -/
theorem Tracked.pop (h : s.Tracked name) {packet : Packet} {rest : List Packet} {l : Letter}
    {ls : List Letter} (hw : s.net.wire side = packet :: rest) (hl : s.letters.wire side = l :: ls)
    (hrest : List.Forall₂ Carries rest ls) :
    Tracked name
      { net := s.net.pop side, letters := ((s.letters.cross side l).pop side) } where
  party := by simpa using h.party
  wire := by
    refine (Side.forall_iff side).mpr ⟨?_, ?_⟩
    · simpa [hw, hl] using hrest
    · simp only [Duplex.pop_wire_other]
      exact carries_cross (h.wire side.other)

/-- Both levels take the same letter off the wire. -/
theorem Tracked.read (h : s.Tracked name) (side : Side) (env : Env) :
    (s.step name (side, env, .read)).Tracked name := by
  have hwire := h.wire side
  cases hw : s.net.wire side with
  | nil =>
    rw [hw] at hwire
    have hl := List.forall₂_nil_left_iff.mp hwire
    simpa [step, turn, Daemons.step, hw, Handshake.step, hl] using h
  | cons packet rest =>
    rw [hw] at hwire
    obtain ⟨l, ls, hc, hrest, hl⟩ := List.forall₂_cons_left_iff.mp hwire
    obtain ⟨hparty, hsent⟩ := follows_read env (h.party side) hc
    simp only [step, turn, Option.elim_some, Daemons.step, hw, Handshake.step, hl,
      Daemons.perform, Duplex.pop_state, hsent]
    exact (h.pop hw hl hrest).act hparty .nil

/-- **The managers follow the protocol.** Every event with room in the queue
    keeps both daemons where the protocol has them. -/
theorem Tracked.step (h : s.Tracked name) (a : Side × Env × DaemonMove)
    (hroom : a.2.1.trySend 0 = none) : (s.step name a).Tracked name := by
  obtain ⟨side, env, move⟩ := a
  have hp := h.party side
  cases move with
  | start => exact h.move (follows_start hp hroom)
  | unpair => exact h.move (follows_unpair hp hroom)
  | answer accept => exact h.move (follows_answer hp hroom accept)
  | expire => exact h.move (follows_expire hp hroom)
  | read => exact h.read side env
  | giveUp reply =>
    have hact := h.act (hp.giveUp reply) .nil
    rw [Duplex.act_self] at hact
    exact hact

/-- A legal event is a legal turn of the protocol, or none. -/
theorem letters_step {a : Side × Env × DaemonMove} (hlegal : s.Legal name a)
    (hinv : s.letters.Inv) : (s.step name a).letters.Inv := by
  unfold Legal at hlegal
  unfold step
  cases ht : turn name s.net a with
  | none => exact hinv
  | some turn =>
    rw [ht] at hlegal
    exact hinv.step hlegal

/-- With an empty wire, daemons that follow the protocol agree. -/
theorem Tracked.agreed (h : s.Tracked name) (hinv : s.letters.Inv) : s.net.Agreed name := by
  intro hquiet
  have hempty : ∀ x, s.letters.wire x = [] := by
    intro x
    have hx := h.wire x
    rw [(hquiet x).1] at hx
    exact List.forall₂_nil_left_iff.mp hx
  have hagree := hinv.agree hempty
  rw [(h.party .left).pinned, (h.party .right).pinned] at hagree
  exact Bool.eq_iff_iff.mp hagree

end Duo

namespace Setup

variable (setup : Setup)

theorem daemon_link (x : Side) (d : String) : (setup.daemon x).link d =
    { Link.unknown with row := ((setup.store x).devices.get d).map rowPin }.restart
      (d = setup.name x) :=
  Manager.new_link _ _ _ _

/-- After the handshake each side has the other's connection and certificate, no more. -/
theorem connected_link (x : Side) :
    setup.connected.link setup.name x =
      { (setup.daemon x).link (setup.name x.other) with
        known := true
        outbound := some (setup.transport x).conn
        live := some (hex (setup.transport x).peerFingerprint) } := by
  have hi : (Callers.start (setup.daemon x)).mgr.linkInput (.nominal 0) (setup.name x.other)
      ((Callers.start (setup.daemon x)).issued
        (.connected (setup.name x.other) (setup.transport x))) =
      .attach (setup.transport x).conn (setup.transport x).peerFingerprint := by
    simp [Manager.linkInput, Callers.issued, Command.device, Command.linkInput]
  have hopen := setup.accepted x
  simp only [Daemons.link, connected]
  rw [Callers.step_link, hi]
  exact if_neg (by rw [← Bool.not_eq_true] at hopen; exact hopen)

/-- Right after the handshake the levels agree, with nothing on the wires. -/
theorem joined_tracked : setup.joined.Tracked setup.name where
  wire := fun _ => .nil
  party := by
    intro x
    have hlink := setup.connected_link x
    have hstart := setup.daemon_link x (setup.name x.other)
    unfold Daemons.link at hlink
    show (setup.joined.letters.state x).Tracks (setup.connected.state x) (setup.name x.other)
    refine ⟨?_, ?_, ?_, rfl, ?_, ?_, ?_⟩
    · rw [hlink]
      rfl
    · rw [hlink, hstart]
      rfl
    · rw [hlink, hstart]
      rfl
    · exact ((Callers.start_inv _ _ _ _).step _).sound _
    · rw [hlink]
      rfl
    · have hkv : (setup.connected.state x).mgr.store.kv = (setup.store x).kv :=
        Callers.step_kv (Callers.start (setup.daemon x)) _
      rw [hkv]
      exact setup.asks x

theorem joined_inv : setup.joined.letters.Inv where
  fresh := fun _ => ⟨.nil, by simp [joined], by simp [joined]⟩
  good := .inr ⟨setup.agreed, nofun⟩

/-- **Pairing agreement.** With room in the queues, in every run that reads each
    packet as what it was sent as, the daemons agree in every quiet state. -/
theorem agreed_of_legal (events : List (Side × Env × DaemonMove))
    (hroom : ∀ a ∈ events, a.2.1.trySend 0 = none)
    (hlegal : AllSteps (Duo.step setup.name) (Duo.Legal setup.name) setup.joined events) :
    AllStates (Daemons.step setup.name) (Daemons.Agreed setup.name) setup.connected events := by
  have hinv : AllStates (Duo.step setup.name)
      (fun s => s.Tracked setup.name ∧ s.letters.Inv) setup.joined events := by
    refine allStates_of_invariant ⟨setup.joined_tracked, setup.joined_inv⟩ ?_
      (hlegal.and (allSteps_of_forall_mem hroom))
    rintro s a ⟨htracked, hletters⟩ ⟨hlegal, hroom⟩
    exact ⟨htracked.step a hroom, Duo.letters_step hlegal hletters⟩
  have hagreed : AllStates (Duo.step setup.name) (fun s => s.net.Agreed setup.name)
      setup.joined events := hinv.mono fun s h => h.1.agreed h.2
  exact (allStates_map (Duo.step_net setup.name) setup.joined events).mp hagreed

def deskAndPhone : Setup where
  name
    | .left => "desk"
    | .right => "phone"
  store := fun _ => .empty
  identity := fun _ => default
  target := fun _ => .dir "/tmp"
  transport
    | .left => .uniform 1 7
    | .right => .uniform 1 9
  asks := fun _ => by decide
  accepted := by rintro (_ | _) <;> rfl
  agreed := rfl

/-- The desk asks, the phone's user accepts. -/
def plainPairing : List (Side × Env × DaemonMove) :=
  [(.left, .nominal 1, .start), (.right, .nominal 2, .read),
   (.right, .nominal 3, .answer true), (.left, .nominal 4, .read)]

theorem agreed_plainPairing :
    AllStates (Daemons.step deskAndPhone.name) (Daemons.Agreed deskAndPhone.name)
        deskAndPhone.connected plainPairing ∧
      ∀ x, (Daemons.link deskAndPhone.name
        (run (Daemons.step deskAndPhone.name) deskAndPhone.connected plainPairing)
        x).pinned.isSome := by
  refine ⟨deskAndPhone.agreed_of_legal plainPairing ?_ ?_, ?_⟩
  · simp [plainPairing, Env.nominal]
  · exact ⟨trivial, trivial, trivial, rfl, trivial⟩
  · rintro (_ | _) <;> rfl

/-- The desk asks and thinks better of it; the phone's user accepts the request
    before the revocation is read. -/
def countermand : List (Side × Env × DaemonMove) :=
  [(.left, .nominal 1, .start), (.left, .nominal 2, .unpair), (.right, .nominal 3, .read),
   (.right, .nominal 4, .answer true), (.left, .nominal 5, .read), (.right, .nominal 6, .read)]

/-- The desk asks, the phone's user answers after the deadline and the desk gives
    up; then the phone asks, and gives up. -/
def staleSlot : List (Side × Env × DaemonMove) :=
  [(.left, .nominal 1, .start), (.right, .nominal 2, .read),
   (.right, .nominal (31 * 10 ^ 9), .answer true), (.left, .nominal (31 * 10 ^ 9), .giveUp 1),
   (.right, .nominal (40 * 10 ^ 9), .start), (.left, .nominal (41 * 10 ^ 9), .read),
   (.right, .nominal (70 * 10 ^ 9), .giveUp 3)]

/-- A run that ends in a quiet state with one side paired is not agreed. -/
theorem not_agreed_of_last {events : List (Side × Env × DaemonMove)}
    (hquiet : Daemons.Quiet setup.name (run (Daemons.step setup.name) setup.connected events))
    (hleft : (Daemons.link setup.name
      (run (Daemons.step setup.name) setup.connected events) .left).pinned.isSome = true)
    (hright : (Daemons.link setup.name
      (run (Daemons.step setup.name) setup.connected events) .right).pinned.isSome = false) :
    ¬ AllStates (Daemons.step setup.name) (Daemons.Agreed setup.name) setup.connected events := by
  intro h
  have hboth := (h.last hquiet).mp hleft
  rw [hright] at hboth
  cases hboth

/-- In both runs the desk ends up paired with a phone that is not. -/
theorem countermand_staleSlot_not_agreed :
    ¬ AllStates (Daemons.step deskAndPhone.name) (Daemons.Agreed deskAndPhone.name)
        deskAndPhone.connected countermand ∧
      ¬ AllStates (Daemons.step deskAndPhone.name) (Daemons.Agreed deskAndPhone.name)
        deskAndPhone.connected staleSlot := by
  constructor
  · refine not_agreed_of_last deskAndPhone ?_ rfl rfl
    rintro (_ | _) <;> exact ⟨rfl, rfl, rfl⟩
  · refine not_agreed_of_last deskAndPhone ?_ rfl rfl
    rintro (_ | _) <;> exact ⟨rfl, rfl, rfl⟩

end Setup
end Handfast.Daemon
