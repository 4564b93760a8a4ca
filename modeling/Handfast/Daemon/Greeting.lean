/-
  Handfast.Daemon.Greeting

  Both ends of a control handshake: `dial_control` and `accept_control`
  (`crates/daemon/src/handshake.rs`) with the two role changes of
  `Transport::connect_control` and `Transport::accept_control`
  (`crates/daemon/src/tls.rs`), over one TCP connection.

  TLS is taken as three flights, client hello, server answer and client
  finished, after which both directions carry bytes in order.  Every byte on
  the connection is labelled with what it is part of, so that a reader that
  takes bytes of another kind shows.  A party is a list of stages; one move
  polls one party, and says how many bytes the connection takes or delivers.

  `Stage.acts` reads a party as a script of sends and receives (`Lib.Dialogue`).
  What the connection has delivered into the TLS buffer still counts as on its
  way, so a poll is a few moves of that script, whichever stage it is in
  (`Party.poll_polled`).
-/
import Handfast.Daemon.Control
import Handfast.Lib.Dialogue
import Mathlib.Data.List.Infix

namespace Handfast.Daemon.Greeting

open Handfast.Lib Handfast.Protocol Handfast.Core

inductive Octet where
  | plain (byte : UInt8)
  /-- Part of the TLS handshake. -/
  | shake (byte : UInt8)
  /-- Data inside TLS. -/
  | secured (byte : UInt8)
  deriving DecidableEq

namespace Octet

def byte : Octet → UInt8
  | plain b => b
  | shake b => b
  | secured b => b

def opened : Octet → Option UInt8
  | secured b => some b
  | _ => none

end Octet

structure Tls where
  clientHello : List UInt8
  serverAnswer : List UInt8
  clientFinished : List UInt8

inductive Stage where
  | write (octets : List Octet)
  /-- `write_packet` inside TLS. -/
  | introduce (packet : Packet)
  /-- `read_plaintext_identity`. -/
  | plaintext
  /-- TLS waits for a flight of the peer. -/
  | flight (expected : List UInt8)
  /-- `read_packet`, and the checks that follow. -/
  | readPacket

structure Party where
  todo : List Stage
  /-- The bytes that `read_plaintext_identity` has read. -/
  line : List Octet
  /-- What TLS has read and not used yet. -/
  buffered : List Octet
  /-- The reads behind TLS that are not consumed. -/
  chunks : List (Chunk UInt8)
  plain : Option Identity
  result : Option (Result Identity)

namespace Party

def new (todo : List Stage) : Party :=
  { todo, line := [], buffered := [], chunks := [], plain := none, result := none }

def fail (p : Party) (err : Error) : Party := { p with todo := [], result := some (.error err) }

/-- The end of `dial_control` or `accept_control`; only the acceptor has a plaintext identity to
    compare. -/
def conclude (codec : Codec) (plain : Option Identity) (read : Framing.Result Packet) :
    Result Identity :=
  match exchanged codec read with
  | .error err => .error err
  | .ok secure =>
    match plain with
    | none => .ok secure
    | some plain =>
      match crossCheck plain secure with
      | .error err => .error err
      | .ok () => .ok secure

/-! Polls of one stage.  `arrived` is what the connection holds for the party, `n + 1` the most
bytes it takes or delivers, `rest` the stages that follow.  The result says how many bytes were
taken off the connection and what was written. -/

def pollWrite (p : Party) (octets : List Octet) (rest : List Stage) (n : Nat) :
    Party × Nat × List Octet :=
  if octets.length ≤ n + 1 then ({ p with todo := rest }, 0, octets)
  else ({ p with todo := .write (octets.drop (n + 1)) :: rest }, 0, octets.take (n + 1))

def pollIntroduce (codec : Codec) (p : Party) (packet : Packet) (rest : List Stage) :
    Party × Nat × List Octet :=
  match Framing.encodeInto codec.toVec packet [] with
  | (.error err, _) => (p.fail (.other (protocolText err)), 0, [])
  | (.ok (), frame) => ({ p with todo := .write (frame.map .secured) :: rest }, 0, [])

/-- One byte at a time, whatever has arrived. -/
def pollPlaintext (codec : Codec) (p : Party) (rest : List Stage) :
    List Octet → Party × Nat × List Octet
  | [] => (p, 0, [])
  | octet :: _ =>
    -- `read_exact` into a buffer of one byte: nothing behind the newline is taken
    let line := p.line ++ [octet]
    match readPlaintextIdentity codec true [] (line.map Octet.byte) with
    | none => ({ p with line }, 1, [])
    | some (.error err) => ({ p with line }.fail err, 1, [])
    | some (.ok identity) => ({ p with line, plain := some identity, todo := rest }, 1, [])

def pollFlight (p : Party) (expected : List UInt8) (rest : List Stage) (arrived : List Octet)
    (n : Nat) : Party × Nat × List Octet :=
  let read := arrived.take (n + 1)
  let buffered := p.buffered ++ read
  if expected.map .shake <+: buffered then
    -- what lies behind the flight stays in the buffer of TLS
    ({ p with buffered := buffered.drop expected.length, todo := rest }, read.length, [])
  else if buffered <+: expected.map .shake then ({ p with buffered }, read.length, [])
  else ({ p with buffered }.fail (.io "unexpected TLS message"), read.length, [])

/-- What TLS has buffered comes before what has arrived since. -/
def pollPacket (codec : Codec) (p : Party) (rest : List Stage) (arrived : List Octet) (n : Nat) :
    Party × Nat × List Octet :=
  let read := (p.buffered ++ arrived).take (n + 1)
  let buffered := p.buffered.drop (n + 1)
  let taken := read.length - p.buffered.length
  match read.mapM Octet.opened with
  | none => ({ p with buffered }.fail (.io "unexpected TLS message"), taken, [])
  | some [] => (p, 0, [])
  | some (byte :: bytes) =>
    let chunks := p.chunks ++ [⟨byte :: bytes, List.cons_ne_nil byte bytes⟩]
    match Framing.readFrom codec.fromSlice false chunks with
    | none => ({ p with buffered, chunks }, taken, [])
    | some (packet, chunks) =>
      ({ p with
          buffered, chunks, todo := rest
          result := some (conclude codec p.plain packet) }, taken, [])

def poll (codec : Codec) (p : Party) (arrived : List Octet) (n : Nat) :
    Party × Nat × List Octet :=
  match p.todo with
  | [] => (p, 0, [])
  | .write octets :: rest => p.pollWrite octets rest n
  | .introduce packet :: rest => p.pollIntroduce codec packet rest
  | .plaintext :: rest => p.pollPlaintext codec rest arrived
  | .flight expected :: rest => p.pollFlight expected rest arrived n
  | .readPacket :: rest => p.pollPacket codec rest arrived n

end Party

/-! ## The two parties -/

/-- `dial_control`: the plaintext identity, TLS as the server, the exchange inside TLS. -/
def dialControl (codec : Codec) (tls : Tls) (plain secure : Packet) : Party :=
  match codec.toVec plain with
  | .error msg => (Party.new []).fail (.json msg)
  | .ok json =>
    .new [.write ((json ++ [Framing.newline]).map .plain), .flight tls.clientHello,
      .write (tls.serverAnswer.map .shake), .flight tls.clientFinished, .introduce secure,
      .readPacket]

/-- `accept_control`: the plaintext identity, TLS as the client, the exchange inside TLS. -/
def acceptControl (tls : Tls) (secure : Packet) : Party :=
  .new [.plaintext, .write (tls.clientHello.map .shake), .flight tls.serverAnswer,
    .write (tls.clientFinished.map .shake), .introduce secure, .readPacket]

/-- Who greets whom, with the ids of the three identity packets. -/
structure Setup where
  dialer : Identity
  acceptor : Identity
  plainId : Int
  dialerId : Int
  acceptorId : Int

namespace Setup

def plainPacket (g : Setup) : Packet := .identity g.plainId g.dialer

def dialerPacket (g : Setup) : Packet := .identity g.dialerId g.dialer

def acceptorPacket (g : Setup) : Packet := .identity g.acceptorId g.acceptor

def packets (g : Setup) : List Packet := [g.plainPacket, g.dialerPacket, g.acceptorPacket]

/-- The dialer on the left, the acceptor on the right, nothing on the connection. -/
def start (g : Setup) (codec : Codec) (tls : Tls) : Duplex Party Octet where
  state
    | .left => dialControl codec tls g.plainPacket g.dialerPacket
    | .right => acceptControl tls g.acceptorPacket
  wire _ := []

end Setup

/-- A move: a party is polled, and the connection takes or delivers some bytes. -/
def step (codec : Codec) (x : Duplex Party Octet) (move : Side × Nat) :
    Duplex Party Octet :=
  let out := (x.state move.1).poll codec (x.wire move.1) move.2
  (x.discard move.1 out.2.1).act move.1 out.1 out.2.2

/-- A party that waits to read: its stage needs bytes and there are none. -/
def Party.Waits (p : Party) (arrived : List Octet) : Prop :=
  match p.todo with
  | .plaintext :: _ => arrived = []
  | .flight expected :: _ => arrived = [] ∧ ¬ expected.map .shake <+: p.buffered
  | .readPacket :: _ => p.buffered ++ arrived = []
  | _ => False

def Ended (x : Duplex Party Octet) : Prop := ∀ side, (x.state side).todo = []

/-! ## Parties as scripts -/

/-- What a party is to hear, and what it makes of it. -/
structure Heard where
  line : List UInt8
  frame : List UInt8
  plain : Option Identity
  identity : Identity

/-- The readers wait for the whole of what is to be heard, and accept it. -/
structure Heard.Readable (codec : Codec) (e : Heard) : Prop where
  line_waits : ∀ seen more, more ≠ [] → e.line = seen ++ more →
    readPlaintextIdentity codec true [] seen = none
  line_read : ∀ i, e.plain = some i → readPlaintextIdentity codec true [] e.line = some (.ok i)
  frame_waits : ∀ cs more, more ≠ [] → e.frame = unread cs ++ more →
    Framing.readFrom codec.fromSlice false cs = none
  frame_read : ∀ cs, unread cs = e.frame → ∃ read,
    Framing.readFrom codec.fromSlice false cs = some (read, []) ∧
      Party.conclude codec e.plain read = .ok e.identity

/-- The script of a stage, with what is left to read of the line and of the frame. -/
def Stage.acts (codec : Codec) (line frame : List UInt8) : Stage → List (Act Octet)
  | .write octets => octets.map .send
  | .introduce packet =>
    ((Framing.encodeInto codec.toVec packet []).2.map Octet.secured).map .send
  | .plaintext => (line.map Octet.plain).map .recv
  | .flight expected => (expected.map Octet.shake).map .recv
  | .readPacket => (frame.map Octet.secured).map .recv

def Stage.weight : Stage → Nat
  | .introduce _ => 2
  | _ => 1

/-- A stage between the plaintext line and the packet. -/
def Stage.Fine (codec : Codec) : Stage → Prop
  | .write _ | .flight _ => True
  | .introduce packet => (Framing.encodeInto codec.toVec packet []).1 = .ok ()
  | .plaintext | .readPacket => False

namespace Party

def acts (codec : Codec) (e : Heard) (p : Party) : List (Act Octet) :=
  p.todo.flatMap
    (Stage.acts codec (e.line.drop p.line.length) (e.frame.drop (unread p.chunks).length))

/-- A party that is past the plaintext line and has a part of the frame still to hear. -/
structure Tidy (e : Heard) (p : Party) : Prop where
  line : ∃ seen : List UInt8, p.line = seen.map .plain
  plain : p.plain = e.plain
  frame : ∃ more, more ≠ [] ∧ e.frame = unread p.chunks ++ more
  result : p.result = none

/-- A party that has accepted what it has heard so far. -/
inductive Sound (codec : Codec) (e : Heard) (p : Party) : Prop
  | greeting {mid : List Stage} {seen more : List UInt8} {i : Identity}
      (htodo : p.todo = .plaintext :: (mid ++ [.readPacket])) (hmid : ∀ s ∈ mid, s.Fine codec)
      (hline : p.line = seen.map .plain) (hmore : e.line = seen ++ more) (hne : more ≠ [])
      (hplain : e.plain = some i) (hframe : e.frame ≠ []) (hbuffered : p.buffered = [])
      (hchunks : p.chunks = []) (hresult : p.result = none)
  | securing {mid : List Stage} (htodo : p.todo = mid ++ [.readPacket])
      (hmid : ∀ s ∈ mid, s.Fine codec) (htidy : p.Tidy e)
  | finished (htodo : p.todo = []) (hline : ∃ seen : List UInt8, p.line = seen.map .plain)
      (hchunks : p.chunks = []) (hresult : p.result = some (.ok e.identity))

/-- What is still to be done: an octet costs three before it is written, two on the connection and
    one in the TLS buffer. -/
def work (codec : Codec) (e : Heard) (p : Party) : Nat :=
  3 * (Dialogue.sends (p.acts codec e)).length + p.buffered.length +
    (p.todo.map Stage.weight).sum

structure Polled (codec : Codec) (e : Heard) (p : Party) (arrived : List Octet)
    (out : Party × Nat × List Octet) : Prop where
  sound : out.1.Sound codec e
  script : ∃ used, p.acts codec e = used.map .recv ++ (out.2.2.map .send ++ out.1.acts codec e) ∧
    p.buffered ++ arrived = used ++ (out.1.buffered ++ arrived.drop out.2.1)
  effect : (out = (p, 0, []) ∧ (p.todo = [] ∨ p.Waits arrived)) ∨
    out.1.work codec e + 2 * ((arrived.drop out.2.1).length + out.2.2.length) <
      p.work codec e + 2 * arrived.length

/-! ## Polls -/

section Polls

variable {codec : Codec} {e : Heard} {p : Party} {arrived : List Octet} {n : Nat} {stage : Stage}
  {mid rest : List Stage} {buffered : List Octet} {seen more : List UInt8}

/-- Passing a stage that reads no packet, whatever TLS buffers. -/
theorem Tidy.pass (h : p.Tidy e) : ({ p with todo := rest, buffered } : Party).Tidy e :=
  ⟨h.line, h.plain, h.frame, h.result⟩

theorem acts_cons (codec : Codec) (e : Heard) (h : p.todo = stage :: rest) :
    p.acts codec e =
      stage.acts codec (e.line.drop p.line.length) (e.frame.drop (unread p.chunks).length) ++
        ({ p with todo := rest } : Party).acts codec e := by
  rw [acts, h, List.flatMap_cons]
  rfl

theorem Polled.idle (hsound : p.Sound codec e) (h : p.todo = [] ∨ p.Waits arrived) :
    Polled codec e p arrived (p, 0, []) :=
  ⟨hsound, ⟨[], rfl, rfl⟩, .inl ⟨rfl, h⟩⟩

/-- The work left falls by what the script has lost and by the bytes that moved on. -/
theorem Polled.of_script {p' : Party} {taken : Nat} {written : List Octet} (used : List Octet)
    (hsound : p'.Sound codec e)
    (hacts : p.acts codec e = used.map .recv ++ (written.map .send ++ p'.acts codec e))
    (hbytes : p.buffered ++ arrived = used ++ (p'.buffered ++ arrived.drop taken))
    (hless : p'.buffered.length + (p'.todo.map Stage.weight).sum + 2 * (arrived.drop taken).length <
      written.length + p.buffered.length + (p.todo.map Stage.weight).sum + 2 * arrived.length) :
    Polled codec e p arrived (p', taken, written) := by
  refine ⟨hsound, ⟨used, hacts, hbytes⟩, .inr ?_⟩
  have hsends : (Dialogue.sends (p.acts codec e)).length =
      written.length + (Dialogue.sends (p'.acts codec e)).length := by
    rw [hacts]
    simp
  rw [work, work, hsends]
  dsimp only
  omega

theorem pollWrite_polled {octets : List Octet}
    (htodo : p.todo = .write octets :: (mid ++ [.readPacket])) (hmid : ∀ s ∈ mid, s.Fine codec)
    (htidy : p.Tidy e) :
    Polled codec e p arrived (p.pollWrite octets (mid ++ [.readPacket]) n) := by
  have hacts := acts_cons codec e htodo
  unfold pollWrite
  split
  · refine .of_script [] (.securing rfl hmid htidy.pass) hacts rfl ?_
    simp only [htodo, List.map_cons, List.sum_cons, Stage.weight, List.drop_zero]
    omega
  · -- the connection takes a part, and the stage stays with the rest
    rename_i hlong
    have hfine : ∀ s ∈ .write (octets.drop (n + 1)) :: mid, s.Fine codec :=
      List.forall_mem_cons.mpr ⟨trivial, hmid⟩
    refine .of_script [] (.securing rfl hfine htidy.pass) ?_ rfl ?_
    · rw [hacts, acts_cons (p := { p with todo := _ :: _ }) codec e rfl]
      simp only [Stage.acts]
      rw [List.map_nil, List.nil_append, ← List.append_assoc, ← List.map_append,
        List.take_append_drop]
    · simp only [htodo, List.map_cons, List.sum_cons, Stage.weight, List.drop_zero,
        List.length_take]
      omega

theorem pollIntroduce_polled {packet : Packet}
    (htodo : p.todo = .introduce packet :: (mid ++ [.readPacket]))
    (hencoded : (Framing.encodeInto codec.toVec packet []).1 = .ok ())
    (hmid : ∀ s ∈ mid, s.Fine codec) (htidy : p.Tidy e) :
    Polled codec e p arrived (p.pollIntroduce codec packet (mid ++ [.readPacket])) := by
  have hacts := acts_cons codec e htodo
  unfold pollIntroduce
  cases henc : Framing.encodeInto codec.toVec packet [] with
  | mk status frame =>
    rw [henc] at hencoded
    obtain rfl : status = .ok () := hencoded
    rw [Stage.acts, henc] at hacts
    have hfine : ∀ s ∈ .write (frame.map .secured) :: mid, s.Fine codec :=
      List.forall_mem_cons.mpr ⟨trivial, hmid⟩
    refine .of_script [] (.securing rfl hfine htidy.pass) hacts rfl ?_
    simp only [htodo, List.map_cons, List.sum_cons, Stage.weight, List.drop_zero,
      List.length_nil]
    omega

/-- TLS takes up what arrives until the flight it waits for is there. -/
theorem pollFlight_polled {expected : List UInt8}
    (htodo : p.todo = .flight expected :: (mid ++ [.readPacket]))
    (hmid : ∀ s ∈ mid, s.Fine codec) (htidy : p.Tidy e)
    (hcompat : p.buffered ++ arrived <+: Dialogue.recvs (p.acts codec e)) :
    Polled codec e p arrived (p.pollFlight expected (mid ++ [.readPacket]) arrived n) := by
  have hacts := acts_cons codec e htodo
  have hread : arrived.take (n + 1) <+: arrived := List.take_prefix _ _
  have hsplit := List.prefix_append_drop hread
  -- nothing has come but a front of what the party is to hear
  have hfound : p.buffered ++ arrived.take (n + 1) <+: expected.map Octet.shake ++
      Dialogue.recvs (({ p with todo := mid ++ [.readPacket] } : Party).acts codec e) := by
    rw [hacts, Dialogue.recvs_append, Stage.acts, Dialogue.recvs_recv] at hcompat
    exact ((List.prefix_append_right_inj p.buffered).mpr hread).trans hcompat
  unfold pollFlight
  dsimp only
  by_cases hfull : expected.map Octet.shake <+: p.buffered ++ arrived.take (n + 1)
  · rw [if_pos hfull]
    have hrest := List.prefix_append_drop hfull
    rw [List.length_map] at hrest
    refine .of_script (expected.map .shake) (.securing rfl hmid htidy.pass) hacts ?_ ?_
    · rw [← List.append_assoc, ← hrest, List.append_assoc, ← hsplit]
    · have hlen := congrArg List.length hrest
      have harrived := congrArg List.length hsplit
      simp only [List.length_append, List.length_map] at hlen harrived
      simp only [htodo, List.map_cons, List.sum_cons, Stage.weight, List.length_nil]
      omega
  · -- two fronts of one list: if the flight is not all there, only a part of it is
    rw [if_neg hfull]
    have hpart : p.buffered ++ arrived.take (n + 1) <+: expected.map Octet.shake :=
      (List.prefix_or_prefix_of_prefix hfound (List.prefix_append _ _)).resolve_right hfull
    rw [if_pos hpart]
    have hfine : ∀ s ∈ .flight expected :: mid, s.Fine codec :=
      List.forall_mem_cons.mpr ⟨trivial, hmid⟩
    cases arrived with
    | nil =>
      have hwaits : p.Waits [] := by
        rw [Waits, htodo]
        exact ⟨rfl, by simpa using hfull⟩
      simp only [List.take_nil, List.append_nil]
      exact .idle (.securing htodo hfine htidy) (.inr hwaits)
    | cons octet arrived =>
      refine .of_script [] (.securing htodo hfine htidy.pass) rfl ?_ ?_
      · rw [List.nil_append, List.append_assoc, ← hsplit]
      · have harrived := congrArg List.length hsplit
        simp only [List.length_append, List.take_succ_cons, List.length_cons] at harrived ⊢
        simp only [List.length_nil]
        omega

/-- Past its plaintext line, a party does not depend on it. -/
theorem acts_past_line {line : List Octet} {plain : Option Identity}
    (hmid : ∀ s ∈ mid, s.Fine codec) :
    ({ p with todo := mid ++ [.readPacket], line, plain } : Party).acts codec e =
      ({ p with todo := mid ++ [.readPacket] } : Party).acts codec e := by
  refine List.flatMap_congr fun stage hstage => ?_
  rcases List.mem_append.mp hstage with hstage | hstage
  · have hfine := hmid stage hstage
    cases stage with
    | plaintext => exact absurd hfine id
    | _ => rfl
  · rw [List.mem_singleton.mp hstage]
    rfl

theorem acts_plaintext (htodo : p.todo = .plaintext :: (mid ++ [.readPacket]))
    (hline : p.line = seen.map .plain) (hmore : e.line = seen ++ more) :
    p.acts codec e = (more.map Octet.plain).map .recv ++
      ({ p with todo := mid ++ [.readPacket] } : Party).acts codec e := by
  have hrest : e.line.drop p.line.length = more := by
    rw [hline, hmore]
    simp
  rw [acts_cons codec e htodo, hrest, Stage.acts]

theorem pollPlaintext_polled {i : Identity} (he : e.Readable codec)
    (htodo : p.todo = .plaintext :: (mid ++ [.readPacket])) (hmid : ∀ s ∈ mid, s.Fine codec)
    (hline : p.line = seen.map .plain) (hmore : e.line = seen ++ more) (hne : more ≠ [])
    (hplain : e.plain = some i) (hframe : e.frame ≠ []) (hbuffered : p.buffered = [])
    (hchunks : p.chunks = []) (hresult : p.result = none)
    (hcompat : p.buffered ++ arrived <+: Dialogue.recvs (p.acts codec e)) :
    Polled codec e p arrived (p.pollPlaintext codec (mid ++ [.readPacket]) arrived) := by
  cases arrived with
  | nil =>
    have hwaits : p.Waits [] := by rw [Waits, htodo]
    exact .idle (.greeting htodo hmid hline hmore hne hplain hframe hbuffered hchunks hresult)
      (.inr hwaits)
  | cons octet arrived =>
    obtain ⟨b, more, rfl⟩ := List.exists_cons_of_ne_nil hne
    have hacts : p.acts codec e = _ := acts_plaintext htodo hline hmore
    -- the first byte on the connection is the next one of the line
    obtain rfl : octet = .plain b := by
      rw [hbuffered, hacts, Dialogue.recvs_append, Dialogue.recvs_recv] at hcompat
      exact (List.cons_prefix_cons.mp hcompat).1
    have hline' : p.line ++ [.plain b] = (seen ++ [b]).map .plain := by
      rw [hline]
      simp
    have hbytes : (p.line ++ [Octet.plain b]).map Octet.byte = seen ++ [b] := by
      rw [hline', List.map_map]
      exact List.map_id _
    have hmore' : e.line = (seen ++ [b]) ++ more := by
      rw [hmore]
      simp
    unfold pollPlaintext
    dsimp only
    rw [hbytes]
    cases more with
    | nil =>
      -- the newline: the line is parsed, and the party is past it
      rw [List.append_nil] at hmore'
      rw [← hmore', he.line_read i hplain]
      refine .of_script [.plain b] (.securing rfl hmid ⟨⟨_, hline'⟩, hplain.symm,
        ⟨e.frame, hframe, by simp [hchunks]⟩, hresult⟩) ?_ (by simp [hbuffered]) ?_
      · rw [hacts]
        exact congrArg (Act.recv (.plain b) :: ·) (acts_past_line hmid).symm
      · simp only [htodo, List.map_cons, List.sum_cons, Stage.weight, List.drop_succ_cons,
          List.drop_zero, List.length_cons, List.length_nil]
        omega
    | cons b' more =>
      rw [he.line_waits (seen ++ [b]) (b' :: more) (List.cons_ne_nil _ _) hmore']
      refine .of_script [.plain b] (.greeting htodo hmid hline' hmore' (List.cons_ne_nil _ _)
        hplain hframe hbuffered hchunks hresult) ?_ (by simp [hbuffered]) ?_
      · rw [hacts, acts_plaintext (p := { p with line := p.line ++ [.plain b] }) htodo hline'
          hmore']
        exact congrArg (((b :: b' :: more).map Octet.plain).map .recv ++ ·)
          (acts_past_line hmid).symm
      · simp only [List.drop_succ_cons, List.drop_zero, List.length_cons, List.length_nil]
        omega

/-- What was sealed under TLS is opened to the same bytes. -/
theorem opened_secured (bytes : List UInt8) :
    (bytes.map Octet.secured).mapM Octet.opened = some bytes := by
  induction bytes with
  | nil => rfl
  | cons b bytes ih => simp [Octet.opened, ih]

/-- What is left behind a read from buffer and connection. -/
theorem read_split (buffered arrived : List Octet) (n : Nat) :
    buffered ++ arrived = (buffered ++ arrived).take n ++ (buffered.drop n ++
      arrived.drop (((buffered ++ arrived).take n).length - buffered.length)) := by
  have hdrop : arrived.drop (((buffered ++ arrived).take n).length - buffered.length) =
      arrived.drop (n - buffered.length) := by
    rw [List.length_take, List.length_append]
    rcases Nat.le_total n (buffered.length + arrived.length) with h | h
    · rw [Nat.min_eq_left h]
    · rw [Nat.min_eq_right h, List.drop_eq_nil_of_le (by omega), List.drop_eq_nil_of_le (by omega)]
  rw [hdrop, ← List.drop_append, List.take_append_drop]

/-- The last stage reads one packet, in however many pieces it comes. -/
theorem pollPacket_polled (he : e.Readable codec) (htodo : p.todo = [.readPacket])
    (htidy : p.Tidy e)
    (hcompat : p.buffered ++ arrived <+: Dialogue.recvs (p.acts codec e)) :
    Polled codec e p arrived (p.pollPacket codec [] arrived n) := by
  obtain ⟨more, hne, hmore⟩ := htidy.frame
  have hrest : e.frame.drop (unread p.chunks).length = more := by
    rw [hmore]
    simp
  have hacts : p.acts codec e = (more.map Octet.secured).map .recv := by
    rw [acts_cons codec e htodo, hrest, Stage.acts]
    exact List.append_nil _
  rw [hacts, Dialogue.recvs_recv] at hcompat
  -- what is read is data inside TLS, so it can be opened
  obtain ⟨read, hread, hbytes⟩ := List.prefix_map_iff.mp
    ((List.take_prefix (n + 1) (p.buffered ++ arrived)).trans hcompat)
  have hsplit := read_split p.buffered arrived (n + 1)
  rw [hbytes] at hsplit
  unfold pollPacket
  dsimp only
  rw [hbytes, opened_secured]
  cases read with
  | nil =>
    have hnone : p.buffered ++ arrived = [] := by simpa using hbytes
    have hwaits : p.Waits arrived := by
      rw [Waits, htodo]
      exact hnone
    exact .idle (@Sound.securing _ _ _ [] htodo nofun htidy) (.inr hwaits)
  | cons byte bytes =>
    obtain ⟨left, rfl⟩ := hread
    let chunks := p.chunks ++ [⟨byte :: bytes, List.cons_ne_nil byte bytes⟩]
    have hframe : e.frame = unread chunks ++ left := by
      rw [hmore, unread_append]
      simp
    have hlen := congrArg List.length hsplit
    simp only [List.length_append, List.length_map, List.length_cons, List.length_drop] at hlen
    cases left with
    | nil =>
      -- the frame is complete; `readFrom` leaves no chunk behind
      rw [List.append_nil] at hframe
      obtain ⟨packet, hpacket, hok⟩ := he.frame_read chunks hframe.symm
      dsimp only
      rw [hpacket]
      refine .of_script ((byte :: bytes).map .secured) (.finished rfl htidy.line rfl ?_) ?_
        hsplit ?_
      · rw [htidy.plain, hok]
      · rw [hacts, List.append_nil]
        exact (List.append_nil _).symm
      · simp only [htodo, List.map_cons, List.map_nil, List.sum_cons, List.sum_nil,
          Stage.weight, List.length_map, List.length_cons, List.length_nil,
          List.length_drop] at hlen ⊢
        omega
    | cons b left =>
      dsimp only
      rw [he.frame_waits chunks (b :: left) (List.cons_ne_nil _ _) hframe]
      have htidy' : ({ p with buffered := p.buffered.drop (n + 1), chunks } : Party).Tidy e :=
        ⟨htidy.line, htidy.plain, ⟨b :: left, List.cons_ne_nil _ _, hframe⟩, htidy.result⟩
      refine .of_script ((byte :: bytes).map .secured)
        (@Sound.securing _ _ _ [] htodo nofun htidy') ?_ hsplit ?_
      · have hrest' : e.frame.drop (unread chunks).length = b :: left := by
          rw [hframe]
          simp
        rw [hacts, acts_cons (p := { p with chunks, buffered := _ }) codec e htodo, hrest',
          List.map_append, List.map_append]
        exact congrArg _ (List.append_nil _).symm
      · simp only [List.length_map, List.length_cons, List.length_nil,
          List.length_drop] at hlen ⊢
        omega

/-- A poll of a party for which nothing but what it is to hear is on the way. -/
theorem poll_polled (he : e.Readable codec) (hsound : p.Sound codec e)
    (hcompat : p.buffered ++ arrived <+: Dialogue.recvs (p.acts codec e)) :
    Polled codec e p arrived (p.poll codec arrived n) := by
  unfold poll
  cases hsound with
  | greeting htodo hmid hline hmore hne hplain hframe hbuffered hchunks hresult =>
    rw [htodo]
    exact pollPlaintext_polled he htodo hmid hline hmore hne hplain hframe hbuffered hchunks
      hresult hcompat
  | @securing mid htodo hmid htidy =>
    rw [htodo]
    cases mid with
    | nil => exact pollPacket_polled he htodo htidy hcompat
    | cons stage mid =>
      obtain ⟨hstage, hrest⟩ := List.forall_mem_cons.mp hmid
      cases stage with
      | write octets => exact pollWrite_polled htodo hrest htidy
      | introduce packet => exact pollIntroduce_polled htodo hstage hrest htidy
      | flight expected => exact pollFlight_polled htodo hrest htidy hcompat
      | plaintext => exact absurd hstage id
      | readPacket => exact absurd hstage id
  | finished htodo hline hchunks hresult =>
    rw [htodo]
    exact .idle (.finished htodo hline hchunks hresult) (.inl htodo)

/-- A party that waits still has an octet to come. -/
theorem Waits.short (hsound : p.Sound codec e)
    (hcompat : p.buffered ++ arrived <+: Dialogue.recvs (p.acts codec e))
    (hwaits : p.Waits arrived) :
    ∃ m s, p.acts codec e = (p.buffered ++ arrived).map .recv ++ .recv m :: s := by
  cases hsound with
  | greeting htodo hmid hline hmore hne hplain hframe hbuffered hchunks hresult =>
    rw [Waits, htodo] at hwaits
    obtain ⟨b, more, rfl⟩ := List.exists_cons_of_ne_nil hne
    rw [acts_plaintext htodo hline hmore, hbuffered, hwaits]
    exact ⟨_, _, rfl⟩
  | @securing mid htodo hmid htidy =>
    cases mid with
    | nil =>
      obtain ⟨more, hne, hmore⟩ := htidy.frame
      obtain ⟨b, more, rfl⟩ := List.exists_cons_of_ne_nil hne
      have hrest : e.frame.drop (unread p.chunks).length = b :: more := by
        rw [hmore]
        simp
      rw [Waits, htodo] at hwaits
      have hnone : p.buffered ++ arrived = [] := hwaits
      rw [acts_cons codec e htodo, hrest, hnone]
      exact ⟨_, _, rfl⟩
    | cons stage mid =>
      rw [Waits, htodo] at hwaits
      cases stage with
      | flight expected =>
        -- the buffer holds a proper part of the flight: its next byte is missing
        obtain ⟨rfl, hpart⟩ := hwaits
        rw [acts_cons codec e htodo, Dialogue.recvs_append, Stage.acts, Dialogue.recvs_recv,
          List.append_nil] at hcompat
        obtain ⟨more, hmore⟩ :=
          (List.prefix_or_prefix_of_prefix hcompat (List.prefix_append _ _)).resolve_right
            hpart
        cases more with
        | nil =>
          rw [List.append_nil] at hmore
          rw [hmore] at hpart
          exact absurd (List.prefix_rfl) hpart
        | cons octet more =>
          rw [acts_cons codec e htodo, Stage.acts, ← hmore, List.append_nil,
            List.map_append, List.append_assoc]
          exact ⟨octet, _, rfl⟩
      | write octets => exact absurd hwaits id
      | introduce packet => exact absurd hwaits id
      | plaintext => exact absurd (hmid _ List.mem_cons_self) id
      | readPacket => exact absurd (hmid _ List.mem_cons_self) id
  | finished htodo =>
    rw [Waits, htodo] at hwaits
    exact absurd hwaits id

end Polls

end Party

end Handfast.Daemon.Greeting
