/-
  Handfast.Daemon.GreetingRun

  Runs of the control handshake: both parties of `Daemon.Greeting`, polled in
  any order, over a connection that cuts the bytes in any way.

  The invariant is that both have accepted what they have heard and that their
  scripts can be completed (`OnCourse`).  At the start they can: the plaintext
  line, three flights in turn, two packets that cross.  From it follow progress
  (`OnCourse.stuck`, `OnCourse.progress`) and what both hold at the end; a
  measure of the work left makes every fair run end.
-/
import Handfast.Daemon.Greeting
import Handfast.Lib.Trace

namespace Handfast.Daemon.Greeting

open Handfast.Lib Handfast.Protocol Handfast.Core

/-! ## Both parties -/

section Both

variable {codec : Codec} {heard : Side → Heard} {x : Duplex Party Octet} {side : Side}

/-- Both parties as scripts; what TLS has buffered is still on its way. -/
def scripts (codec : Codec) (heard : Side → Heard) (x : Duplex Party Octet) :
    Dialogue.State Octet where
  state side := (x.state side).acts codec (heard side)
  wire side := (x.state side).buffered ++ x.wire side

/-- Both parties have accepted what they have heard, and their scripts can be completed. -/
structure OnCourse (codec : Codec) (heard : Side → Heard) (x : Duplex Party Octet) : Prop where
  sound : ∀ side, (x.state side).Sound codec (heard side)
  completes : Dialogue.Completes (scripts codec heard x)

/-- What is still to be done by a party, and by the connection for it. -/
def sideWork (codec : Codec) (heard : Side → Heard) (x : Duplex Party Octet) (side : Side) : Nat :=
  (x.state side).work codec (heard side) + 2 * (x.wire side).length

def totalWork (codec : Codec) (heard : Side → Heard) (x : Duplex Party Octet) : Nat :=
  sideWork codec heard x .left + sideWork codec heard x .right

theorem totalWork_eq (side : Side) : totalWork codec heard x =
    sideWork codec heard x side + sideWork codec heard x side.other := by
  cases side with
  | left => rfl
  | right => exact Nat.add_comm _ _

theorem OnCourse.compat (h : OnCourse codec heard x) (side : Side) :
    (x.state side).buffered ++ x.wire side <+:
      Dialogue.recvs ((x.state side).acts codec (heard side)) :=
  ⟨_, h.completes.balanced side⟩

theorem OnCourse.polled (he : ∀ side, (heard side).Readable codec) (h : OnCourse codec heard x)
    (side : Side) (n : Nat) :
    (x.state side).Polled codec (heard side) (x.wire side)
      ((x.state side).poll codec (x.wire side) n) :=
  Party.poll_polled (he side) (h.sound side) (h.compat side)

/-! A move changes the party that is polled and what is on its way to both. -/

variable {n : Nat}

theorem step_state : (step codec x (side, n)).state side =
    ((x.state side).poll codec (x.wire side) n).1 := by simp [step]

theorem step_state_other :
    (step codec x (side, n)).state side.other = x.state side.other := by
  simp [step]

theorem step_wire : (step codec x (side, n)).wire side =
    (x.wire side).drop ((x.state side).poll codec (x.wire side) n).2.1 := by simp [step]

theorem step_wire_other : (step codec x (side, n)).wire side.other =
    x.wire side.other ++ ((x.state side).poll codec (x.wire side) n).2.2 := by
  simp [step]

theorem OnCourse.after_step (he : ∀ side, (heard side).Readable codec) (h : OnCourse codec heard x)
    (move : Side × Nat) : OnCourse codec heard (step codec x move) := by
  obtain ⟨side, n⟩ := move
  have hpolled := h.polled he side n
  obtain ⟨used, hscript, hbytes⟩ := hpolled.script
  -- the poll is a few moves of the party's script
  have hadvances : Dialogue.Advances (scripts codec heard x) side used
      ((x.state side).poll codec (x.wire side) n).2.2
      (scripts codec heard (step codec x (side, n))) := by
    constructor
    case script => simpa only [scripts, step_state] using hscript
    case taken => simpa only [scripts, step_state, step_wire] using hbytes
    case given =>
      simp only [scripts, step_state_other, step_wire_other, List.append_assoc]
    case other => simp only [scripts, step_state_other]
  refine ⟨(Side.forall_iff side).mpr ⟨?_, ?_⟩, h.completes.forward hadvances⟩
  · rw [step_state]
    exact hpolled.sound
  · rw [step_state_other]
    exact h.sound side.other

/-- A poll that does something lowers the work that is left. -/
theorem totalWork_step (h : ((x.state side).poll codec (x.wire side) n).1.work codec (heard side) +
      2 * (((x.wire side).drop ((x.state side).poll codec (x.wire side) n).2.1).length +
        ((x.state side).poll codec (x.wire side) n).2.2.length) <
      (x.state side).work codec (heard side) + 2 * (x.wire side).length) :
    totalWork codec heard (step codec x (side, n)) < totalWork codec heard x := by
  rw [totalWork_eq side, totalWork_eq side, sideWork, sideWork, sideWork, sideWork,
    step_state, step_state_other, step_wire, step_wire_other, List.length_append]
  omega

/-- A party that is neither finished nor waiting moves on. -/
theorem OnCourse.lowers (he : ∀ side, (heard side).Readable codec) (h : OnCourse codec heard x)
    (htodo : (x.state side).todo ≠ []) (hready : ¬ (x.state side).Waits (x.wire side)) (n : Nat) :
    totalWork codec heard (step codec x (side, n)) < totalWork codec heard x := by
  rcases (h.polled he side n).effect with ⟨-, hidle⟩ | hless
  · exact absurd hidle (not_or.mpr ⟨htodo, hready⟩)
  · exact totalWork_step hless

/-- A step changes nothing or leaves less work. -/
theorem OnCourse.moves (he : ∀ side, (heard side).Readable codec) (h : OnCourse codec heard x)
    (move : Side × Nat) : step codec x move = x ∨
      totalWork codec heard (step codec x move) < totalWork codec heard x := by
  rcases (h.polled he move.1 move.2).effect with ⟨hsame, -⟩ | hless
  · left
    rw [step, hsame]
    exact Duplex.ext_sides move.1 (by simp) (by simp) (by simp) (by simp)
  · exact .inr (totalWork_step hless)

/-- **No deadlock.** If both parties have finished or wait to read, both have finished. -/
theorem OnCourse.stuck (h : OnCourse codec heard x)
    (hstuck : ∀ side, (x.state side).todo = [] ∨ (x.state side).Waits (x.wire side)) :
    Ended x := by
  intro side
  have hshort : ∀ side, (x.state side).Waits (x.wire side) →
      Dialogue.Short (scripts codec heard x) side :=
    fun side hwaits => hwaits.short (h.sound side) (h.compat side)
  -- scripts that can be completed are at their ends if neither can go on
  have hscripts := h.completes.stuck fun side => (hstuck side).imp
    (fun htodo => by simp only [scripts, Party.acts, htodo, List.flatMap_nil]) (hshort side)
  refine (hstuck side).resolve_right fun hwaits => ?_
  obtain ⟨m, s, hscript⟩ := hshort side hwaits
  rw [hscripts side] at hscript
  simp at hscript

/-- **Progress.** As long as a party has not finished, one of them moves on whenever polled. -/
theorem OnCourse.progress (he : ∀ side, (heard side).Readable codec) (h : OnCourse codec heard x)
    (hnot : ¬ Ended x) :
    ∃ side, ∀ move : Side × Nat, move.1 = side →
      totalWork codec heard (step codec x move) < totalWork codec heard x := by
  by_contra hnone
  refine hnot (h.stuck fun side => ?_)
  by_contra hready
  obtain ⟨htodo, hwaits⟩ := not_or.mp hready
  refine hnone ⟨side, ?_⟩
  rintro ⟨_, n⟩ rfl
  exact h.lowers he htodo hwaits n

theorem Ended.after_step (hdone : Ended x) (move : Side × Nat) : Ended (step codec x move) := by
  obtain ⟨mover, n⟩ := move
  refine (Side.forall_iff mover).mpr ⟨?_, ?_⟩
  · rw [step_state, Party.poll, hdone mover]
    exact hdone mover
  · rw [step_state_other]
    exact hdone mover.other

/-- A party that has finished holds the identity it was to hear, and nothing is left of it. -/
theorem OnCourse.finished (h : OnCourse codec heard x) (htodo : (x.state side).todo = []) :
    (x.state side).result = some (.ok (heard side).identity) ∧ (x.state side).chunks = [] ∧
      (x.state side).buffered = [] ∧ x.wire side = [] := by
  have hscript : (scripts codec heard x).state side = [] := by
    simp only [scripts, Party.acts, htodo, List.flatMap_nil]
  have hwire := List.append_eq_nil_iff.mp (h.completes.wire_of_finished hscript)
  cases h.sound side with
  | greeting hnot => rw [htodo] at hnot; cases hnot
  | securing hnot =>
    rw [htodo] at hnot
    simp at hnot
  | finished _ _ hchunks hresult => exact ⟨hresult, hchunks, hwire⟩

end Both

/-! ## Introductions that are understood -/

/-- What the handshake takes for granted of the JSON codec: parsing the text of a packet gives the
    packet back, and the text is one line that starts with a brace. -/
def Speaks (codec : Codec) (packet : Packet) : Prop :=
  ∀ json, codec.toVec packet = .ok json → codec.fromSlice json = .ok packet ∧
    Framing.newline ∉ json ∧ json.head? = some openBrace

/-- The packet encodes to fewer than `MAX_PACKET_LEN` bytes. -/
def Fits (codec : Codec) (packet : Packet) : Prop :=
  ∃ json, codec.toVec packet = .ok json ∧ json.length < Framing.maxPacketLen

def lineOf (codec : Codec) (packet : Packet) : List UInt8 :=
  Framing.textOf codec.toVec packet ++ [Framing.newline]

section Introductions

variable {codec : Codec} {packet : Packet} {json seen more : List UInt8} {i : Identity} {id : Int}
  {cs : List (Chunk UInt8)}

/-- A part of a line that is not the whole of it ends before the newline. -/
theorem part_of_line (h : json ++ [Framing.newline] = seen ++ more) (hne : more ≠ []) :
    seen <+: json := by
  rcases List.prefix_concat_iff.mp (Exists.intro more h.symm) with hwhole | hpart
  · rw [hwhole] at h
    exact absurd (List.append_right_eq_self.mp h.symm) hne
  · exact hpart

/-- Of the identity line nothing is read before all of it has come. -/
theorem plaintext_waits (hspeaks : Speaks codec packet) (hfits : Fits codec packet)
    (h : lineOf codec packet = seen ++ more) (hne : more ≠ []) :
    readPlaintextIdentity codec true [] seen = none := by
  obtain ⟨json, hjson, hlen⟩ := hfits
  obtain ⟨-, hclean, hbrace⟩ := hspeaks json hjson
  rw [lineOf, Framing.textOf_eq hjson] at h
  obtain ⟨rest, rfl⟩ := part_of_line h hne
  refine readPlaintext_waits ?_ (fun hmem => hclean (List.mem_append_left rest hmem)) ?_
  · intro _
    cases seen with
    | nil => exact .inr rfl
    | cons b seen => exact .inl hbrace
  · rw [List.length_append] at hlen
    rw [List.length_nil]
    omega

/-- The whole line is read as the identity that was written. -/
theorem plaintext_read (hspeaks : Speaks codec (.identity id i))
    (hfits : Fits codec (.identity id i)) :
    readPlaintextIdentity codec true [] (lineOf codec (.identity id i)) = some (.ok i) := by
  obtain ⟨json, hjson, hlen⟩ := hfits
  obtain ⟨hparse, hclean, hbrace⟩ := hspeaks json hjson
  rw [lineOf, Framing.textOf_eq hjson, readPlaintext_line (fun _ => hbrace) hclean
    (by rwa [List.length_nil, Nat.zero_add]) hparse, identityOf_identity]

/-- The same for the packet after the upgrade. -/
theorem packet_waits (hspeaks : Speaks codec packet) (hfits : Fits codec packet)
    (h : lineOf codec packet = unread cs ++ more) (hne : more ≠ []) :
    Framing.readFrom codec.fromSlice false cs = none := by
  obtain ⟨json, hjson, hlen⟩ := hfits
  obtain ⟨-, hclean, -⟩ := hspeaks json hjson
  rw [lineOf, Framing.textOf_eq hjson] at h
  have hpart := part_of_line h hne
  refine Framing.readFrom_waits (fun hmem => hclean (hpart.subset hmem)) ?_ codec.fromSlice
  exact hpart.length_le.trans hlen.le

theorem packet_read (hspeaks : Speaks codec packet) (hfits : Fits codec packet)
    (h : unread cs = lineOf codec packet) :
    Framing.readFrom codec.fromSlice false cs = some (.ok packet, []) := by
  obtain ⟨json, hjson, hlen⟩ := hfits
  obtain ⟨hparse, hclean, -⟩ := hspeaks json hjson
  rw [lineOf, Framing.textOf_eq hjson] at h
  obtain ⟨rest, hread, hrest⟩ := Framing.readFrom_decodes hparse hclean hlen.le false cs []
    (by rw [h, List.append_nil])
  rw [hread, eq_nil_of_unread hrest]

theorem encodeInto_line (hfits : Fits codec packet) :
    Framing.encodeInto codec.toVec packet [] = (.ok (), lineOf codec packet) := by
  obtain ⟨json, hjson, hlen⟩ := hfits
  rw [Framing.encodeInto_ok hjson hlen.le, lineOf, Framing.textOf_eq hjson, List.nil_append]

end Introductions

/-! ## The handshake -/

namespace Setup

/-- Both hold the other's identity, and no byte is left over. -/
structure Greeted (g : Setup) (x : Duplex Party Octet) : Prop where
  dialer : (x.state .left).result = some (.ok g.acceptor)
  acceptor : (x.state .right).result = some (.ok g.dialer)
  ended : Ended x
  empty : ∀ side, (x.state side).chunks = [] ∧ (x.state side).buffered = [] ∧ x.wire side = []

def heard (g : Setup) (codec : Codec) : Side → Heard
  | .left =>
    { line := [], frame := lineOf codec g.acceptorPacket, plain := none, identity := g.acceptor }
  | .right =>
    { line := lineOf codec g.plainPacket, frame := lineOf codec g.dialerPacket
      plain := some g.dialer, identity := g.dialer }

variable {g : Setup} {codec : Codec} {tls : Tls}

/-- What each side will hear can be read, piece by piece. -/
theorem heard_readable (hspeaks : ∀ packet ∈ g.packets, Speaks codec packet)
    (hfits : ∀ packet ∈ g.packets, Fits codec packet) (hdialer : g.dialer.deviceId ≠ "")
    (hacceptor : g.acceptor.deviceId ≠ "") (side : Side) : (g.heard codec side).Readable codec := by
  simp only [packets, List.forall_mem_cons] at hspeaks hfits
  obtain ⟨hsplain, hsdialer, hsacceptor, -⟩ := hspeaks
  obtain ⟨hfplain, hfdialer, hfacceptor, -⟩ := hfits
  cases side with
  | left =>
    refine ⟨?_, nofun, fun cs more hne h => packet_waits hsacceptor hfacceptor h hne, ?_⟩
    · intro seen more hne h
      exact absurd (List.append_eq_nil_iff.mp h.symm).2 hne
    · intro cs h
      refine ⟨_, packet_read hsacceptor hfacceptor h, ?_⟩
      rw [Party.conclude, acceptorPacket, exchanged_identity hacceptor]
      rfl
  | right =>
    refine ⟨fun seen more hne h => plaintext_waits hsplain hfplain h hne, ?_,
      fun cs more hne h => packet_waits hsdialer hfdialer h hne, ?_⟩
    · rintro i ⟨⟩
      exact plaintext_read hsplain hfplain
    · intro cs h
      refine ⟨_, packet_read hsdialer hfdialer h, ?_⟩
      rw [Party.conclude, dialerPacket, exchanged_identity hdialer]
      simp only [heard, crossCheck_self]

/-- The dialer's stages before it reads the packet. -/
def dialerStages (g : Setup) (codec : Codec) (tls : Tls) : List Stage :=
  [.write ((lineOf codec g.plainPacket).map .plain), .flight tls.clientHello,
    .write (tls.serverAnswer.map .shake), .flight tls.clientFinished, .introduce g.dialerPacket]

/-- The acceptor's stages between the plaintext line and the packet. -/
def acceptorStages (g : Setup) (tls : Tls) : List Stage :=
  [.write (tls.clientHello.map .shake), .flight tls.serverAnswer,
    .write (tls.clientFinished.map .shake), .introduce g.acceptorPacket]

theorem start_left (hfits : Fits codec g.plainPacket) :
    (g.start codec tls).state .left = .new (g.dialerStages codec tls ++ [.readPacket]) := by
  obtain ⟨json, hjson, -⟩ := hfits
  simp only [start, dialControl, hjson, dialerStages, lineOf, Framing.textOf_eq hjson]
  rfl

theorem start_right : (g.start codec tls).state .right =
    .new (.plaintext :: (g.acceptorStages tls ++ [.readPacket])) := rfl

theorem acts_new (e : Heard) (todo : List Stage) :
    (Party.new todo).acts codec e = todo.flatMap (Stage.acts codec e.line e.frame) := rfl

/-- The plaintext line, the three flights in turn, and two packets that cross. -/
theorem start_completes (hfits : ∀ packet ∈ g.packets, Fits codec packet) :
    Dialogue.Completes (scripts codec (g.heard codec) (g.start codec tls)) := by
  simp only [packets, List.forall_mem_cons] at hfits
  obtain ⟨hplain, hdialer, hacceptor, -⟩ := hfits
  -- both write their packet before they read, so the packets cross
  have hcross := Dialogue.crossing ((lineOf codec g.dialerPacket).map Octet.secured)
    ((lineOf codec g.acceptorPacket).map Octet.secured)
  have hturns := Dialogue.message_left ((lineOf codec g.plainPacket).map Octet.plain)
    (Dialogue.message_right (tls.clientHello.map Octet.shake)
      (Dialogue.message_left (tls.serverAnswer.map Octet.shake)
        (Dialogue.message_right (tls.clientFinished.map Octet.shake) hcross)))
  convert hturns using 1
  refine Duplex.ext_sides .left ?_ ?_ ?_ rfl
  · simp only [scripts, start_left hplain, acts_new, dialerStages, Stage.acts,
      encodeInto_line hdialer, Dialogue.quiet, heard, List.cons_append, List.nil_append,
      List.flatMap_cons, List.flatMap_nil, List.append_nil]
  · simp only [scripts, Side.other, start_right, acts_new, acceptorStages, Stage.acts,
      encodeInto_line hacceptor, Dialogue.quiet, heard, List.cons_append, List.nil_append,
      List.flatMap_cons, List.flatMap_nil, List.append_nil]
  · simp only [scripts, start_left hplain]
    rfl

/-- Both sides set out with all their work before them. -/
theorem start_onCourse (hfits : ∀ packet ∈ g.packets, Fits codec packet) :
    OnCourse codec (g.heard codec) (g.start codec tls) := by
  refine ⟨?_, start_completes hfits⟩
  simp only [packets, List.forall_mem_cons] at hfits
  obtain ⟨hplain, hdialer, hacceptor, -⟩ := hfits
  have hline : ∀ packet, lineOf codec packet ≠ [] := fun packet => by simp [lineOf]
  intro side
  cases side with
  | left =>
    have hfine : ∀ s ∈ g.dialerStages codec tls, s.Fine codec := by
      simp [dialerStages, Stage.Fine, encodeInto_line hdialer]
    rw [start_left hplain]
    exact .securing rfl hfine ⟨⟨[], rfl⟩, rfl, ⟨_, hline g.acceptorPacket, rfl⟩, rfl⟩
  | right =>
    have hfine : ∀ s ∈ g.acceptorStages tls, s.Fine codec := by
      simp [acceptorStages, Stage.Fine, encodeInto_line hacceptor]
    rw [start_right]
    exact @Party.Sound.greeting _ _ _ _ [] _ _ rfl hfine rfl rfl (hline g.plainPacket) rfl
      (hline g.dialerPacket) rfl rfl rfl

end Setup

variable {codec : Codec}

theorem Party.Sound.line_plain {e : Heard} {p : Party} (h : p.Sound codec e) :
    ∀ octet ∈ p.line, ∃ b, octet = .plain b := by
  have hline : ∃ seen : List UInt8, p.line = seen.map .plain := by
    cases h with
    | greeting _ _ hline => exact ⟨_, hline⟩
    | securing _ _ htidy => exact htidy.line
    | finished _ hline => exact hline
  obtain ⟨seen, hseen⟩ := hline
  intro octet hoctet
  rw [hseen] at hoctet
  obtain ⟨b, -, rfl⟩ := List.mem_map.mp hoctet
  exact ⟨b, rfl⟩

/-- A party that has a result has the peer's identity. -/
theorem Party.Sound.result_ok {e : Heard} {p : Party} (h : p.Sound codec e) {r : Result Identity}
    (hr : p.result = some r) : r = .ok e.identity := by
  cases h with
  | greeting _ _ _ _ _ _ _ _ _ hresult => rw [hresult] at hr; cases hr
  | securing _ _ htidy => rw [htidy.result] at hr; cases hr
  | finished _ _ _ hresult => exact Option.some.inj (hr.symm.trans hresult)

/-- **The handshake completes.** However the connection cuts the bytes and in whatever order the
    parties are polled: never do both wait to read, only plaintext is read as plaintext, and
    neither fails; and once both have had enough turns, both hold the other's identity and no byte
    is left over. -/
theorem control_handshake_completes (codec : Codec) (tls : Tls) (g : Setup)
    (hspeaks : ∀ packet ∈ g.packets, Speaks codec packet)
    (hfits : ∀ packet ∈ g.packets, Fits codec packet) (hdialer : g.dialer.deviceId ≠ "")
    (hacceptor : g.acceptor.deviceId ≠ "") :
    (∀ moves, AllStates (step codec) (fun x =>
        ¬ (∀ side, (x.state side).Waits (x.wire side)) ∧
        (∀ side, ∀ octet ∈ (x.state side).line, ∃ b, octet = .plain b) ∧
        ∀ side err, (x.state side).result ≠ some (.error err)) (g.start codec tls) moves) ∧
    ∀ schedule, Fair Prod.fst schedule → ∃ k, ∀ j, k ≤ j →
      g.Greeted (after (step codec) (g.start codec tls) schedule j) := by
  have hheard := Setup.heard_readable hspeaks hfits hdialer hacceptor
  have hstart : OnCourse codec (g.heard codec) (g.start codec tls) := Setup.start_onCourse hfits
  have hstep : ∀ x move, OnCourse codec (g.heard codec) x →
      OnCourse codec (g.heard codec) (step codec x move) :=
    fun x move hx => hx.after_step hheard move
  refine ⟨fun moves => ?_, fun schedule hfair => ?_⟩
  · -- safety follows from the invariant, whatever the moves are
    have hcourse : AllStates (step codec) _ _ moves := allStates_of_preserved hstart hstep
    refine hcourse.mono fun x hx => ⟨fun hwaits => ?_, fun side => (hx.sound side).line_plain, ?_⟩
    · have hdone := hx.stuck (fun side => .inr (hwaits side)) .left
      have hleft := hwaits .left
      rw [Party.Waits, hdone] at hleft
      exact hleft
    · intro side err herr
      cases (hx.sound side).result_ok herr
  · -- under a fair schedule the work runs out
    obtain ⟨k, hk⟩ := fair_ends (totalWork codec (g.heard codec)) hstart hstep
      (fun x move hx => hx.moves hheard move) (fun x hx => hx.progress hheard) hfair
    refine ⟨k, fun j hkj => ?_⟩
    have hcourse : OnCourse codec _ (after _ _ schedule j) := after_invariant hstart hstep j
    have hdone : Ended (after (step codec) (g.start codec tls) schedule j) :=
      after_stable (fun x move hx => hx.after_step move) hkj hk
    exact ⟨(hcourse.finished (hdone .left)).1, (hcourse.finished (hdone .right)).1, hdone,
      fun side => (hcourse.finished (hdone side)).2⟩

open Handfast.Protocol.Framing (asciiBytes longNamed textBefore textBehind writeKnown parseKnown
  Known)

def laptopDials : Setup where
  dialer := { longNamed 5 with deviceId := "laptop" }
  acceptor := longNamed 5
  plainId := 1
  dialerId := 2
  acceptorId := 3

/-- The JSON text of an identity packet of this greeting. -/
def greetingText (id device : String) : List Char :=
  textBefore id device ++ List.replicate 5 'a' ++ textBehind

def greetingTexts : List (Packet × List Char) :=
  [(laptopDials.plainPacket, greetingText "1" "laptop"),
   (laptopDials.dialerPacket, greetingText "2" "laptop"),
   (laptopDials.acceptorPacket, greetingText "3" "phone")]

/-- `serde_json` on these three packets. -/
def greetingCodec : Codec where
  toVec := writeKnown greetingTexts
  fromSlice := parseKnown greetingTexts
  bodyError _ := "invalid type: null, expected struct Identity"

theorem greetingTexts_known : Known greetingTexts :=
  ⟨by decide, by decide +kernel, by decide +kernel⟩

/-- The parties take turns, and the connection delivers more each time. -/
def inTurn (k : Nat) : Side × Nat := (if k % 2 = 0 then .left else .right, k)

theorem control_handshake_completes_laptop :
    Fair Prod.fst inTurn ∧ ∃ k, ∀ j, k ≤ j → laptopDials.Greeted
      (after (step greetingCodec) (laptopDials.start greetingCodec ⟨[22, 1], [22, 2], [22, 20]⟩)
        inTurn j) := by
  have hfair : Fair Prod.fst inTurn := by
    intro side k
    cases side with
    | left => exact ⟨2 * k, by omega, by simp [inTurn]⟩
    | right => exact ⟨2 * k + 1, by omega, by simp [inTurn]⟩
  have hbrace : ∀ row ∈ greetingTexts, (asciiBytes row.2).head? = some openBrace := by
    decide +kernel
  have hshort : ∀ row ∈ greetingTexts, (asciiBytes row.2).length < Framing.maxPacketLen := by
    decide +kernel
  have hrows : laptopDials.packets = greetingTexts.map Prod.fst := rfl
  have hspeaks : ∀ packet ∈ laptopDials.packets, Speaks greetingCodec packet := by
    intro packet hpacket json hjson
    rw [hrows] at hpacket
    obtain ⟨row, hrow, rfl⟩ := List.mem_map.mp hpacket
    obtain ⟨hparse, hclean⟩ := greetingTexts_known.roundTrips hrow json hjson
    obtain rfl : asciiBytes row.2 = json :=
      Except.ok.inj ((greetingTexts_known.write hrow).symm.trans hjson)
    exact ⟨hparse, hclean, hbrace row hrow⟩
  have hfits : ∀ packet ∈ laptopDials.packets, Fits greetingCodec packet := by
    intro packet hpacket
    rw [hrows] at hpacket
    obtain ⟨row, hrow, rfl⟩ := List.mem_map.mp hpacket
    exact ⟨_, greetingTexts_known.write hrow, hshort row hrow⟩
  exact ⟨hfair, (control_handshake_completes greetingCodec ⟨[22, 1], [22, 2], [22, 20]⟩ laptopDials
    hspeaks hfits (by decide) (by decide)).2 inTurn hfair⟩

end Handfast.Daemon.Greeting
