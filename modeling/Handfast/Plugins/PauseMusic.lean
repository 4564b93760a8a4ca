/-
  Handfast.Plugins.PauseMusic

  The pause-music plugin over its whole history
  (`crates/plugins/src/pause_music.rs`).

  The players it knows are those some media packet has named, and it never
  forgets one.  The players `resumeAll` resumes are those a `pauseAll` since the
  last `resumeAll` asked to pause (`mem_pausedPlayers`).  A player that a later
  player list leaves out has vanished; the plugin keeps no trace of that, so a
  resume is for the players still there exactly when none of the paused ones
  has vanished.
-/
import Handfast.Lib.Trace
import Handfast.Plugins.Handlers

namespace Handfast.Plugins

open Handfast.Lib Handfast.Protocol

namespace Plugin

/-! ## Players it learns -/

def playersIn (body : Value) : List String :=
  (((body.get "playerList").bind Value.asArray).getD []).filterMap (fun entry =>
    entry.getStr "name") ++ (body.getStr "player").toList

/-- Entries without a name drop out of the fold. -/
theorem foldl_named {learn : PauseMusicPlugin → Value → PauseMusicPlugin}
    (hlearn : ∀ q entry, learn q entry = (entry.getStr "name").elim q q.rememberPlayer)
    (entries : List Value) (q : PauseMusicPlugin) :
    entries.foldl learn q = (entries.filterMap fun entry => entry.getStr "name").foldl
      PauseMusicPlugin.rememberPlayer q := by
  induction entries generalizing q with
  | nil => rfl
  | cons entry entries ih =>
    rw [List.foldl_cons, ih, hlearn, List.filterMap_cons]
    cases entry.getStr "name" with
    | none => rfl
    | some name => rfl

theorem learnPlayers_eq (p : PauseMusicPlugin) (body : Value) :
    p.learnPlayers body = (playersIn body).foldl PauseMusicPlugin.rememberPlayer p := by
  rw [PauseMusicPlugin.learnPlayers, playersIn, List.foldl_append, foldl_named]
  · cases body.getStr "player" with
    | none => rfl
    | some name => rfl
  · intro q entry
    cases entry.getStr "name" with
    | none => rfl
    | some name => rfl

variable {p : PauseMusicPlugin}

theorem mem_knownPlayers_foldl {names : List String} {name : String} :
    name ∈ (names.foldl PauseMusicPlugin.rememberPlayer p).knownPlayers ↔
      name ∈ p.knownPlayers ∨ name ∈ names ∧ name ≠ "" := by
  induction names generalizing p with
  | nil => simp
  | cons first names ih =>
    -- an empty name is not remembered
    have hfirst : name ∈ (p.rememberPlayer first).knownPlayers ↔
        name ∈ p.knownPlayers ∨ name = first ∧ name ≠ "" := by
      unfold PauseMusicPlugin.rememberPlayer
      split
      · rename_i hempty
        subst hempty
        simp
      · rename_i hne
        rw [Finset.mem_insert]
        constructor
        · rintro (rfl | hknown)
          · exact .inr ⟨rfl, hne⟩
          · exact .inl hknown
        · rintro (hknown | ⟨rfl, -⟩)
          · exact .inr hknown
          · exact .inl rfl
    rw [List.foldl_cons, ih, hfirst, List.mem_cons, or_and_right, or_assoc]

theorem pausedPlayers_foldl (p : PauseMusicPlugin) (names : List String) :
    (names.foldl PauseMusicPlugin.rememberPlayer p).pausedPlayers = p.pausedPlayers := by
  induction names generalizing p with
  | nil => rfl
  | cons first names ih =>
    rw [List.foldl_cons, ih, PauseMusicPlugin.rememberPlayer]
    split <;> rfl

/-- Only players it does not know yet change the plugin. -/
theorem learnPlayers_eq_self {body : Value} :
    p.learnPlayers body = p ↔ ∀ name ∈ playersIn body, name ≠ "" → name ∈ p.knownPlayers := by
  rw [learnPlayers_eq]
  constructor
  · intro hsame name hname hne
    rw [← hsame]
    exact mem_knownPlayers_foldl.mpr (.inr ⟨hname, hne⟩)
  · intro hknown
    have hset : ((playersIn body).foldl PauseMusicPlugin.rememberPlayer p).knownPlayers =
        p.knownPlayers := by
      ext name
      rw [mem_knownPlayers_foldl]
      exact or_iff_left_of_imp fun h => hknown name h.1 h.2
    have hpaused := pausedPlayers_foldl p (playersIn body)
    cases hp : (playersIn body).foldl PauseMusicPlugin.rememberPlayer p with
    | mk known paused =>
      rw [hp] at hset hpaused
      cases p
      exact congrArg₂ PauseMusicPlugin.mk hset hpaused

end Plugin

namespace PauseMusicPlugin

open Plugin (playersIn learnPlayers_eq mem_knownPlayers_foldl pausedPlayers_foldl)

/-! ## Histories -/

inductive Op where
  | packet (pkt : Packet)
  | pauseAll (amb : Ambient)
  | resumeAll (amb : Ambient)

def step (self : PauseMusicPlugin) : Op → PauseMusicPlugin
  | .packet pkt => (self.handle pkt).1
  | .pauseAll amb => (self.pauseAll amb).1
  | .resumeAll amb => (self.resumeAll amb).1

def Op.Names (player : String) : Op → Prop
  | .packet pkt => pkt.ptype = typeMpris ∧ player ∈ playersIn pkt.body
  | _ => False

def Op.Lists : Op → Prop
  | .packet pkt => pkt.ptype = typeMpris ∧
      ((pkt.body.get "playerList").bind Value.asArray).isSome
  | _ => False

/-- Some `pauseAll` after the last `resumeAll` asked the player to pause. -/
def PausedSince (ops : List Op) (player : String) : Prop :=
  ∃ before amb after, ops = before ++ .pauseAll amb :: after ∧
    (∀ amb', .resumeAll amb' ∉ after) ∧
    ∃ id, transportRequest id player "Pause" ∈ ((run step new before).pauseAll amb).2

/-- A list of players came after the player was learned, and neither the last
    such packet nor a later one names it. -/
def Vanished (ops : List Op) (player : String) : Prop :=
  ∃ before list after, ops = before ++ list :: after ∧ list.Lists ∧
    (∀ op ∈ after, ¬ op.Lists) ∧ (∃ op ∈ before, op.Names player) ∧
    ∀ op ∈ list :: after, ¬ op.Names player

/-- A `resumeAll` after this history plays these players, each once and in order,
    and no other. -/
def Resumes (who : List Op → String → Prop) (ops : List Op) (amb : Ambient) : Prop :=
  ∃ players : List String, players.Pairwise (· < ·) ∧
    (∀ player, player ∈ players ↔ who ops player) ∧
    ((run step new ops).resumeAll amb).2 = transportRequests amb players "Play"

/-- It plays the paused players that have not vanished. -/
def ResumesPaused : List Op → Ambient → Prop :=
  Resumes fun ops player => PausedSince ops player ∧ ¬ Vanished ops player

/-- A condition on every `resumeAll` of a history. -/
def EachResume (P : List Op → Ambient → Prop) (ops : List Op) : Prop :=
  ∀ before amb after, ops = before ++ .resumeAll amb :: after → P before amb

variable {ops : List Op} {player action : String} {amb : Ambient} {players : List String}

/-! ## Requests -/

theorem players_of_requests (amb : Ambient) (players : List String) (action : String) :
    (transportRequests amb players action).map (fun pkt => pkt.body.getStr "player") =
      players.map some := by
  apply List.ext_getElem
  · simp [transportRequests]
  · intro i hi hi'
    simp [transportRequests, transportRequest, Packet.new]

theorem requests_inj {players' : List String}
    (h : transportRequests amb players action = transportRequests amb players' action) :
    players = players' := by
  have hnames := congrArg (List.map fun pkt => pkt.body.getStr "player") h
  rw [players_of_requests, players_of_requests] at hnames
  exact List.map_injective_iff.mpr (Option.some_injective String) hnames

theorem mem_requests :
    (∃ id, transportRequest id player action ∈ transportRequests amb players action) ↔
      player ∈ players := by
  constructor
  · rintro ⟨id, hmem⟩
    have hname := List.mem_map_of_mem (f := fun pkt => pkt.body.getStr "player") hmem
    rw [players_of_requests] at hname
    simpa [transportRequest, Packet.new] using hname
  · intro hmem
    obtain ⟨i, hi, rfl⟩ := List.mem_iff_getElem.mp hmem
    exact ⟨_, List.mem_mapIdx.mpr ⟨i, hi, rfl⟩⟩

theorem mem_sortedNames {names : Finset String} : player ∈ sortedNames names ↔ player ∈ names :=
  Finset.mem_sort _

theorem sortedNames_sorted (names : Finset String) : (sortedNames names).Pairwise (· < ·) :=
  Finset.sortedLT_sort names |>.pairwise

/-! ## What the players are after a history -/

theorem mem_foldl_insert {names : List String} {paused : Finset String} :
    player ∈ names.foldl (fun paused name => insert name paused) paused ↔
      player ∈ names ∨ player ∈ paused := by
  induction names generalizing paused with
  | nil => simp
  | cons name names ih =>
    rw [List.foldl_cons, ih, Finset.mem_insert, List.mem_cons, or_left_comm, or_assoc]

/-- A step pauses the known players, resumes all paused ones or keeps them. -/
theorem mem_pausedPlayers_step (self : PauseMusicPlugin) (op : Op) :
    player ∈ (self.step op).pausedPlayers ↔
      (∃ amb, op = .pauseAll amb ∧ player ∈ self.knownPlayers) ∨
        (∀ amb, op ≠ .resumeAll amb) ∧ player ∈ self.pausedPlayers := by
  cases op with
  | packet pkt =>
    have hkept : (self.handle pkt).1.pausedPlayers = self.pausedPlayers := by
      unfold handle
      split
      · rw [learnPlayers_eq]
        exact pausedPlayers_foldl self _
      · rfl
    simp [step, hkept]
  | pauseAll amb => simp [step, pauseAll, mem_foldl_insert, mem_sortedNames]
  | resumeAll amb => simp [step, resumeAll]

/-- How the last operation of a history decides. -/
theorem pausedSince_snoc (op : Op) :
    PausedSince (ops ++ [op]) player ↔
      (∃ amb, op = .pauseAll amb ∧ player ∈ (run step new ops).knownPlayers) ∨
        (∀ amb, op ≠ .resumeAll amb) ∧ PausedSince ops player := by
  have hasked : ∀ (before : List Op) (amb : Ambient),
      (∃ id, transportRequest id player "Pause" ∈ ((run step new before).pauseAll amb).2) ↔
        player ∈ (run step new before).knownPlayers :=
    fun before amb => mem_requests.trans mem_sortedNames
  constructor
  · rintro ⟨before, amb, after, hops, hlast, hid⟩
    -- the pause is the last operation or an earlier one
    rcases append_singleton_eq_iff.mp hops with ⟨rfl, rfl, -⟩ | ⟨after', rfl, rfl⟩
    · exact .inl ⟨amb, rfl, (hasked _ _).mp hid⟩
    · refine .inr ⟨?_, before, amb, after', rfl, ?_, hid⟩
      · rintro amb' rfl
        exact hlast amb' (by simp)
      · intro amb' hmem
        exact hlast amb' (List.mem_append_left _ hmem)
  · rintro (⟨amb, rfl, hknown⟩ | ⟨hop, before, amb, after, rfl, hlast, hid⟩)
    · exact ⟨ops, amb, [], rfl, by simp, (hasked _ _).mpr hknown⟩
    · refine ⟨before, amb, after ++ [op], by simp, ?_, hid⟩
      intro amb' hmem
      rcases List.mem_append.mp hmem with hmem | hmem
      · exact hlast amb' hmem
      · exact hop amb' (List.mem_singleton.mp hmem).symm

/-- The remembered players are those paused since the last resume. -/
theorem mem_pausedPlayers (ops : List Op) (player : String) :
    player ∈ (run step new ops).pausedPlayers ↔ PausedSince ops player := by
  induction ops using List.reverseRecOn with
  | nil =>
    constructor
    · intro h
      simp [run, new] at h
    · rintro ⟨before, amb, after, hops, -⟩
      simp at hops
  | append_singleton ops op ih =>
    rw [run_append, run_cons, run_nil, mem_pausedPlayers_step, pausedSince_snoc, ih]

/-- Every player paused since the last resume is played, whether it vanished or not. -/
theorem resumes_pausedSince (ops : List Op) (amb : Ambient) : Resumes PausedSince ops amb :=
  ⟨sortedNames (run step new ops).pausedPlayers, sortedNames_sorted _,
    fun player => mem_sortedNames.trans (mem_pausedPlayers ops player), rfl⟩

/-- A resume is for the players still there exactly if none of the paused ones has vanished. -/
theorem resumesPaused_iff (ops : List Op) (amb : Ambient) :
    ResumesPaused ops amb ↔ ∀ player, PausedSince ops player → ¬ Vanished ops player := by
  obtain ⟨paused, hsorted, hpaused, hsent⟩ := resumes_pausedSince ops amb
  constructor
  · -- the requests tell which players they are for, and those are all that were paused
    rintro ⟨players, -, hmem, hsent'⟩ player hplayer
    obtain rfl := requests_inj (hsent.symm.trans hsent')
    exact ((hmem player).mp ((hpaused player).mpr hplayer)).2
  · intro hthere
    refine ⟨paused, hsorted, fun player => ?_, hsent⟩
    rw [hpaused]
    exact ⟨fun h => ⟨h, hthere player h⟩, And.left⟩

/-- **Resumed players.** In a history every `resumeAll` plays the players paused since
    the last one, and no other.  It plays just those of them that have not vanished
    exactly if at every `resumeAll` none of them has. -/
theorem resumes_while_listed (ops : List Op) :
    EachResume (Resumes PausedSince) ops ∧
      (EachResume ResumesPaused ops ↔
        EachResume (fun before _ => ∀ player, PausedSince before player → ¬ Vanished before player)
          ops) := by
  refine ⟨fun before amb after _ => resumes_pausedSince before amb, ?_⟩
  unfold EachResume
  simp only [resumesPaused_iff]

def playerList (players : List String) : Packet :=
  .new 0 typeMpris (.object [("playerList",
    .array (players.map fun player => .object [("name", .string player)]))])

/-- A player is paused and is gone from the next list; it is resumed all the same. -/
theorem resumes_vanished :
    ¬ EachResume ResumesPaused
      [.packet (playerList ["spotify"]), .pauseAll ⟨0, none, 0⟩, .packet (playerList ["mpv"]),
        .resumeAll ⟨0, none, 1⟩] := by
  intro h
  have hresumed := h [.packet (playerList ["spotify"]), .pauseAll ⟨0, none, 0⟩,
    .packet (playerList ["mpv"])] ⟨0, none, 1⟩ [] rfl
  rw [resumesPaused_iff] at hresumed
  refine hresumed "spotify" ?_ ?_
  · -- paused by the only `pauseAll`
    refine ⟨[.packet (playerList ["spotify"])], ⟨0, none, 0⟩, [.packet (playerList ["mpv"])], rfl,
      by simp, mem_requests.mpr (mem_sortedNames.mpr ?_)⟩
    decide
  · -- and left out by the second list
    refine ⟨[.packet (playerList ["spotify"]), .pauseAll ⟨0, none, 0⟩],
      .packet (playerList ["mpv"]), [], rfl, ?_, by simp, ?_, ?_⟩
    · exact ⟨rfl, rfl⟩
    · exact ⟨_, List.mem_cons_self, rfl, by decide⟩
    · simp only [List.mem_singleton, forall_eq]
      rintro ⟨-, hnamed⟩
      exact absurd hnamed (by decide)

end PauseMusicPlugin
end Handfast.Plugins
