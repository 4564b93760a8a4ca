/-
  Handfast.Plugins.CommandTable

  The command table of the run-commands plugin over its whole history
  (`crates/plugins/src/run_commands.rs`).

  The table is set by `set_commands` and by the peer's command lists.  What an
  operation puts in its place is `update`, stated on the JSON body: a list that
  is empty clears the table, one without a usable entry is ignored, and any
  other one replaces the table by its usable entries.  The last update of a
  history decides (`get_run`); `List.lookup` in the reversed list of pairs is the
  last pair with a name.
-/
import Handfast.Lib.Trace
import Handfast.Plugins.Handlers

namespace Handfast.Plugins.RunCommandsPlugin

open Handfast.Lib Handfast.Protocol

inductive Op where
  | setCommands (commands : List (String × String))
  | packet (amb : Ambient) (pkt : Packet)

def step (self : RunCommandsPlugin) : Op → RunCommandsPlugin
  | .setCommands commands => self.setCommands commands
  | .packet amb pkt => (self.handle amb pkt).1

/-! ## What an operation replaces the table by -/

/-- An entry of a command list with a non-empty name and a non-empty command. -/
def usableEntry (entry : Value) : Option (String × String) :=
  match entry.get "name", entry.get "command" with
  | some (.string name), some (.string command) =>
    if name ≠ "" ∧ command ≠ "" then some (name, command) else none
  | _, _ => none

def syncedPairs (body : Value) : Option (List (String × String)) :=
  match body.get "commandList" with
  | some (.array entries) =>
    if entries = [] ∨ ∃ entry ∈ entries, (usableEntry entry).isSome then
      some (entries.filterMap usableEntry)
    else none
  | _ => none

/-- The pairs an effective update brings; `none` for an operation that is not one. -/
def update : Op → Option (List (String × String))
  | .setCommands commands => some commands
  | .packet _ pkt => if pkt.ptype = typeRuncommand then syncedPairs pkt.body else none

/-- The command of the last pair with a name, in the last effective update of a history. -/
def bound (ops : List Op) (name : String) : Option String :=
  (ops.filterMap update).getLast?.bind fun pairs => pairs.reverse.lookup name

variable {self : RunCommandsPlugin} {amb : Ambient} {pkt : Packet} {ops : List Op}

theorem usableField_eq_some {v : Value} {key s : String} :
    usableField v key = some s ↔ v.get key = some (.string s) ∧ s ≠ "" := by
  unfold usableField Value.getStr
  cases v.get key with
  | none => simp
  | some field => cases field <;> simp [Value.asStr, Option.filter_eq_some_iff]

theorem usableEntry_eq_some {entry : Value} {name command : String} :
    usableEntry entry = some (name, command) ↔
      (entry.get "name" = some (.string name) ∧ name ≠ "") ∧
        (entry.get "command" = some (.string command) ∧ command ≠ "") := by
  unfold usableEntry
  split
  · rename_i n c hn hc
    simp only [hn, hc]
    aesop
  · rename_i hno
    constructor
    · intro h
      cases h
    · rintro ⟨⟨hn, -⟩, hc, -⟩
      exact absurd hc (hno name command hn)

theorem parseEntry_eq (entry : Value) : parseEntry entry = usableEntry entry := by
  apply Option.ext
  rintro ⟨name, command⟩
  simp only [usableEntry_eq_some, ← usableField_eq_some, parseEntry]
  cases usableField entry "name" <;> cases usableField entry "command" <;> simp

/-- The guard of `handle_sync` keeps the table exactly for a list that is not effective. -/
theorem ignored_iff {entries : List Value} :
    (entries.isEmpty = false ∧ (entries.filterMap usableEntry).isEmpty = true) ↔
      ¬ (entries = [] ∨ ∃ entry ∈ entries, (usableEntry entry).isSome) := by
  simp only [List.isEmpty_eq_false_iff, List.isEmpty_iff, List.filterMap_eq_nil_iff, not_or,
    not_exists, not_and, Option.not_isSome_iff_eq_none, ne_eq]

/-- A sync replaces the table by its pairs, if it is effective. -/
theorem handleSync_eq (self : RunCommandsPlugin) (pkt : Packet) :
    self.handleSync pkt = (syncedPairs pkt.body).elim self self.setCommands := by
  have hparse : parseEntry = usableEntry := funext parseEntry_eq
  unfold handleSync syncedPairs
  cases hlist : pkt.body.get "commandList" with
  | none => rfl
  | some field =>
    cases field with
    | array entries =>
      simp only [Option.bind_some, Value.asArray, hparse]
      -- an empty list clears the table; one with malformed entries only is ignored
      by_cases hkeep : entries = [] ∨ ∃ entry ∈ entries, (usableEntry entry).isSome
      · rw [if_pos hkeep, if_neg (mt ignored_iff.mp (not_not_intro hkeep))]
        rfl
      · rw [if_neg hkeep, if_pos (ignored_iff.mpr hkeep)]
        rfl
    | _ => rfl

/-! ## One operation, then a history -/

theorem step_eq (self : RunCommandsPlugin) (op : Op) :
    self.step op = (update op).elim self self.setCommands := by
  cases op with
  | setCommands commands => rfl
  | packet amb pkt =>
    simp only [step, handle, update]
    by_cases hreq : pkt.ptype = typeRuncommandRequest
    · -- a request only reads the table
      rw [if_pos hreq, if_neg (by rw [hreq]; decide)]
      rfl
    rw [if_neg hreq]
    by_cases hsync : pkt.ptype = typeRuncommand
    · rw [if_pos hsync, if_pos hsync]
      exact handleSync_eq self pkt
    · rw [if_neg hsync, if_neg hsync]
      rfl

/-- Setting the table forgets what was there, so the last of several updates decides. -/
theorem run_setCommands (updates : List (List (String × String))) (self : RunCommandsPlugin) :
    run setCommands self updates = updates.getLast?.elim self self.setCommands := by
  induction updates generalizing self with
  | nil => rfl
  | cons pairs updates ih =>
    rw [run_cons, ih, List.getLast?_cons]
    cases updates.getLast? <;> rfl

theorem run_eq (ops : List Op) (self : RunCommandsPlugin) :
    run step self ops = (ops.filterMap update).getLast?.elim self self.setCommands := by
  rw [← run_setCommands]
  -- operations that are not updates drop out of the run
  exact run_filterMap id setCommands update (fun s op _ => step_eq s op) self

/-- **The last effective update decides.** -/
theorem get_run (ops : List Op) (name : String) :
    (run step new ops).commands.get name = bound ops name := by
  rw [run_eq, bound]
  cases (ops.filterMap update).getLast? with
  | none => rfl
  | some pairs =>
    simp only [Option.elim_some, Option.bind_some, setCommands, Table.get_insertAll,
      Table.get_empty, Option.or_none]

/-! ## Requests -/

/-- A request for a bound command is answered by its echo, any other one by nothing. -/
theorem handleRequest_eq (self : RunCommandsPlugin) (amb : Ambient) (pkt : Packet) :
    (∀ name command, pkt.body.get "name" = some (.string name) → name ≠ "" →
      self.commands.get name = some command →
      self.handleRequest amb pkt = [.new amb.freshId typeRuncommandRequest (.object
        [("name", .string name), ("command", .string command)])]) ∧
    ((∀ name, pkt.body.get "name" = some (.string name) → name ≠ "" →
      self.commands.get name = none) → self.handleRequest amb pkt = []) := by
  constructor
  · intro name command hname hne hbound
    have husable := usableField_eq_some.mpr ⟨hname, hne⟩
    simp only [handleRequest, husable, hbound]
  · intro hnone
    unfold handleRequest
    cases husable : usableField pkt.body "name" with
    | none => rfl
    | some name =>
      obtain ⟨hname, hne⟩ := usableField_eq_some.mp husable
      simp only [hnone name hname hne]

/-- **The command table.** After any history the table binds each name to the
    command of its last pair in the last effective update.  A request then
    returns one echo if its name is a non-empty string the table binds, and
    nothing otherwise; and no packet but a command list changes the table. -/
theorem table_of_history (ops : List Op) :
    (∀ name, (run step new ops).commands.get name = bound ops name) ∧
    (∀ (amb : Ambient) (pkt : Packet), pkt.ptype = typeRuncommandRequest →
      (∀ name command, pkt.body.get "name" = some (.string name) → name ≠ "" →
        bound ops name = some command →
        ((run step new ops).handle amb pkt).2 = [.new amb.freshId typeRuncommandRequest (.object
          [("name", .string name), ("command", .string command)])]) ∧
      ((∀ name, pkt.body.get "name" = some (.string name) → name ≠ "" → bound ops name = none) →
        ((run step new ops).handle amb pkt).2 = [])) ∧
    (∀ (amb : Ambient) (pkt : Packet), pkt.ptype ≠ typeRuncommand →
      ((run step new ops).handle amb pkt).1 = run step new ops) := by
  refine ⟨get_run ops, fun amb pkt hreq => ?_, fun amb pkt hother => ?_⟩
  · have hreply := handleRequest_eq (run step new ops) amb pkt
    simp only [get_run] at hreply
    rw [handle, if_pos hreq]
    exact hreply
  · have hstep := step_eq (run step new ops) (.packet amb pkt)
    rw [update, if_neg hother] at hstep
    exact hstep

/-- A list with one usable entry among others, then one with none. -/
example :
    bound [.packet ⟨0, none, 0⟩ (.new 1 typeRuncommand (.object [("commandList", .array
        [.null, .object [("name", .string "lock"), ("command", .string "loginctl")]])])),
      .packet ⟨0, none, 1⟩ (.new 2 typeRuncommand (.object [("commandList", .array
        [.object [("name", .string "off")]])]))] "lock" = some "loginctl" := by
  decide

end Handfast.Plugins.RunCommandsPlugin
