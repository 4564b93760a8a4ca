/-
  Handfast.Ui.Readers

  The four readers of the daemon's device listing: the terminal interface and
  the desktop interface (`parse_devices` of `crates/tui/src/model.rs` and
  `crates/gui/src/model.rs`), the service menu of `hfctl filemanager update`,
  and `_devices` of the Python extension that
  `crates/tui/src/filemanager.rs` generates.

  The first three give the ids of the table with the announced names.  The
  extension reads the text `hfctl devices --json` prints; it looks for the id
  under the key `id`, which the listing does not have, and so finds nothing.

  How `serde_json` prints a value and how Python's `json` reads it are
  parameters; all that is asked of them is that the printed listing is read back.
-/
import Handfast.Ui.FileManager
import Handfast.Ui.Pairing

namespace Handfast.Ui

open Handfast.Daemon Handfast.Lib Handfast.Protocol Handfast.Ui.FileManager

/-- The pairs of `parse_devices` in the terminal interface. -/
def tuiPairs (payload : Value) : List (String × String) :=
  (parseDevices payload).map fun entry => (entry.id, entry.name)

/-- The pairs of `parse_devices` in the desktop interface, which is the same text. -/
def guiPairs (payload : Value) : List (String × String) :=
  (parseDevices payload).map fun card => (card.id, card.name)

/-! ## The extension -/

/-- The truth value of a JSON value in Python. -/
def truthy : Value → Bool
  | .null => false
  | .bool b => b
  | .number (.posInt n) => n ≠ 0
  | .number (.negInt i) => i ≠ 0
  | .number (.float q) => q ≠ 0
  | .string s => s ≠ ""
  | .array xs => !xs.isEmpty
  | .object fields => !fields.isEmpty

/-- `_devices`, on what the command has printed; `loads` is `json.loads`, with
    `none` for an exception. -/
def pythonDevices (loads : String → Option Value) (stdout : String) : List (Value × Value) :=
  match (loads (if stdout = "" then "[]" else stdout)).bind Value.asArray with
  -- nothing else has rows with a `get`
  | none => []
  | some rows =>
    if rows.all fun row => row.asObject.isSome then
      (rows.filter fun row => (row.get "id").any truthy).map fun row =>
        let id := row.get "id"
        (id.getD (.string ""), (row.get "name").getD (id.getD (.string "?")))
    else []

/-- What `hfctl devices --json` prints. -/
def printDevices (print : Value → String) (payload : Value) : String := print payload ++ "\n"

/-! ## Each reader against the table -/

/-- The table has a device with this id and announced name. -/
def Listed (m : Manager) (id name : String) : Prop :=
  ∃ state, m.devices.get id = some state ∧ state.identity.name = name

/-- Every reader of the listing finds the devices of the table. -/
structure ReadersAgree (m : Manager) (print : Value → String) (loads : String → Option Value) :
    Prop where
  tui : ∀ id name, (id, name) ∈ tuiPairs (.array m.snapshot) ↔ Listed m id name
  gui : ∀ id name, (id, name) ∈ guiPairs (.array m.snapshot) ↔ Listed m id name
  menu : ∀ id name, (id, name) ∈ menuDevices (.array m.snapshot) ↔ Listed m id name
  python : ∀ pair, pair ∈ pythonDevices loads (printDevices print (.array m.snapshot)) ↔
    ∃ id name, pair = (.string id, .string name) ∧ Listed m id name

variable {m : Manager} {print : Value → String} {loads : String → Option Value} {id name : String}

theorem mem_pairs_iff :
    (id, name) ∈ (m.devices.entries.map fun entry => (entry.1, entry.2.identity.name)) ↔
      Listed m id name := by
  constructor
  · intro hmem
    obtain ⟨⟨id', state⟩, hentry, hpair⟩ := List.mem_map.mp hmem
    cases hpair
    exact ⟨state, Table.mem_entries_iff.mp hentry, rfl⟩
  · rintro ⟨state, hget, rfl⟩
    exact List.mem_map.mpr ⟨(id, state), Table.mem_entries_iff.mpr hget, rfl⟩

theorem mem_menuDevices :
    (id, name) ∈ menuDevices (.array m.snapshot) ↔ Listed m id name := by
  rw [(menuDevices_snapshot m).mem_iff, mem_pairs_iff]

theorem mem_parsedPairs :
    (id, name) ∈ (parseDevices (.array m.snapshot)).map (fun entry => (entry.id, entry.name)) ↔
      Listed m id name := by
  rw [parseDevices_snapshot, List.map_map, ← mem_pairs_iff]
  exact ((List.perm_insertionSort _ m.devices.entries).map _).mem_iff

/-- No row of the listing has the key the extension looks for. -/
theorem get_id_of_snapshot {row : Value} (h : row ∈ m.snapshot) : row.get "id" = none := by
  obtain ⟨entry, -, rfl⟩ := List.mem_map.mp h
  rfl

theorem pythonDevices_snapshot
    (hjson : loads (printDevices print (.array m.snapshot)) = some (.array m.snapshot)) :
    pythonDevices loads (printDevices print (.array m.snapshot)) = [] := by
  have hstdout : printDevices print (.array m.snapshot) ≠ "" := by
    intro hempty
    have hlast := congrArg String.toList hempty
    simp [printDevices, String.toList_append] at hlast
  have hnone : m.snapshot.filter (fun row => (row.get "id").any truthy) = [] := by
    rw [List.filter_eq_nil_iff]
    intro row hrow
    rw [get_id_of_snapshot hrow]
    decide
  simp only [pythonDevices, if_neg hstdout, hjson, Option.bind_some, Value.asArray, hnone,
    List.map_nil, ite_self]

/-- **Readers of the device listing.** Whenever the printed listing is read back,
    the two interfaces, the service menu and the extension all find the ids of
    the table with the announced names exactly if the table is empty. -/
theorem readers_agree_iff (m : Manager) (print : Value → String) (loads : String → Option Value)
    (hjson : loads (printDevices print (.array m.snapshot)) = some (.array m.snapshot)) :
    ReadersAgree m print loads ↔ ∀ id, m.devices.get id = none := by
  constructor
  · intro h id
    cases hget : m.devices.get id with
    | none => rfl
    | some state =>
      have hmem := (h.python (.string id, .string state.identity.name)).mpr
        ⟨id, state.identity.name, rfl, state, hget, rfl⟩
      rw [pythonDevices_snapshot hjson] at hmem
      cases hmem
  · intro hempty
    refine ⟨fun id name => mem_parsedPairs, fun id name => mem_parsedPairs,
      fun id name => mem_menuDevices, fun pair => ?_⟩
    rw [pythonDevices_snapshot hjson]
    constructor
    · intro hmem
      cases hmem
    · rintro ⟨id, name, -, state, hget, -⟩
      rw [hempty id] at hget
      cases hget

/-- `json.loads` on the one text that is printed. -/
def loadsOnly (text : String) (payload : Value) (stdout : String) : Option Value :=
  if stdout = text ++ "\n" then some payload else none

/-- Before any device is known. -/
theorem readers_agree_empty :
    ReadersAgree (Manager.new .empty "desk" default (.dir "/d")) (fun _ => "[]")
      (loadsOnly "[]" (.array [])) :=
  (readers_agree_iff (Manager.new .empty "desk" default (.dir "/d")) _ _ rfl).mpr fun _ => rfl

def phoneKnown : Manager :=
  ((Manager.new .empty "desk" default (.dir "/d")).handle (.nominal 0)
    (.connected "phone" (Transport.uniform 0 7))).1

/-- The listing as `serde_json` prints it, with the keys in order. -/
def phoneListing : String :=
  "[\x7b\"capabilities_incoming\":[],\"capabilities_outgoing\":[],\"device_id\":\"phone\"," ++
    "\"name\":\"phone\",\"online\":true,\"paired\":false,\"type\":\"unknown\"\x7d]"

/-- One device: three readers list it, the extension does not. -/
theorem extension_lists_nothing :
    let payload := Value.array phoneKnown.snapshot
    let loads := loadsOnly phoneListing payload
    tuiPairs payload = [("phone", "phone")] ∧ menuDevices payload = [("phone", "phone")] ∧
      pythonDevices loads (printDevices (fun _ => phoneListing) payload) = [] ∧
      ¬ ReadersAgree phoneKnown (fun _ => phoneListing) loads := by
  intro payload loads
  have hmenu : menuDevices payload = [("phone", "phone")] := by decide
  have hpython : pythonDevices loads (printDevices (fun _ => phoneListing) payload) = [] :=
    pythonDevices_snapshot (if_pos rfl)
  refine ⟨by decide, hmenu, hpython, fun h => ?_⟩
  have hlisted : Listed phoneKnown "phone" "phone" := by
    rw [← mem_menuDevices, hmenu]
    exact List.mem_cons_self
  have hmem := (h.python (.string "phone", .string "phone")).mpr ⟨_, _, rfl, hlisted⟩
  rw [hpython] at hmem
  cases hmem

end Handfast.Ui
