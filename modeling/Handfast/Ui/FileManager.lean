/-
  Handfast.Ui.FileManager

  The Dolphin service menu that `hfctl filemanager update` generates
  (`crates/tui/src/filemanager.rs`): one action for each device of the daemon's
  list, and one that asks.  Ids and names are put into the text as they are.

  `menuBlocks` says which groups the file is meant to have.  A newline in a name
  adds lines of its own to the group of the device; as long as none of them is a
  header, every reader finds exactly these groups (`read_servicemenu`).  What
  the actions run is then as meant if and only if no added line is a command and
  no id is cut where lists or commands are.
-/
import Handfast.Daemon.Manager
import Handfast.Lib.DesktopFile

namespace Handfast.Ui.FileManager

open Handfast.Lib.DesktopFile Handfast.Protocol
open Handfast.Daemon (Manager)

/-! ## The generator -/

/-- The devices of the daemon's answer, with id and name (`update`). -/
def menuDevices (payload : Value) : List (String × String) :=
  (payload.asArray.getD []).filterMap fun row => do
    -- the legacy spelling of the key is accepted too
    let key ← (row.get "device_id").or (row.get "id")
    let id ← key.asStr
    return (id, ((row.get "name").bind Value.asStr).getD id)

def actionKey (id : String) : String := s!"send_to_{id}"

def actionText (bin : String) (device : String × String) : String :=
  "\n[Desktop Action " ++ actionKey device.1 ++ "]\nName=Send to " ++ device.2 ++
    "\nIcon=document-send\nExec=" ++ bin ++ " send -d " ++ device.1 ++ " %F"

/-- The text of the service menu; `bin` is the path of `hfctl`. -/
def dolphinServicemenu (bin : String) (devices : List (String × String)) : String :=
  let actionList := devices.foldl (fun list device => list ++ (actionKey device.1 ++ ";")) "" ++
    "send_pick;"
  let out := "[Desktop Entry]\n" ++ "Type=Service\n" ++ "ServiceTypes=KonqPopupMenu/Plugin\n" ++
    "MimeType=all/all;\n" ++ ("Actions=" ++ actionList ++ "\n") ++ "X-KDE-Priority=TopLevel\n" ++
    "\n" ++ ("[Desktop Action send_pick]\nName=Send via Handfast…\nIcon=document-send\nExec=" ++
      bin ++ " send --pick %F")
  devices.foldl (fun out device => out ++ actionText bin device) out

/-- The daemon's listing gives every device of the table, under its id and announced name. -/
theorem menuDevices_snapshot (m : Manager) :
    (menuDevices (.array m.snapshot)).Perm
      (m.devices.entries.map fun entry => (entry.1, entry.2.identity.name)) := by
  have hrows : menuDevices (.array m.snapshot) =
      (m.devices.entries.insertionSort fun a b => a.2.identity.name ≤ b.2.identity.name).map
        fun entry => (entry.1, entry.2.identity.name) := by
    rw [menuDevices, Manager.snapshot, Value.asArray, Option.getD_some, List.filterMap_map]
    exact congrFun List.filterMap_eq_map' _
  rw [hrows]
  exact (List.perm_insertionSort _ _).map _

/-! ## What the file is meant to hold -/

def actionKeys (devices : List (String × String)) : List String :=
  devices.map (fun device => actionKey device.1) ++ ["send_pick"]

def listValue (items : List String) : String :=
  String.ofList (items.flatMap fun item => item.toList ++ [';'])

def commandLine (words : List String) : String :=
  String.ofList ([' '].intercalate (words.map String.toList))

def entryBlock (devices : List (String × String)) : Block where
  name := "Desktop Entry"
  body :=
    [lineOf "Type" "Service", lineOf "ServiceTypes" "KonqPopupMenu/Plugin",
     lineOf "MimeType" "all/all;", lineOf "Actions" (listValue (actionKeys devices)),
     lineOf "X-KDE-Priority" "TopLevel", []]

def actionBlock (key name : String) (command : List String) : Block where
  name := "Desktop Action " ++ key
  body :=
    [lineOf "Name" name, lineOf "Icon" "document-send", lineOf "Exec" (commandLine command)]

def deviceBlock (bin : String) (device : String × String) : Block :=
  actionBlock (actionKey device.1) ("Send to " ++ device.2) [bin, "send", "-d", device.1, "%F"]

def pickBlock (bin : String) : Block :=
  actionBlock "send_pick" "Send via Handfast…" [bin, "send", "--pick", "%F"]

def menuBlocks (bin : String) (devices : List (String × String)) : List Block :=
  entryBlock devices :: pickBlock bin :: devices.map (deviceBlock bin)

/-! ## The text -/

theorem toList_foldl_append {α : Type} (f : α → String) (xs : List α) (out : String) :
    (xs.foldl (fun out x => out ++ f x) out).toList = out.toList ++ xs.flatMap (f · |>.toList) := by
  induction xs generalizing out with
  | nil => simp
  | cons x xs ih => simp [ih]

theorem actionText_lines (bin : String) (device : String × String) :
    (actionText bin device).toList =
      (deviceBlock bin device).text.flatMap fun line => '\n' :: line := by
  -- the literals, cut where lines, keys and words begin
  have hopen : "\n[Desktop Action ".toList = '\n' :: '[' :: "Desktop Action ".toList := by decide
  have hname : "]\nName=Send to ".toList =
      ']' :: '\n' :: "Name".toList ++ '=' :: "Send to ".toList := by decide
  have hicon : "\nIcon=document-send\nExec=".toList =
      '\n' :: "Icon".toList ++ '=' :: "document-send".toList ++ '\n' :: "Exec".toList ++ ['='] := by
    decide
  have hsend : " send -d ".toList = ' ' :: "send".toList ++ ' ' :: "-d".toList ++ [' '] := by decide
  have hfile : " %F".toList = ' ' :: "%F".toList := by decide
  unfold actionText deviceBlock actionBlock Block.text commandLine
  simp only [lineOf, String.toList_append, String.toList_ofList, List.flatMap_cons,
    List.flatMap_nil, List.map_cons, List.map_nil, List.intercalate_cons_cons,
    List.intercalate_singleton, hopen, hname, hicon, hsend, hfile, List.cons_append,
    List.append_assoc, List.nil_append, List.append_nil]

theorem pickText_lines (bin : String) :
    '\n' :: ("[Desktop Action send_pick]\nName=Send via Handfast…\nIcon=document-send\nExec=" ++
      bin ++ " send --pick %F").toList = (pickBlock bin).text.flatMap fun line => '\n' :: line := by
  have hopen :
      "[Desktop Action send_pick]\nName=Send via Handfast…\nIcon=document-send\nExec=".toList =
        '[' :: "Desktop Action ".toList ++ "send_pick".toList ++ ']' :: '\n' :: "Name".toList ++
        '=' :: "Send via Handfast…".toList ++ '\n' :: "Icon".toList ++ '=' ::
        "document-send".toList ++ '\n' :: "Exec".toList ++ ['='] := by decide
  have hpick : " send --pick %F".toList =
      ' ' :: "send".toList ++ ' ' :: "--pick".toList ++ ' ' :: "%F".toList := by decide
  unfold pickBlock actionBlock Block.text commandLine
  simp only [lineOf, String.toList_append, String.toList_ofList, List.flatMap_cons,
    List.flatMap_nil, List.map_cons, List.map_nil, List.intercalate_cons_cons,
    List.intercalate_singleton, hopen, hpick, List.cons_append, List.append_assoc,
    List.nil_append, List.append_nil]

theorem actionList_toList (devices : List (String × String)) :
    (devices.foldl (fun list device => list ++ (actionKey device.1 ++ ";")) "" ++
      "send_pick;").toList = (listValue (actionKeys devices)).toList := by
  have hpick : "send_pick;".toList = "send_pick".toList ++ [';'] := by decide
  rw [String.toList_append, toList_foldl_append, listValue, actionKeys, List.flatMap_append,
    List.flatMap_map, hpick]
  simp only [String.toList_append, String.toList_ofList, List.flatMap_singleton]
  rfl

/-- The text of the source is the head block, line by line. -/
theorem entryText_lines (devices : List (String × String)) :
    ("[Desktop Entry]\n" ++ "Type=Service\n" ++ "ServiceTypes=KonqPopupMenu/Plugin\n" ++
      "MimeType=all/all;\n" ++ ("Actions=" ++
        (devices.foldl (fun list device => list ++ (actionKey device.1 ++ ";")) "" ++
          "send_pick;") ++ "\n") ++ "X-KDE-Priority=TopLevel\n").toList =
      ['\n'].intercalate (entryBlock devices).text := by
  have hopen : "[Desktop Entry]\n".toList = '[' :: "Desktop Entry".toList ++ [']', '\n'] := by
    decide
  have htype : "Type=Service\n".toList = "Type".toList ++ '=' :: "Service".toList ++ ['\n'] := by
    decide
  have hservice : "ServiceTypes=KonqPopupMenu/Plugin\n".toList =
      "ServiceTypes".toList ++ '=' :: "KonqPopupMenu/Plugin".toList ++ ['\n'] := by decide
  have hmime : "MimeType=all/all;\n".toList =
      "MimeType".toList ++ '=' :: "all/all;".toList ++ ['\n'] := by decide
  have hactions : "Actions=".toList = "Actions".toList ++ ['='] := by decide
  have hpriority : "X-KDE-Priority=TopLevel\n".toList =
      "X-KDE-Priority".toList ++ '=' :: "TopLevel".toList ++ ['\n'] := by decide
  have hnewline : "\n".toList = ['\n'] := by decide
  have hlist := actionList_toList devices
  rw [String.toList_append] at hlist
  unfold entryBlock Block.text
  simp only [lineOf, ← hlist, String.toList_append, List.intercalate_cons_cons,
    List.intercalate_singleton, hopen, htype, hservice, hmime, hactions, hpriority, hnewline,
    List.cons_append, List.append_assoc, List.nil_append, List.append_nil]

/-- The text is the blocks, one after another. -/
theorem servicemenu_text (bin : String) (devices : List (String × String)) :
    dolphinServicemenu bin devices =
      String.ofList (['\n'].intercalate ((menuBlocks bin devices).flatMap Block.text)) := by
  apply String.toList_injective
  have hfirst : (entryBlock devices).text =
      ('[' :: ("Desktop Entry".toList ++ [']'])) :: (entryBlock devices).text.tail := rfl
  have hnewline : "\n".toList = ['\n'] := by decide
  -- a line after the first one is a newline and its text
  have hentry := entryText_lines devices
  rw [hfirst, intercalate_lines] at hentry
  rw [String.toList_ofList, menuBlocks, List.flatMap_cons, hfirst, List.cons_append,
    intercalate_lines, List.flatMap_append, List.flatMap_cons, List.flatMap_append,
    ← pickText_lines, dolphinServicemenu, toList_foldl_append]
  simp only [actionText_lines]
  rw [String.toList_append, String.toList_append, hentry]
  simp [List.flatMap_map, List.flatMap_assoc, hnewline]

/-! ## Reading the text -/

/-- The lines a name adds to the file. -/
def added (name : String) : List (List Char) := (name.toList.splitOn '\n').tail

/-- The id and the name of a device are text that every reader reads the same way, but for
    blanks and semicolons in the id and newlines in the name; and no line of the name is a
    header. -/
structure Legible (r : Reader) (device : String × String) : Prop where
  id : ∀ c ∈ device.1.toList, plain c = true ∨ c = ' ' ∨ c = ';'
  name : ∀ c ∈ device.2.toList, c = '\n' ∨ isControl c = false
  added : ∀ line ∈ added device.2, ∀ name, r.line line ≠ .header name

/-- The id is one item and one word, and no line of the name is a command. -/
structure Ordinary (r : Reader) (device : String × String) : Prop where
  id : PlainWord device.1
  added : ∀ line ∈ added device.2, ∀ value, r.line line ≠ .entry "Exec" value

variable {r : Reader} {bin key name id value : String} {command : List String}
  {devices : List (String × String)} {c : Char} {device d : String × String}

/-- A character without a meaning of its own, or a separator. -/
def common (c : Char) : Bool := plain c || " ;%".toList.contains c

theorem ne_of_common {x : Char} (h : common c = true) (hx : common x = false) : c ≠ x := by
  rintro rfl
  rw [h] at hx
  cases hx

theorem printable_of_common (h : common c = true) : printable c = true := by
  rw [common, Bool.or_eq_true, plain, Bool.and_eq_true, List.contains_iff_mem] at h
  have hfixed : ∀ x ∈ " ;%".toList, printable x = true := by decide
  exact h.elim And.left (hfixed c)

theorem control_of_common (h : common c = true) : isControl c = false := by
  have hrange := printable_of_common h
  simp only [printable, isControl, Bool.and_eq_true, Bool.or_eq_false_iff, decide_eq_true_eq,
    decide_eq_false_iff_not] at hrange ⊢
  omega

theorem Legible.common (h : Legible r device) :
    ∀ c ∈ device.1.toList, common c = true := by
  intro c hc
  rcases h.id c hc with hplain | rfl | rfl
  · rw [FileManager.common, hplain, Bool.true_or]
  · decide
  · decide

theorem actionKey_toList (id : String) :
    (actionKey id).toList = "send_to_".toList ++ id.toList := by
  rw [← String.toList_append]
  rfl

theorem actionKey_common (h : ∀ c ∈ id.toList, common c = true) :
    ∀ c ∈ (actionKey id).toList, common c = true := by
  rw [actionKey_toList, List.forall_mem_append]
  exact ⟨by decide, h⟩

/-! ### Commands and lists -/

/-- A value that every reader hands out as it was written. -/
structure Kept (value : String) : Prop where
  common : ∀ c ∈ value.toList, common c = true
  verbatim : Verbatim value

theorem Kept.control (h : Kept value) : ∀ c ∈ value.toList, isControl c = false :=
  fun c hc => control_of_common (h.common c hc)

theorem kept_of_ends {d : Char} {front back : List Char} (h : ∀ x ∈ value.toList, common x = true)
    (hfirst : value.toList = c :: back) (hc : c ≠ ' ') (hlast : value.toList = front ++ [d])
    (hd : d ≠ ' ') : Kept value := by
  refine ⟨h, fun hmem => ne_of_common (h _ hmem) (by decide) rfl, ?_, ?_⟩
  · simpa [hfirst] using hc
  · simpa [hlast] using hd

theorem deviceCommand_toList (bin id : String) :
    (commandLine [bin, "send", "-d", id, "%F"]).toList =
      bin.toList ++ (" send -d ".toList ++ id.toList ++ " %".toList) ++ ['F'] := by
  have hsend : " send -d ".toList = ' ' :: "send".toList ++ ' ' :: "-d".toList ++ [' '] := by decide
  have hfile : " %".toList ++ ['F'] = ' ' :: "%F".toList := by decide
  rw [List.append_assoc _ _ ['F'], List.append_assoc _ _ ['F'], hfile, hsend]
  simp [commandLine]

theorem pickCommand_toList (bin : String) :
    (commandLine [bin, "send", "--pick", "%F"]).toList =
      bin.toList ++ " send --pick %".toList ++ ['F'] := by
  have hpick : " send --pick %".toList ++ ['F'] =
      ' ' :: "send".toList ++ ' ' :: "--pick".toList ++ ' ' :: "%F".toList := by decide
  rw [List.append_assoc, hpick]
  simp [commandLine]

theorem command_kept {middle : List Char} (hbin : PlainWord bin)
    (htext : (commandLine command).toList = bin.toList ++ middle ++ ['F'])
    (hmiddle : ∀ c ∈ middle, common c = true) : Kept (commandLine command) := by
  obtain ⟨c, rest, hc⟩ := List.exists_cons_of_ne_nil
    (show bin.toList ≠ [] by simpa using hbin.1)
  have hplain : ∀ x ∈ bin.toList, common x = true := by
    intro x hx
    rw [common, hbin.2 x hx, Bool.true_or]
  refine kept_of_ends (c := c) (d := 'F') ?_ (by rw [htext, hc]; rfl) ?_ htext (by decide)
  · rw [htext, List.forall_mem_append, List.forall_mem_append]
    exact ⟨⟨hplain, hmiddle⟩, by decide⟩
  · rintro rfl
    exact absurd (hbin.2 ' ' (by simp [hc])) (by decide)

theorem deviceCommand_kept (hbin : PlainWord bin) (hid : ∀ c ∈ id.toList, common c = true) :
    Kept (commandLine [bin, "send", "-d", id, "%F"]) := by
  refine command_kept hbin (deviceCommand_toList bin id) ?_
  rw [List.forall_mem_append, List.forall_mem_append]
  exact ⟨⟨by decide, hid⟩, by decide⟩

theorem pickCommand_kept (hbin : PlainWord bin) :
    Kept (commandLine [bin, "send", "--pick", "%F"]) :=
  command_kept hbin (pickCommand_toList bin) (by decide)

theorem actionKeys_kept (h : ∀ d ∈ devices, Legible r d) :
    Kept (listValue (actionKeys devices)) := by
  have hkeys : ∀ key ∈ actionKeys devices, ∀ c ∈ key.toList, common c = true := by
    rw [actionKeys, List.forall_mem_append, List.forall_mem_map]
    exact ⟨fun d hd => actionKey_common (h d hd).common, by decide⟩
  -- neither end is a blank, so trimming keeps the value
  have hfirst : ∃ back, (listValue (actionKeys devices)).toList = 's' :: back := by
    cases devices with
    | nil => exact ⟨"end_pick;".toList, by decide⟩
    | cons d devices =>
      have hkey : "send_to_".toList = 's' :: "end_to_".toList := by decide
      rw [listValue, actionKeys, String.toList_ofList, List.map_cons, List.cons_append,
        List.flatMap_cons, actionKey_toList, hkey]
      exact ⟨_, rfl⟩
  have hlast : ∃ front, (listValue (actionKeys devices)).toList = front ++ [';'] := by
    rw [listValue, actionKeys, String.toList_ofList, List.flatMap_append, List.flatMap_singleton,
      ← List.append_assoc]
    exact ⟨_, rfl⟩
  obtain ⟨back, hback⟩ := hfirst
  obtain ⟨front, hfront⟩ := hlast
  refine kept_of_ends ?_ hback (by decide) hfront (by decide)
  intro c hc
  rw [listValue, String.toList_ofList, List.mem_flatMap] at hc
  obtain ⟨key, hkey, hc⟩ := hc
  rcases List.mem_append.mp hc with hc | hc
  · exact hkeys key hkey c hc
  · rw [List.mem_singleton.mp hc]
    decide

/-! ### Blocks -/

def execs (r : Reader) (lines : List (List Char)) : List String :=
  ((lines.filterMap r.entryAt).filter fun e => e.1 = "Exec").map Prod.snd

theorem isKey_fixed : IsKey "Name" ∧ IsKey "Icon" ∧ IsKey "Exec" := by decide

theorem icon_clean : ∀ c ∈ "document-send".toList, isControl c = false := by decide

/-- A name with line breaks adds lines between its own and the icon. -/
theorem actionBlock_lines (key : String) (hname : ∀ c ∈ name.toList, c = '\n' ∨ isControl c = false)
    (hcommand : Kept (commandLine command)) :
    ∃ first : String, (∀ c ∈ first.toList, isControl c = false) ∧
      (actionBlock key name command).lines = lineOf "Name" first :: (added name ++
        [lineOf "Icon" "document-send", lineOf "Exec" (commandLine command)]) := by
  obtain ⟨hn, hi, hx⟩ := isKey_fixed
  obtain ⟨first, rest, hsplit⟩ := List.exists_cons_of_ne_nil
    (List.splitOn_ne_nil '\n' name.toList)
  have hline : "Name".toList ++ '=' :: first = lineOf "Name" (String.ofList first) := by
    simp [lineOf]
  refine ⟨String.ofList first, ?_, ?_⟩
  · intro c hc
    rw [String.toList_ofList] at hc
    obtain ⟨hmem, hother⟩ := mem_of_mem_splitOn (hsplit ▸ List.mem_cons_self) hc
    exact (hname c hmem).resolve_left hother
  · rw [Block.lines, actionBlock, List.flatMap_cons, List.flatMap_cons, List.flatMap_cons,
      List.flatMap_nil, hn.splitOn_lineOf, hi.splitOn_clean icon_clean,
      hx.splitOn_clean hcommand.control, hsplit, added, hsplit, List.modifyHead_cons,
      List.tail_cons, hline]
    rfl

/-- A conforming reader finds the block again, if no added line is a header. -/
theorem actionBlock_reads (hr : r.Conforms) (hkey : ∀ c ∈ key.toList, common c = true)
    (hname : ∀ c ∈ name.toList, c = '\n' ∨ isControl c = false)
    (hadded : ∀ line ∈ added name, ∀ n, r.line line ≠ .header n)
    (hcommand : Kept (commandLine command)) : r.Reads (actionBlock key name command) := by
  obtain ⟨hn, hi, hx⟩ := isKey_fixed
  obtain ⟨first, hfirst, hlines⟩ := actionBlock_lines key hname hcommand
  constructor
  · have hall : ∀ c ∈ (actionBlock key name command).name.toList, common c = true := by
      rw [actionBlock, String.toList_append, List.forall_mem_append]
      exact ⟨by decide, hkey⟩
    exact fun c hc => ⟨printable_of_common (hall c hc), ne_of_common (hall c hc) (by decide),
      ne_of_common (hall c hc) (by decide)⟩
  · rw [hlines, List.forall_mem_cons, List.forall_mem_append, List.forall_mem_cons,
      List.forall_mem_singleton]
    exact ⟨hr.not_header hn hfirst, hadded, hr.not_header hi icon_clean,
      hr.not_header hx hcommand.control⟩

/-- The commands of an action are those that its name adds and the one that was meant. -/
theorem values_exec (hr : r.Conforms) (hname : ∀ c ∈ name.toList, c = '\n' ∨ isControl c = false)
    (hcommand : Kept (commandLine command)) :
    (r.group (actionBlock key name command)).values "Exec" =
      execs r (added name) ++ [commandLine command] := by
  obtain ⟨hn, hi, hx⟩ := isKey_fixed
  obtain ⟨first, hfirst, hlines⟩ := actionBlock_lines key hname hcommand
  obtain ⟨v, hv, -⟩ := hr.entryAt "Name" _ hn hfirst
  obtain ⟨w, hw, -⟩ := hr.entryAt "Icon" _ hi icon_clean
  obtain ⟨x, hexec, hkept⟩ := hr.entryAt "Exec" _ hx hcommand.control
  rw [hkept hcommand.verbatim] at hexec
  simp [Group.values, Reader.group, hlines, List.filterMap_append, hv, hw, hexec, execs]

theorem entryBlock_lines (h : ∀ d ∈ devices, Legible r d) :
    (entryBlock devices).lines = (entryBlock devices).body := by
  have hkept := (actionKeys_kept h).control
  have hfixed : ∀ line ∈ [lineOf "Type" "Service", lineOf "ServiceTypes" "KonqPopupMenu/Plugin",
      lineOf "MimeType" "all/all;", lineOf "X-KDE-Priority" "TopLevel", []],
      line.splitOn '\n' = [line] := by decide +kernel
  have hactions : IsKey "Actions" := by decide
  simp only [List.forall_mem_cons] at hfixed
  obtain ⟨htype, hservice, hmime, hpriority, hblank, -⟩ := hfixed
  simp only [Block.lines, entryBlock, List.flatMap_cons, List.flatMap_nil, htype, hservice, hmime,
    hpriority, hblank, hactions.splitOn_clean hkept, List.singleton_append]

/-- The entries of the first group, and the blank line after them. -/
theorem entryBlock_reads (hr : r.Conforms) (h : ∀ d ∈ devices, Legible r d) :
    r.Reads (entryBlock devices) := by
  have hname : ∀ c ∈ "Desktop Entry".toList, printable c = true ∧ c ≠ '[' ∧ c ≠ ']' := by decide
  refine ⟨hname, ?_⟩
  have hblank : ∀ name, r.line [] ≠ .header name := by simp [hr.blank]
  rw [entryBlock_lines h]
  simp only [entryBlock, List.forall_mem_cons]
  exact ⟨hr.not_header (by decide) (by decide), hr.not_header (by decide) (by decide),
    hr.not_header (by decide) (by decide),
    hr.not_header (by decide) (actionKeys_kept h).control,
    hr.not_header (by decide) (by decide), hblank, by simp⟩

theorem values_actions (hr : r.Conforms) (h : ∀ d ∈ devices, Legible r d) :
    (r.group (entryBlock devices)).values "Actions" = [listValue (actionKeys devices)] := by
  have hkept := actionKeys_kept h
  obtain ⟨a, ha, -⟩ := hr.entryAt "Type" "Service" (by decide) (by decide)
  obtain ⟨b, hb, -⟩ := hr.entryAt "ServiceTypes" "KonqPopupMenu/Plugin" (by decide) (by decide)
  obtain ⟨c, hc, -⟩ := hr.entryAt "MimeType" "all/all;" (by decide) (by decide)
  obtain ⟨d, hd, hsame⟩ := hr.entryAt "Actions" _ (by decide) hkept.control
  obtain ⟨e, he, -⟩ := hr.entryAt "X-KDE-Priority" "TopLevel" (by decide) (by decide)
  have hblank : r.entryAt [] = none := by rw [Reader.entryAt, hr.blank]
  rw [hsame hkept.verbatim] at hd
  rw [Group.values, Reader.group, entryBlock_lines h]
  simp [entryBlock, ha, hb, hc, hd, he, hblank]

/-- What stands before the name adds no line. -/
theorem added_append {front : String} (h : '\n' ∉ front.toList) (name : String) :
    added (front ++ name) = added name := by
  rw [added, added, String.toList_append, splitOn_append h, List.tail_modifyHead]

theorem Legible.name_sent (h : Legible r device) :
    ∀ c ∈ ("Send to " ++ device.2).toList, c = '\n' ∨ isControl c = false := by
  rw [String.toList_append, List.forall_mem_append]
  exact ⟨by decide, h.name⟩

/-- **The file is read as it was meant**, with what the names add to the groups. -/
theorem read_servicemenu (hr : r.Conforms) (hbin : PlainWord bin)
    (h : ∀ d ∈ devices, Legible r d) :
    r.read (dolphinServicemenu bin devices) = (menuBlocks bin devices).map r.group := by
  rw [servicemenu_text]
  refine hr.read_blocks (List.cons_ne_nil _ _) ?_
  rw [menuBlocks, List.forall_mem_cons, List.forall_mem_cons, List.forall_mem_map]
  refine ⟨entryBlock_reads hr h, ?_, fun d hd => ?_⟩
  · have hnone : added "Send via Handfast…" = [] := by decide
    exact actionBlock_reads hr (by decide) (by decide) (by simp [hnone]) (pickCommand_kept hbin)
  · have hd := h d hd
    refine actionBlock_reads hr (actionKey_common hd.common) hd.name_sent ?_
      (deviceCommand_kept hbin hd.common)
    rw [added_append (by decide)]
    exact hd.added

/-! ## No injection -/

def actionName (g : Group) : Option String :=
  if "Desktop Action ".toList <+: g.name.toList then
    some (String.ofList (g.name.toList.drop "Desktop Action ".toList.length))
  else none

def entryGroups (groups : List Group) : List Group :=
  groups.filter fun g => g.name = "Desktop Entry"

def actionGroups (groups : List Group) : List Group :=
  groups.filter fun g => (actionName g).isSome

def listedActions (r : Reader) (groups : List Group) : List String :=
  (entryGroups groups).flatMap fun g => (g.values "Actions").flatMap r.items

/-- A file that holds the actions of the devices and of the picker, and nothing else to run. -/
structure Uninjected (r : Reader) (bin : String) (devices : List (String × String))
    (groups : List Group) : Prop where
  entry : (entryGroups groups).length = 1
  count : (actionGroups groups).length = devices.length + 1
  listed : ((actionGroups groups).filterMap actionName).Perm (listedActions r groups)
  exec : ∀ g ∈ actionGroups groups, (g.values "Exec").length = 1
  present : ∀ device ∈ devices, ∃ g ∈ groups, actionName g = some (actionKey device.1)
  command : ∀ device ∈ devices, ∀ g ∈ groups, actionName g = some (actionKey device.1) →
    ∀ value ∈ g.values "Exec", r.words value = [bin, "send", "-d", device.1, "%F"]

theorem actionName_actionBlock (key name : String) (command : List String) :
    actionName (r.group (actionBlock key name command)) = some key := by
  have hname : (r.group (actionBlock key name command)).name.toList =
      "Desktop Action ".toList ++ key.toList := String.toList_append
  rw [actionName, hname, if_pos (List.prefix_append _ _), List.drop_left, String.ofList_toList]

theorem actionName_entryBlock (devices : List (String × String)) :
    actionName (r.group (entryBlock devices)) = none := by
  have hname : ¬ "Desktop Action ".toList <+: "Desktop Entry".toList := by decide
  rw [actionName]
  exact if_neg hname

/-- The groups a file manager finds: the picker, and one for each device. -/
theorem actionGroups_menu (bin : String) (devices : List (String × String)) :
    actionGroups ((menuBlocks bin devices).map r.group) =
      r.group (pickBlock bin) :: devices.map fun d => r.group (deviceBlock bin d) := by
  have hactions : ∀ g ∈ r.group (pickBlock bin) :: devices.map fun d => r.group (deviceBlock bin d),
      (actionName g).isSome = true := by
    rw [List.forall_mem_cons, List.forall_mem_map]
    refine ⟨?_, fun d _ => ?_⟩
    · rw [pickBlock, actionName_actionBlock, Option.isSome_some]
    · rw [deviceBlock, actionName_actionBlock, Option.isSome_some]
  rw [actionGroups, menuBlocks, List.map_cons, List.map_cons, List.map_map,
    List.filter_cons_of_neg (by simp [actionName_entryBlock])]
  exact List.filter_eq_self.mpr hactions

theorem entryGroups_menu (bin : String) (devices : List (String × String)) :
    entryGroups ((menuBlocks bin devices).map r.group) = [r.group (entryBlock devices)] := by
  have hother : ∀ key name command,
      (r.group (actionBlock key name command)).name ≠ "Desktop Entry" := by
    intro key name command heq
    have hsome := actionName_actionBlock (r := r) key name command
    rw [actionName, heq, if_neg (by decide)] at hsome
    cases hsome
  have hactions : ∀ g ∈ r.group (pickBlock bin) :: devices.map fun d => r.group (deviceBlock bin d),
      ¬ decide (g.name = "Desktop Entry") = true := by
    simp only [List.forall_mem_cons, List.forall_mem_map, decide_eq_true_eq]
    exact ⟨hother _ _ _, fun d _ => hother _ _ _⟩
  rw [entryGroups, menuBlocks, List.map_cons, List.map_cons, List.map_map,
    List.filter_cons_of_pos (by simp [Reader.group, entryBlock])]
  exact congrArg _ (List.filter_eq_nil_iff.mpr hactions)

/-- The action groups are the picker and one for each device. -/
theorem actionNames_menu (bin : String) (devices : List (String × String)) :
    (actionGroups ((menuBlocks bin devices).map r.group)).filterMap actionName =
      "send_pick" :: devices.map fun device => actionKey device.1 := by
  have hpick : actionName (r.group (pickBlock bin)) = some "send_pick" :=
    actionName_actionBlock _ _ _
  rw [actionGroups_menu, List.filterMap_cons_some hpick, List.filterMap_map]
  congr 1
  exact (List.filterMap_congr fun device _ => actionName_actionBlock _ _ _).trans
    (congrFun List.filterMap_eq_map' devices)

theorem listedActions_menu (bin : String) (hr : r.Conforms) (h : ∀ d ∈ devices, Legible r d) :
    listedActions r ((menuBlocks bin devices).map r.group) =
      r.items (listValue (actionKeys devices)) := by
  rw [listedActions, entryGroups_menu, List.flatMap_singleton, values_actions hr h,
    List.flatMap_singleton]

/-- Two devices with the same key have the same id. -/
theorem actionKey_inj {a b : String} (h : actionKey a = actionKey b) : a = b := by
  have hlist := congrArg String.toList h
  rw [actionKey_toList, actionKey_toList] at hlist
  exact String.toList_injective (List.append_cancel_left hlist)

/-- No id of a device makes its key the picker's. -/
theorem actionKey_ne_pick (id : String) : actionKey id ≠ "send_pick" := by
  intro h
  have hlist := congrArg (fun key => key.toList.take 8) h
  simp only [actionKey_toList] at hlist
  rw [List.take_append_of_le_length (by decide)] at hlist
  exact absurd hlist (by decide)

/-- The group of a device is found by its key. -/
theorem group_of_key {g : Group} (hg : g ∈ (menuBlocks bin devices).map r.group)
    (hname : actionName g = some (actionKey id)) :
    ∃ d ∈ devices, d.1 = id ∧ g = r.group (deviceBlock bin d) := by
  rw [menuBlocks, List.map_cons, List.map_cons, List.map_map] at hg
  rcases List.mem_cons.mp hg with rfl | hg
  · rw [actionName_entryBlock] at hname
    cases hname
  rcases List.mem_cons.mp hg with rfl | hg
  · rw [pickBlock, actionName_actionBlock] at hname
    exact absurd (Option.some.inj hname).symm (actionKey_ne_pick id)
  · obtain ⟨d, hd, rfl⟩ := List.mem_map.mp hg
    refine ⟨d, hd, actionKey_inj (Option.some.inj ?_), rfl⟩
    rw [← hname]
    exact (actionName_actionBlock _ _ _).symm

theorem mem_device (hd : d ∈ devices) :
    r.group (deviceBlock bin d) ∈ (menuBlocks bin devices).map r.group :=
  List.mem_map_of_mem (List.mem_cons_of_mem _ (List.mem_cons_of_mem _ (List.mem_map_of_mem hd)))

/-- The commands of a device are those its name adds and its own. -/
theorem device_execs (hr : r.Conforms) (hbin : PlainWord bin)
    (hd : Legible r d) : (r.group (deviceBlock bin d)).values "Exec" =
      execs r (added d.2) ++ [commandLine [bin, "send", "-d", d.1, "%F"]] := by
  rw [deviceBlock, values_exec hr hd.name_sent (deviceCommand_kept hbin hd.common),
    added_append (by decide)]

theorem pick_execs (hr : r.Conforms) (hbin : PlainWord bin) :
    (r.group (pickBlock bin)).values "Exec" = [commandLine [bin, "send", "--pick", "%F"]] := by
  have hnone : added "Send via Handfast…" = [] := by decide
  rw [pickBlock, values_exec hr (by decide) (pickCommand_kept hbin), hnone]
  rfl

/-- No added line is read as a command. -/
theorem execs_eq_nil {lines : List (List Char)} :
    execs r lines = [] ↔ ∀ line ∈ lines, ∀ value, r.line line ≠ .entry "Exec" value := by
  rw [execs, List.map_eq_nil_iff, List.filter_eq_nil_iff]
  constructor
  · intro h line hline value hentry
    refine h ("Exec", value) (List.mem_filterMap.mpr ⟨line, hline, ?_⟩) (by simp)
    rw [Reader.entryAt, hentry]
  · intro h e he hkey
    obtain ⟨line, hline, hentry⟩ := List.mem_filterMap.mp he
    unfold Reader.entryAt at hentry
    split at hentry
    · rename_i value heq
      cases hentry
      rw [decide_eq_true_eq] at hkey
      exact h line hline value (hkey ▸ heq)
    · cases hentry

theorem Ordinary.actionKeys_plain (h : ∀ d ∈ devices, Ordinary r d) :
    ∀ key ∈ actionKeys devices, PlainWord key := by
  have hpick : PlainWord "send_pick" := by decide
  rw [actionKeys, List.forall_mem_append, List.forall_mem_map, List.forall_mem_singleton]
  refine ⟨fun d hd => ⟨fun hempty => ?_, ?_⟩, hpick⟩
  · have hlist := actionKey_toList d.1
    rw [hempty] at hlist
    exact absurd (List.append_eq_nil_iff.mp hlist.symm).1 (by decide)
  · rw [actionKey_toList, List.forall_mem_append]
    exact ⟨by decide, (h d hd).id.2⟩

theorem uninjected_of_ordinary (hr : r.Conforms) (hbin : PlainWord bin)
    (hlegible : ∀ d ∈ devices, Legible r d) (h : ∀ d ∈ devices, Ordinary r d) :
    Uninjected r bin devices ((menuBlocks bin devices).map r.group) := by
  have hexecs : ∀ d ∈ devices, (r.group (deviceBlock bin d)).values "Exec" =
      [commandLine [bin, "send", "-d", d.1, "%F"]] := by
    intro d hd
    rw [device_execs hr hbin (hlegible d hd), execs_eq_nil.mpr (h d hd).added, List.nil_append]
  constructor
  case entry => rw [entryGroups_menu, List.length_singleton]
  case count => rw [actionGroups_menu, List.length_cons, List.length_map]
  -- the picker is listed last but written first
  case listed =>
    rw [actionNames_menu, listedActions_menu bin hr hlegible, listValue,
      hr.items _ (Ordinary.actionKeys_plain h)]
    exact (List.perm_append_singleton _ _).symm
  case exec =>
    rw [actionGroups_menu, List.forall_mem_cons, List.forall_mem_map]
    refine ⟨?_, fun d hd => ?_⟩
    · rw [pick_execs hr hbin, List.length_singleton]
    · rw [hexecs d hd, List.length_singleton]
  case present => exact fun d hd => ⟨_, mem_device hd, actionName_actionBlock _ _ _⟩
  case command =>
    intro device _ g hg hname value hvalue
    obtain ⟨d, hd, hid, rfl⟩ := group_of_key hg hname
    rw [hexecs d hd, List.mem_singleton] at hvalue
    have hsend : PlainWord "send" ∧ PlainWord "-d" := by decide
    rw [hvalue, ← hid, commandLine, hr.words]
    simp only [List.forall_mem_cons]
    exact ⟨.inl hbin, .inl hsend.1, .inl hsend.2, .inl (h d hd).id, .inr trivial, by simp⟩

/-- If nothing is injected, every device is ordinary. -/
theorem Uninjected.ordinary (hr : r.Conforms) (hbin : PlainWord bin)
    (hlegible : ∀ d ∈ devices, Legible r d)
    (h : Uninjected r bin devices ((menuBlocks bin devices).map r.group))
    (hd : d ∈ devices) : Ordinary r d := by
  have hexecs := device_execs hr hbin (hlegible d hd)
  have hkept := deviceCommand_kept hbin (hlegible d hd).common
  -- a second command would be one too many
  have hnone : execs r (added d.2) = [] := by
    have hone := h.exec (r.group (deviceBlock bin d))
      (by rw [actionGroups_menu]; exact List.mem_cons_of_mem _ (List.mem_map_of_mem hd))
    rw [hexecs, List.length_append, List.length_singleton] at hone
    exact List.length_eq_zero_iff.mp (by omega)
  -- the id is one of the words of its command, which hold no blank
  have hwords := h.command d hd _ (mem_device hd) (actionName_actionBlock _ _ _)
    (commandLine [bin, "send", "-d", d.1, "%F"]) (by simp [hexecs])
  have hquotes : ∀ c ∈ (commandLine [bin, "send", "-d", d.1, "%F"]).toList,
      c ∉ "\"'\\".toList := by
    have hfixed : ∀ x ∈ "\"'\\".toList, common x = false := by decide
    exact fun c hc hmem => ne_of_common (hkept.common c hc) (hfixed c hmem) rfl
  obtain ⟨hne, hblank⟩ := hr.unquoted _ hquotes d.1 (by simp [hwords])
  -- and its key is one of the items of the list, which hold no semicolon
  have hitem : actionKey d.1 ∈ r.items (listValue (actionKeys devices)) := by
    rw [← listedActions_menu bin hr hlegible]
    refine h.listed.subset ?_
    rw [actionNames_menu]
    exact List.mem_cons_of_mem _ (List.mem_map_of_mem hd)
  have hsemicolon := hr.separated _ (actionKeys_kept hlegible).verbatim.1 _ hitem
  rw [actionKey_toList, List.mem_append, not_or] at hsemicolon
  refine ⟨⟨hne, fun c hc => ?_⟩, execs_eq_nil.mp hnone⟩
  rcases (hlegible d hd).id c hc with hplain | rfl | rfl
  · exact hplain
  · exact absurd hc hblank
  · exact absurd hc hsemicolon.2

/-- **The service menu.** For every reader that conforms, and devices whose texts readers agree
    on and whose names add no header: the generated menu holds what it is meant to hold and runs
    what it is meant to run, if and only if every id is a plain word and no line of a name is a
    command. -/
theorem servicemenu_uninjected_iff (r : Reader) (hr : r.Conforms) {bin : String}
    (hbin : PlainWord bin) {devices : List (String × String)}
    (hlegible : ∀ d ∈ devices, Legible r d) :
    Uninjected r bin devices (r.read (dolphinServicemenu bin devices)) ↔
      ∀ d ∈ devices, Ordinary r d := by
  rw [read_servicemenu hr hbin hlegible]
  exact ⟨fun h _ hd => h.ordinary hr hbin hlegible hd, uninjected_of_ordinary hr hbin hlegible⟩

/-- A phone, and a tablet whose name has a line break. -/
theorem servicemenu_uninjected_two :
    Uninjected simpleReader "/usr/bin/hfctl" [("a1", "My phone"), ("b2", "Tablet;\nold")]
      (simpleReader.read
        (dolphinServicemenu "/usr/bin/hfctl" [("a1", "My phone"), ("b2", "Tablet;\nold")])) := by
  have hphone : added "My phone" = [] := by decide
  have htablet : added "Tablet;\nold" = [['o', 'l', 'd']] := by decide
  have hline : simpleReader.line ['o', 'l', 'd'] = .skipped := by decide
  refine (servicemenu_uninjected_iff simpleReader simpleReader_conforms (by decide) ?_).mpr ?_
  · simp only [List.forall_mem_cons]
    exact ⟨⟨by decide, by decide, by simp [hphone]⟩,
      ⟨by decide, by decide, by simp [htablet, hline]⟩, by simp⟩
  · simp only [List.forall_mem_cons]
    exact ⟨⟨by decide, by simp [hphone]⟩, ⟨by decide, by simp [htablet, hline]⟩, by simp⟩

/-- A peer's name with a newline in it adds a command of its own to the peer's action, before the
    one that was meant; a blank in an id makes two words of it. -/
theorem peer_text_injected : (∃ r : Reader, r.Conforms) ∧ ∀ r : Reader, r.Conforms →
    ((actionGroups (r.read (dolphinServicemenu "hfctl" [("p", "x\nExec=evil")]))).map
        fun g => (actionName g, g.values "Exec")) =
      [(some "send_pick", ["hfctl send --pick %F"]),
       (some "send_to_p", ["evil", "hfctl send -d p %F"])] ∧
    ((actionGroups (r.read (dolphinServicemenu "hfctl" [("p --pick", "x")]))).map
        fun g => (g.values "Exec").map r.words) =
      [[["hfctl", "send", "--pick", "%F"]], [["hfctl", "send", "-d", "p", "--pick", "%F"]]] ∧
    ¬ Uninjected r "hfctl" [("p", "x\nExec=evil")]
        (r.read (dolphinServicemenu "hfctl" [("p", "x\nExec=evil")])) ∧
    ¬ Uninjected r "hfctl" [("p --pick", "x")]
        (r.read (dolphinServicemenu "hfctl" [("p --pick", "x")])) := by
  refine ⟨⟨simpleReader, simpleReader_conforms⟩, fun r hr => ?_⟩
  have hbin : PlainWord "hfctl" := by decide
  have hadded : added "x\nExec=evil" = [lineOf "Exec" "evil"] := by decide
  have hnone : added "x" = [] := by decide
  obtain ⟨v, hevil, hv⟩ := hr.entry "Exec" "evil" (by decide) (by decide)
  rw [hv (by decide)] at hevil
  have hname : ∀ d ∈ [("p", "x\nExec=evil")], Legible r d := by
    simp only [List.forall_mem_singleton]
    exact ⟨by decide, by decide, by simp [hadded, hevil]⟩
  have hid : ∀ d ∈ [("p --pick", "x")], Legible r d := by
    simp only [List.forall_mem_singleton]
    exact ⟨by decide, by decide, by simp [hnone]⟩
  have hpick : actionName (r.group (pickBlock "hfctl")) = some "send_pick" :=
    actionName_actionBlock _ _ _
  have hdevice : ∀ d, actionName (r.group (deviceBlock "hfctl" d)) = some (actionKey d.1) :=
    fun d => actionName_actionBlock _ _ _
  have hexecs : execs r (added "x\nExec=evil") = ["evil"] := by
    simp [hadded, execs, Reader.entryAt, hevil]
  -- a line break in a name adds an entry, a blank in an id a word
  refine ⟨?_, ?_, fun h => ?_, fun h => ?_⟩
  · rw [read_servicemenu hr hbin hname, actionGroups_menu]
    simp only [List.map_cons, List.map_nil, hpick, hdevice, pick_execs hr hbin,
      device_execs hr hbin (hname _ List.mem_cons_self), hexecs]
    decide
  · rw [read_servicemenu hr hbin hid, actionGroups_menu]
    have hsplit : commandLine ["hfctl", "send", "-d", "p --pick", "%F"] =
        commandLine ["hfctl", "send", "-d", "p", "--pick", "%F"] := by decide
    have hwords : ∀ ws : List String, (∀ w ∈ ws, PlainWord w ∨ w = "%F") →
        r.words (commandLine ws) = ws := hr.words
    simp only [List.map_cons, List.map_nil, pick_execs hr hbin,
      device_execs hr hbin (hid _ List.mem_cons_self), hnone, hsplit, List.map_append]
    rw [hwords _ (by decide), hwords _ (by decide)]
    rfl
  · rw [read_servicemenu hr hbin hname] at h
    exact (h.ordinary hr hbin hname List.mem_cons_self).added _ (by simp [hadded]) _ hevil
  · rw [read_servicemenu hr hbin hid] at h
    exact absurd (h.ordinary hr hbin hid List.mem_cons_self).id (by decide)

end Handfast.Ui.FileManager
