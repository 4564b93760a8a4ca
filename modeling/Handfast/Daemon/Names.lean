/-
  Handfast.Daemon.Names

  The names under which received files are kept, as the reader of a directory
  sees them: are they canonical, and do they fit the file system?

  `sanitize_file_name` trims before it truncates, and it truncates by
  characters.  A second pass over a name it has produced therefore only trims:
  the name is canonical unless the cut has left a dot or a space at its end
  (`sanitizeFileName_again`).  The bytes of a component are those of the name
  plus 14 for the staging suffix, which is more than any number adds.
-/
import Handfast.Daemon.Containment

namespace Handfast.Daemon

open Handfast.Lib Handfast.Protocol Handfast.Core

/-! ## Canonical names -/

/-- The characters that are trimmed from the end of a name. -/
def trailing (c : Char) : Bool := c = '.' || c = ' '

def EndsTrailing (name : String) : Prop := name.toList.getLast?.any trailing = true

instance (name : String) : Decidable (EndsTrailing name) :=
  inferInstanceAs (Decidable (name.toList.getLast?.any trailing = true))

/-- The peer's name before truncation: segment picked, cleaned and trimmed. -/
def trimmedName (raw : String) : List Char :=
  (((pickSegment raw).getD fallbackName.toList).map cleanChar).rdropWhile trailing

/-- The cut at `maxFileNameLen` falls right behind a dot or a space. -/
def CutBehindTrailing (raw : String) : Prop :=
  maxFileNameLen < (trimmedName raw).length ∧
    (trimmedName raw)[maxFileNameLen - 1]?.any trailing = true

instance (raw : String) : Decidable (CutBehindTrailing raw) :=
  inferInstanceAs (Decidable (_ ∧ _))

theorem sanitizeFileName_eq (raw : String) :
    sanitizeFileName raw =
      if ((trimmedName raw).take maxFileNameLen).isEmpty then fallbackName
      else String.ofList ((trimmedName raw).take maxFileNameLen) := rfl

/-- Trimming leaves no dot and no space at the end. -/
theorem trimmedName_last (raw : String) : (trimmedName raw).getLast?.any trailing = false := by
  unfold trimmedName
  generalize ((pickSegment raw).getD fallbackName.toList).map cleanChar = cleaned
  cases hlast : (cleaned.rdropWhile trailing).getLast? with
  | none => rfl
  | some c =>
    obtain ⟨hne, rfl⟩ := List.mem_getLast?_eq_getLast hlast
    exact Bool.eq_false_of_not_eq_true (List.rdropWhile_last_not _ _ hne)

/-- The last character that is kept decides. -/
theorem endsTrailing_sanitizeFileName (raw : String) :
    EndsTrailing (sanitizeFileName raw) ↔ CutBehindTrailing raw := by
  rw [EndsTrailing, sanitizeFileName_eq, CutBehindTrailing]
  by_cases hlong : maxFileNameLen < (trimmedName raw).length
  · -- the cut leaves `maxFileNameLen` characters
    have hne : (trimmedName raw).take maxFileNameLen ≠ [] := by
      rw [← List.length_pos_iff, List.length_take, Nat.min_eq_left hlong.le]
      decide
    have hlast : ((trimmedName raw).take maxFileNameLen).getLast? =
        (trimmedName raw)[maxFileNameLen - 1]? := by
      rw [List.getLast?_take, if_neg (by decide),
        Option.or_of_isSome (by simp; omega)]
    rw [if_neg (by rwa [List.isEmpty_iff]), String.toList_ofList, hlast]
    simp [hlong]
  · -- a name that is not cut was trimmed last
    have hwhole : (trimmedName raw).take maxFileNameLen = trimmedName raw :=
      List.take_of_length_le (Nat.le_of_not_lt hlong)
    rw [hwhole]
    have hnot := trimmedName_last raw
    by_cases hempty : trimmedName raw = []
    · simp only [hempty, List.isEmpty_nil, if_true]
      decide
    · rw [if_neg (by rwa [List.isEmpty_iff]), String.toList_ofList, hnot]
      simp [hlong]

/-- A character that is allowed is left alone. -/
theorem cleanChar_of_not_forbidden {c : Char} (h : ¬ Forbidden c) : cleanChar c = c := by
  have hreserved : ¬ ("<>:\"|?*".toList.contains c = true) := fun hc =>
    h (.inr (.inr (.inr (.inr (List.contains_iff_mem.mp hc)))))
  have hcontrol : ¬ (c.toNat < 0x20 ∨ c.toNat = 0x7f) := by
    rintro (hlow | hdel)
    · exact h (.inr (.inr (.inl hlow)))
    · exact h (.inr (.inr (.inr (.inl hdel))))
  rw [cleanChar, if_neg hreserved, if_neg hcontrol]

variable {name stem : String} {n : Nat}

theorem SafeComponent.pickSegment (h : SafeComponent name) :
    pickSegment name = some name.toList := by
  have hsep : ∀ c ∈ name.toList, (decide (c = '/') || decide (c = '\\')) = false := by
    intro c hc
    have hclean := h.clean c hc
    simp only [Bool.or_eq_false_iff, decide_eq_false_iff_not]
    exact ⟨fun hslash => hclean (.inl hslash), fun hback => hclean (.inr (.inl hback))⟩
  have husable : ¬ (name.toList = [] ∨ name.toList = ['.'] ∨ name.toList = ['.', '.']) := by
    rintro (hnil | hdot | hdots)
    · exact h.nonempty (String.toList_injective hnil)
    · exact h.notDot (String.toList_injective hdot)
    · exact h.notDotDot (String.toList_injective hdots)
  rw [Daemon.pickSegment, List.splitOnP_eq_singleton hsep]
  simp only [List.foldl_cons, List.foldl_nil, if_neg husable]

theorem SafeComponent.trimmedName (h : SafeComponent name) :
    trimmedName name = name.toList.rdropWhile trailing := by
  have hsame : name.toList.map cleanChar = name.toList :=
    (List.map_congr_left fun c hc => cleanChar_of_not_forbidden (h.clean c hc)).trans
      (List.map_id' _)
  rw [Daemon.trimmedName, h.pickSegment, Option.getD_some, hsame]

/-- A sanitized name has at most the allowed number of characters. -/
theorem length_sanitizeFileName (raw : String) :
    (sanitizeFileName raw).toList.length ≤ maxFileNameLen := by
  rw [sanitizeFileName_eq]
  split
  · decide
  · rw [String.toList_ofList]
    exact List.length_take_le _ _

/-- A second pass over a short safe component changes it exactly if it ends in a
    dot or a space. -/
theorem SafeComponent.sanitizeFileName_eq_self (h : SafeComponent name)
    (hlen : name.toList.length ≤ maxFileNameLen) :
    sanitizeFileName name = name ↔ ¬ EndsTrailing name := by
  have hne : name.toList ≠ [] := fun hnil => h.nonempty (String.toList_injective hnil)
  have hkept : (Daemon.trimmedName name).take maxFileNameLen = Daemon.trimmedName name := by
    apply List.take_of_length_le
    rw [h.trimmedName]
    exact (List.rdropWhile_prefix _ _).length_le.trans hlen
  have hends : ¬ EndsTrailing name ↔ name.toList.rdropWhile trailing = name.toList := by
    rw [List.rdropWhile_eq_self_iff, EndsTrailing, List.getLast?_eq_some_getLast hne]
    exact ⟨fun hlast _ => hlast, fun hlast => hlast hne⟩
  rw [sanitizeFileName_eq, hkept, h.trimmedName, hends]
  constructor
  · intro heq
    split at heq
    · -- nothing was left: the fallback has no trailing dot, so it is not the name
      subst heq
      decide
    · simpa using congrArg String.toList heq
  · intro heq
    rw [heq, if_neg (by rwa [List.isEmpty_iff]), String.ofList_toList]

theorem sanitizeFileName_again (raw : String) :
    sanitizeFileName (sanitizeFileName raw) = sanitizeFileName raw ↔ ¬ CutBehindTrailing raw := by
  rw [(sanitizeFileName_safe raw).sanitizeFileName_eq_self (length_sanitizeFileName raw),
    endsTrailing_sanitizeFileName]

/-- A name that a second pass keeps and that has nothing trailing. -/
def Canonical (name : String) : Prop := sanitizeFileName name = name ∧ ¬ EndsTrailing name

instance (name : String) : Decidable (Canonical name) := inferInstanceAs (Decidable (_ ∧ _))

/-- **Received names are canonical** unless the cut falls behind a dot or a space. -/
theorem sanitizeFileName_canonical_iff (raw : String) :
    Canonical (sanitizeFileName raw) ↔ ¬ CutBehindTrailing raw := by
  rw [Canonical, sanitizeFileName_again, endsTrailing_sanitizeFileName, and_self]

def lettersDot (n : Nat) : String := String.ofList (List.replicate n 'a' ++ ['.', 'b'])

theorem lettersDot_safe (n : Nat) (h : 0 < n) : SafeComponent (lettersDot n) := by
  apply safe_of_length
  · simp only [lettersDot, String.toList_ofList, List.length_append, List.length_replicate,
      List.length_cons, List.length_nil]
    omega
  · intro c hc
    have hmem : c = 'a' ∨ c = '.' ∨ c = 'b' := by
      simp only [lettersDot, String.toList_ofList, List.mem_append, List.mem_replicate,
        List.mem_cons, List.not_mem_nil, or_false] at hc
      exact hc.imp_left And.right
    rcases hmem with rfl | rfl | rfl <;> decide

/-- If the dot is the last character kept, the name ends in it. -/
theorem sanitizeFileName_lettersDot (h : n + 1 = maxFileNameLen) :
    sanitizeFileName (lettersDot n) = String.ofList (List.replicate n 'a' ++ ['.']) := by
  have hpos : 0 < n := by
    have hmax : maxFileNameLen = 240 := rfl
    omega
  have htrimmed : trimmedName (lettersDot n) = (List.replicate n 'a' ++ ['.']) ++ ['b'] := by
    rw [(lettersDot_safe n hpos).trimmedName, lettersDot, String.toList_ofList,
      show ['.', 'b'] = ['.'] ++ ['b'] from rfl, ← List.append_assoc]
    exact List.rdropWhile_concat_neg _ _ _ (by decide)
  have hcut : (trimmedName (lettersDot n)).take maxFileNameLen = List.replicate n 'a' ++ ['.'] := by
    rw [htrimmed, ← h]
    exact List.take_left' (by simp)
  rw [sanitizeFileName_eq, hcut]
  simp

theorem endsTrailing_lettersDot (h : n + 1 = maxFileNameLen) :
    EndsTrailing (sanitizeFileName (lettersDot n)) := by
  rw [sanitizeFileName_lettersDot h, EndsTrailing, String.toList_ofList, List.getLast?_concat]
  decide

/-- A name whose 240th character is its last dot: the second pass drops the dot. -/
theorem sanitizeFileName_cut_at_dot :
    ∃ raw : String,
      raw = String.ofList (List.replicate 239 'a' ++ ['.', 'b']) ∧
      sanitizeFileName raw = String.ofList (List.replicate 239 'a' ++ ['.']) ∧
      EndsTrailing (sanitizeFileName raw) ∧
      sanitizeFileName (sanitizeFileName raw) ≠ sanitizeFileName raw ∧
      ¬ Canonical (sanitizeFileName raw) := by
  have hends : EndsTrailing (sanitizeFileName (lettersDot 239)) := endsTrailing_lettersDot rfl
  have hcut := (endsTrailing_sanitizeFileName (lettersDot 239)).mp hends
  exact ⟨lettersDot 239, rfl, sanitizeFileName_lettersDot rfl, hends,
    fun hagain => (sanitizeFileName_again (lettersDot 239)).mp hagain hcut,
    fun hcan => hcan.2 hends⟩

/-! ## Names that fit

A Linux file system takes components of at most 255 bytes.  `NameFits` is about all
components one peer name gives rise to. -/

/-- `NAME_MAX`, in bytes. -/
def nameMax : Nat := 255

/-- Every component that is tried for a peer's file name fits. -/
structure NameFits (raw : String) : Prop where
  staged : (sanitizeFileName raw ++ partSuffix).utf8ByteSize ≤ nameMax
  plain : (sanitizeFileName raw).utf8ByteSize ≤ nameMax
  numbered : ∀ n, 1 ≤ n → n < maxNameCollisions →
    (numberedName (sanitizeFileName raw) n).utf8ByteSize ≤ nameMax

/-- Characters below 128 take one byte each. -/
theorem utf8ByteSize_ofList_ascii {text : List Char} (h : ∀ c ∈ text, c.toNat < 128) :
    (String.ofList text).utf8ByteSize = text.length := by
  induction text with
  | nil => rfl
  | cons c text ih =>
    have hc : c.utf8Size = 1 :=
      Char.utf8Size_eq_one_iff.mpr (Nat.le_of_lt_succ (h c List.mem_cons_self))
    have hsplit : String.ofList (c :: text) = String.singleton c ++ String.ofList text :=
      String.toList_injective (by simp)
    rw [hsplit, String.utf8ByteSize_append, ih fun d hd => h d (List.mem_cons_of_mem c hd),
      String.utf8ByteSize_singleton, hc, List.length_cons, Nat.add_comm]

theorem utf8ByteSize_toString (h : n < maxNameCollisions) :
    (toString n).utf8ByteSize ≤ 4 := by
  rw [Nat.toString_eq_ofList_toDigits, utf8ByteSize_ofList_ascii]
  · exact (Nat.length_toDigits_le_iff (by decide) (by decide)).mpr h
  · intro c hc
    have hdigit := Nat.isDigit_of_mem_toDigits (by decide) (by decide) hc
    have hrange : 48 ≤ c.toNat ∧ c.toNat ≤ 57 := Char.isDigit_iff_toNat.mp hdigit
    omega

/-- Stem and extension with the dot between them are the name. -/
theorem splitExtension_some {ext : String}
    (h : splitExtension name = (stem, some ext)) : name = stem ++ "." ++ ext := by
  unfold splitExtension at h
  dsimp only at h
  split at h
  · cases h
  · rename_i dot before hrest
    split at h
    · cases h
    · cases h
      have hdot : dot = '.' := by
        have hhead := List.head?_dropWhile_not (fun c => decide (c ≠ '.')) name.toList.reverse
        rw [hrest] at hhead
        simpa using hhead
      subst hdot
      -- the extension was read off the reversed name, up to the last dot
      have hrev : name.toList.reverse.takeWhile (fun c => c ≠ '.') ++ '.' :: before =
          name.toList.reverse := by
        rw [← hrest, List.takeWhile_append_dropWhile]
      apply String.toList_injective
      calc name.toList
          = (name.toList.reverse.takeWhile (fun c => c ≠ '.') ++ '.' :: before).reverse := by
            rw [hrev, List.reverse_reverse]
        _ = _ := by simp

theorem splitExtension_none (h : splitExtension name = (stem, none)) :
    stem = name := by
  unfold splitExtension at h
  dsimp only at h
  split at h
  · cases h
    rfl
  · split at h <;> cases h
    rfl

/-- A number adds less than the staging suffix. -/
theorem utf8ByteSize_numberedName (name : String) (h : n < maxNameCollisions) :
    (numberedName name n).utf8ByteSize ≤ name.utf8ByteSize + 7 := by
  have hnumber := utf8ByteSize_toString h
  have htext : ∀ text : String, toString text = text := fun _ => rfl
  have hbrackets : " (".utf8ByteSize = 2 ∧ ")".utf8ByteSize = 1 ∧ ").".utf8ByteSize = 2 ∧
      ".".utf8ByteSize = 1 := by decide
  unfold numberedName
  cases hsplit : splitExtension name with
  | mk stem ext =>
    cases ext with
    | none =>
      rw [← splitExtension_none hsplit]
      simp only [htext, String.utf8ByteSize_append]
      omega
    | some ext =>
      rw [splitExtension_some hsplit]
      simp only [htext, String.utf8ByteSize_append]
      omega

/-- The staging suffix decides. -/
theorem nameFits_iff (raw : String) : NameFits raw ↔ (sanitizeFileName raw).utf8ByteSize ≤ 241 := by
  have hsuffix : partSuffix.utf8ByteSize = 14 := by decide
  have hmax : nameMax = 255 := rfl
  have hstaged : (sanitizeFileName raw ++ partSuffix).utf8ByteSize =
      (sanitizeFileName raw).utf8ByteSize + 14 := by
    rw [String.utf8ByteSize_append, hsuffix]
  constructor
  · intro h
    have := h.staged
    omega
  · intro h
    refine ⟨by omega, by omega, fun n _ hn => ?_⟩
    have hcopy := utf8ByteSize_numberedName (sanitizeFileName raw) hn
    omega

/-! ### A file system with the limit -/

def tooLong (path : String) : Bool :=
  nameMax < (String.ofList ((segments path).getLastD [])).utf8ByteSize

/-- How an operation that makes a file at `path` fails because of its name. -/
def refuseLong (path : String) : Option String :=
  if tooLong path then some "File name too long (os error 36)" else none

/-- The file operations of a call where only names that are too long fail. -/
def nameLimited (s : Staging) : EngineCall → Faults
  | .startReceive info => { Faults.none with create := refuseLong (s.partPathOf info.fileName) }
  | .finishReceive id =>
    -- whether such a name exists cannot be told either
    let io := { Faults.none with stat := tooLong }
    { io with
      rename := (s.incoming.get id).bind fun t => refuseLong (s.destination io t.finalName) }
  | .writeChunk _ _ | .abort _ => .none

theorem tooLong_joinPath (dir : String) (h : SafeComponent name) :
    tooLong (joinPath dir name) = decide (nameMax < name.utf8ByteSize) := by
  rw [tooLong, segments_joinPath dir h]
  simp

theorem refuseLong_eq_none {path : String} : refuseLong path = none ↔ tooLong path = false := by
  unfold refuseLong
  cases tooLong path <;> simp

/-- The names `free_destination` tries for a name that fits are short enough. -/
theorem NameFits.destination {raw : String} (h : NameFits raw) (taken : String → Bool)
    (dir : String) :
    tooLong (freeDestination taken dir (sanitizeFileName raw)) = false := by
  have hsafe := sanitizeFileName_safe raw
  have hplain : tooLong (joinPath dir (sanitizeFileName raw)) = false := by
    rw [tooLong_joinPath dir hsafe]
    exact decide_eq_false (Nat.not_lt.mpr h.plain)
  unfold freeDestination
  dsimp only
  split
  · exact hplain
  · split
    · -- a numbered copy, with a number `NameFits` speaks about
      rename_i n hfind
      have hmem := List.mem_of_find?_eq_some hfind
      rw [List.mem_range'_1] at hmem
      have hmax : 1 + (maxNameCollisions - 1) = maxNameCollisions := by decide
      rw [tooLong_joinPath dir (hsafe.numberedName n)]
      exact decide_eq_false (Nat.not_lt.mpr (h.numbered n hmem.1 (hmax ▸ hmem.2)))
    · exact hplain

/-- A start fails because of the name's length exactly if the name does not fit. -/
theorem startReceive_nameLimited {s : Staging} {info : TransferMeta}
    (hid : s.incoming.get info.transferId = none)
    (hfile : s.files.has (s.partPathOf info.fileName) = false) :
    (s.startReceive (nameLimited s (.startReceive info)) info).1 = .ok () ↔
      NameFits info.fileName := by
  -- the staging name is the longest of those that are tried
  have hstaged : tooLong (s.partPathOf info.fileName) = false ↔ NameFits info.fileName := by
    rw [Staging.partPathOf, tooLong_joinPath _ (sanitizeFileName_safe info.fileName).partName,
      decide_eq_false_iff_not, Nat.not_lt]
    refine ⟨fun h => ?_, NameFits.staged⟩
    have hsuffix : partSuffix.utf8ByteSize = 14 := by decide
    have hmax : nameMax = 255 := rfl
    rw [String.utf8ByteSize_append] at h
    rw [nameFits_iff]
    omega
  rw [← hstaged, ← refuseLong_eq_none]
  cases hrefuse : refuseLong (s.partPathOf info.fileName) with
  | none => simp [Staging.startReceive, hid, nameLimited, Faults.none, hrefuse, hfile]
  | some msg => simp [Staging.startReceive, hid, nameLimited, Faults.none, hrefuse]

/-- **Received names fit the file system** exactly up to 241 bytes, and then no
    receive fails because of the length of its name. -/
theorem received_names_fit (raw : String) :
    (NameFits raw ↔ (sanitizeFileName raw).utf8ByteSize ≤ 241) ∧
      (∀ (s : Staging) (info : TransferMeta), info.fileName = raw →
        s.incoming.get info.transferId = none → s.files.has (s.partPathOf raw) = false →
        ((s.startReceive (nameLimited s (.startReceive info)) info).1 = .ok () ↔ NameFits raw)) ∧
      ∀ (s : Staging) (id : String) (t : IncomingTransfer), s.incoming.get id = some t →
        t.finalName = sanitizeFileName raw → NameFits raw →
        (nameLimited s (.finishReceive id)).rename = none := by
  refine ⟨nameFits_iff raw, ?_, ?_⟩
  · rintro s info rfl hid hfile
    exact startReceive_nameLimited hid hfile
  · intro s id t ht hname hfits
    simp only [nameLimited, ht, Option.bind_some, refuseLong_eq_none, Staging.destination, hname]
    exact hfits.destination _ _

theorem received_names_fit_report :
    (NameFits "report.pdf" ↔ (sanitizeFileName "report.pdf").utf8ByteSize ≤ 241) ∧
      ((Staging.idle "/d" .empty).startReceive
        (nameLimited (Staging.idle "/d" .empty) (.startReceive ⟨"t1", "peer", "report.pdf", 3⟩))
        ⟨"t1", "peer", "report.pdf", 3⟩).1 = .ok () := by
  have h := received_names_fit "report.pdf"
  have hname : sanitizeFileName "report.pdf" = "report.pdf" := by decide
  have hfits : NameFits "report.pdf" := h.1.mpr (by rw [hname]; decide)
  exact ⟨h.1, (h.2.1 (Staging.idle "/d" .empty) ⟨"t1", "peer", "report.pdf", 3⟩ rfl rfl rfl).mpr
    hfits⟩

def twoByteName (n : Nat) : String := String.ofList (List.replicate n 'é')

theorem sanitizeFileName_twoByteName (hlo : 2 < n) (hhi : n ≤ maxFileNameLen) :
    sanitizeFileName (twoByteName n) = twoByteName n := by
  have hmem : ∀ c ∈ (twoByteName n).toList, c = 'é' := by
    intro c hc
    rw [twoByteName, String.toList_ofList] at hc
    exact List.eq_of_mem_replicate hc
  have hlen : (twoByteName n).toList.length = n := by
    rw [twoByteName, String.toList_ofList, List.length_replicate]
  have hsafe : SafeComponent (twoByteName n) := by
    refine safe_of_length (by rwa [hlen]) fun c hc => ?_
    rw [hmem c hc]
    decide
  rw [hsafe.sanitizeFileName_eq_self (by rwa [hlen]), EndsTrailing]
  cases hlast : (twoByteName n).toList.getLast? with
  | none => simp
  | some c =>
    rw [hmem c (List.mem_of_getLast? hlast)]
    decide

theorem utf8ByteSize_twoByteName (n : Nat) : (twoByteName n).utf8ByteSize = 2 * n := by
  induction n with
  | zero => rfl
  | succ n ih =>
    have hsplit : twoByteName (n + 1) = String.singleton 'é' ++ twoByteName n :=
      String.toList_injective (by simp [twoByteName, List.replicate_succ])
    have hchar : (String.singleton 'é').utf8ByteSize = 2 := by decide
    rw [hsplit, String.utf8ByteSize_append, ih, hchar]
    omega

/-- With 240 characters of two bytes neither the staging file nor a plain
    destination fits, and the receive fails. -/
theorem received_name_too_long :
    ∃ raw : String,
      raw = String.ofList (List.replicate 240 'é') ∧
      (sanitizeFileName raw ++ partSuffix).utf8ByteSize = 494 ∧
      (sanitizeFileName raw).utf8ByteSize = 480 ∧ ¬ NameFits raw ∧
      ((Staging.idle "/d" .empty).startReceive
        (nameLimited (Staging.idle "/d" .empty) (.startReceive ⟨"t1", "peer", raw, 3⟩))
        ⟨"t1", "peer", raw, 3⟩).1 ≠ .ok () := by
  have hname : sanitizeFileName (twoByteName 240) = twoByteName 240 :=
    sanitizeFileName_twoByteName (by decide) (by decide)
  have hnot : ¬ NameFits (twoByteName 240) := by
    rw [nameFits_iff, hname, utf8ByteSize_twoByteName]
    decide
  have hsuffix : partSuffix.utf8ByteSize = 14 := by decide
  refine ⟨twoByteName 240, rfl, ?_, ?_, hnot, ?_⟩
  · rw [String.utf8ByteSize_append, hname, utf8ByteSize_twoByteName, hsuffix]
  · rw [hname, utf8ByteSize_twoByteName]
  · rw [ne_eq, startReceive_nameLimited rfl rfl]
    exact hnot

end Handfast.Daemon
