/-
  Handfast.Daemon.Containment

  Where downloads go.  The peer chooses the file name, and whatever it sends,
  the staging file and the final file are direct children of the save
  directory: the name is reduced to one component that is safe to join.

  The argument follows the stages of `sanitize_file_name`.  Splitting removes
  the separators, cleaning maps the forbidden characters to `_`, trimming
  leaves no trailing dot, and truncation cuts only names that are far too long
  to be a dot or two.  The suffix of the staging file and the number of a copy
  add only harmless characters.

  `Named` ties the entries of the engine to the names they were started with;
  with it every path the engine ever touches is contained.
-/
import Handfast.Daemon.Staging

namespace Handfast.Daemon

open Handfast.Lib Handfast.Protocol Handfast.Core

/-! ## Components -/

/-- Separators, control characters and characters other systems reject. -/
def Forbidden (c : Char) : Prop :=
  c = '/' ∨ c = '\\' ∨ c.toNat < 0x20 ∨ c.toNat = 0x7f ∨ c ∈ "<>:\"|?*".toList

instance (c : Char) : Decidable (Forbidden c) :=
  inferInstanceAs (Decidable (c = '/' ∨ c = '\\' ∨ c.toNat < 0x20 ∨ c.toNat = 0x7f ∨
    c ∈ "<>:\"|?*".toList))

def Clean (text : List Char) : Prop := ∀ c ∈ text, ¬ Forbidden c

instance (text : List Char) : Decidable (Clean text) :=
  List.decidableBAll (fun c => ¬ Forbidden c) text

variable {xs ys cleaned : List Char} {name : String} {α : Type}

theorem clean_append : Clean (xs ++ ys) ↔ Clean xs ∧ Clean ys :=
  List.forall_mem_append

theorem Clean.mono (h : Clean ys) (hsub : ∀ c ∈ xs, c ∈ ys) : Clean xs :=
  fun c hc => h c (hsub c hc)

/-- A name that can be joined to a directory without leaving it. -/
structure SafeComponent (name : String) : Prop where
  nonempty : name ≠ ""
  notDot : name ≠ "."
  notDotDot : name ≠ ".."
  clean : Clean name.toList

/-- The components of a path: what lies between its separators. -/
def segments (path : String) : List (List Char) :=
  (path.toList.splitOnP fun c => c = '/').filter fun segment => !segment.isEmpty

/-- The path is the directory with one safe component added. -/
def DirectChild (dir path : String) : Prop :=
  ∃ name, SafeComponent name ∧ path = joinPath dir name ∧
    segments path = segments dir ++ [name.toList]

/-- A safe name is one component of a path. -/
theorem segments_of_clean (h : SafeComponent name) :
    segments name = [name.toList] := by
  have hsep : ∀ c ∈ name.toList, decide (c = '/') = false :=
    fun c hc => decide_eq_false fun hslash => h.clean c hc (.inl hslash)
  have hne : name.toList ≠ [] := fun hnil => h.nonempty (String.toList_injective hnil)
  rw [segments, List.splitOnP_eq_singleton hsep]
  simp [hne]

/-- A separator starts a new component. -/
theorem segments_slash (dir name : String) :
    segments (dir ++ "/" ++ name) = segments dir ++ segments name := by
  have htext : (dir ++ "/" ++ name).toList = dir.toList ++ '/' :: name.toList := by
    simp [String.toList_append]
  rw [segments, htext, List.splitOnP_append_cons _ _ (by decide), List.filter_append]
  rfl

/-- A directory that ends in a separator has the components of what is before it. -/
theorem segments_trailing {dir : String} (h : dir.toList.getLast? = some '/') (name : String) :
    segments (dir ++ name) = segments dir ++ segments name := by
  obtain ⟨front, hfront⟩ := List.getLast?_eq_some_iff.mp h
  have hdir : segments dir = segments (String.ofList front) := by
    rw [segments, segments, hfront, List.splitOnP_append_cons _ _ (by decide)]
    simp
  have htext : dir ++ name = String.ofList front ++ "/" ++ name := by
    apply String.toList_injective
    simp [String.toList_append, hfront]
  rw [htext, segments_slash, hdir]

theorem segments_joinPath (dir : String) (h : SafeComponent name) :
    segments (joinPath dir name) = segments dir ++ [name.toList] := by
  unfold joinPath
  cases hlast : dir.toList.getLast? with
  | none =>
    have hdir : dir = "" := String.toList_injective (List.getLast?_eq_none_iff.mp hlast)
    simp only [hdir, segments_of_clean h]
    rfl
  | some c =>
    by_cases hc : c = '/'
    · subst hc
      simp only [if_true, segments_trailing hlast, segments_of_clean h]
    · simp only [if_neg hc, segments_slash, segments_of_clean h]

/-- A safe name joined to a directory is a child of it. -/
theorem SafeComponent.directChild (h : SafeComponent name) (dir : String) :
    DirectChild dir (joinPath dir name) :=
  ⟨name, h, rfl, segments_joinPath dir h⟩

/-! ## The sanitized name -/

theorem cleanChar_clean {c : Char} (h : c ≠ '/' ∧ c ≠ '\\') : ¬ Forbidden (cleanChar c) := by
  unfold cleanChar
  by_cases hreserved : "<>:\"|?*".toList.contains c
  · rw [if_pos hreserved]
    decide
  · rw [if_neg hreserved]
    by_cases hcontrol : c.toNat < 0x20 ∨ c.toNat = 0x7f
    · rw [if_pos hcontrol]
      decide
    · rw [if_neg hcontrol]
      have hmem : c ∉ "<>:\"|?*".toList := fun hc => hreserved (List.contains_iff_mem.mpr hc)
      rintro (hslash | hback | hlow | hdel | hlist)
      · exact h.1 hslash
      · exact h.2 hback
      · exact hcontrol (.inl hlow)
      · exact hcontrol (.inr hdel)
      · exact hmem hlist

/-- What lies between separators has none. -/
theorem mem_splitOnP {p : α → Bool} {xs part : List α} (h : part ∈ xs.splitOnP p) :
    ∀ x ∈ part, p x = false := by
  induction xs generalizing part with
  | nil =>
    obtain rfl : part = [] := by simpa using h
    simp
  | cons x xs ih =>
    rw [List.splitOnP_cons_eq_if_modifyHead] at h
    by_cases hx : p x = true
    · rw [if_pos hx] at h
      rcases List.mem_cons.mp h with rfl | hrest
      · simp
      · exact ih hrest
    · -- the first part grows by a character that is no separator
      rw [if_neg hx] at h
      cases hparts : xs.splitOnP p with
      | nil => exact absurd hparts (List.splitOnP_ne_nil _ _)
      | cons head rest =>
        rw [hparts] at h ih
        rcases List.mem_cons.mp h with rfl | hrest
        · intro y hy
          rcases List.mem_cons.mp hy with rfl | hy
          · exact Bool.eq_false_iff.mpr hx
          · exact ih List.mem_cons_self y hy
        · exact ih (List.mem_cons_of_mem head hrest)

/-- What the loop picks is what it started with, or an element it did not skip. -/
theorem foldl_pick_mem {skip : α → Prop} [DecidablePred skip] {xs : List α} {start : Option α}
    {x : α} (h : xs.foldl (fun picked y => if skip y then picked else some y) start = some x) :
    start = some x ∨ x ∈ xs ∧ ¬ skip x := by
  induction xs generalizing start with
  | nil => exact .inl h
  | cons y ys ih =>
    rcases ih h with hstart | ⟨hmem, hskip⟩
    · by_cases hy : skip y
      · simp only [if_pos hy] at hstart
        exact .inl hstart
      · simp only [if_neg hy] at hstart
        cases hstart
        exact .inr ⟨List.mem_cons_self, hy⟩
    · exact .inr ⟨List.mem_cons_of_mem y hmem, hskip⟩

/-- The picked segment lies between separators, so it has none. -/
theorem pickSegment_separators {raw : String} {segment : List Char}
    (h : pickSegment raw = some segment) : ∀ c ∈ segment, c ≠ '/' ∧ c ≠ '\\' := by
  rcases foldl_pick_mem h with hnone | ⟨hmem, -⟩
  · cases hnone
  · intro c hc
    have hsep := mem_splitOnP hmem c hc
    simpa using hsep

theorem clean_cleaned (raw : String) :
    Clean (((pickSegment raw).getD fallbackName.toList).map cleanChar) := by
  intro c hc
  obtain ⟨c₀, hc₀, rfl⟩ := List.mem_map.mp hc
  apply cleanChar_clean
  cases hpick : pickSegment raw with
  | none =>
    rw [hpick] at hc₀
    have hfallback : fallbackName.toList.all (fun c => c != '/' && c != '\\') = true := by
      decide
    simpa using List.all_eq_true.mp hfallback c₀ hc₀
  | some segment =>
    rw [hpick] at hc₀
    exact pickSegment_separators hpick c₀ hc₀

/-- A cut that leaves less than the limit was none. -/
theorem eq_of_take_short {xs short : List α} {n : Nat} (h : xs.take n = short)
    (hlen : short.length < n) : xs = short := by
  have hmin : min n xs.length = short.length := by rw [← List.length_take, h]
  rw [← h, List.take_of_length_le (by omega)]

theorem safe_fallbackName : SafeComponent fallbackName :=
  ⟨by decide, by decide, by decide, by decide⟩

/-- What is left of the name has no trailing dot, however short it is. -/
theorem truncated_ne_dots {dots : List Char}
    (h : (cleaned.rdropWhile fun c => c = '.' || c = ' ').take maxFileNameLen = dots)
    (hne : dots ≠ []) (hlast : dots.getLast hne = '.') : maxFileNameLen ≤ dots.length := by
  by_contra hshort
  have htrimmed := eq_of_take_short h (Nat.lt_of_not_le hshort)
  subst htrimmed
  have hnot := List.rdropWhile_last_not _ cleaned hne
  rw [hlast] at hnot
  exact hnot (by decide)

/-- The last stage: the truncated name, or the fallback if nothing is left. -/
theorem safe_of_truncated {truncated : List Char} (hclean : Clean cleaned)
    (h : (cleaned.rdropWhile fun c => c = '.' || c = ' ').take maxFileNameLen = truncated) :
    SafeComponent (if truncated.isEmpty then fallbackName else String.ofList truncated) := by
  by_cases hempty : truncated = []
  · simp only [hempty, List.isEmpty_nil, if_true, safe_fallbackName]
  · rw [if_neg (by rwa [List.isEmpty_iff])]
    have hsub : ∀ c ∈ truncated, c ∈ cleaned := fun c hc =>
      (List.rdropWhile_prefix _ cleaned).subset (List.mem_of_mem_take (h ▸ hc))
    refine ⟨fun heq => hempty ?_, fun heq => ?_, fun heq => ?_, ?_⟩
    · simpa using congrArg String.toList heq
    · obtain rfl : truncated = ['.'] := by simpa using congrArg String.toList heq
      exact absurd (truncated_ne_dots h hempty rfl) (by decide)
    · obtain rfl : truncated = ['.', '.'] := by simpa using congrArg String.toList heq
      exact absurd (truncated_ne_dots h hempty rfl) (by decide)
    · rw [String.toList_ofList]
      exact hclean.mono hsub

/-- A sanitized name is safe, whatever the peer sent. -/
theorem sanitizeFileName_safe (raw : String) : SafeComponent (sanitizeFileName raw) :=
  safe_of_truncated (clean_cleaned raw) rfl

example : sanitizeFileName "..\\../etc/a<b>.. ." = "a_b_" := by decide

/-! ## Staging names and numbered copies -/

/-- More than two harmless characters are a safe name. -/
theorem safe_of_length (hlen : 2 < name.toList.length)
    (hclean : Clean name.toList) : SafeComponent name := by
  refine ⟨?_, ?_, ?_, hclean⟩ <;> (rintro rfl; revert hlen; decide)

theorem SafeComponent.partName (h : SafeComponent name) :
    SafeComponent (name ++ partSuffix) := by
  have hsuffix : partSuffix.toList.length = 14 := by decide
  apply safe_of_length
  · rw [String.toList_append, List.length_append]
    omega
  · rw [String.toList_append, clean_append]
    exact ⟨h.clean, by decide⟩

/-- Stem and extension are made of the name's characters. -/
theorem splitExtension_clean (h : Clean name.toList) :
    Clean (splitExtension name).1.toList ∧
      ∀ ext, (splitExtension name).2 = some ext → Clean ext.toList := by
  have hwhole : Clean (name, (none : Option String)).1.toList ∧
      ∀ ext, (name, (none : Option String)).2 = some ext → Clean ext.toList :=
    ⟨h, fun ext hext => by cases hext⟩
  unfold splitExtension
  dsimp only
  split
  · exact hwhole
  · rename_i dot before hrest
    split
    · exact hwhole
    · constructor
      · -- the stem is what stands before the last dot
        apply h.mono
        intro c hc
        have hmem : c ∈ name.toList.reverse.dropWhile fun c => c ≠ '.' := by
          rw [hrest]
          exact List.mem_cons_of_mem dot (by simpa using hc)
        exact List.mem_reverse.mp ((List.dropWhile_sublist _).subset hmem)
      · intro ext hext
        cases hext
        apply h.mono
        intro c hc
        rw [String.toList_ofList, List.mem_reverse] at hc
        exact List.mem_reverse.mp ((List.takeWhile_sublist _).subset hc)

theorem clean_toString (n : Nat) : Clean (toString n).toList := by
  intro c hc
  rw [Nat.toString_eq_ofList_toDigits, String.toList_ofList] at hc
  have hdigit := Nat.isDigit_of_mem_toDigits (by decide) (by decide) hc
  have hrange : 48 ≤ c.toNat ∧ c.toNat ≤ 57 := Char.isDigit_iff_toNat.mp hdigit
  rintro (rfl | rfl | hlow | hdel | hlist)
  · revert hrange
    decide
  · revert hrange
    decide
  · omega
  · omega
  · have hreserved : "<>:\"|?*".toList.all (fun c => !(48 ≤ c.toNat && c.toNat ≤ 57)) = true := by
      decide
    have hnot := List.all_eq_true.mp hreserved c hlist
    simp [hrange] at hnot

/-- A number in brackets makes no name unsafe. -/
theorem SafeComponent.numberedName (h : SafeComponent name) (n : Nat) :
    SafeComponent (numberedName name n) := by
  obtain ⟨hstem, hext⟩ := splitExtension_clean h.clean
  have htext : ∀ text : String, toString text = text := fun _ => rfl
  have hnumber := clean_toString n
  unfold Daemon.numberedName
  cases hsplit : splitExtension name with
  | mk stem ext =>
    rw [hsplit] at hstem hext
    cases ext with
    | none =>
      apply safe_of_length
      · simp [htext]
        omega
      · simp only [htext, String.toList_append, clean_append]
        exact ⟨⟨⟨hstem, by decide⟩, hnumber⟩, by decide⟩
    | some ext =>
      apply safe_of_length
      · simp [htext]
        omega
      · simp only [htext, String.toList_append, clean_append]
        exact ⟨⟨⟨⟨hstem, by decide⟩, hnumber⟩, by decide⟩, hext ext rfl⟩

/-- Whatever is taken, the name that is found lies right in the directory. -/
theorem freeDestination_directChild (h : SafeComponent name) (taken : String → Bool)
    (dir : String) : DirectChild dir (freeDestination taken dir name) := by
  unfold freeDestination
  dsimp only
  split
  · exact h.directChild dir
  · split
    · exact (h.numberedName _).directChild dir
    · exact h.directChild dir

namespace Staging

variable {s : Staging} {io : Faults} {dir path : String} {id : String} {t : IncomingTransfer}

theorem partPathOf_directChild (s : Staging) (fileName : String) :
    DirectChild s.saveDir (s.partPathOf fileName) :=
  (sanitizeFileName_safe fileName).partName.directChild s.saveDir

/-! ## Runs of the engine -/

/-- The engine works in `dir`, and its entries carry the names derived from what
    the peer sent. -/
structure Named (dir : String) (s : Staging) : Prop where
  saveDir : s.saveDir = dir
  finalName : ∀ id t, s.incoming.get id = some t → t.finalName = sanitizeFileName t.info.fileName
  partPath : ∀ id t, s.incoming.get id = some t → t.partPath = s.partPathOf t.info.fileName

theorem named_idle (dir : String) (files : LocalFiles) : Named dir (idle dir files) :=
  ⟨rfl, fun id t ht => by simp [idle] at ht, fun id t ht => by simp [idle] at ht⟩

/-- Entries that come from old ones with the same names keep the engine named. -/
theorem Named.of_entries (h : Named dir s) {s' : Staging} (hdir : s'.saveDir = s.saveDir)
    (hentries : ∀ id t, s'.incoming.get id = some t →
      t = s.freshEntry t.info ∨ ∃ t₀, s.incoming.get id = some t₀ ∧ t₀.info = t.info ∧
        t₀.finalName = t.finalName ∧ t₀.partPath = t.partPath) : Named dir s' := by
  refine ⟨hdir.trans h.saveDir, fun id t ht => ?_, fun id t ht => ?_⟩
  · rcases hentries id t ht with hfresh | ⟨t₀, ht₀, hinfo, hname, -⟩
    · rw [hfresh]
      rfl
    · rw [← hname, h.finalName id t₀ ht₀, hinfo]
  · have hsame : s'.partPathOf t.info.fileName = s.partPathOf t.info.fileName := by
      rw [partPathOf, hdir, partPathOf]
    rw [hsame]
    rcases hentries id t ht with hfresh | ⟨t₀, ht₀, hinfo, -, hpath⟩
    · rw [hfresh]
      rfl
    · rw [← hpath, h.partPath id t₀ ht₀, hinfo]

/-- Every engine call keeps the names that were derived from what the peer sent. -/
theorem Named.call (h : Named dir s) (io : Faults) (c : EngineCall) :
    Named dir (s.call io c).2 := by
  have hdid := s.call_did io c
  refine h.of_entries hdid.saveDir fun id t ht => ?_
  exact (hdid.entry ht).imp_left fun hfresh => hfresh.2.2

theorem Named.partPath_directChild (h : Named dir s) (ht : s.incoming.get id = some t) :
    DirectChild dir t.partPath := by
  rw [h.partPath id t ht, ← h.saveDir]
  exact s.partPathOf_directChild _

theorem Named.destination_directChild (h : Named dir s) (io : Faults)
    (ht : s.incoming.get id = some t) : DirectChild dir (s.destination io t.finalName) := by
  rw [destination, h.finalName id t ht, ← h.saveDir]
  exact freeDestination_directChild (sanitizeFileName_safe _) _ _

/-- A call changes only its staging file and, when it finishes, the destination. -/
theorem Named.touched (h : Named dir s) (io : Faults) (c : EngineCall)
    (hpath : (s.call io c).2.files.read path ≠ s.files.read path) : DirectChild dir path := by
  have hsame : ∀ {p : String}, DirectChild dir p → (path ≠ p → False) → DirectChild dir path := by
    intro p hp hne
    rwa [show path = p from not_not.mp hne]
  have hdid := s.call_did io c
  generalize (s.call io c).1 = answer at hdid
  generalize (s.call io c).2 = s' at hdid hpath
  cases hdid with
  | failed _ _ => exact absurd rfl hpath
  | @started info _ _ =>
    refine hsame (h.saveDir ▸ s.partPathOf_directChild info.fileName) fun hne => hpath ?_
    simp [started, hne]
  | torn ht _ _ =>
    exact hsame (h.partPath_directChild ht) fun hne => hpath (Files.read_append_of_ne hne)
  | extended ht _ _ =>
    exact hsame (h.partPath_directChild ht) fun hne => hpath (Files.read_append_of_ne hne)
  | @moved id t ht _ _ =>
    -- a rename touches two paths
    by_cases hpart : path = t.partPath
    · rw [hpart]
      exact h.partPath_directChild ht
    · exact hsame (h.destination_directChild io ht) fun hne =>
        hpath (Files.read_rename_of_ne hpart hne)
  | lost _ _ => exact absurd rfl hpath
  | dropped ht _ =>
    refine hsame (h.partPath_directChild ht) fun hne => hpath ?_
    simp [dropped, hne]

/-- A call with the way its file operations go. -/
def callStep (s : Staging) (a : Faults × EngineCall) : Staging := (s.call a.1 a.2).2

/-- All paths of a call lie directly in `dir`. -/
structure Contained (dir : String) (s : Staging) (a : Faults × EngineCall) : Prop where
  /-- The staging path a start builds. -/
  staged : ∀ info, a.2 = .startReceive info → DirectChild dir (s.partPathOf info.fileName)
  /-- The destination a finish chooses. -/
  chosen : ∀ id t, a.2 = .finishReceive id → s.incoming.get id = some t →
    DirectChild dir (s.destination a.1 t.finalName)
  /-- The staging paths later calls will use. -/
  kept : ∀ id t, (callStep s a).incoming.get id = some t → DirectChild dir t.partPath
  /-- Every file the call creates, changes or removes. -/
  touched : ∀ path, (callStep s a).files.read path ≠ s.files.read path → DirectChild dir path

theorem Named.contained (h : Named dir s) (a : Faults × EngineCall) : Contained dir s a where
  staged info _ := h.saveDir ▸ s.partPathOf_directChild info.fileName
  chosen _ _ _ ht := h.destination_directChild a.1 ht
  kept _ _ ht := (h.call a.1 a.2).partPath_directChild ht
  touched _ hpath := h.touched a.1 a.2 hpath

/-- **Downloads stay in the save directory.** For every directory, every set of
    files there, every sequence of calls with any names, and any failures of the
    file operations. -/
theorem downloads_contained (dir : String) (files : LocalFiles)
    (calls : List (Faults × EngineCall)) :
    AllSteps callStep (Contained dir) (idle dir files) calls := by
  have hnamed : AllStates callStep (Named dir) (idle dir files) calls :=
    allStates_of_preserved (named_idle dir files) fun s a h => h.call a.1 a.2
  exact hnamed.allSteps fun s a h => h.contained a

end Staging

end Handfast.Daemon
