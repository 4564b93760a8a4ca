/-
  Handfast.Ui.Thunar

  The custom action of Thunar (`thunar_merge` and `strip_action_block` of
  `crates/tui/src/filemanager.rs`).  The file `uca.xml` is the user's: the action
  is put in front of the closing tag and cut out again, by searching the text.

  Installing replaces every `</actions>` of the text, also one in a comment, and
  removing cuts one block.  So the user's text comes back exactly if the tag
  stands once in it (`merge_preserves_iff`).  The path of `hfctl` is written
  into the block as it is, and a path with a closing tag in it ends the block for
  the removal.
-/
import Handfast.Daemon.Backends
import Handfast.Lib.Text

namespace Handfast.Ui.Thunar

open Handfast.Lib.Text Handfast.Daemon

/-! ## The file -/

/-- `MARKER`: the unique id of the action. -/
def marker : List Char := "handfast-send".toList

def actionsEnd : List Char := "</actions>".toList

def actionOpen : List Char := "<action>".toList

def actionClose : List Char := "</action>".toList

/-- What `strip_action_block` looks for. -/
def idMarker : List Char := "<unique-id>".toList ++ marker ++ "</unique-id>".toList

def frontLines : List (List Char) :=
  ["    <icon>document-send</icon>".toList,
   "    <name>Send via Handfast…</name>".toList,
   "    <submenu></submenu>".toList]

/-- The action behind the path of `hfctl`: the rest of that line, and the other lines. -/
def backLines : List (List Char) :=
  ["send --pick %F</command>".toList,
   "    <description>Send the selected files to a paired device</description>".toList,
   "    <patterns>*</patterns>".toList,
   "    <directories/>".toList,
   "    <audio-files/>".toList,
   "    <image-files/>".toList,
   "    <text-files/>".toList,
   "    <video-files/>".toList,
   "    <other-files/>".toList]

/-- Between the opening tag and the id. -/
def beforeId : List Char := '\n' :: (unlines '\n' frontLines ++ "    ".toList)

/-- Between the path and the closing tag. -/
def behindBin : List Char := ' ' :: (unlines '\n' backLines ++ "  ".toList)

/-- The action; `bin` is the path of `hfctl`. -/
def block (bin : List Char) : List Char :=
  [' ', ' '] ++ actionOpen ++ beforeId ++ idMarker ++ '\n' :: "    <command>".toList ++ bin ++
    behindBin ++ actionClose ++ ['\n']

/-- Cut out the block that carries the marker (`strip_action_block`). -/
def stripActionBlock (content : List Char) : List Char :=
  match find idMarker content with
  | none => content
  | some markerPos =>
    match rfind actionOpen (content.take markerPos) with
    | none => content
    | some blockStart =>
      -- searched from the opening tag on, not from the id on
      match find actionClose (content.drop blockStart) with
      | none => content
      | some relEnd =>
        let blockEnd := blockStart + relEnd + actionClose.length
        content.take blockStart ++ content.drop blockEnd

/-- Install or remove the action: the result and the file afterwards (`thunar_merge`). -/
def thunarMerge (bin : List Char) (path : String) (remove : Bool) (file : Option (List Char)) :
    Except String Unit × Option (List Char) :=
  if remove then
    (.ok (), file.map stripActionBlock)
  else
    match file with
    | none =>
      (.ok (), some ("<?xml version=\"1.0\" encoding=\"UTF-8\"?>\n<actions>\n".toList ++
        block bin ++ "</actions>\n".toList))
    | some content =>
      -- already installed
      if marker <:+: content then (.ok (), some content)
      else
        let updated := replace actionsEnd (block bin ++ actionsEnd) content
        if updated = content then
          (.error s!"{path}: no </actions> closing tag found; refusing to guess", some content)
        else (.ok (), some updated)

def solid (text : List Char) : List Char := text.filter fun c => !whiteSpace c

/-- What installing and removing leave of the user's text. -/
structure Preserves (bin : List Char) (path : String) (text : List Char) : Prop where
  /-- One action is put in, every other byte stays. -/
  adds : ∃ pre post, text = pre ++ post ∧
    thunarMerge bin path false (some text) = (.ok (), some (pre ++ (block bin ++ post)))
  again : thunarMerge bin path false (thunarMerge bin path false (some text)).2 =
    (.ok (), (thunarMerge bin path false (some text)).2)
  /-- Removing leaves the text but for white space, and no trace of the marker. -/
  removed : ∃ out,
    thunarMerge bin path true (thunarMerge bin path false (some text)).2 = (.ok (), some out) ∧
      solid out = solid text ∧ ¬ marker <:+: out

/-! ## Cutting the block out -/

variable {bin pre post text tail s : List Char} {path : String}

/-- The block found: from the last opening tag in front of the id to the next closing tag. -/
theorem stripActionBlock_eq {mid after inner : List Char}
    (hid : FirstAt idMarker (pre ++ (actionOpen ++ mid)))
    (hopen : ¬ actionOpen <:+: actionOpen.tail ++ mid) (hclose : FirstAt actionClose inner)
    (hinner : actionOpen ++ (mid ++ (idMarker ++ after)) = inner ++ (actionClose ++ tail)) :
    stripActionBlock (pre ++ (actionOpen ++ (mid ++ (idMarker ++ after)))) = pre ++ tail := by
  have hcontent : pre ++ (actionOpen ++ (mid ++ (idMarker ++ after))) =
      (pre ++ (actionOpen ++ mid)) ++ (idMarker ++ after) := by
    simp only [List.append_assoc]
  have hmarkerPos := find_append (b := after) (by decide) hid
  have hblockStart : rfind actionOpen (pre ++ (actionOpen ++ mid)) = some pre.length :=
    rfind_append (by decide) hopen
  have hrelEnd := find_append (b := tail) (by decide) hclose
  have hdrop : (pre ++ (inner ++ (actionClose ++ tail))).drop
      (pre.length + inner.length + actionClose.length) = tail := by
    rw [← List.drop_drop, ← List.drop_drop, List.drop_left, List.drop_left, List.drop_left]
  -- the id decides where the search for the opening tag ends, and that where the closing tag is
  rw [stripActionBlock, hcontent, hmarkerPos]
  simp only [List.take_left, hblockStart]
  rw [← hcontent, hinner, List.drop_left, hrelEnd]
  simp only [List.take_left, hdrop]

theorem marker_infix_id : marker <:+: idMarker := ⟨_, _, rfl⟩

/-- The block's opening tag is the last one in front of the id. -/
theorem open_last : ¬ actionOpen <:+: actionOpen.tail ++ beforeId := by
  rw [beforeId, infix_append_cons (by decide), infix_unlines (by decide)]
  decide

/-- Where the user's text has no marker, the block's id is the first one. -/
theorem id_first (hpre : ¬ marker <:+: pre) :
    FirstAt idMarker (pre ++ [' ', ' '] ++ (actionOpen ++ beforeId)) := by
  have hid : ¬ idMarker <:+: pre := fun h => hpre (marker_infix_id.trans h)
  have hrest : ¬ idMarker <:+: ' ' :: (actionOpen ++ (beforeId ++ idMarker.dropLast)) := by
    rw [beforeId, List.cons_append, List.append_assoc, ← List.cons_append,
      infix_append_cons (by decide), infix_unlines (by decide)]
    decide
  have hshape : pre ++ [' ', ' '] ++ (actionOpen ++ beforeId) ++ idMarker.dropLast =
      pre ++ ' ' :: ' ' :: (actionOpen ++ (beforeId ++ idMarker.dropLast)) := by
    simp only [List.append_assoc, List.cons_append, List.nil_append]
  rw [FirstAt, hshape, infix_append_cons (by decide)]
  exact not_or.mpr ⟨hid, hrest⟩

/-- No closing tag stands in front of the path. -/
theorem close_first (hs : FirstAt actionClose s) :
    FirstAt actionClose (actionOpen ++ (beforeId ++ (idMarker ++
      ('\n' :: ("    <command>".toList ++ s))))) := by
  -- `d` and `>` cannot be inside a closing tag that goes on into the path
  have hcommand : ¬ actionClose <:+: "    <command>".toList ++ (s ++ actionClose.dropLast) := by
    have hd : "    <command>".toList ++ (s ++ actionClose.dropLast) =
        "    <comman".toList ++ 'd' :: '>' :: (s ++ actionClose.dropLast) := rfl
    rw [hd, infix_append_cons (by decide)]
    rintro (hfront | hbin)
    · exact absurd hfront (by decide)
    · exact hs (infix_of_cons (by decide) hbin)
  have hid : ¬ actionClose <:+: "    ".toList ++ idMarker := by decide
  have hfront : ¬ (actionClose <:+: actionOpen ∨ ∃ line ∈ frontLines, actionClose <:+: line) := by
    decide
  have hshape : actionOpen ++ (beforeId ++ (idMarker ++ ('\n' :: ("    <command>".toList ++ s)))) ++
      actionClose.dropLast = actionOpen ++ '\n' :: (unlines '\n' frontLines ++
        (("    ".toList ++ idMarker) ++ '\n' ::
          ("    <command>".toList ++ (s ++ actionClose.dropLast)))) := by
    simp only [beforeId, List.append_assoc, List.cons_append]
  rw [FirstAt, hshape, infix_append_cons (by decide), infix_unlines (by decide),
    infix_append_cons (by decide), ← or_assoc]
  exact not_or.mpr ⟨hfront, not_or.mpr ⟨hid, hcommand⟩⟩

/-- Removing cuts from the block's opening tag to the first closing tag from the path on. -/
theorem strip_installed (hpre : ¬ marker <:+: pre)
    (hs : bin ++ (behindBin ++ (actionClose ++ '\n' :: post)) = s ++ (actionClose ++ tail))
    (hfirst : FirstAt actionClose s) :
    stripActionBlock (pre ++ (block bin ++ post)) = pre ++ ' ' :: ' ' :: tail := by
  have hshape : pre ++ (block bin ++ post) = (pre ++ [' ', ' ']) ++ (actionOpen ++ (beforeId ++
      (idMarker ++ ('\n' :: ("    <command>".toList ++ (s ++ (actionClose ++ tail))))))) := by
    rw [← hs, block]
    simp only [List.append_assoc, List.cons_append, List.nil_append]
  rw [hshape, stripActionBlock_eq (id_first hpre) open_last (close_first hfirst)]
  · rw [List.append_assoc]
    rfl
  · simp only [List.append_assoc, List.cons_append]

/-! ## Installing -/

theorem block_pos (bin : List Char) : 0 < (block bin).length := by
  rw [block]
  simp only [List.length_append, List.length_cons, List.length_nil]
  omega

/-- Each closing tag brings a block. -/
theorem merge_grows (bin : List Char) (htag : actionsEnd <:+: text) :
    text.length < (replace actionsEnd (block bin ++ actionsEnd) text).length := by
  have hle : actionsEnd.length ≤ (block bin ++ actionsEnd).length :=
    (List.suffix_append _ _).length_le
  have hadd := length_add_le_replace (by decide) hle htag
  have hblock := block_pos bin
  rw [List.length_append] at hadd
  omega

/-- The action goes in front of the first closing tag, and of every further one. -/
theorem merge_first (path : String) {b : List Char}
    (hmarker : ¬ marker <:+: pre ++ (actionsEnd ++ b)) (hfirst : FirstAt actionsEnd pre) :
    thunarMerge bin path false (some (pre ++ (actionsEnd ++ b))) =
      (.ok (), some (pre ++ (block bin ++ (actionsEnd ++
        replace actionsEnd (block bin ++ actionsEnd) b)))) := by
  have htag : actionsEnd <:+: pre ++ (actionsEnd ++ b) := ⟨pre, b, List.append_assoc ..⟩
  have hgrows := merge_grows bin htag
  have hchanged : replace actionsEnd (block bin ++ actionsEnd) (pre ++ (actionsEnd ++ b)) ≠
      pre ++ (actionsEnd ++ b) := by
    intro hsame
    rw [hsame] at hgrows
    exact Nat.lt_irrefl _ hgrows
  simp only [thunarMerge, Bool.false_eq_true, if_false, if_neg hmarker, if_neg hchanged]
  rw [replace_append (by decide) hfirst, List.append_assoc]

/-- A second closing tag gets a block of its own. -/
theorem once_of_adds (hmarker : ¬ marker <:+: text) (htag : actionsEnd <:+: text)
    (hadds : ∃ pre post, text = pre ++ post ∧
      thunarMerge bin path false (some text) = (.ok (), some (pre ++ (block bin ++ post)))) :
    Once actionsEnd text := by
  obtain ⟨a, b, rfl, hfirst⟩ := exists_first (by decide) htag
  obtain ⟨pre, post, htext, hmerge⟩ := hadds
  refine (once_iff (by decide) hfirst).mpr fun hagain => ?_
  -- with one block in front of the first tag, the rest of the text has grown too
  have hgrows := merge_grows bin hagain
  rw [merge_first path hmarker hfirst, Prod.mk.injEq, Option.some_inj] at hmerge
  have hlengths := congrArg List.length hmerge.2
  have htextLength := congrArg List.length htext
  simp only [List.length_append] at hlengths htextLength
  omega

/-- Where the closing tag occurs once, the block is put in and nothing else changes. -/
theorem merge_once (hmarker : ¬ marker <:+: text) (honce : Once actionsEnd text) :
    ∃ pre post, text = pre ++ post ∧
      thunarMerge bin path false (some text) = (.ok (), some (pre ++ (block bin ++ post))) := by
  obtain ⟨a₀, b₀, rfl, -⟩ := id honce
  have htag : actionsEnd <:+: a₀ ++ (actionsEnd ++ b₀) := ⟨a₀, b₀, List.append_assoc ..⟩
  obtain ⟨a, b, htext, hfirst⟩ := exists_first (by decide) htag
  rw [htext] at honce hmarker ⊢
  have hrest : ¬ actionsEnd <:+: b := (once_iff (by decide) hfirst).mp honce
  refine ⟨a, actionsEnd ++ b, rfl, ?_⟩
  rw [merge_first path hmarker hfirst, replace_eq_self hrest]

/-! ## There and back -/

theorem solid_append (a b : List Char) : solid (a ++ b) = solid a ++ solid b :=
  List.filter_append ..

set_option maxRecDepth 2000 in
theorem backLines_open : ¬ ∃ line ∈ backLines, actionClose <:+: line := by
  decide

/-- With a path that has no closing tag, removing leaves white space only. -/
theorem remove_installed (hmarker : ¬ marker <:+: pre ++ post) (hbin : ¬ actionClose <:+: bin) :
    stripActionBlock (pre ++ (block bin ++ post)) = pre ++ ' ' :: ' ' :: '\n' :: post := by
  have hpre : ¬ marker <:+: pre := fun h => hmarker (h.trans ⟨[], post, rfl⟩)
  have hspaces : ¬ actionClose <:+: "  ".toList ++ actionClose.dropLast := by decide
  refine strip_installed hpre (s := bin ++ behindBin) (by rw [List.append_assoc]) ?_
  rw [FirstAt, behindBin, List.append_assoc, List.cons_append, List.append_assoc,
    infix_append_cons (by decide), infix_unlines (by decide)]
  exact not_or.mpr ⟨hbin, not_or.mpr ⟨backLines_open, hspaces⟩⟩

/-- With a closing tag in the path, the rest of the block stays. -/
theorem remove_cut (hmarker : ¬ marker <:+: pre ++ post) (hbin : actionClose <:+: bin) :
    solid (stripActionBlock (pre ++ (block bin ++ post))) ≠ solid (pre ++ post) := by
  obtain ⟨s, t, rfl, hfirst⟩ := exists_first (by decide) hbin
  have hpre : ¬ marker <:+: pre := fun h => hmarker (h.trans ⟨[], post, rfl⟩)
  have hshape : s ++ (actionClose ++ t) ++ (behindBin ++ (actionClose ++ '\n' :: post)) =
      s ++ (actionClose ++ (t ++ (behindBin ++ (actionClose ++ (['\n'] ++ post))))) := by
    simp only [List.append_assoc, List.cons_append, List.nil_append]
  have hclose : (solid actionClose).length = 9 := by decide
  rw [strip_installed hpre hshape hfirst]
  intro hsame
  -- what is left has at least the block's own closing tag too much
  have hlengths := congrArg List.length hsame
  rw [List.append_cons, List.append_cons] at hlengths
  simp only [solid_append, List.length_append] at hlengths
  omega

/-- A second install changes nothing. -/
theorem again_installed (path : String) (bin pre post : List Char) :
    thunarMerge bin path false (some (pre ++ (block bin ++ post))) =
      (.ok (), some (pre ++ (block bin ++ post))) := by
  have hmarker : marker <:+: block bin := by
    refine marker_infix_id.trans ⟨[' ', ' '] ++ actionOpen ++ beforeId,
      '\n' :: ("    <command>".toList ++ (bin ++ (behindBin ++ (actionClose ++ ['\n'])))), ?_⟩
    rw [block]
    simp only [List.append_assoc, List.cons_append]
  exact if_pos (hmarker.trans ⟨pre, post, List.append_assoc ..⟩)

/-- The user's text is kept exactly if its closing tag stands there once and the path of
    `hfctl` has no closing tag of an action. -/
theorem merge_preserves_iff (bin : List Char) (path : String) (text : List Char)
    (htag : actionsEnd <:+: text) (hmarker : ¬ marker <:+: text) :
    Preserves bin path text ↔ Once actionsEnd text ∧ ¬ actionClose <:+: bin := by
  constructor
  · rintro ⟨hadds, -, out, hremove, hsolid, -⟩
    refine ⟨once_of_adds hmarker htag hadds, fun hbin => ?_⟩
    obtain ⟨pre, post, rfl, hmerge⟩ := hadds
    rw [hmerge, thunarMerge, if_pos rfl, Prod.mk.injEq, Option.map_some, Option.some_inj] at hremove
    rw [← hremove.2] at hsolid
    exact remove_cut hmarker hbin hsolid
  · rintro ⟨honce, hbin⟩
    obtain ⟨pre, post, rfl, hmerge⟩ := merge_once hmarker honce
    refine ⟨⟨pre, post, rfl, hmerge⟩, ?_, pre ++ ' ' :: ' ' :: '\n' :: post, ?_, ?_, ?_⟩
    · rw [hmerge]
      exact again_installed path bin pre post
    · rw [hmerge, thunarMerge, if_pos rfl, Option.map_some, remove_installed hmarker hbin]
    · rw [List.append_cons, List.append_cons, List.append_cons]
      simp only [solid_append]
      have hblank : solid [' '] = [] ∧ solid ['\n'] = [] := by decide
      rw [hblank.1, hblank.2, List.append_nil, List.append_nil, List.append_nil]
    · -- the marker would be in the user's text, as no blank is in it
      intro hleft
      rcases (infix_append_cons (by decide)).mp hleft with hpre | hrest
      · exact hmarker (hpre.trans ⟨[], post, rfl⟩)
      · have hpost := infix_of_cons (by decide) (infix_of_cons (by decide) hrest)
        exact hmarker (hpost.trans ⟨pre, [], List.append_nil _⟩)

/-- A user's own action, and a path without tags. -/
theorem merge_preserves_user_action :
    Preserves "/usr/bin/hfctl".toList "uca.xml"
      "<actions>\n<action><name>Edit</name></action>\n</actions>\n".toList := by
  refine (merge_preserves_iff _ _ _ (by decide) (by decide)).mpr ⟨?_, by decide⟩
  have hfirst : FirstAt actionsEnd "<actions>\n<action><name>Edit</name></action>\n".toList := by
    rw [FirstAt]
    decide
  exact (once_iff (b := ['\n']) (by decide) hfirst).mpr (by decide)

/-- A closing tag in a comment gets an action of its own, so more than one is added. -/
theorem comment_not_preserved :
    actionsEnd <:+: "<actions>\n<!-- </actions> -->\n</actions>\n".toList ∧
      ¬ marker <:+: "<actions>\n<!-- </actions> -->\n</actions>\n".toList ∧
      ¬ Preserves "/usr/bin/hfctl".toList "uca.xml"
        "<actions>\n<!-- </actions> -->\n</actions>\n".toList := by
  refine ⟨by decide, by decide, fun hkept => ?_⟩
  have honce := once_of_adds (by decide) (by decide) hkept.adds
  have hfirst : FirstAt actionsEnd "<actions>\n<!-- ".toList := by
    rw [FirstAt]
    decide
  have hbehind := (once_iff (b := " -->\n</actions>\n".toList) (by decide) hfirst).mp honce
  exact hbehind (by decide)

end Handfast.Ui.Thunar
