/-
  Handfast.Lib.DesktopFile

  Desktop files that were put together from pieces of text, read by a reader
  that is not known.  A file is its lines; a header starts a group, and the
  entries after it belong to that group.  What a single line, a list value and a
  command line mean is up to the `Reader`.

  `Conforms` is what every reader of the format makes of text in which no
  character has a meaning of its own.  About escapes, quotes and the other
  reserved characters it says nothing but that they are the only way to get a
  semicolon into an item of a list or a blank into a word.
-/
import Mathlib.Data.List.Basic

namespace Handfast.Lib.DesktopFile

/-! ## Readers -/

inductive Line where
  | header (name : String)
  | entry (key value : String)
  /-- A blank line, a comment, or one that cannot be read. -/
  | skipped
  deriving DecidableEq

structure Reader where
  line : List Char → Line
  /-- The items of a list value. -/
  items : String → List String
  /-- The words of a command line. -/
  words : String → List String

structure Group where
  name : String
  entries : List (String × String)
  deriving DecidableEq

def collect : List Line → List (String × String) × List Group
  | [] => ([], [])
  | .header name :: rest => ([], ⟨name, (collect rest).1⟩ :: (collect rest).2)
  | .entry key value :: rest => ((key, value) :: (collect rest).1, (collect rest).2)
  | .skipped :: rest => collect rest

def Reader.read (r : Reader) (text : String) : List Group :=
  (collect ((text.toList.splitOn '\n').map r.line)).2

def Group.values (g : Group) (key : String) : List String :=
  (g.entries.filter fun e => e.1 = key).map Prod.snd

/-! ## Text without a meaning of its own -/

/-- To check the characters of a text is to go through the text, not through all there are. -/
scoped instance decidableForallMem {p : Char → Prop} [DecidablePred p] (cs : List Char) :
    Decidable (∀ c ∈ cs, p c) := List.decidableBAll p cs

def isControl (c : Char) : Bool := c.toNat < 32 || c.toNat = 127

def printable (c : Char) : Bool := 32 ≤ c.toNat && c.toNat < 127

/-- A character that stands for itself in a header, in an item and in a word: it is
    neither a bracket nor a separator nor reserved in command lines. -/
def plain (c : Char) : Bool := printable c && !" []%\"'\\><~|&;$*?#()`".toList.contains c

def PlainWord (w : String) : Prop := w ≠ "" ∧ ∀ c ∈ w.toList, plain c = true

instance (w : String) : Decidable (PlainWord w) :=
  decidable_of_iff (w ≠ "" ∧ w.toList.all plain = true) (and_congr_right' List.all_eq_true)

def IsKey (key : String) : Prop :=
  key ≠ "" ∧ key.toList.all (fun c => c.isAlphanum || c = '-') = true

instance (key : String) : Decidable (IsKey key) := inferInstanceAs (Decidable (_ ∧ _))

/-- A value without escapes and without blanks around it. -/
def Verbatim (value : String) : Prop :=
  '\\' ∉ value.toList ∧ value.toList.head? ≠ some ' ' ∧ value.toList.getLast? ≠ some ' '

instance (value : String) : Decidable (Verbatim value) := inferInstanceAs (Decidable (_ ∧ _))

def lineOf (key value : String) : List Char := key.toList ++ '=' :: value.toList

/-- What is taken for granted of a reader. -/
structure Reader.Conforms (r : Reader) : Prop where
  blank : r.line [] = .skipped
  header : ∀ name, (∀ c ∈ name.toList, printable c = true ∧ c ≠ '[' ∧ c ≠ ']') →
    r.line ('[' :: (name.toList ++ [']'])) = .header name
  entry : ∀ key value, IsKey key → (∀ c ∈ value.toList, isControl c = false) →
    ∃ v, r.line (lineOf key value) = .entry key v ∧ (Verbatim value → v = value)
  items : ∀ pieces : List String, (∀ p ∈ pieces, PlainWord p) →
    r.items (String.ofList (pieces.flatMap fun p => p.toList ++ [';'])) = pieces
  /-- A semicolon ends an item unless it is escaped. -/
  separated : ∀ value, '\\' ∉ value.toList → ∀ item ∈ r.items value, ';' ∉ item.toList
  words : ∀ ws : List String, (∀ w ∈ ws, PlainWord w ∨ w = "%F") →
    r.words (String.ofList ([' '].intercalate (ws.map String.toList))) = ws
  /-- A blank ends a word unless it is quoted. -/
  unquoted : ∀ value, (∀ c ∈ value.toList, c ∉ "\"'\\".toList) →
    ∀ w ∈ r.words value, w ≠ "" ∧ ' ' ∉ w.toList

variable {r : Reader} {sep : Char} {pieces : List (List Char)} {key value : String}

/-! ## Cutting at a separator -/

theorem mem_of_mem_splitOn {c : Char} {xs piece : List Char} (h : piece ∈ xs.splitOn sep)
    (hc : c ∈ piece) : c ∈ xs ∧ c ≠ sep := by
  induction xs generalizing piece with
  | nil =>
    rw [List.splitOn_nil, List.mem_singleton] at h
    simp [h] at hc
  | cons x xs ih =>
    rw [List.splitOn_cons_eq_if_modifyHead] at h
    obtain ⟨first, rest, hsplit⟩ := List.exists_cons_of_ne_nil (List.splitOn_ne_nil sep xs)
    rw [hsplit] at h ih
    by_cases hx : x = sep
    · rw [if_pos (by simpa using hx)] at h
      rcases List.mem_cons.mp h with rfl | h
      · cases hc
      · exact (ih h hc).imp_left (List.mem_cons_of_mem x)
    · rw [if_neg (by simpa using hx), List.modifyHead_cons] at h
      rcases List.mem_cons.mp h with rfl | h
      · rcases List.mem_cons.mp hc with rfl | hc
        · exact ⟨List.mem_cons_self, hx⟩
        · exact (ih List.mem_cons_self hc).imp_left (List.mem_cons_of_mem x)
      · exact (ih (List.mem_cons_of_mem _ h) hc).imp_left (List.mem_cons_of_mem x)

/-- Text before the first separator belongs to the first piece. -/
theorem splitOn_append {front : List Char} (h : sep ∉ front) (xs : List Char) :
    (front ++ xs).splitOn sep = (xs.splitOn sep).modifyHead (front ++ ·) := by
  induction front with
  | nil =>
    cases hsplit : xs.splitOn sep <;> simp [hsplit]
  | cons c front ih =>
    rw [List.mem_cons, not_or] at h
    rw [List.cons_append, List.splitOn_cons_eq_if_modifyHead,
      if_neg (by simpa using Ne.symm h.1), ih h.2, List.modifyHead_modifyHead]
    rfl

theorem intercalate_lines (first : List Char) (rest : List (List Char)) :
    ['\n'].intercalate (first :: rest) = first ++ rest.flatMap fun line => '\n' :: line := by
  induction rest generalizing first with
  | nil => simp
  | cons line rest ih => rw [List.intercalate_cons_cons, ih, List.flatMap_cons]; simp

/-- A file put together from pieces is read piece by piece; a newline in a piece cuts it. -/
theorem read_pieces (hne : pieces ≠ []) :
    r.read (String.ofList (['\n'].intercalate pieces)) =
      (collect ((pieces.flatMap (List.splitOn '\n')).map r.line)).2 := by
  have hcut : (['\n'].intercalate pieces).splitOn '\n' = pieces.flatMap (List.splitOn '\n') := by
    induction pieces with
    | nil => exact absurd rfl hne
    | cons piece pieces ih =>
      cases pieces with
      | nil => simp [List.intercalate]
      | cons next pieces =>
        rw [List.intercalate_cons_cons, List.append_assoc, List.singleton_append,
          List.splitOn_append_cons_self, ih (by simp)]
        exact (List.flatMap_cons).symm
  rw [Reader.read, String.toList_ofList, hcut]

/-! ## Blocks -/

/-- A group as it is written: its name and the pieces below the header. -/
structure Block where
  name : String
  body : List (List Char)

def Block.text (b : Block) : List (List Char) := ('[' :: (b.name.toList ++ [']'])) :: b.body

def Block.lines (b : Block) : List (List Char) := b.body.flatMap (List.splitOn '\n')

def Reader.entryAt (r : Reader) (line : List Char) : Option (String × String) :=
  match r.line line with
  | .entry key value => some (key, value)
  | _ => none

/-- The group a block is read as, if it adds no header. -/
def Reader.group (r : Reader) (b : Block) : Group := ⟨b.name, b.lines.filterMap r.entryAt⟩

/-- The header of the block is read, and no line below it as another one. -/
structure Reader.Reads (r : Reader) (b : Block) : Prop where
  name : ∀ c ∈ b.name.toList, printable c = true ∧ c ≠ '[' ∧ c ≠ ']'
  body : ∀ line ∈ b.lines, ∀ name, r.line line ≠ .header name

/-- Up to the next header, lines are entries of one group. -/
theorem collect_entries {lines : List (List Char)}
    (h : ∀ l ∈ lines, ∀ name, r.line l ≠ .header name) (rest : List Line) :
    collect (lines.map r.line ++ rest) =
      (lines.filterMap r.entryAt ++ (collect rest).1, (collect rest).2) := by
  induction lines with
  | nil => rfl
  | cons l lines ih =>
    obtain ⟨hl, hlines⟩ := List.forall_mem_cons.mp h
    rw [List.map_cons, List.cons_append]
    cases hline : r.line l with
    | header name => exact absurd hline (hl name)
    | entry key value => simp [collect, ih hlines, Reader.entryAt, hline]
    | skipped => simp [collect, ih hlines, Reader.entryAt, hline]

/-- Blocks written one after another are read one after another. -/
theorem Reader.Conforms.read_blocks (hr : r.Conforms) {blocks : List Block} (hne : blocks ≠ [])
    (h : ∀ b ∈ blocks, r.Reads b) :
    r.read (String.ofList (['\n'].intercalate (blocks.flatMap Block.text))) =
      blocks.map r.group := by
  have hpieces : blocks.flatMap Block.text ≠ [] := by
    obtain ⟨b, blocks, rfl⟩ := List.exists_cons_of_ne_nil hne
    simp [Block.text]
  have hlines : collect (((blocks.flatMap Block.text).flatMap (List.splitOn '\n')).map r.line) =
      ([], blocks.map r.group) := by
    clear hne hpieces
    induction blocks with
    | nil => rfl
    | cons b blocks ih =>
      obtain ⟨hb, hblocks⟩ := List.forall_mem_cons.mp h
      have hwhole : '\n' ∉ '[' :: (b.name.toList ++ [']']) := by
        intro hmem
        have hchar : '\n' ∈ b.name.toList := by simpa using hmem
        exact absurd (hb.name _ hchar).1 (by decide)
      rw [List.flatMap_cons, List.flatMap_append, Block.text, List.flatMap_cons,
        List.splitOn_eq_singleton hwhole, List.singleton_append, List.cons_append, List.map_cons,
        hr.header _ hb.name, collect, List.map_append]
      change ([], ⟨b.name, (collect (b.lines.map r.line ++ _)).1⟩ ::
        (collect (b.lines.map r.line ++ _)).2) = _
      rw [collect_entries hb.body, ih hblocks]
      simp [Reader.group]
  rw [read_pieces hpieces, hlines]

/-! ## Lines -/

theorem IsKey.no_newline (h : IsKey key) : '\n' ∉ key.toList ++ ['='] := by
  intro hmem
  have hchar : '\n' ∈ key.toList := by simpa using hmem
  exact absurd (List.all_eq_true.mp h.2 _ hchar) (by decide)

/-- A newline in a value cuts the line behind the key. -/
theorem IsKey.splitOn_lineOf (h : IsKey key) (value : String) :
    (lineOf key value).splitOn '\n' =
      (value.toList.splitOn '\n').modifyHead fun piece => key.toList ++ '=' :: piece := by
  have hline : lineOf key value = (key.toList ++ ['=']) ++ value.toList := by simp [lineOf]
  rw [hline, splitOn_append h.no_newline]
  simp

theorem IsKey.splitOn_clean (h : IsKey key) (hclean : ∀ c ∈ value.toList, isControl c = false) :
    (lineOf key value).splitOn '\n' = [lineOf key value] := by
  have hwhole : '\n' ∉ value.toList := fun hmem => absurd (hclean _ hmem) (by decide)
  rw [h.splitOn_lineOf, List.splitOn_eq_singleton hwhole]
  rfl

/-- An entry line is no header. -/
theorem Reader.Conforms.not_header (hr : r.Conforms) (hkey : IsKey key)
    (hclean : ∀ c ∈ value.toList, isControl c = false) (name : String) :
    r.line (lineOf key value) ≠ .header name := by
  obtain ⟨v, hline, -⟩ := hr.entry key value hkey hclean
  rw [hline]
  exact Line.noConfusion

/-- An entry that was written is read. -/
theorem Reader.Conforms.entryAt (hr : r.Conforms) (key value : String) (hkey : IsKey key)
    (hclean : ∀ c ∈ value.toList, isControl c = false) :
    ∃ v, r.entryAt (lineOf key value) = some (key, v) ∧ (Verbatim value → v = value) := by
  obtain ⟨v, hline, hv⟩ := hr.entry key value hkey hclean
  exact ⟨v, by rw [Reader.entryAt, hline], hv⟩

/-! ## A reader -/

/-- The non-empty pieces of a value between separators. -/
def cut (sep : Char) (value : String) : List String :=
  ((value.toList.splitOn sep).filter (· ≠ [])).map String.ofList

/-- A reader that knows neither escapes nor quotes. -/
def simpleReader : Reader where
  line l :=
    if l.head? = some '[' then
      if l.tail.getLast? = some ']' ∧ '[' ∉ l.tail ∧ ']' ∉ l.tail.dropLast then
        .header (String.ofList l.tail.dropLast)
      else .skipped
    else if l.head? ≠ some '#' ∧ '=' ∈ l then
      .entry (String.ofList (l.take (l.idxOf '='))) (String.ofList (l.drop (l.idxOf '=' + 1)))
    else .skipped
  items := cut ';'
  words := cut ' '

theorem mem_cut {w : String} (h : w ∈ cut sep value) :
    w ≠ "" ∧ sep ∉ w.toList := by
  obtain ⟨piece, hpiece, rfl⟩ := List.mem_map.mp h
  obtain ⟨hmem, hne⟩ := List.mem_filter.mp hpiece
  rw [String.toList_ofList]
  refine ⟨fun hempty => ?_, fun hsep => (mem_of_mem_splitOn hmem hsep).2 rfl⟩
  have hnil := congrArg String.toList hempty
  rw [String.toList_ofList] at hnil
  simp [hnil] at hne

/-- Clean pieces are found again, empty ones apart. -/
theorem cut_intercalate (h : ∀ p ∈ pieces, sep ∉ p) :
    cut sep (String.ofList ([sep].intercalate pieces)) =
      (pieces.filter (· ≠ [])).map String.ofList := by
  cases pieces with
  | nil => simp [cut]
  | cons p pieces =>
    rw [cut, String.toList_ofList, List.splitOn_intercalate sep h (by simp)]

theorem filter_toList {ws : List String} (h : ∀ w ∈ ws, w ≠ "") :
    ((ws.map String.toList).filter (· ≠ [])).map String.ofList = ws := by
  rw [List.filter_eq_self.mpr]
  · simp [Function.comp_def]
  · intro l hl
    obtain ⟨w, hw, rfl⟩ := List.mem_map.mp hl
    simpa using h w hw

/-- Items that end in a separator are separated by it, with an empty one at the end. -/
theorem flatMap_terminated (sep : Char) (ws : List String) :
    (ws.flatMap fun w => w.toList ++ [sep]) = [sep].intercalate (ws.map String.toList ++ [[]]) := by
  induction ws with
  | nil => rfl
  | cons w ws ih =>
    rw [List.flatMap_cons, ih]
    cases ws <;> simp [List.intercalate]

theorem PlainWord.notMem {w : String} (h : PlainWord w) {c : Char} (hc : plain c = false) :
    c ∉ w.toList := by
  intro hmem
  rw [h.2 c hmem] at hc
  cases hc

theorem simpleReader_conforms : simpleReader.Conforms where
  blank := rfl
  header name h := by
    have hopen : '[' ∉ name.toList := fun hmem => (h _ hmem).2.1 rfl
    have hclose : ']' ∉ name.toList := fun hmem => (h _ hmem).2.2 rfl
    simp [simpleReader, hopen, hclose]
  entry key value hkey _ := by
    have hother : ∀ c, (c.isAlphanum || c = '-') = false → c ∉ key.toList := by
      intro c hc hmem
      rw [List.all_eq_true.mp hkey.2 c hmem] at hc
      cases hc
    have hhead : ∀ c, (c.isAlphanum || c = '-') = false → (lineOf key value).head? ≠ some c := by
      -- a line that starts with its key is no header and no comment
      intro c hc heq
      have hne : key.toList ≠ [] := by simpa using hkey.1
      rw [lineOf, List.head?_append_of_ne_nil _ hne] at heq
      exact hother c hc (List.mem_of_head? heq)
    have hindex : (lineOf key value).idxOf '=' = key.toList.length := by
      rw [lineOf, List.idxOf_append_of_notMem (hother '=' (by decide)), List.idxOf_cons_self]
      rfl
    refine ⟨value, ?_, fun _ => rfl⟩
    simp only [simpleReader]
    rw [if_neg (hhead '[' (by decide)), if_pos ⟨hhead '#' (by decide), by simp [lineOf]⟩, hindex]
    simp [lineOf]
  items pieces h := by
    have hclean : ∀ p ∈ pieces.map String.toList ++ [[]], ';' ∉ p := by
      intro p hp
      rcases List.mem_append.mp hp with hp | hp
      · obtain ⟨w, hw, rfl⟩ := List.mem_map.mp hp
        exact (h w hw).notMem (by decide)
      · rw [List.mem_singleton.mp hp]
        exact List.not_mem_nil
    -- the piece behind the last semicolon is empty
    have hlast : (([[]] : List (List Char)).filter (· ≠ [])) = [] := rfl
    change cut ';' _ = pieces
    rw [flatMap_terminated, cut_intercalate hclean, List.filter_append, hlast, List.append_nil,
      filter_toList fun p hp => (h p hp).1]
  separated _ _ _ hitem := (mem_cut hitem).2
  words ws h := by
    have hword : ∀ w ∈ ws, w ≠ "" ∧ ' ' ∉ w.toList := by
      intro w hw
      rcases h w hw with hplain | rfl
      · exact ⟨hplain.1, hplain.notMem (by decide)⟩
      · decide
    have hclean : ∀ p ∈ ws.map String.toList, ' ' ∉ p := by
      intro p hp
      obtain ⟨w, hw, rfl⟩ := List.mem_map.mp hp
      exact (hword w hw).2
    change cut ' ' _ = ws
    rw [cut_intercalate hclean, filter_toList fun w hw => (hword w hw).1]
  unquoted _ _ _ hw := mem_cut hw

end Handfast.Lib.DesktopFile
