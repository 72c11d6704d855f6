import Mathlib.Data.List.Nodup
import AssetAtlas.Proofs.Report.Tables

/-!
Reading the text of a summary. The text is cut into lines, a section is what stands below its heading
up to the next blank line, and a row is cut into cells. Here a bar belongs to a text as soon as a
backslash stands right in front of it, which is how texts are escaped; so all that is lost of a text
in a cell are its line feeds.

The main statement is `readTable_of_mem`: the tables are read back from the text of any summary. The
list of exposed assets stands behind them, and it may hold anything.
-/

namespace AssetAtlas.Summary

/-! ## Lines -/

/-- The lines of a text. What stands behind the last line feed is the last one. -/
def linesOf (text : String) : List String :=
  (text.toList.splitOn '\n').map String.ofList

/-- A text on one line, with spaces instead of its line feeds. -/
def asLine (s : String) : String :=
  String.ofList (s.toList.map fun c => if c = '\n' then ' ' else c)

theorem asLine_of_not_mem {s : String} (h : '\n' ∉ s.toList) : asLine s = s := by
  have hsame : ∀ c ∈ s.toList, (if c = '\n' then ' ' else c) = c := by
    rintro c hc
    have hne : c ≠ '\n' := fun heq => h (heq ▸ hc)
    exact if_neg hne
  rw [asLine, List.map_congr_left hsame, List.map_id', String.ofList_toList]

theorem linesOf_line_append {line : String} (h : '\n' ∉ line.toList) (text : String) :
    linesOf (line ++ "\n" ++ text) = line :: linesOf text := by
  have hsplit : (line ++ "\n" ++ text).toList = line.toList ++ '\n' :: text.toList := by simp
  rw [linesOf, hsplit, List.splitOn_append_cons_self_of_not_mem h, List.map_cons,
    String.ofList_toList]
  rfl

theorem lines_cons (line : String) (ls : List String) :
    lines (line :: ls) = line ++ "\n" ++ lines ls := by
  rw [lines, List.map_cons, String.join_cons]
  rfl

theorem lines_append (ls ls' : List String) : lines (ls ++ ls') = lines ls ++ lines ls' := by
  rw [lines, List.map_append, String.join_append]
  rfl

theorem lines_flatMap {α : Type} (f : α → List String) (l : List α) :
    lines (l.flatMap f) = String.join (l.map fun a => lines (f a)) := by
  induction l with
  | nil => rfl
  | cons a l ih => rw [List.flatMap_cons, lines_append, ih, List.map_cons, String.join_cons]

theorem linesOf_lines_append {ls : List String} (h : ∀ l ∈ ls, '\n' ∉ l.toList) (text : String) :
    linesOf (lines ls ++ text) = ls ++ linesOf text := by
  induction ls with
  | nil => rfl
  | cons line ls ih =>
      obtain ⟨hline, hls⟩ := List.forall_mem_cons.mp h
      rw [lines_cons, String.append_assoc, linesOf_line_append hline, ih hls]
      rfl

theorem newline_not_mem_of_mem_splitOn (cs : List Char) :
    ∀ l ∈ cs.splitOn '\n', '\n' ∉ l := by
  induction cs with
  | nil => simp
  | cons c cs ih =>
      rw [List.splitOn_cons_eq_if_modifyHead]
      split
      · exact List.forall_mem_cons.mpr ⟨List.not_mem_nil, ih⟩
      · next hc =>
          have hne : '\n' ≠ c := fun heq => hc (beq_iff_eq.mpr heq.symm)
          cases hsplit : cs.splitOn '\n' with
          | nil => exact nofun
          | cons first rest =>
              rw [hsplit] at ih
              obtain ⟨hfirst, hrest⟩ := List.forall_mem_cons.mp ih
              exact List.forall_mem_cons.mpr ⟨List.not_mem_cons_of_ne_of_not_mem hne hfirst, hrest⟩

theorem newline_not_mem_of_mem_linesOf {text line : String} (h : line ∈ linesOf text) :
    '\n' ∉ line.toList := by
  obtain ⟨cs, hcs, rfl⟩ := List.mem_map.mp h
  rw [String.toList_ofList]
  exact newline_not_mem_of_mem_splitOn _ cs hcs

/-! ## Sections -/

/-- The lines in front of a heading. -/
def linesAbove (title : String) (ls : List String) : List String :=
  ls.takeWhile (· ≠ "## " ++ title)

/-- The lines below a heading and the blank line behind it, up to the next blank line. -/
def linesBelow (title : String) (ls : List String) : List String :=
  ((ls.dropWhile (· ≠ "## " ++ title)).drop 2).takeWhile (· ≠ "")

theorem ne_heading_of_not_mem {title : String} {ls : List String} (h : "## " ++ title ∉ ls) :
    ∀ line ∈ ls, decide (line ≠ "## " ++ title) = true := by
  intro line hline
  simpa using fun heq : line = "## " ++ title => h (heq ▸ hline)

theorem linesAbove_append_of_not_mem {title : String} {before : List String}
    (h : "## " ++ title ∉ before) (after : List String) :
    linesAbove title (before ++ after) = before ++ linesAbove title after :=
  List.takeWhile_append_of_pos (ne_heading_of_not_mem h)

theorem linesAbove_heading (title : String) (ls : List String) :
    linesAbove title (("## " ++ title) :: ls) = [] :=
  List.takeWhile_cons_of_neg (by simp)

theorem linesBelow_of_not_mem {title : String} {ls : List String} (h : "## " ++ title ∉ ls) :
    linesBelow title ls = [] := by
  have hall : ls.dropWhile (· ≠ "## " ++ title) = [] :=
    List.dropWhile_eq_nil_iff.mpr (ne_heading_of_not_mem h)
  rw [linesBelow, hall]
  rfl

theorem mem_of_mem_linesBelow {title line : String} {ls : List String}
    (h : line ∈ linesBelow title ls) : line ∈ ls :=
  (List.dropWhile_suffix _).subset (List.mem_of_mem_drop ((List.takeWhile_prefix _).subset h))

/-- A line that does not look like a heading. -/
structure IsBody (line : String) : Prop where
  no_heading : ¬ "## ".toList <+: line.toList
  single : '\n' ∉ line.toList

/-- A line inside a section, which does not end it either. -/
structure IsInner (line : String) : Prop extends IsBody line where
  ne_empty : line ≠ ""

theorem IsBody.ne_heading {line : String} (h : IsBody line) (title : String) :
    line ≠ "## " ++ title := by
  rintro rfl
  refine h.no_heading ?_
  rw [String.toList_append]
  exact List.prefix_append _ _

theorem isBody_of_head?_ne {line : String} (h : line.toList.head? ≠ some '#')
    (hsingle : '\n' ∉ line.toList) : IsBody line where
  no_heading := by
    rintro ⟨rest, hrest⟩
    rw [← hrest] at h
    exact h rfl
  single := hsingle

theorem isInner_of_head? {line : String} {c : Char} (h : line.toList.head? = some c) (hc : c ≠ '#')
    (hsingle : '\n' ∉ line.toList) : IsInner line := by
  refine ⟨isBody_of_head?_ne (by simpa [h] using hc) hsingle, ?_⟩
  rintro rfl
  exact nomatch h

theorem heading_not_mem_headed {title other : String} {above rows : List String}
    (hne : other ≠ title) (h : ∀ l ∈ above ++ rows, IsInner l) :
    "## " ++ other ∉ headed title above rows := by
  have hblank : "## " ++ other ≠ "" := by simp
  have hother : "## " ++ other ≠ "## " ++ title := by simpa using hne
  unfold headed
  split
  · exact List.not_mem_nil
  · simp only [List.mem_append, List.mem_cons, List.not_mem_nil, or_false, or_assoc]
    rintro (heq | heq | hmem | hmem | heq)
    · exact hother heq
    · exact hblank heq
    · exact (h _ (List.mem_append_left _ hmem)).ne_heading other rfl
    · exact (h _ (List.mem_append_right _ hmem)).ne_heading other rfl
    · exact hblank heq

theorem newline_not_mem_headed {title : String} {above rows : List String}
    (htitle : '\n' ∉ title.toList) (h : ∀ l ∈ above ++ rows, IsInner l) :
    ∀ l ∈ headed title above rows, '\n' ∉ l.toList := by
  unfold headed
  split
  · exact nofun
  · simp only [List.mem_append, List.mem_cons, List.not_mem_nil, or_false, or_assoc]
    rintro l (rfl | rfl | hmem | hmem | rfl)
    · simpa using htitle
    · exact List.not_mem_nil
    · exact (h l (List.mem_append_left _ hmem)).single
    · exact (h l (List.mem_append_right _ hmem)).single
    · exact List.not_mem_nil

/-- The rows of a section are read below its heading and what stands above them. -/
theorem drop_linesBelow_headed {title : String} {before above rows after : List String}
    (hbefore : "## " ++ title ∉ before) (hafter : "## " ++ title ∉ after)
    (hlines : ∀ l ∈ above ++ rows, IsInner l) :
    (linesBelow title (before ++ headed title above rows ++ after)).drop above.length = rows := by
  by_cases hrows : rows = []
  · subst hrows
    rw [linesBelow_of_not_mem, List.drop_nil]
    simpa [headed] using ⟨hbefore, hafter⟩
  · have hheaded : headed title above rows ++ after =
        ("## " ++ title) :: "" :: (above ++ rows ++ "" :: after) := by
      rw [headed, if_neg (mt List.isEmpty_iff.mp hrows)]
      simp
    have hkeep : ∀ line ∈ above ++ rows, decide (line ≠ "") = true := by
      intro line hline
      simpa using (hlines line hline).ne_empty
    rw [linesBelow, List.append_assoc, List.dropWhile_append_of_pos (ne_heading_of_not_mem hbefore),
      hheaded, List.dropWhile_cons_of_neg (by simp), List.drop_succ_cons, List.drop_succ_cons,
      List.drop_zero, List.takeWhile_append_of_pos hkeep, List.takeWhile_cons_of_neg (by simp),
      List.append_nil, List.drop_left]

/-! ## Rows -/

/-- What stands between the bars of a line. A bar behind a backslash belongs to a text, without the
backslash. -/
def pieces : List Char → List (List Char)
  | [] => [[]]
  | '\\' :: '|' :: cs => (pieces cs).modifyHead ('|' :: ·)
  | '|' :: cs => [] :: pieces cs
  | c :: cs => (pieces cs).modifyHead (c :: ·)

/-- The texts in the cells of a row, without the spaces around them. -/
def readRow (line : String) : List String :=
  (pieces line.toList).tail.dropLast.map fun piece => String.ofList piece.tail.dropLast

theorem pieces_cons {c : Char} {cs : List Char} (hc : c ≠ '|')
    (hcs : c = '\\' → cs.head? ≠ some '|') :
    pieces (c :: cs) = (pieces cs).modifyHead (c :: ·) := by
  rw [pieces]
  · rintro rest rfl rfl
    exact hcs rfl rfl
  · exact hc

theorem pieces_space (cs : List Char) :
    pieces (' ' :: cs) = (pieces cs).modifyHead (' ' :: ·) :=
  pieces_cons (by decide) fun h => absurd h (by decide)

theorem head?_escape_ne_bar (cs : List Char) {rest : List Char} (h : rest.head? ≠ some '|') :
    (cs.flatMap escapeChar ++ rest).head? ≠ some '|' := by
  cases cs with
  | nil => exact h
  | cons c cs =>
      rw [List.flatMap_cons, escapeChar]
      split
      · simp
      · split
        · simp
        · next hbar _ => simpa using hbar

/-- A text in a cell is read as it is, up to its line feeds. -/
theorem pieces_escape (cs : List Char) {rest : List Char} (h : rest.head? ≠ some '|') :
    pieces (cs.flatMap escapeChar ++ rest) =
      (pieces rest).modifyHead ((cs.map fun c => if c = '\n' then ' ' else c) ++ ·) := by
  induction cs with
  | nil => exact (congrFun List.modifyHead_id _).symm
  | cons c cs ih =>
      have hnext := head?_escape_ne_bar cs h
      rw [List.flatMap_cons, List.append_assoc, escapeChar]
      split
      · next hbar =>
          subst hbar
          rw [List.cons_append, List.cons_append, List.nil_append, pieces, ih,
            List.modifyHead_modifyHead]
          rfl
      · split
        · next hbar hline =>
            subst hline
            rw [List.cons_append, List.nil_append, pieces_space, ih, List.modifyHead_modifyHead]
            rfl
        · next hbar hline =>
            rw [List.cons_append, List.nil_append, pieces_cons hbar fun _ => hnext, ih,
              List.modifyHead_modifyHead, List.map_cons, if_neg hline]
            rfl

theorem pieces_cells (texts : List String) :
    pieces (texts.flatMap fun s => ' ' :: ((escapeCell s).toList ++ [' ', '|'])) =
      (texts.map fun s => ' ' :: ((asLine s).toList ++ [' '])) ++ [[]] := by
  induction texts with
  | nil => rfl
  | cons s texts ih =>
      have hend : pieces (' ' :: '|' :: texts.flatMap
          fun s => ' ' :: ((escapeCell s).toList ++ [' ', '|'])) =
            [' '] :: ((texts.map fun s => ' ' :: ((asLine s).toList ++ [' '])) ++ [[]]) := by
        rw [pieces_space, pieces, ih]
        rfl
      have hcell : ' ' :: ((escapeCell s).toList ++ [' ', '|']) ++
          texts.flatMap (fun s => ' ' :: ((escapeCell s).toList ++ [' ', '|'])) =
            ' ' :: (s.toList.flatMap escapeChar ++ ' ' :: '|' :: texts.flatMap
              fun s => ' ' :: ((escapeCell s).toList ++ [' ', '|'])) := by
        rw [toList_escapeCell]
        simp
      rw [List.flatMap_cons, hcell, pieces_space, pieces_escape _ (by simp), hend]
      simp [asLine]

theorem readRow_tableRow {texts : List String} (h : texts ≠ []) :
    readRow (tableRow (texts.map escapeCell)) = texts.map asLine := by
  have hcells : (tableRow (texts.map escapeCell)).toList =
      '|' :: texts.flatMap fun s => ' ' :: ((escapeCell s).toList ++ [' ', '|']) := by
    rw [toList_tableRow (by simpa using h), List.flatMap_map]
  rw [readRow, hcells, pieces, pieces_cells]
  simp

/-! ## Tables -/

/-- The lines in front of the list of exposed assets. -/
def tableLines (text : String) : List String :=
  linesAbove "Internet Exposure" (linesOf text)

/-- The rows of a table, which stand below its header and its rule. -/
def readTable (title text : String) : List (List String) :=
  ((linesBelow title (tableLines text)).drop 2).map readRow

/-- The lines of the list of exposed assets. -/
def readEntries (text : String) : List String :=
  linesBelow "Internet Exposure" (linesOf text)

theorem isInner_tableRow {cells : List String} (h : ∀ s ∈ cells, '\n' ∉ s.toList) :
    IsInner (tableRow cells) := by
  have hhead : (tableRow cells).toList.head? = some '|' := by simp [tableRow]
  refine isInner_of_head? hhead (by decide) ?_
  cases cells with
  | nil => decide
  | cons s cells =>
      rw [toList_tableRow (List.cons_ne_nil s cells)]
      simpa [List.mem_flatMap] using h

theorem Table.Regular.map_readRow_rowLines {t : Table} (h : t.Regular) :
    t.rowLines.map readRow = t.rows.map (·.map asLine) := by
  rw [rowLines, List.map_map]
  refine List.map_congr_left fun texts htexts => readRow_tableRow ?_
  rw [← List.length_pos_iff, h.length_eq texts htexts]
  exact List.length_pos_iff.mpr h.header_ne_nil

/-- Nothing but the texts of the rows could hold a line feed or stand at the beginning of a line. -/
structure Table.IsPlain (t : Table) : Prop where
  title : '\n' ∉ t.title.toList
  header : ∀ s ∈ t.header, '\n' ∉ s.toList
  rule : IsInner t.rule

theorem Table.IsPlain.isInner {t : Table} (h : t.IsPlain) :
    ∀ l ∈ [tableRow t.header, t.rule] ++ t.rowLines, IsInner l := by
  simp only [List.mem_append, List.mem_cons, List.not_mem_nil, or_false]
  rintro l ((rfl | rfl) | hl)
  · exact isInner_tableRow h.header
  · exact h.rule
  · obtain ⟨texts, -, rfl⟩ := List.mem_map.mp hl
    refine isInner_tableRow (List.forall_mem_map.mpr fun s _ => ?_)
    exact newline_not_mem_escapeCell s

theorem titles_tables (s : Snapshot) :
    (tables s).map Table.title = ["Node Types", "Relationships", "Vulnerabilities"] :=
  rfl

theorem isPlain_countTable {title column : String} (htitle : '\n' ∉ title.toList)
    (hcolumn : '\n' ∉ column.toList) (names : List String) :
    (countTable title column names).IsPlain where
  title := htitle
  header := List.forall_mem_cons.mpr ⟨hcolumn, List.forall_mem_singleton.mpr (by decide)⟩
  rule := by
    change IsInner "|------|-------|"
    exact ⟨⟨by decide, by decide⟩, by decide⟩

theorem isPlain_vulnerabilityTable (listed : List Node) : (vulnerabilityTable listed).IsPlain where
  title := by
    change '\n' ∉ "Vulnerabilities".toList
    decide
  header := by
    change ∀ s ∈ vulnerabilityHeader, '\n' ∉ s.toList
    decide
  rule := by
    change IsInner "|-----|----------|---------|---------|---------------|-----|"
    exact ⟨⟨by decide, by decide⟩, by decide⟩

theorem isPlain_tables (s : Snapshot) : ∀ t ∈ tables s, t.IsPlain := by
  intro t ht
  simp only [tables, List.mem_cons, List.not_mem_nil, or_false] at ht
  rcases ht with rfl | rfl | rfl
  · exact isPlain_countTable (by decide) (by decide) _
  · exact isPlain_countTable (by decide) (by decide) _
  · exact isPlain_vulnerabilityTable _

/-! ## The overview -/

theorem newline_not_mem_toDigits (n : Nat) : '\n' ∉ Nat.toDigits 10 n := fun h =>
  absurd (Nat.isDigit_of_mem_toDigits (by decide) (by decide) h) (by decide)

theorem newline_not_mem_padded (width n : Nat) : '\n' ∉ (Instant.padded width n).toList := by
  simp [Instant.padded, newline_not_mem_toDigits]

theorem newline_not_mem_offsetText (t : Instant) : '\n' ∉ t.offsetText.toList := by
  have hyear (year : Int) : '\n' ∉ (Instant.yearText year).toList := by
    unfold Instant.yearText
    split
    · exact newline_not_mem_padded _ _
    · split <;> simp [newline_not_mem_padded]
  have hfraction (nanoseconds : Nat) : '\n' ∉ (Instant.fractionText nanoseconds).toList := by
    unfold Instant.fractionText
    repeat' split
    all_goals simp [newline_not_mem_padded]
  simp [Instant.offsetText, Instant.localText, newline_not_mem_padded, hyear, hfraction]

theorem isBody_number (n : Nat) {rest : String} (h : '\n' ∉ rest.toList) :
    IsBody (toString n ++ rest) := by
  apply isBody_of_head?_ne
  · rw [String.toList_append, List.head?_append_of_ne_nil _ (by simp)]
    intro hhead
    have hdigit := Nat.isDigit_of_mem_toDigits (b := 10) (by decide) (by decide)
      (List.mem_of_head? (by simpa using hhead))
    exact absurd hdigit (by decide)
  · simp [newline_not_mem_toDigits, h]

theorem isBody_overviewLines (s : Snapshot) : ∀ l ∈ overviewLines s, IsBody l := by
  have hblank : IsBody "" := isBody_of_head?_ne (by decide) (by decide)
  have htitle : IsBody "# Asset Graph Summary" := ⟨by decide, by decide⟩
  have hfetched : IsBody ("Fetched at " ++ s.fetchedAt.offsetText ++ " (request #" ++
      toString s.generation ++ ")") := by
    apply isBody_of_head?_ne
    · simp
    · simp [newline_not_mem_offsetText, newline_not_mem_toDigits]
  have hrow {name : String} (n : Nat) (hname : '\n' ∉ name.toList) :
      IsBody (tableRow [name, toString n]) :=
    (isInner_tableRow (by simp [hname, newline_not_mem_toDigits])).toIsBody
  have hmetric : IsBody "| Metric | Value |" := isBody_of_head?_ne (by decide) (by decide)
  have hrule : IsBody "|--------|-------|" := isBody_of_head?_ne (by decide) (by decide)
  have hmore : ∀ l ∈ (if s.hasMore then
      ["", toString s.moreAvailable ++
        " more result(s) available; rerun with a higher --pages to load them."]
      else []), IsBody l := by
    split
    · exact List.forall_mem_cons.mpr
        ⟨hblank, List.forall_mem_singleton.mpr (isBody_number _ (by decide))⟩
    · exact nofun
  unfold overviewLines
  simp only [List.forall_mem_append, List.forall_mem_cons, List.not_mem_nil, false_imp_iff,
    forall_const, and_true]
  exact ⟨⟨⟨htitle, hblank, hfetched, hblank, hmetric, hrule, hrow _ (by decide),
    hrow _ (by decide), hrow _ (by decide), hrow _ (by decide)⟩, hmore⟩, hblank⟩

/-! ## The text of a summary -/

theorem linesOf_text (s : Snapshot) :
    linesOf (text s) = overviewLines s ++ (tables s).flatMap Table.sectionLines ++
      linesOf (exposureSection s.graph ++ skippedSection s.warnings) := by
  have hsingle : ∀ l ∈ overviewLines s ++ (tables s).flatMap Table.sectionLines,
      '\n' ∉ l.toList := by
    simp only [List.mem_append, List.mem_flatMap]
    rintro l (hl | ⟨t, ht, hl⟩)
    · exact (isBody_overviewLines s l hl).single
    · have hplain := isPlain_tables s t ht
      exact newline_not_mem_headed hplain.title hplain.isInner l hl
  have htext : text s = lines (overviewLines s ++ (tables s).flatMap Table.sectionLines) ++
      (exposureSection s.graph ++ skippedSection s.warnings) := by
    rw [text_eq_tables, lines_append, lines_flatMap, String.append_assoc]
    rfl
  rw [htext, linesOf_lines_append hsingle]

theorem heading_not_mem_overviewLines (s : Snapshot) (title : String) :
    "## " ++ title ∉ overviewLines s :=
  fun h => (isBody_overviewLines s _ h).ne_heading title rfl

theorem heading_not_mem_sectionLines {s : Snapshot} {title : String} {ts : List Table}
    (hts : ts ⊆ tables s) (h : title ∉ ts.map Table.title) :
    "## " ++ title ∉ ts.flatMap Table.sectionLines := by
  rw [List.mem_flatMap]
  rintro ⟨t, ht, hmem⟩
  have hne : title ≠ t.title := fun heq => h (List.mem_map.mpr ⟨t, ht, heq.symm⟩)
  exact heading_not_mem_headed hne (isPlain_tables s t (hts ht)).isInner hmem

theorem heading_not_mem_skippedSection {title : String} (h : title ≠ "Skipped Data")
    (warnings : List String) : "## " ++ title ∉ linesOf (skippedSection warnings) := by
  have htitle : '\n' ∉ "Skipped Data".toList := by decide
  have hrows : ∀ l ∈ [] ++ warnings.map (fun w => "- " ++ Text.replaceChar '\n' [' '] w),
      IsInner l := by
    intro l hl
    obtain ⟨w, -, rfl⟩ := List.mem_map.mp hl
    exact isInner_of_head? (c := '-') (by simp) (by decide) (by simp [newline_not_mem_replaceChar])
  have hlines := linesOf_lines_append (newline_not_mem_headed htitle hrows) ""
  rw [String.append_empty] at hlines
  intro hmem
  rcases List.mem_append.mp (hlines ▸ hmem) with hmem | hmem
  · exact heading_not_mem_headed h hrows hmem
  · exact absurd (List.mem_singleton.mp hmem) (by simp)

theorem exposure_not_mem_front (s : Snapshot) : "## " ++ "Internet Exposure" ∉
    overviewLines s ++ (tables s).flatMap Table.sectionLines := by
  have hother : "Internet Exposure" ∉ (tables s).map Table.title := by
    rw [titles_tables]
    decide
  rw [List.mem_append, not_or]
  exact ⟨heading_not_mem_overviewLines s _,
    heading_not_mem_sectionLines (List.Subset.refl _) hother⟩

/-- The tables are read from their own lines: in front of them is the overview, and behind them may
be nothing but skipped data. -/
theorem tableLines_text (s : Snapshot) : ∃ rest,
    tableLines (text s) = overviewLines s ++ (tables s).flatMap Table.sectionLines ++ rest ∧
      ∀ title, title ≠ "Skipped Data" → "## " ++ title ∉ rest := by
  refine ⟨_, linesOf_text s ▸ linesAbove_append_of_not_mem (exposure_not_mem_front s) _, ?_⟩
  intro title htitle
  by_cases hexposed : exposedNodes s.graph = []
  · have hsection : exposureSection s.graph = "" := by
      rw [exposureSection, hexposed]
      rfl
    rw [hsection, String.empty_append]
    intro hmem
    exact heading_not_mem_skippedSection htitle _ ((List.takeWhile_prefix _).subset hmem)
  · -- the list begins with its heading, and nothing from there on is read
    have hsection : exposureSection s.graph = "## " ++ "Internet Exposure" ++ "\n" ++
        lines ("" :: ((exposedNodes s.graph).map exposureEntry ++ [""])) := by
      rw [exposureSection, headed, if_neg (by simpa using hexposed), ← lines_cons]
      rfl
    rw [hsection, String.append_assoc, linesOf_line_append (by decide), linesAbove_heading]
    exact List.not_mem_nil

theorem title_ne_skipped {s : Snapshot} {t : Table} (ht : t ∈ tables s) :
    t.title ≠ "Skipped Data" := by
  have hall : ∀ title ∈ (tables s).map Table.title, title ≠ "Skipped Data" := by
    rw [titles_tables]
    decide
  exact hall _ (List.mem_map_of_mem ht)

/-- No other table has the title of a table. -/
theorem exists_split_tables {s : Snapshot} {t : Table} (ht : t ∈ tables s) :
    ∃ before after, tables s = before ++ t :: after ∧
      t.title ∉ before.map Table.title ∧ t.title ∉ after.map Table.title := by
  obtain ⟨before, after, hsplit⟩ := List.append_of_mem ht
  have hnodup : ((tables s).map Table.title).Nodup := by
    rw [titles_tables]
    decide
  rw [hsplit, List.map_append, List.map_cons, List.nodup_middle, List.nodup_cons, List.mem_append,
    not_or] at hnodup
  exact ⟨before, after, hsplit, hnodup.1⟩

/-- The tables are read back from the text of any summary. -/
theorem readTable_of_mem {s : Snapshot} {t : Table} (ht : t ∈ tables s) :
    readTable t.title (text s) = t.rows.map (·.map asLine) := by
  obtain ⟨rest, hlines, hrest⟩ := tableLines_text s
  obtain ⟨before, after, hsplit, hother⟩ := exists_split_tables ht
  have hsubset : before ⊆ tables s ∧ after ⊆ tables s := by
    simp [hsplit]
  have hbefore : "## " ++ t.title ∉ overviewLines s ++ before.flatMap Table.sectionLines := by
    rw [List.mem_append, not_or]
    exact ⟨heading_not_mem_overviewLines s _, heading_not_mem_sectionLines hsubset.1 hother.1⟩
  have hafter : "## " ++ t.title ∉ after.flatMap Table.sectionLines ++ rest := by
    rw [List.mem_append, not_or]
    exact ⟨heading_not_mem_sectionLines hsubset.2 hother.2, hrest _ (title_ne_skipped ht)⟩
  have hrows := drop_linesBelow_headed hbefore hafter (isPlain_tables s t ht).isInner
  have hassoc : overviewLines s ++ (tables s).flatMap Table.sectionLines ++ rest =
      overviewLines s ++ before.flatMap Table.sectionLines ++
        headed t.title [tableRow t.header, t.rule] t.rowLines ++
          (after.flatMap Table.sectionLines ++ rest) := by
    rw [hsplit, List.flatMap_append, List.flatMap_cons]
    simp only [List.append_assoc]
    rfl
  rw [readTable, hlines, hassoc]
  exact (congrArg (List.map readRow) hrows).trans (regular_tables s t ht).map_readRow_rowLines

theorem isInner_exposureEntry {n : Node} (h : '\n' ∉ n.kind.toList) :
    IsInner (exposureEntry n) := by
  have hentry : exposureEntry n = "- **" ++ escapeCell n.label ++ "** (\x60" ++ n.kind ++ "\x60)" :=
    rfl
  refine isInner_of_head? (c := '-') (by simp [hentry]) (by decide) ?_
  simp [hentry, h, newline_not_mem_escapeCell]

/-- As long as all types in the list of exposed assets are single lines, its entries are read back as
they were written. -/
theorem readEntries_text {s : Snapshot}
    (h : ∀ n ∈ exposedNodes s.graph, '\n' ∉ n.kind.toList) :
    readEntries (text s) = (exposedNodes s.graph).map exposureEntry := by
  have htitle : '\n' ∉ "Internet Exposure".toList := by decide
  have hrows : ∀ l ∈ [] ++ (exposedNodes s.graph).map exposureEntry, IsInner l := by
    intro l hl
    obtain ⟨n, hn, rfl⟩ := List.mem_map.mp hl
    exact isInner_exposureEntry (h n hn)
  have hother : "Internet Exposure" ≠ "Skipped Data" := by decide
  have hskipped := heading_not_mem_skippedSection hother s.warnings
  have hlines := drop_linesBelow_headed (exposure_not_mem_front s) hskipped hrows
  rw [readEntries, linesOf_text, exposureSection,
    linesOf_lines_append (newline_not_mem_headed htitle hrows), ← List.append_assoc]
  exact hlines

end AssetAtlas.Summary
