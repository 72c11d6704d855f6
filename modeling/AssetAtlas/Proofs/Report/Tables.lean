import Mathlib.Algebra.Order.BigOperators.Group.List
import Mathlib.Algebra.Order.Group.Nat
import Mathlib.Algebra.Ring.Nat
import Mathlib.Data.List.DropRight
import AssetAtlas.Loading.Loader
import AssetAtlas.Report.Summary

/-!
The shape of the tables of a summary. A row is one line, and a bar ends a cell unless an odd number
of backslashes stands right in front of it. To mark a bar as part of a text one backslash is put in
front of it, whatever stands there already. So a bar that has an odd number of them in the text ends
a cell, and all others do not; and a line feed becomes a space, but a carriage return stays. The
main statement, `tables_keep_shape_iff`, says that these two are all that can spoil a row.
-/

namespace AssetAtlas.Summary

/-! ## Reading a row -/

/-- What stands between the bars behind an even number of backslashes, where `n` backslashes stand
right in front of the first character. -/
def cellsBehind (n : Nat) : List Char → List (List Char)
  | [] => [[]]
  | c :: cs =>
    if c = '|' ∧ n % 2 = 0 then [] :: cellsBehind 0 cs
    else (cellsBehind (if c = '\\' then n + 1 else 0) cs).modifyHead (c :: ·)

/-- The cells of a line. What stands in front of the first bar and behind the last one counts
too. -/
def cells (line : String) : List String :=
  (cellsBehind 0 line.toList).map String.ofList

def IsSingleLine (line : String) : Prop :=
  '\n' ∉ line.toList ∧ '\r' ∉ line.toList

/-- The number of bars for which the number of backslashes right in front of them leaves the
remainder `r` by two, where `n` backslashes stand in front of the first character. -/
def countBars (r n : Nat) : List Char → Nat
  | [] => 0
  | c :: cs =>
    (if c = '|' ∧ n % 2 = r then 1 else 0) + countBars r (if c = '\\' then n + 1 else 0) cs

theorem length_cellsBehind (n : Nat) (cs : List Char) :
    (cellsBehind n cs).length = countBars 0 n cs + 1 := by
  induction cs generalizing n with
  | nil => rfl
  | cons c cs ih =>
      rw [cellsBehind, countBars]
      split
      · next hbar =>
          obtain ⟨rfl, -⟩ := hbar
          rw [List.length_cons, ih, if_neg (by decide)]
          omega
      · rw [List.length_modifyHead, ih, Nat.zero_add]

/-- Behind a space no backslash counts any more. -/
theorem countBars_append_space (r n : Nat) (cs rest : List Char) :
    countBars r n (cs ++ ' ' :: rest) = countBars r n cs + countBars r 0 rest := by
  induction cs generalizing n with
  | nil => simp [countBars]
  | cons c cs ih => rw [List.cons_append, countBars, countBars, ih, Nat.add_assoc]

theorem countBars_eq_zero_iff (r n : Nat) (cs : List Char) :
    countBars r n cs = 0 ↔ ∀ front rest, cs = front ++ '|' :: rest →
      front.foldl (fun n c => if c = '\\' then n + 1 else 0) n % 2 ≠ r := by
  induction cs generalizing n with
  | nil => simp [countBars]
  | cons c cs ih =>
      rw [countBars, Nat.add_eq_zero_iff, ih]
      constructor
      · rintro ⟨hfirst, hrest⟩ front rest heq
        cases front with
        | nil =>
            obtain ⟨rfl, rfl⟩ := List.cons.inj heq
            simpa using hfirst
        | cons d front =>
            obtain ⟨rfl, rfl⟩ := List.cons.inj heq
            exact hrest front rest rfl
      · intro h
        refine ⟨?_, fun front rest heq => h (c :: front) rest (by rw [heq, List.cons_append])⟩
        rw [if_neg]
        rintro ⟨rfl, hr⟩
        exact h [] cs rfl hr

theorem foldl_backslashes (cs : List Char) :
    cs.foldl (fun n c => if c = '\\' then n + 1 else 0) 0 =
      (cs.rtakeWhile (· = '\\')).length := by
  induction cs using List.reverseRecOn with
  | nil => rfl
  | append_singleton cs c ih =>
      rw [List.foldl_concat, List.rtakeWhile_concat, ih]
      by_cases hc : c = '\\' <;> simp [hc]

/-! ## Texts in cells -/

/-- Nothing in a text spoils the row in whose cell it is shown: it has no carriage return, and every
bar stands behind an even number of backslashes, usually none. -/
structure FitsCell (text : String) : Prop where
  no_return : '\r' ∉ text.toList
  even_backslashes : ∀ front rest, text.toList = front ++ '|' :: rest →
    (front.rtakeWhile (· = '\\')).length % 2 = 0

theorem fitsCell_iff (text : String) :
    FitsCell text ↔ '\r' ∉ text.toList ∧ countBars 1 0 text.toList = 0 := by
  have hparity (k : Nat) : k % 2 ≠ 1 ↔ k % 2 = 0 := by omega
  rw [countBars_eq_zero_iff]
  simp only [foldl_backslashes, hparity]
  exact ⟨fun ⟨hreturn, heven⟩ => ⟨hreturn, heven⟩, fun ⟨hreturn, heven⟩ => ⟨hreturn, heven⟩⟩

def escapeChar (c : Char) : List Char :=
  if c = '|' then ['\\', '|'] else if c = '\n' then [' '] else [c]

theorem toList_escapeCell (s : String) : (escapeCell s).toList = s.toList.flatMap escapeChar := by
  rw [escapeCell, Text.replaceChar, Text.replaceChar, String.toList_ofList, String.toList_ofList,
    List.flatMap_assoc]
  refine List.flatMap_congr fun c _ => ?_
  unfold escapeChar
  split
  · rfl
  · simp

theorem newline_not_mem_replaceChar (s : String) :
    '\n' ∉ (Text.replaceChar '\n' [' '] s).toList := by
  rw [Text.replaceChar, String.toList_ofList, List.mem_flatMap]
  rintro ⟨c, -, hc⟩
  split at hc
  · exact absurd (List.mem_singleton.mp hc) (by decide)
  · next hline => exact hline (List.mem_singleton.mp hc).symm

theorem newline_not_mem_escapeCell (s : String) : '\n' ∉ (escapeCell s).toList :=
  newline_not_mem_replaceChar _

theorem return_mem_escapeCell_iff (s : String) :
    '\r' ∈ (escapeCell s).toList ↔ '\r' ∈ s.toList := by
  have hchar (c : Char) : '\r' ∈ escapeChar c ↔ '\r' = c := by
    unfold escapeChar
    split
    · next hbar => simp [hbar]
    · split
      · next hline => simp [hline]
      · exact List.mem_singleton
  rw [toList_escapeCell, List.mem_flatMap]
  simp only [hchar, exists_eq_right']

theorem isSingleLine_escapeCell (s : String) :
    IsSingleLine (escapeCell s) ↔ '\r' ∉ s.toList := by
  rw [IsSingleLine, return_mem_escapeCell_iff]
  exact and_iff_right (newline_not_mem_escapeCell s)

theorem countBars_flatMap_escapeChar (n : Nat) (cs : List Char) :
    countBars 0 n (cs.flatMap escapeChar) = countBars 1 n cs := by
  induction cs generalizing n with
  | nil => rfl
  | cons c cs ih =>
      rw [List.flatMap_cons, escapeChar]
      split
      · next hbar =>
          subst hbar
          simp only [List.cons_append, List.nil_append, countBars, ih]
          have hparity : (n + 1) % 2 = 0 ↔ n % 2 = 1 := by omega
          simp [hparity]
      · split
        · next hbar hline =>
            subst hline
            simp [countBars, ih]
        · next hbar hline => simp [countBars, ih, hbar]

/-- The bars of a text that end a cell are those behind an odd number of backslashes. -/
theorem countBars_escapeCell (s : String) :
    countBars 0 0 (escapeCell s).toList = countBars 1 0 s.toList := by
  rw [toList_escapeCell, countBars_flatMap_escapeChar]

/-! ## Rows -/

theorem toList_tableRow {written : List String} (h : written ≠ []) :
    (tableRow written).toList =
      '|' :: written.flatMap fun s => ' ' :: (s.toList ++ [' ', '|']) := by
  have hjoin : ∀ first rest, ' ' :: [' ', '|', ' '].intercalate (first :: rest) ++ [' ', '|'] =
      (first :: rest).flatMap fun cs => ' ' :: (cs ++ [' ', '|']) := by
    intro first rest
    induction rest generalizing first with
    | nil => simp
    | cons second rest ih =>
        rw [List.intercalate_cons_cons, List.flatMap_cons, ← ih second]
        simp
  obtain ⟨first, rest, rfl⟩ := List.exists_cons_of_ne_nil h
  have hrow := hjoin first.toList (rest.map String.toList)
  rw [← List.map_cons (f := String.toList), List.flatMap_map] at hrow
  rw [← hrow]
  simp [tableRow, String.toList_intercalate]

theorem countBars_bar (rest : List Char) :
    countBars 0 0 ('|' :: rest) = 1 + countBars 0 0 rest := by
  rw [countBars, if_pos (by decide), if_neg (by decide)]

theorem countBars_cells (written : List String) :
    countBars 0 0 (written.flatMap fun s => ' ' :: (s.toList ++ [' ', '|'])) =
      written.length + (written.map fun s => countBars 0 0 s.toList).sum := by
  induction written with
  | nil => rfl
  | cons s written ih =>
      have hcell (rest : List Char) : ' ' :: (s.toList ++ [' ', '|']) ++ rest =
          [] ++ ' ' :: (s.toList ++ ' ' :: '|' :: rest) := by
        simp
      rw [List.flatMap_cons, hcell, countBars_append_space, countBars_append_space, countBars_bar,
        ih, List.map_cons, List.sum_cons, List.length_cons, countBars]
      omega

theorem length_cells_tableRow {written : List String} (h : written ≠ []) :
    (cells (tableRow written)).length =
      written.length + 2 + (written.map fun s => countBars 0 0 s.toList).sum := by
  rw [cells, List.length_map, length_cellsBehind, toList_tableRow h, countBars_bar, countBars_cells]
  omega

theorem isSingleLine_tableRow {written : List String} (h : written ≠ []) :
    IsSingleLine (tableRow written) ↔ ∀ s ∈ written, IsSingleLine s := by
  rw [IsSingleLine, toList_tableRow h]
  simp [IsSingleLine, forall_and]

/-- A row is one line and has as many cells as the header above it. -/
def KeepsShape (header : List String) (row : String) : Prop :=
  IsSingleLine row ∧ (cells row).length = (cells (tableRow header)).length

/-! ## The tables -/

namespace Table

/-- The header has cells and no bars in them, and a row has one text for each of its cells. -/
structure Regular (t : Table) : Prop where
  header_ne_nil : t.header ≠ []
  header_bars : ∀ s ∈ t.header, countBars 0 0 s.toList = 0
  length_eq : ∀ texts ∈ t.rows, texts.length = t.header.length

theorem Regular.keepsShape_iff {t : Table} (h : t.Regular) {texts : List String}
    (htexts : texts ∈ t.rows) :
    KeepsShape t.header (tableRow (texts.map escapeCell)) ↔ ∀ text ∈ texts, FitsCell text := by
  have hlength := h.length_eq texts htexts
  have hsome : texts.map escapeCell ≠ [] := by
    have hpos := List.length_pos_iff.mpr h.header_ne_nil
    rw [← List.length_pos_iff, List.length_map, hlength]
    exact hpos
  have hbars : (t.header.map fun s => countBars 0 0 s.toList).sum = 0 := by
    rw [List.sum_eq_zero_iff]
    simpa using h.header_bars
  rw [KeepsShape, isSingleLine_tableRow hsome, length_cells_tableRow hsome,
    length_cells_tableRow h.header_ne_nil, hbars, List.length_map, hlength, Nat.add_zero,
    Nat.add_eq_left, List.sum_eq_zero_iff]
  simp only [List.forall_mem_map, isSingleLine_escapeCell, countBars_escapeCell, fitsCell_iff,
    forall_and]

end Table

def tables (s : Snapshot) : List Table :=
  [countTable "Node Types" "Type" (s.graph.nodes.map (·.kind)),
    countTable "Relationships" "Relationship" (s.graph.edges.map (·.kind)),
    vulnerabilityTable (rankedVulnerabilities s.graph)]

/-- All tables of a summary but the overview, which shows numbers only. -/
theorem text_eq_tables (s : Snapshot) :
    text s = overview s ++ String.join ((tables s).map Table.written) ++ exposureSection s.graph ++
      skippedSection s.warnings := by
  have hjoin (a b c : String) : String.join [a, b, c] = a ++ b ++ c := by
    rw [← String.toList_inj]
    simp
  rw [tables, List.map_cons, List.map_cons, List.map_singleton, hjoin, ← String.append_assoc,
    ← String.append_assoc]
  rfl

theorem regular_countTable (title : String) {column : String}
    (h : countBars 0 0 column.toList = 0) (names : List String) :
    (countTable title column names).Regular where
  header_ne_nil := List.cons_ne_nil _ _
  header_bars := List.forall_mem_cons.mpr ⟨h, List.forall_mem_singleton.mpr (by decide)⟩
  length_eq := by
    intro texts htexts
    obtain ⟨e, -, rfl⟩ := List.mem_map.mp htexts
    rfl

theorem regular_vulnerabilityTable (listed : List Node) : (vulnerabilityTable listed).Regular where
  header_ne_nil := List.cons_ne_nil _ _
  header_bars := by
    change ∀ s ∈ vulnerabilityHeader, countBars 0 0 s.toList = 0
    decide
  length_eq := by
    intro texts htexts
    obtain ⟨n, -, rfl⟩ := List.mem_map.mp htexts
    rfl

theorem regular_tables (s : Snapshot) : ∀ t ∈ tables s, t.Regular := by
  intro t ht
  simp only [tables, List.mem_cons, List.not_mem_nil, or_false] at ht
  rcases ht with rfl | rfl | rfl
  · exact regular_countTable _ (by decide) _
  · exact regular_countTable _ (by decide) _
  · exact regular_vulnerabilityTable _

/-- The tables of a summary show what is counted and the vulnerabilities, and a row of them is one
line with as many cells as the header if and only if all texts in it fit into their cells. -/
theorem tables_keep_shape_iff (s : Snapshot) :
    text s = overview s ++ String.join ((tables s).map Table.written) ++ exposureSection s.graph ++
        skippedSection s.warnings ∧
      ∀ t ∈ tables s, ∀ texts ∈ t.rows,
        KeepsShape t.header (tableRow (texts.map escapeCell)) ↔ ∀ text ∈ texts, FitsCell text :=
  ⟨text_eq_tables s, fun t ht _ htexts => (regular_tables s t ht).keepsShape_iff htexts⟩

/-- Vulnerabilities whose names have a bar behind a backslash and a carriage return. -/
def spoilingRows : List Row :=
  [.ofNode
      { id := .string "1"
        labels := ["vulnerability"]
        properties := .ofList [("vulnerability_id", .string "CVE\\|1")] },
    .ofNode
      { id := .string "2"
        labels := ["vulnerability"]
        properties := .ofList [("vulnerability_id", .string "CVE\r2")] }]

/-- The first row has one cell too many, and the second one is broken in two. -/
theorem spoiled_rows_lose_shape :
    vulnerabilitySection (normalize spoilingRows).1 = lines
        ["## Vulnerabilities", "", "| CVE | Severity | Package | Version | Fixed Version | KEV |",
          "|-----|----------|---------|---------|---------------|-----|",
          "| CVE\\\\|1 | - | - | Various versions | - | no |",
          "| CVE\r2 | - | - | Various versions | - | no |", ""] ∧
      cells "| CVE\\\\|1 | - | - | Various versions | - | no |" =
        ["", " CVE\\\\", "1 ", " - ", " - ", " Various versions ", " - ", " no ", ""] ∧
      (cells (tableRow vulnerabilityHeader)).length = 8 ∧
      '\r' ∈ "| CVE\r2 | - | - | Various versions | - | no |".toList := by
  decide +kernel

end AssetAtlas.Summary
