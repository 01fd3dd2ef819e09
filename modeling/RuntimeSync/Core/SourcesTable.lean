import RuntimeSync.Core.ClockMonitor
import RuntimeSync.Library.Joined
import RuntimeSync.Library.Words

/-!
# The table of sources

`chronyc sources` prints a header, a line of equals signs, and a row for each
source.  A row is known by its first character, and an equals sign is one of
those that begin a row.
-/

namespace RuntimeSync

open ClockMonitor

/-! ## Tables -/

/-- Blanks within a line. -/
abbrev Blanks := { s : Str // ∀ c ∈ s, isspace c = true ∧ c ≠ 10 }

structure SourceRow where
  before : Blanks
  mode : UInt8
  state : UInt8
  gap : Blanks
  name : Str
  columns : Str
  after : Blanks
  mode_known : mode = byte '^' ∨ mode = byte '=' ∨ mode = byte '#'
  state_ne : state ≠ 10
  gap_ne : gap.val ≠ []
  name_ne : name ≠ []
  name_word : ∀ c ∈ name, isspace c = false
  columns_ne : 10 ∉ columns
  columns_apart : ∀ c ∈ columns.head?, isspace c = true

structure SourcesTable where
  headerBefore : Blanks
  headerAfter : Blanks
  separatorBefore : Blanks
  separatorAfter : Blanks
  /-- How many equals signs the line has. -/
  separator : ℕ
  rows : List SourceRow
  endsLine : Bool

def SourceRow.line (row : SourceRow) : Str :=
  row.before ++ row.mode :: row.state :: (row.gap ++ (row.name ++ (row.columns ++ row.after)))

namespace SourcesTable

def headerLine : Str := text "MS Name/IP address         Stratum Poll Reach LastRx Last sample"

def header (table : SourcesTable) : Str :=
  table.headerBefore ++ (headerLine ++ table.headerAfter)

def separatorLine (table : SourcesTable) : Str :=
  table.separatorBefore ++ (List.replicate table.separator (byte '=') ++ table.separatorAfter)

def lines (table : SourcesTable) : List Str :=
  table.header :: table.separatorLine :: table.rows.map SourceRow.line

def contents (table : SourcesTable) : Str :=
  joined 10 table.lines ++ if table.endsLine then [10] else []

def names (table : SourcesTable) : List Str := table.rows.map SourceRow.name

/-- The name in the last row that is marked with a star. -/
def selected (table : SourcesTable) : Str :=
  ((table.rows.filter fun row ↦ row.state = byte '*').getLast?.map SourceRow.name).getD []

end SourcesTable

namespace ClockMonitor

/-! ## Lines -/

theorem getlines_append_newline {line : Str} (hline : 10 ∉ line) (rest : Str) :
    getlines (line ++ 10 :: rest) = line :: getlines rest := by
  induction line with
  | nil => simp [getlines]
  | cons c line ih =>
      obtain ⟨hc, hline⟩ := not_or.mp (List.mem_cons.not.mp hline)
      rw [List.cons_append, getlines, if_neg (Ne.symm hc), ih hline]

theorem getlines_of_notMem {line : Str} (hline : 10 ∉ line) :
    getlines line = if line = [] then [] else [line] := by
  induction line with
  | nil => rfl
  | cons c line ih =>
      obtain ⟨hc, hline⟩ := not_or.mp (List.mem_cons.not.mp hline)
      rw [getlines, if_neg (Ne.symm hc), ih hline, if_neg (List.cons_ne_nil c line)]
      by_cases hnil : line = []
      · rw [if_pos hnil, hnil]
      · rw [if_neg hnil]

theorem parseSourcesLine_nil (sources : ChronySources) : parseSourcesLine sources [] = sources :=
  rfl

/-- The loop sees the lines that the text was made of.  Only an empty last line
without a newline is not delivered, and it would not matter. -/
theorem foldl_getlines {lines : List Str} (hlines : ∀ line ∈ lines, 10 ∉ line) (hne : lines ≠ [])
    (endsLine : Bool) (sources : ChronySources) :
    (getlines (joined 10 lines ++ if endsLine then [10] else [])).foldl parseSourcesLine sources =
      lines.foldl parseSourcesLine sources := by
  induction lines generalizing sources with
  | nil => exact absurd rfl hne
  | cons line lines ih =>
      obtain ⟨hline, hrest⟩ := List.forall_mem_cons.mp hlines
      cases lines with
      | nil =>
          rw [joined, List.intercalate_singleton]
          cases endsLine with
          | true =>
              rw [if_pos rfl, getlines_append_newline hline]
              rfl
          | false =>
              rw [if_neg Bool.false_ne_true, List.append_nil, getlines_of_notMem hline]
              by_cases hnil : line = []
              · rw [if_pos hnil, hnil]
                exact (parseSourcesLine_nil sources).symm
              · rw [if_neg hnil]
      | cons second lines =>
          rw [joined, List.intercalate_cons_cons, List.append_assoc, List.append_assoc,
            List.singleton_append, getlines_append_newline hline, List.foldl_cons,
            List.foldl_cons]
          exact ih hrest (List.cons_ne_nil _ _) _

/-! ## Trimmed lines -/

theorem trim_eq (s : Str) : trim s = (s.dropWhile isspace).rdropWhile isspace := rfl

theorem blanks_isspace (blanks : Blanks) : ∀ c ∈ blanks.val, isspace c = true :=
  fun c hc ↦ (blanks.property c hc).1

/-- Blanks before the first character that is none are cut off. -/
theorem trim_append_cons (before : Blanks) {first : UInt8} (hfirst : isspace first = false)
    (rest : Str) :
    trim (before ++ first :: rest) = first :: rest.rdropWhile isspace := by
  rw [trim_eq, dropWhile_append_cons (blanks_isspace before) hfirst]
  exact (rdropWhile_append_boundary hfirst : ([] ++ first :: rest).rdropWhile isspace = _)

theorem rdropWhile_word {word : Str} (hword : ∀ c ∈ word, isspace c = false) (hne : word ≠ [])
    (kept rest : Str) :
    (kept ++ (word ++ rest)).rdropWhile isspace = kept ++ (word ++ rest.rdropWhile isspace) := by
  obtain ⟨front, last, rfl⟩ := List.eq_nil_or_concat word |>.resolve_left hne
  have hlast : isspace last = false := hword last (by simp)
  rw [List.concat_eq_append, List.append_assoc, ← List.append_assoc, List.singleton_append,
    rdropWhile_append_boundary hlast]
  simp only [List.append_assoc, List.singleton_append]

theorem rdropWhile_blanks (blanks : Blanks) : blanks.val.rdropWhile isspace = [] :=
  List.rdropWhile_eq_nil_iff.mpr (blanks_isspace blanks)

theorem trim_word (before after : Blanks) {word : Str} (hword : ∀ c ∈ word, isspace c = false) :
    trim (before ++ (word ++ after)) = word := by
  cases word with
  | nil =>
      have hblank : ∀ c ∈ before.val ++ after.val, isspace c = true := by
        rw [List.forall_mem_append]
        exact ⟨blanks_isspace before, blanks_isspace after⟩
      rw [List.nil_append, trim_eq, List.dropWhile_eq_nil_iff.mpr hblank]
      rfl
  | cons first word =>
      obtain ⟨hfirst, hrest⟩ := List.forall_mem_cons.mp hword
      have hright := rdropWhile_word hword (List.cons_ne_nil _ _) [] after
      rw [List.nil_append, List.nil_append, rdropWhile_blanks, List.append_nil] at hright
      rw [trim_eq, List.cons_append, dropWhile_append_cons (blanks_isspace before) hfirst]
      exact hright

theorem extractWord_gap {gap name rest : Str} (hgap : ∀ c ∈ gap, isspace c = true)
    (hne : name ≠ []) (hname : ∀ c ∈ name, isspace c = false)
    (hrest : ∀ c ∈ rest.head?, isspace c = true) (word : Str) :
    extractWord (gap ++ (name ++ rest)) word = name := by
  obtain ⟨first, more, rfl⟩ := List.exists_cons_of_ne_nil hne
  have hdrop : (gap ++ (first :: more ++ rest)).dropWhile isspace = first :: more ++ rest :=
    dropWhile_append_cons hgap (hname first List.mem_cons_self)
  rw [extractWord, hdrop]
  apply takeWhile_append_boundary
  · intro c hc
    rw [hname c hc]
    rfl
  · intro c hc
    rw [hrest c hc]
    rfl

/-! ## What each line adds -/

/-- The rows that are read, with the star of the last one that has it. -/
def addRow (sources : ChronySources) (state : UInt8) (name : Str) : ChronySources :=
  { sources with
    sources := sources.sources ++ [name]
    selectedSource := if state = byte '*' then name else sources.selectedSource }

theorem parseSourcesLine_row (sources : ChronySources) (row : SourceRow) :
    parseSourcesLine sources row.line = addRow sources row.state row.name := by
  have hmode : isspace row.mode = false := by
    rcases row.mode_known with h | h | h <;> rw [h] <;> decide
  have htail : ∀ c ∈ (row.columns ++ row.after.val).head?, isspace c = true := by
    intro c hc
    cases hcolumns : row.columns with
    | nil =>
        rw [hcolumns, List.nil_append] at hc
        exact blanks_isspace row.after c (List.mem_of_mem_head? hc)
    | cons first rest =>
        rw [hcolumns] at hc
        apply row.columns_apart
        rw [hcolumns]
        exact hc
  have htrim : trim row.line = row.mode :: row.state :: (row.gap ++ (row.name ++
      (row.columns ++ row.after.val).rdropWhile isspace)) := by
    rw [SourceRow.line, trim_append_cons row.before hmode]
    congr 1
    exact rdropWhile_word row.name_word row.name_ne (row.state :: row.gap) _
  have hrest : row.gap.val ++ (row.name ++ (row.columns ++ row.after.val).rdropWhile isspace) ≠
      [] := List.append_ne_nil_of_left_ne_nil row.gap_ne _
  have hname := extractWord_gap (blanks_isspace row.gap) row.name_ne row.name_word
    (head?_rdropWhile htail) []
  have hknown : ¬(row.mode ≠ byte '^' ∧ row.mode ≠ byte '=' ∧ row.mode ≠ byte '#') := by
    rintro ⟨h₁, h₂, h₃⟩
    rcases row.mode_known with h | h | h
    · exact h₁ h
    · exact h₂ h
    · exact h₃ h
  rw [parseSourcesLine, htrim]
  dsimp only
  rw [if_neg hrest, if_neg hknown, hname, if_neg row.name_ne]
  rfl

theorem parseSourcesLine_header (sources : ChronySources) (table : SourcesTable) :
    parseSourcesLine sources table.header = sources := by
  obtain ⟨rest, hrest⟩ : ∃ rest, SourcesTable.headerLine = byte 'M' :: rest :=
    ⟨SourcesTable.headerLine.tail, by decide +kernel⟩
  rw [parseSourcesLine, SourcesTable.header, hrest, List.cons_append,
    trim_append_cons table.headerBefore (by decide)]
  split
  · next mode state rest' heq =>
      obtain ⟨rfl, -⟩ := List.cons.inj heq
      split
      · rfl
      · exact if_pos (by decide)
  · rfl

/-- The line of equals signs is a row with the mode and the state of an equals
sign, if it is long enough to have a name. -/
theorem parseSourcesLine_separator (sources : ChronySources) (table : SourcesTable) :
    parseSourcesLine sources table.separatorLine =
      if table.separator ≤ 2 then sources
      else addRow sources (byte '=') (List.replicate (table.separator - 2) (byte '=')) := by
  have hsigns : ∀ n, ∀ c ∈ List.replicate n (byte '='), isspace c = false := fun n c hc ↦ by
    rw [List.eq_of_mem_replicate hc]
    decide
  rw [parseSourcesLine, SourcesTable.separatorLine, trim_word _ _ (hsigns _)]
  generalize table.separator = n
  by_cases hshort : n ≤ 2
  · rw [if_pos hshort]
    obtain rfl | rfl | rfl : n = 0 ∨ n = 1 ∨ n = 2 := by omega
    · rfl
    · rfl
    · rfl
  · obtain ⟨m, rfl⟩ : ∃ m, n = m + 3 := ⟨n - 3, by omega⟩
    have hne : List.replicate (m + 1) (byte '=') ≠ [] := by simp
    have hname : extractWord ([] ++ (List.replicate (m + 1) (byte '=') ++ [])) [] =
        List.replicate (m + 1) (byte '=') :=
      extractWord_gap (List.forall_mem_nil _) hne (hsigns (m + 1)) (by simp) []
    rw [List.nil_append, List.append_nil] at hname
    change (if List.replicate (m + 1) (byte '=') = [] then sources else _) = _
    rw [if_neg hne, if_neg (by decide), hname, if_neg hne, if_neg hshort]
    rfl

/-! ## Whole tables -/

theorem foldl_rows (rows : List SourceRow) (sources : ChronySources) :
    (rows.map SourceRow.line).foldl parseSourcesLine sources =
      { sources with
        sources := sources.sources ++ rows.map SourceRow.name
        selectedSource :=
          ((rows.filter fun row ↦ row.state = byte '*').getLast?.map SourceRow.name).getD
            sources.selectedSource } := by
  induction rows using List.reverseRecOn with
  | nil => simp
  | append_singleton rows row ih =>
      rw [List.map_append, List.foldl_append, ih, List.map_singleton, List.foldl_cons,
        List.foldl_nil, parseSourcesLine_row, addRow, List.filter_append, List.map_append,
        List.map_singleton, List.append_assoc]
      by_cases hstar : row.state = byte '*'
      · simp [hstar]
      · simp [hstar]

theorem newline_notMem_blanks (blanks : Blanks) : 10 ∉ blanks.val :=
  fun h ↦ (blanks.property 10 h).2 rfl

theorem newline_notMem_line (row : SourceRow) : 10 ∉ row.line := by
  have hmode : 10 ≠ row.mode := by
    rcases row.mode_known with h | h | h <;> rw [h] <;> decide
  have hname : 10 ∉ row.name := fun h ↦ absurd (row.name_word 10 h) (by decide)
  simp only [SourceRow.line, List.mem_append, List.mem_cons, not_or]
  exact ⟨newline_notMem_blanks row.before, hmode, row.state_ne.symm, newline_notMem_blanks row.gap,
    hname, row.columns_ne, newline_notMem_blanks row.after⟩

theorem newline_notMem_lines (table : SourcesTable) : ∀ line ∈ table.lines, 10 ∉ line := by
  have hheader : 10 ∉ SourcesTable.headerLine := by decide +kernel
  have hsigns : 10 ∉ List.replicate table.separator (byte '=') := fun h ↦
    absurd (List.eq_of_mem_replicate h) (by decide)
  rw [SourcesTable.lines, List.forall_mem_cons, List.forall_mem_cons, List.forall_mem_map]
  refine ⟨?_, ?_, fun row _ ↦ newline_notMem_line row⟩
  · simp only [SourcesTable.header, List.mem_append, not_or]
    exact ⟨newline_notMem_blanks _, hheader, newline_notMem_blanks _⟩
  · simp only [SourcesTable.separatorLine, List.mem_append, not_or]
    exact ⟨newline_notMem_blanks _, hsigns, newline_notMem_blanks _⟩

/-- The rows that the line of equals signs is taken for. -/
def separatorNames (table : SourcesTable) : List Str :=
  if table.separator ≤ 2 then [] else [List.replicate (table.separator - 2) (byte '=')]

theorem foldl_contents (table : SourcesTable) :
    (getlines table.contents).foldl parseSourcesLine {} =
      { sources := separatorNames table ++ table.names, selectedSource := table.selected } := by
  rw [SourcesTable.contents, foldl_getlines (newline_notMem_lines table) (List.cons_ne_nil _ _),
    SourcesTable.lines, List.foldl_cons, List.foldl_cons, parseSourcesLine_header,
    parseSourcesLine_separator, foldl_rows, separatorNames]
  split
  · rfl
  · rfl

theorem selected_eq_nil_iff (table : SourcesTable) :
    table.selected = [] ↔ ∀ row ∈ table.rows, row.state ≠ byte '*' := by
  have hfilter : (table.rows.filter fun row ↦ row.state = byte '*') = [] ↔
      ∀ row ∈ table.rows, row.state ≠ byte '*' := by
    simp only [List.filter_eq_nil_iff, decide_eq_true_eq, ne_eq]
  rw [SourcesTable.selected, ← hfilter]
  cases hlast : (table.rows.filter fun row ↦ row.state = byte '*').getLast? with
  | none => exact iff_of_true rfl (List.getLast?_eq_none_iff.mp hlast)
  | some row =>
      refine iff_of_false row.name_ne fun hnil ↦ ?_
      rw [hnil] at hlast
      cases hlast

/-- The table is read as it is meant. -/
structure ReadsTable (table : SourcesTable) : Prop where
  sources : (parseSources table.contents).sources = table.names
  selected : (parseSources table.contents).selectedSource = table.selected
  ok : (parseSources table.contents).ok = true ↔ ∃ row ∈ table.rows, row.state = byte '*'

theorem parseSources_contents (table : SourcesTable) :
    (parseSources table.contents).sources = separatorNames table ++ table.names ∧
      (parseSources table.contents).selectedSource = table.selected ∧
      ((parseSources table.contents).ok = true ↔ table.selected ≠ []) := by
  rw [parseSources, foldl_contents]
  dsimp only
  split
  · next hselected => exact ⟨rfl, rfl, iff_of_true rfl hselected⟩
  · next hnone => exact ⟨rfl, rfl, iff_of_false Bool.false_ne_true hnone⟩

theorem ok_iff_star (table : SourcesTable) :
    (parseSources table.contents).ok = true ↔ ∃ row ∈ table.rows, row.state = byte '*' := by
  rw [(parseSources_contents table).2.2, ne_eq, selected_eq_nil_iff]
  simp only [not_forall, ne_eq, not_not, exists_prop]

theorem separator_le_of_readsTable {table : SourcesTable} (h : ReadsTable table) :
    table.separator ≤ 2 := by
  by_contra hlong
  have heq := (parseSources_contents table).1.symm.trans h.sources
  rw [separatorNames, if_neg hlong] at heq
  exact absurd (congrArg List.length heq) (by simp)

/-- A table is read as it is meant unless its line of equals signs is long
enough to be a row; the selected source is right always. -/
theorem readsTable_iff (table : SourcesTable) :
    (ReadsTable table ↔ table.separator ≤ 2) ∧
      (parseSources table.contents).sources = separatorNames table ++ table.names ∧
      (parseSources table.contents).selectedSource = table.selected ∧
      ((parseSources table.contents).ok = true ↔ ∃ row ∈ table.rows, row.state = byte '*') := by
  obtain ⟨hsources, hselected, -⟩ := parseSources_contents table
  have hok := ok_iff_star table
  refine ⟨⟨separator_le_of_readsTable, fun hshort ↦ ⟨?_, hselected, hok⟩⟩, hsources, hselected, hok⟩
  rw [hsources, separatorNames, if_pos hshort, List.nil_append]

theorem blanks_nil : ∀ c ∈ ([] : Str), isspace c = true ∧ c ≠ 10 := List.forall_mem_nil _

theorem blanks_space : ∀ c ∈ text " ", isspace c = true ∧ c ≠ 10 := by decide +kernel

/-- What `chronyc sources` prints. -/
def printedTable : Str :=
  text "MS Name/IP address         Stratum Poll Reach LastRx Last sample\n" ++
    text "===============================================================================\n" ++
    text "^* 192.168.10.10                 1   6   377    12   +500us[ +500us] +/-  900us\n" ++
    text "^- pool.ntp.org                  2   6   377    11   -800us[ -800us] +/-   20ms\n"

/-- It is such a table, with two sources, and three are read. -/
theorem printedTable_misread :
    (parseSources printedTable).sources =
        [List.replicate 77 (byte '='), text "192.168.10.10", text "pool.ntp.org"] ∧
      ∃ table : SourcesTable, table.contents = printedTable ∧
        table.names = [text "192.168.10.10", text "pool.ntp.org"] ∧ ¬ReadsTable table := by
  refine ⟨by decide +kernel, ?_⟩
  refine ⟨⟨⟨[], blanks_nil⟩, ⟨[], blanks_nil⟩, ⟨[], blanks_nil⟩, ⟨[], blanks_nil⟩, 79,
    [⟨⟨[], blanks_nil⟩, byte '^', byte '*', ⟨text " ", blanks_space⟩, text "192.168.10.10",
        text "                 1   6   377    12   +500us[ +500us] +/-  900us", ⟨[], blanks_nil⟩,
        .inl rfl, by decide, by decide +kernel, by decide +kernel, by decide +kernel,
        by decide +kernel, by decide +kernel⟩,
      ⟨⟨[], blanks_nil⟩, byte '^', byte '-', ⟨text " ", blanks_space⟩, text "pool.ntp.org",
        text "                  2   6   377    11   -800us[ -800us] +/-   20ms", ⟨[], blanks_nil⟩,
        .inl rfl, by decide, by decide +kernel, by decide +kernel, by decide +kernel,
        by decide +kernel, by decide +kernel⟩],
    true⟩, by decide +kernel, rfl, fun h ↦ ?_⟩
  exact absurd (separator_le_of_readsTable h) (by decide)

end ClockMonitor

end RuntimeSync
