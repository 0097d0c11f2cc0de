import IqosXapp.Tabulate.Reading

namespace IqosXapp.Tabulate

open KpmManager (Bytes)

/-!
# `Table` and `RowStream`

`Table` is the interface of the library: a row is added from texts and from
other tables, which are printed into their cells, and a row that is shorter than
the first one is filled up with empty cells.  `RowStream` collects such a row,
and drops what is printed as nothing.
-/

/-- `Table`: the table behind it, and how many rows and columns were added. -/
structure Table where
  table : TableInternal
  rows : Nat
  cols : Nat

/-- An element of a `Row_t`; the three kinds of strings are one. -/
inductive RowCell where
  | text (value : Bytes)
  | table (value : Table)

namespace RowCell

/-- The text of a cell; a table is printed into it. -/
def cellString (fuel : Nat) : RowCell → Except PrintFault Bytes
  | .text value => pure value
  | .table value => value.table.print fuel

end RowCell

/-- A `RowStream`, given by the cells that it holds. -/
abbrev RowStream := List RowCell

namespace RowStream

/-- `operator<<` for values that are printed first. -/
def output (row : RowStream) (printed : Bytes) : RowStream :=
  if printed = [] then row else row ++ [.text printed]

/-- `operator<<` for strings and tables. -/
def push (row : RowStream) (cell : RowCell) : RowStream :=
  row ++ [cell]

theorem output_of_ne_nil
    (row : RowStream)
    {printed : Bytes}
    (nonempty : printed ≠ []) :
    row.output printed = row ++ [.text printed] :=
  if_neg nonempty

end RowStream

namespace Table

/-- `Table()` -/
def new : Table where
  table := TableInternal.create
  rows := 0
  cols := 0

/-- `add_row` -/
def addRow (table : Table) (fuel : Nat) (cells : List RowCell) :
    Except PrintFault Table := do
  let cols := if table.rows = 0 then cells.length else table.cols
  let cellStrings ← cells.mapM (RowCell.cellString fuel)
  pure {
    table :=
      table.table.addRow
        (cellStrings ++ List.replicate (cols - cells.length) [])
    rows := table.rows + 1
    cols := cols }

/-- Setters on the format of the table. -/
def format (table : Table) (patch : Format) : Table :=
  { table with table := table.table.formatTable patch }

/-- Setters on the format of a row. -/
def formatRow (table : Table) (index : Nat) (patch : Format) : Table :=
  { table with table := table.table.formatRow index patch }

/-- `row(rowIndex).cell(cellIndex).set_text(text)` -/
def setText (table : Table) (rowIndex cellIndex : Nat) (text : Bytes) :
    Table :=
  { table with table := table.table.setText rowIndex cellIndex text }

/-- A row of texts is added without printing anything. -/
theorem addRow_texts
    (table : Table)
    (fuel : Nat)
    (texts : List Bytes) :
    table.addRow fuel (texts.map .text) =
      let cols := if table.rows = 0 then texts.length else table.cols
      .ok {
        table :=
          table.table.addRow
            (texts ++ List.replicate (cols - texts.length) [])
        rows := table.rows + 1
        cols := cols } := by
  have printed :
      (texts.map RowCell.text).mapM (RowCell.cellString fuel) =
        .ok texts := by
    induction texts with
    | nil =>
        rfl
    | cons text rest inductionHypothesis =>
        rw [List.map_cons, List.mapM_cons, inductionHypothesis]
        rfl
  simp [addRow, printed, bind, Except.bind, pure, Except.pure]

end Table

/-! ## Rows of texts -/

/-- A row of texts, as `add_row` leaves it. -/
def textRow (texts : List Bytes) : Row where
  cells := texts.map fun text => { text := text, format := none }
  format := none

/-- Changing what stands behind a list. -/
theorem modify_length
    {α : Type}
    (elements : List α)
    (last : α)
    (change : α → α) :
    (elements ++ [last]).modify elements.length change =
      elements ++ [change last] := by
  induction elements with
  | nil =>
      rfl
  | cons first rest inductionHypothesis =>
      simpa using inductionHypothesis

namespace TableInternal

/-- Setting a text in the last row is adding the row with that text. -/
theorem setText_addRow
    (table : TableInternal)
    (texts : List Bytes)
    (cellIndex : Nat)
    (text : Bytes) :
    (table.addRow texts).setText table.rows.length cellIndex text =
      table.addRow (texts.set cellIndex text) := by
  have cells :
      (texts.map fun text => (⟨text, none⟩ : Cell)).modify cellIndex
          (fun cell => { cell with text := text }) =
        (texts.set cellIndex text).map fun text => ⟨text, none⟩ := by
    refine List.ext_getElem (by simp) fun index before after => ?_
    simp only [List.getElem_modify, List.getElem_map, List.getElem_set]
    split <;> rfl
  simp only [setText, addRow, modify_length, cells]

end TableInternal

/-! ## Tables with one format -/

/-- A format that sets the alignment only. -/
def Format.alignment (align : FontAlign) : Format :=
  { Format.unset with fontAlign := some align }

/-- The cell differs from the others in its alignment only. -/
def Style.Aligned (base style : Style) : Prop :=
  ∃ align, style = { base with fontAlign := align }

theorem Style.Aligned.bordered
    {base style : Style}
    (aligned : base.Aligned style) :
    base.Bordered style := by
  obtain ⟨align, rfl⟩ := aligned
  exact ⟨{ base with fontAlign := align }, rfl⟩

namespace TableInternal

/-- The values of the table's own format. -/
def baseStyle (table : TableInternal) : Style :=
  table.format.style table.complete

/-- A table whose rows set their alignment at most. -/
structure Plain (table : TableInternal) : Prop where
  rows :
    ∀ row ∈ table.rows,
      row.format = none ∨
        ∃ align,
          row.format = some ((Format.alignment align).merge table.format)
  cells :
    ∀ row ∈ table.rows, ∀ cell ∈ row.cells, cell.format = none

section Plain

variable
  {table : TableInternal}
  (plain : table.Plain)

include plain

/-- A cell without a format has the style of the table but for the alignment. -/
theorem Plain.aligned
    {row : Row}
    {cell : Cell}
    (listed : row ∈ table.rows)
    (unformatted : cell.format = none) :
    table.baseStyle.Aligned (table.cellStyle row cell) := by
  have own : table.cellFormat row cell = table.rowFormat row := by
    rw [cellFormat, unformatted]
    rfl
  rcases plain.rows row listed with none | ⟨align, some⟩
  · refine ⟨table.baseStyle.fontAlign, ?_⟩
    have outer : table.cellFormat row cell = table.format := by
      rw [own, rowFormat, none]
      rfl
    simp only [cellStyle, baseStyle, outer]
  · refine ⟨align, ?_⟩
    have outer :
        table.cellFormat row cell =
          (Format.alignment align).merge table.format := by
      rw [own, rowFormat, some]
      exact Format.merge_merge_self _ _
    simp only [cellStyle, baseStyle, outer]
    simp [Format.style, Format.merge, Format.alignment, Format.unset]

/-- The cells of such a table have the same borders. -/
theorem Plain.framed : table.Framed table.baseStyle :=
  fun row listed cell member =>
    (plain.aligned listed (plain.cells row listed cell member)).bordered

/-- Without a width of its own, the table has no configured widths. -/
theorem Plain.unconfigured
    (unset : table.format.width = none)
    (column : Nat) :
    table.configuredAt column = 0 := by
  refine getConfiguredWidth_of_none fun cell member => ?_
  obtain ⟨row, listed, rfl⟩ := List.mem_map.mp member
  have inside :
      (row.cells[column]?.getD ⟨[], none⟩).format = none := by
    cases here : row.cells[column]? with
    | none => rfl
    | some cell =>
        exact plain.cells row listed cell (List.mem_of_getElem? here)
  obtain ⟨align, style⟩ := plain.aligned listed inside
  rw [cellIn, style]
  exact unset

end Plain

end TableInternal

/-! ## Tables of texts -/

/-- A table of texts under a first row that is aligned. -/
def textTable
    (patch : Format)
    (align : FontAlign)
    (first : List Bytes)
    (rest : List (List Bytes)) :
    TableInternal where
  rows :=
    { textRow first with
      format :=
        some ((Format.alignment align).merge
          (patch.merge Format.defaults)) } ::
      rest.map textRow
  format := patch.merge Format.defaults
  complete := Format.complete_defaults.merge patch

/-- What a row of texts shows: as many lines as the highest text has. -/
def rowShows (texts : List Bytes) : List (List Bytes) :=
  (List.range
    (largest (fun text => (splitLines text newline).length) texts)).map
    fun rowIndex =>
      texts.map fun text =>
        trim ((splitLines text newline)[rowIndex]?.getD [])

/-- A format that leaves the sizes of the cells alone. -/
structure Format.Unsized (patch : Format) : Prop where
  width : patch.width = none
  height : patch.height = none
  paddingLeft : patch.paddingLeft = none
  paddingTop : patch.paddingTop = none
  paddingRight : patch.paddingRight = none
  paddingBottom : patch.paddingBottom = none

section TextTable

variable
  {patch : Format}
  {align : FontAlign}
  {first : List Bytes}
  {rest : List (List Bytes)}

theorem plain_textTable :
    (textTable patch align first rest).Plain where
  rows := by
    intro row listed
    rcases List.mem_cons.mp listed with rfl | later
    · exact .inr ⟨align, rfl⟩
    · obtain ⟨texts, _, rfl⟩ := List.mem_map.mp later
      exact .inl rfl
  cells := by
    have none
        {texts : List Bytes}
        {cell : Cell}
        (member : cell ∈ (textRow texts).cells) :
        cell.format = none := by
      obtain ⟨text, _, rfl⟩ := List.mem_map.mp member
      rfl
    intro row listed cell member
    rcases List.mem_cons.mp listed with rfl | later
    · exact none member
    · obtain ⟨texts, _, rfl⟩ := List.mem_map.mp later
      exact none member

/-- Rows of one length make a regular table. -/
theorem regular_textTable
    (lengths : ∀ texts ∈ rest, texts.length = first.length) :
    (textTable patch align first rest).Regular := by
  intro row listed
  rcases List.mem_cons.mp listed with rfl | later
  · rfl
  · obtain ⟨texts, member, rfl⟩ := List.mem_map.mp later
    simp [textTable, textRow, TableInternal.estimateNumColumns,
      lengths texts member]

theorem unconfigured_textTable
    (unsized : patch.Unsized)
    (column : Nat) :
    (textTable patch align first rest).configuredAt column = 0 :=
  plain_textTable.unconfigured
    (by simp [textTable, Format.merge, unsized.width, Format.defaults])
    column

/-- A table of texts is roomy, however few turns the wrapping is given. -/
theorem roomy_textTable
    (unsized : patch.Unsized)
    (fuel : Nat) :
    (textTable patch align first rest).Roomy fuel :=
  TableInternal.roomy_of_unconfigured (unconfigured_textTable unsized) fuel

/-- The texts of such a table fit, since no width is configured. -/
theorem fits_textTable
    (unsized : patch.Unsized)
    {row : Row}
    {entry : Cell × Nat}
    (listed : row ∈ (textTable patch align first rest).rows)
    (member : entry ∈ row.cells.zipIdx) :
    getCellWidth ((textTable patch align first rest).cellStyle row entry.1)
        entry.1.text ≤
      (textTable patch align first rest).widthAt entry.2 :=
  TableInternal.getCellWidth_le_widthAt listed member
    (unconfigured_textTable unsized entry.2)

/-- A table of texts is printed without wrapping any of them. -/
theorem print_textTable
    (unsized : patch.Unsized)
    (lengths : ∀ texts ∈ rest, texts.length = first.length)
    (fuel : Nat) :
    (textTable patch align first rest).print fuel =
      .ok ((textTable patch align first rest).layout 0) := by
  have layout :
      (textTable patch align first rest).layout fuel =
        (textTable patch align first rest).layout 0 :=
    TableInternal.layout_of_fits
      (fun _ listed _ member => fits_textTable unsized listed member) fuel
  rw [← layout]
  exact TableInternal.print_of_wraps (regular_textTable lengths)
    (roomy_textTable unsized fuel).wraps

/-- The sizes that all cells of such a table have. -/
theorem sizes_textTable
    (unsized : patch.Unsized)
    {row : Row}
    {cell : Cell}
    (listed : row ∈ (textTable patch align first rest).rows)
    (member : cell ∈ row.cells) :
    let style := (textTable patch align first rest).cellStyle row cell
    style.height = none ∧ style.paddingLeft = 1 ∧ style.paddingTop = 0 ∧
      style.paddingRight = 1 ∧ style.paddingBottom = 0 := by
  obtain ⟨other, style⟩ :=
    plain_textTable.aligned listed
      (plain_textTable.cells row listed cell member)
  have base :
      let style := (textTable patch align first rest).baseStyle
      style.height = none ∧ style.paddingLeft = 1 ∧ style.paddingTop = 0 ∧
        style.paddingRight = 1 ∧ style.paddingBottom = 0 := by
    simp [TableInternal.baseStyle, textTable, Format.style,
      Format.merge, Format.defaults, unsized.height, unsized.paddingLeft,
      unsized.paddingTop, unsized.paddingRight, unsized.paddingBottom]
  simpa only [style] using base

/-- A row of texts is as high as its highest text. -/
theorem heightOf_textTable
    (unsized : patch.Unsized)
    {row : Row}
    {texts : List Bytes}
    (listed : row ∈ (textTable patch align first rest).rows)
    (cells : row.cells = (textRow texts).cells)
    (fuel : Nat) :
    (textTable patch align first rest).heightOf fuel row =
      largest (fun text => (splitLines text newline).length) texts := by
  have unconfigured :
      (textTable patch align first rest).getConfiguredHeight row = 0 :=
    TableInternal.getConfiguredHeight_of_none fun cell member =>
      (sizes_textTable unsized listed member).1
  have lines :
      largest ((textTable patch align first rest).heightIn fuel row)
          row.cells.zipIdx =
        largest (fun cell : Cell => (splitLines cell.text newline).length)
          row.cells := by
    refine largest_zipIdx fun entry member => ?_
    obtain ⟨_, _, top, _, bottom⟩ :=
      sizes_textTable unsized listed (List.fst_mem_of_mem_zipIdx member)
    simp [TableInternal.heightIn, top, bottom,
      TableInternal.linesIn_of_fits (fits_textTable unsized listed member)]
  rw [TableInternal.heightOf, unconfigured, lines, Nat.zero_max, cells,
    largest, textRow, List.foldl_map]
  rfl

/-- What a table of texts shows. -/
theorem shows_textTable
    (unsized : patch.Unsized)
    (fuel : Nat) :
    (textTable patch align first rest).shows fuel =
      (first :: rest).map rowShows := by
  have rowwise
      {row : Row}
      {texts : List Bytes}
      (listed : row ∈ (textTable patch align first rest).rows)
      (cells : row.cells = (textRow texts).cells) :
      (textTable patch align first rest).showsRow fuel row =
        rowShows texts := by
    rw [TableInternal.showsRow, heightOf_textTable unsized listed cells,
      rowShows]
    refine List.map_congr_left fun rowIndex _ => ?_
    have lines :
        row.cells.zipIdx.map (fun entry =>
            TableInternal.shownLine
              ((textTable patch align first rest).cellStyle row entry.1)
              ((textTable patch align first rest).linesIn fuel row entry)
              rowIndex) =
          row.cells.zipIdx.map fun entry =>
            trim ((splitLines entry.1.text newline)[rowIndex]?.getD []) := by
      refine List.map_congr_left fun entry member => ?_
      obtain ⟨_, _, top, _⟩ :=
        sizes_textTable unsized listed (List.fst_mem_of_mem_zipIdx member)
      simp [TableInternal.shownLine, top,
        TableInternal.linesIn_of_fits
          (fits_textTable unsized listed member)]
    have texts_eq :
        texts = row.cells.zipIdx.map fun entry => entry.1.text := by
      rw [← Function.comp_def Cell.text Prod.fst, ← List.map_map,
        List.zipIdx_map_fst, cells, textRow, List.map_map]
      exact (List.map_id texts).symm
    rw [lines, texts_eq, List.map_map]
    rfl
  rw [TableInternal.shows, List.map_cons, ← rowwise (List.mem_cons_self) rfl]
  simp only [textTable, List.map_cons, List.map_map]
  congr 1
  refine List.map_congr_left fun texts member => ?_
  exact rowwise
    (List.mem_cons_of_mem _ (List.mem_map_of_mem member)) rfl

/-- A column of texts is as wide as its widest cell. -/
theorem widthAt_textTable_le
    (unsized : patch.Unsized)
    (lengths : ∀ texts ∈ rest, texts.length = first.length)
    {column bound : Nat}
    (inside : column < first.length)
    (narrow :
      ∀ texts ∈ first :: rest, ∀ text, texts[column]? = some text →
        ∀ style : Style, style.paddingLeft = 1 → style.paddingRight = 1 →
          getCellWidth style text ≤ bound) :
    (textTable patch align first rest).widthAt column ≤ bound := by
  have regular : (textTable patch align first rest).Regular :=
    regular_textTable lengths
  have computed :
      (textTable patch align first rest).widthAt column =
        (textTable patch align first rest).computedAt column :=
    if_neg (by simp [unconfigured_textTable unsized column])
  rw [computed]
  refine largest_le_iff.mpr fun row listed => ?_
  obtain ⟨cell, member, here⟩ :=
    regular.filled.cell_of_lt listed (by simpa [textTable, textRow,
      TableInternal.estimateNumColumns] using inside)
  obtain ⟨_, left, _, right, _⟩ :=
    sizes_textTable unsized listed (List.fst_mem_of_mem_zipIdx member)
  rw [TableInternal.cellIn, here, Option.getD_some]
  rcases List.mem_cons.mp listed with rfl | later
  · refine narrow first (by simp) cell.text ?_ _ left right
    simpa [textRow] using congrArg (Option.map Cell.text) here
  · obtain ⟨texts, present, rfl⟩ := List.mem_map.mp later
    refine narrow texts (by simp [present]) cell.text ?_ _ left right
    simpa [textRow] using congrArg (Option.map Cell.text) here

end TextTable

/-! ## What rows of texts show -/

/-- Texts of one line show themselves, without the white space around. -/
theorem rowShows_of_oneLine
    {texts : List Bytes}
    (free : ∀ text ∈ texts, newline ∉ text)
    (some : ∃ text ∈ texts, text ≠ []) :
    rowShows texts = [texts.map trim] := by
  have lines
      {text : Bytes}
      (member : text ∈ texts) :
      splitLines text newline = if text = [] then [] else [text] :=
    splitLines_of_not_mem (free text member)
  have height :
      largest (fun text => (splitLines text newline).length) texts = 1 := by
    refine Nat.le_antisymm (largest_le_iff.mpr fun text member => ?_) ?_
    · rw [lines member]
      split <;> simp
    · obtain ⟨text, member, nonempty⟩ := some
      have le :=
        le_largest (fun text => (splitLines text newline).length) member
      simpa [lines member, nonempty] using le
  rw [rowShows, height]
  simp only [List.range_one, List.map_cons, List.map_nil, List.cons.injEq,
    and_true]
  refine List.map_congr_left fun text member => ?_
  rw [lines member]
  split
  · rename_i empty
    rw [empty]
    rfl
  · rfl

/-- One text shows its lines. -/
theorem rowShows_singleton (text : Bytes) :
    rowShows [text] =
      (splitLines text newline).map fun line => [trim line] := by
  have height :
      largest (fun text => (splitLines text newline).length) [text] =
        (splitLines text newline).length := by
    simp [largest]
  rw [rowShows, height]
  refine List.ext_getElem (by simp) fun index before after => ?_
  have inside : index < (splitLines text newline).length := by
    simpa using after
  simp [inside]

end IqosXapp.Tabulate
