import IqosXapp.Tabulate.Printer

namespace IqosXapp.Tabulate

open KpmManager (Bytes)

/-!
# The layout of a table

When every row has a cell for each column and the word wrapping returns for
every text, the printer neither throws nor runs forever: it writes the layout
that this module computes.
-/

/-! ## Loops that return -/

/-- A loop over elements that all return. -/
theorem mapM_ok
    {α β Fault : Type}
    {body : α → Except Fault β}
    {value : α → β}
    {elements : List α}
    (returns : ∀ element ∈ elements, body element = .ok (value element)) :
    elements.mapM body = .ok (elements.map value) := by
  induction elements with
  | nil =>
      rfl
  | cons first rest inductionHypothesis =>
      rw [List.mapM_cons, returns first (by simp),
        inductionHypothesis fun element member =>
          returns element (by simp [member])]
      rfl

/-- A loop that fails in one way only, and does so at some element. -/
theorem mapM_error
    {α β Fault : Type}
    {body : α → Except Fault β}
    {fault : Fault}
    {elements : List α}
    (turns :
      ∀ element ∈ elements,
        (∃ value, body element = .ok value) ∨ body element = .error fault)
    (fails : ∃ element ∈ elements, body element = .error fault) :
    elements.mapM body = .error fault := by
  induction elements with
  | nil =>
      simp at fails
  | cons first rest inductionHypothesis =>
      rw [List.mapM_cons]
      rcases turns first (by simp) with ⟨value, returns⟩ | failed
      · have later : ∃ element ∈ rest, body element = .error fault := by
          obtain ⟨element, member, failed⟩ := fails
          rcases List.mem_cons.mp member with rfl | behind
          · rw [returns] at failed
            cases failed
          · exact ⟨element, behind, failed⟩
        rw [returns, inductionHypothesis
          (fun element member => turns element (by simp [member])) later]
        rfl
      · rw [failed]
        rfl

/-- An accumulating loop over elements that all return. -/
theorem foldlM_ok
    {α β Fault : Type}
    {body : β → α → Except Fault β}
    {step : β → α → β}
    {elements : List α}
    (returns :
      ∀ element ∈ elements, ∀ acc, body acc element = .ok (step acc element))
    (acc : β) :
    elements.foldlM body acc = .ok (elements.foldl step acc) := by
  induction elements generalizing acc with
  | nil =>
      rfl
  | cons first rest inductionHypothesis =>
      rw [List.foldlM_cons, returns first (by simp)]
      exact inductionHypothesis
        (fun element member => returns element (by simp [member])) _

/-- An accumulating loop fails at the first element that does. -/
theorem foldlM_error
    {α β Fault : Type}
    {body : β → α → Except Fault β}
    {before behind : List α}
    {element : α}
    {fault : Fault}
    (returns :
      ∀ element ∈ before, ∀ acc, ∃ next, body acc element = .ok next)
    (fails : ∀ acc, body acc element = .error fault)
    (acc : β) :
    (before ++ element :: behind).foldlM body acc = .error fault := by
  induction before generalizing acc with
  | nil =>
      rw [List.nil_append, List.foldlM_cons, fails]
      rfl
  | cons first rest inductionHypothesis =>
      obtain ⟨next, turn⟩ := returns first (by simp) acc
      rw [List.cons_append, List.foldlM_cons, turn]
      exact inductionHypothesis
        (fun element member => returns element (by simp [member])) next

/-- Positions, and what two lists computed from the same elements hold. -/
theorem zipIdx_zip_map
    {α β γ : Type}
    (elements : List α)
    (first : α × Nat → β)
    (second : α → γ) :
    ((elements.zipIdx.map first).zip (elements.map second)).zipIdx =
      elements.zipIdx.map fun entry =>
        ((first entry, second entry.1), entry.2) := by
  refine List.ext_getElem ?_ fun index before after => ?_
  · simp
  · simp

theorem element_of_some
    {α : Type}
    {elements : List α}
    {index : Nat}
    {value : α}
    (present : elements[index]? = some value)
    (array : String) :
    element elements array index = .ok value := by
  simp [element, present]

/-! ## Maxima -/

/-- The largest value of a function on a list. -/
def largest {α : Type} (size : α → Nat) (elements : List α) : Nat :=
  elements.foldl (fun result element => max result (size element)) 0

theorem foldl_max_le_iff
    {α : Type}
    {size : α → Nat}
    {elements : List α}
    {start bound : Nat} :
    elements.foldl (fun result element => max result (size element))
        start ≤
      bound ↔
      start ≤ bound ∧ ∀ element ∈ elements, size element ≤ bound := by
  induction elements generalizing start with
  | nil =>
      simp
  | cons first rest inductionHypothesis =>
      rw [List.foldl_cons, inductionHypothesis, Nat.max_le, and_assoc,
        List.forall_mem_cons]

theorem largest_le_iff
    {α : Type}
    {size : α → Nat}
    {elements : List α}
    {bound : Nat} :
    largest size elements ≤ bound ↔
      ∀ element ∈ elements, size element ≤ bound := by
  rw [largest, foldl_max_le_iff]
  simp

/-- Every element is at most as large as the largest one. -/
theorem le_largest
    {α : Type}
    {elements : List α}
    {element : α}
    (size : α → Nat)
    (member : element ∈ elements) :
    size element ≤ largest size elements :=
  largest_le_iff.mp (Nat.le_refl _) element member

/-- Positions do not matter to a size that does not ask for them. -/
theorem largest_zipIdx
    {α : Type}
    {elements : List α}
    {size : α × Nat → Nat}
    {other : α → Nat}
    (same : ∀ entry ∈ elements.zipIdx, size entry = other entry.1) :
    largest size elements.zipIdx = largest other elements := by
  refine Nat.le_antisymm (largest_le_iff.mpr fun entry member => ?_)
    (largest_le_iff.mpr fun element member => ?_)
  · rw [same entry member]
    exact le_largest other (List.fst_mem_of_mem_zipIdx member)
  · obtain ⟨index, here⟩ := List.mem_iff_getElem?.mp member
    have present := List.mk_mem_zipIdx_iff_getElem?.mpr here
    rw [← same _ present]
    exact le_largest size present

/-! ## The layout -/

/-- The text of a cell after wrapping, where wrapping returns. -/
def wrappedText
    (fuel : Nat)
    (style : Style)
    (text : Bytes)
    (columnWidth : Nat) :
    Bytes :=
  match wordWrappedText fuel style text columnWidth with
  | .ok wrapped => wrapped
  | .error _ => text

namespace TableInternal

/-- Every row has a cell for each column. -/
def Regular (table : TableInternal) : Prop :=
  ∀ row ∈ table.rows, row.cells.length = table.estimateNumColumns

/-- Every row has a cell for each column, and may have more. -/
def Filled (table : TableInternal) : Prop :=
  ∀ row ∈ table.rows, table.estimateNumColumns ≤ row.cells.length

/-- What a column shows of a row; an empty cell where the row has none. -/
def cellIn (table : TableInternal) (column : Nat) (row : Row) :
    Style × Bytes :=
  let cell := row.cells[column]?.getD ⟨[], none⟩
  (table.cellStyle row cell, cell.text)

/-- The width of the widest cell of a column. -/
def computedAt (table : TableInternal) (column : Nat) : Nat :=
  largest
    (fun row =>
      getCellWidth (table.cellIn column row).1 (table.cellIn column row).2)
    table.rows

/-- The largest width that is configured in a column, or zero. -/
def configuredAt (table : TableInternal) (column : Nat) : Nat :=
  getConfiguredWidth (table.rows.map (table.cellIn column))

/-- The width of a column. -/
def widthAt (table : TableInternal) (column : Nat) : Nat :=
  if table.configuredAt column ≠ 0 then
    table.configuredAt column
  else
    table.computedAt column

/-- The lines of a cell that stands in a column. -/
def linesIn
    (table : TableInternal)
    (fuel : Nat)
    (row : Row)
    (entry : Cell × Nat) :
    List Bytes :=
  splitLines
    (wrappedText fuel (table.cellStyle row entry.1) entry.1.text
      (table.widthAt entry.2))
    newline

/-- The height of a cell: its lines and its paddings. -/
def heightIn
    (table : TableInternal)
    (fuel : Nat)
    (row : Row)
    (entry : Cell × Nat) :
    Nat :=
  let style := table.cellStyle row entry.1
  style.paddingTop + (table.linesIn fuel row entry).length +
    style.paddingBottom

/-- The height of a row. -/
def heightOf (table : TableInternal) (fuel : Nat) (row : Row) : Nat :=
  max (table.getConfiguredHeight row)
    (largest (table.heightIn fuel row) row.cells.zipIdx)

/-- A cell of the layout. -/
def viewOf
    (table : TableInternal)
    (fuel : Nat)
    (row : Row)
    (index : Nat)
    (entry : Cell × Nat) :
    CellView where
  row := index
  column := entry.2
  columnWidth := table.widthAt entry.2
  style := table.cellStyle row entry.1
  lines := table.linesIn fuel row entry

/-- The cells of a row of the layout. -/
def viewsOf
    (table : TableInternal)
    (fuel : Nat)
    (row : Row)
    (index : Nat) :
    List CellView :=
  row.cells.zipIdx.map (table.viewOf fuel row index)

/-- What the printer writes. -/
def layout (table : TableInternal) (fuel : Nat) : Bytes :=
  table.rows.zipIdx.flatMap fun entry =>
    printRow table.rows.length entry.2 (table.heightOf fuel entry.1)
      (table.viewsOf fuel entry.1 entry.2)

/-- The word wrapping returns for every text. -/
def Wraps (table : TableInternal) (fuel : Nat) : Prop :=
  ∀ row ∈ table.rows, ∀ entry ∈ row.cells.zipIdx,
    ∃ wrapped,
      wordWrappedText fuel (table.cellStyle row entry.1) entry.1.text
          (table.widthAt entry.2) =
        .ok wrapped

/-- The wrapped lines fit between the paddings. -/
def Fitted (table : TableInternal) (fuel : Nat) : Prop :=
  ∀ row ∈ table.rows, ∀ entry ∈ row.cells.zipIdx,
    ∀ line ∈ table.linesIn fuel row entry,
      (table.cellStyle row entry.1).paddingLeft + line.length +
          (table.cellStyle row entry.1).paddingRight ≤
        table.widthAt entry.2

section Regular

variable
  {table : TableInternal}
  {row : Row}
  {column : Nat}

theorem Regular.filled (regular : table.Regular) : table.Filled :=
  fun row listed => (regular row listed).ge

/-- A filled table has a cell in each row at each column. -/
theorem Filled.cell_of_lt
    (filled : table.Filled)
    (listed : row ∈ table.rows)
    (inside : column < table.estimateNumColumns) :
    ∃ cell, (cell, column) ∈ row.cells.zipIdx ∧
      row.cells[column]? = some cell := by
  have here : column < row.cells.length :=
    inside.trans_le (filled row listed)
  have found := List.getElem?_eq_getElem here
  exact ⟨row.cells[column], List.mk_mem_zipIdx_iff_getElem?.mpr found, found⟩

theorem Regular.column_lt
    (regular : table.Regular)
    (listed : row ∈ table.rows)
    {entry : Cell × Nat}
    (member : entry ∈ row.cells.zipIdx) :
    entry.2 < table.estimateNumColumns := by
  rw [← regular row listed]
  simpa using List.snd_lt_of_mem_zipIdx member

theorem column_of_filled
    (filled : table.Filled)
    (inside : column < table.estimateNumColumns) :
    table.column column = .ok (table.rows.map (table.cellIn column)) := by
  refine mapM_ok fun row listed => ?_
  obtain ⟨cell, _, here⟩ := filled.cell_of_lt listed inside
  rw [element_of_some here, cellIn, here]
  rfl

theorem columnWidth_of_filled
    (filled : table.Filled)
    (inside : column < table.estimateNumColumns) :
    table.columnWidth column = .ok (table.widthAt column) := by
  have computed :
      getComputedWidth (table.rows.map (table.cellIn column)) =
        table.computedAt column := by
    rw [getComputedWidth, List.foldl_map]
    rfl
  rw [columnWidth, column_of_filled filled inside, widthAt, ← computed]
  rfl

/-- The widths of the columns. -/
def widths (table : TableInternal) : List Nat :=
  (List.range table.estimateNumColumns).map table.widthAt

theorem widths_of_lt
    (inside : column < table.estimateNumColumns) :
    table.widths[column]? = some (table.widthAt column) := by
  simp [widths, inside]

/-- The widths of a filled table can be computed. -/
theorem columnWidths_of_filled (filled : table.Filled) :
    (List.range table.estimateNumColumns).mapM table.columnWidth =
      .ok table.widths :=
  mapM_ok fun _ member =>
    columnWidth_of_filled filled (List.mem_range.mp member)

variable
  {fuel : Nat}
  (regular : table.Regular)
  (wraps : table.Wraps fuel)

include wraps

omit wraps in
theorem wrappedText_of_ok
    {style : Style}
    {text wrapped : Bytes}
    {columnWidth : Nat}
    (returns : wordWrappedText fuel style text columnWidth = .ok wrapped) :
    wrappedText fuel style text columnWidth = wrapped := by
  rw [wrappedText, returns]

/-- A cell is as high as its lines and its paddings: no line is cut off. -/
theorem getCellHeight_of_wraps
    (listed : row ∈ table.rows)
    {entry : Cell × Nat}
    (member : entry ∈ row.cells.zipIdx) :
    getCellHeight fuel (table.cellStyle row entry.1) entry.1.text
        (table.widthAt entry.2) =
      .ok (table.heightIn fuel row entry) := by
  obtain ⟨wrapped, returns⟩ := wraps row listed entry member
  simp only [getCellHeight, heightIn, linesIn, wrappedText_of_ok returns,
    returns, length_splitLines, bind, Except.bind]
  split <;> rfl

/-- The printer splits a text where it is wrapped. -/
theorem splittedCellText_of_wraps
    (listed : row ∈ table.rows)
    {entry : Cell × Nat}
    (member : entry ∈ row.cells.zipIdx) :
    splittedCellText fuel (table.cellStyle row entry.1) entry.1.text
        (table.widthAt entry.2) =
      .ok (table.linesIn fuel row entry) := by
  obtain ⟨wrapped, returns⟩ := wraps row listed entry member
  rw [linesIn, wrappedText_of_ok returns]
  unfold splittedCellText
  unfold wordWrappedText at returns
  by_cases own : newline ∈ entry.1.text
  · have some : entry.1.text.count newline ≠ 0 := by
      simpa [List.count_eq_zero] using own
    rw [if_neg some] at returns
    rw [if_pos own, ← Except.ok.inj returns]
    rfl
  · rw [if_pos (List.count_eq_zero.mpr own)] at returns
    rw [if_neg own, returns]
    rfl

/-- The height of a cell that stands in a column. -/
theorem getComputedHeight_turn
    (listed : row ∈ table.rows)
    {entry : Cell × Nat}
    (member : entry ∈ row.cells.zipIdx)
    (inside : entry.2 < table.estimateNumColumns)
    (result : Nat) :
    (do
      let columnWidth ← element table.widths "column_widths" entry.2
      let height ←
        getCellHeight fuel (table.cellStyle row entry.1) entry.1.text
          columnWidth
      pure (max result height)) =
      Except.ok (max result (table.heightIn fuel row entry)) := by
  simp only [element_of_some (widths_of_lt inside),
    getCellHeight_of_wraps wraps listed member, bind, Except.bind]
  rfl

/-- The height of a row is that of its highest cell, or the configured one. -/
theorem rowHeight_of_wraps
    (listed : row ∈ table.rows)
    (exactly : row.cells.length = table.estimateNumColumns) :
    table.rowHeight fuel table.widths row =
      .ok (table.heightOf fuel row) := by
  have computed :
      table.getComputedHeight fuel row table.widths =
        .ok (largest (table.heightIn fuel row) row.cells.zipIdx) := by
    refine foldlM_ok (fun entry member result => ?_) 0
    refine getComputedHeight_turn wraps listed member ?_ result
    rw [← exactly]
    simpa using List.snd_lt_of_mem_zipIdx member
  rw [rowHeight, computed]
  rfl

/-- The height of a row with too many cells is read from a width too many. -/
theorem rowHeight_of_long
    (listed : row ∈ table.rows)
    (long : table.estimateNumColumns < row.cells.length) :
    table.rowHeight fuel table.widths row =
      .error (.undefinedIndex "column_widths"
        table.estimateNumColumns) := by
  obtain ⟨cell, behind, rest⟩ :
      ∃ cell behind,
        row.cells.drop table.estimateNumColumns = cell :: behind :=
    List.exists_cons_of_ne_nil (by simpa using long)
  have cells :
      row.cells =
        row.cells.take table.estimateNumColumns ++ cell :: behind := by
    rw [← rest, List.take_append_drop]
  have length :
      (row.cells.take table.estimateNumColumns).length =
        table.estimateNumColumns := by
    rw [List.length_take, Nat.min_eq_left long.le]
  have positions :
      row.cells.zipIdx =
        (row.cells.take table.estimateNumColumns).zipIdx ++
          (cell, table.estimateNumColumns) ::
            behind.zipIdx (table.estimateNumColumns + 1) := by
    conv_lhs => rw [cells, List.zipIdx_append, length, Nat.zero_add]
    rfl
  have missing :
      element table.widths "column_widths" table.estimateNumColumns =
        .error (.undefinedIndex "column_widths"
          table.estimateNumColumns) := by
    simp [element, widths]
  have computed :
      table.getComputedHeight fuel row table.widths =
        .error (.undefinedIndex "column_widths"
          table.estimateNumColumns) := by
    rw [getComputedHeight, positions]
    refine foldlM_error (fun entry member result => ?_)
      (fun result => ?_) 0
    · have here : entry ∈ row.cells.zipIdx := by
        rw [positions]
        exact List.mem_append_left _ member
      refine ⟨_, getComputedHeight_turn wraps listed here ?_ result⟩
      have inside := List.snd_lt_of_mem_zipIdx member
      rw [length] at inside
      simpa using inside
    · simp only [missing]
      rfl
  rw [rowHeight, computed]
  rfl

include regular

/-- The cells of a row as the printer sees them. -/
theorem rowViews_of_wraps
    (listed : row ∈ table.rows)
    (index : Nat) :
    table.rowViews fuel table.widths (row, index) =
      .ok (table.viewsOf fuel row index) := by
  have turns :
      table.rowViews fuel table.widths (row, index) =
        .ok (table.widths.zipIdx.map fun width =>
          table.viewOf fuel row index
            (row.cells[width.2]?.getD ⟨[], none⟩, width.2)) := by
    refine mapM_ok fun entry member => ?_
    obtain ⟨width, column⟩ := entry
    have there := List.mk_mem_zipIdx_iff_getElem?.mp member
    obtain ⟨inside, same⟩ := List.getElem?_eq_some_iff.mp there
    simp only [widths, List.length_map, List.length_range] at inside
    have width_eq : table.widthAt column = width := by
      simpa [widths] using same
    obtain ⟨cell, present, here⟩ := regular.filled.cell_of_lt listed inside
    simp only [element_of_some here, here, Option.getD_some, bind,
      Except.bind, ← width_eq,
      splittedCellText_of_wraps wraps listed present]
    rfl
  rw [turns, viewsOf]
  congr 1
  refine List.ext_getElem ?_ fun column before after => ?_
  · simp [widths, regular row listed]
  · have inside : column < row.cells.length := by
      simpa using after
    simp [inside]

/-- A regular table whose texts can be wrapped is printed as its layout. -/
theorem print_of_wraps : table.print fuel = .ok (table.layout fuel) := by
  have columnWidths := columnWidths_of_filled regular.filled
  have rowHeights :
      table.rows.mapM (table.rowHeight fuel table.widths) =
        .ok (table.rows.map (table.heightOf fuel)) :=
    mapM_ok fun row listed =>
      rowHeight_of_wraps wraps listed (regular row listed)
  have views :
      table.rows.zipIdx.mapM (table.rowViews fuel table.widths) =
        .ok (table.rows.zipIdx.map fun entry =>
          table.viewsOf fuel entry.1 entry.2) :=
    mapM_ok fun entry member =>
      rowViews_of_wraps regular wraps (List.fst_mem_of_mem_zipIdx member)
        entry.2
  simp only [print, columnWidths, rowHeights, views, bind, Except.bind]
  rw [zipIdx_zip_map, List.flatMap_map]
  rfl

end Regular

end TableInternal

end IqosXapp.Tabulate
