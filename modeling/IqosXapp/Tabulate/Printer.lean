import IqosXapp.Tabulate.Format
import IqosXapp.Tabulate.WordWrap

namespace IqosXapp.Tabulate

open KpmManager (Bytes)

/-!
# Printing a table

`Column` and `Row` compute how wide the columns and how high the rows are, and
`Printer` writes the table out: for each row its top border, its lines of text,
and below the last row the bottom border.

A row may have fewer or more cells than there are columns.  The printer then
reads a cell or a width that is not there, which is undefined behaviour.

The sizes that are added to the paddings are natural numbers here: the printer
is modelled on tables whose sums of `size_t` values do not wrap around.

Printing also makes the cells keep the formats that it asks for.  Here they are
only read; what keeping them does is modelled on its own.
-/

/-- Why a table is not printed. -/
inductive PrintFault where
  | text (fault : TextFault)
  | undefinedIndex (array : String) (index : Nat)
  deriving Repr, DecidableEq

/-- Read one element of a vector. -/
def element {α : Type} (elements : List α) (array : String) (index : Nat) :
    Except PrintFault α :=
  match elements[index]? with
  | some value => .ok value
  | none => .error (.undefinedIndex array index)

/-- `word_wrap`, as the printer calls it. -/
def wrap (fuel : Nat) (text : Bytes) (width : Nat) :
    Except PrintFault Bytes :=
  (wordWrap fuel text width).mapError .text

/-- The width that a cell's text has between its paddings. -/
def contentWidth (style : Style) (columnWidth : Nat) : Nat :=
  if columnWidth > style.paddingLeft + style.paddingRight then
    columnWidth - (style.paddingLeft + style.paddingRight)
  else
    columnWidth

/-! ## Columns -/

/-- `get_cell_width` -/
def getCellWidth (style : Style) (text : Bytes) : Nat :=
  let lines := splitLines text newline
  let size :=
    if lines.length = 1 then
      getSequenceLength text
    else
      lines.foldl (fun widest line => max widest (getSequenceLength line)) 0
  style.paddingLeft + size + style.paddingRight

/-- `get_configured_width`, over the cells of a column. -/
def getConfiguredWidth (cells : List (Style × Bytes)) : Nat :=
  cells.foldl
    (fun result cell =>
      match cell.1.width with
      | some width => max result width
      | none => result)
    0

/-- `get_computed_width`, over the cells of a column. -/
def getComputedWidth (cells : List (Style × Bytes)) : Nat :=
  cells.foldl (fun result cell => max result (getCellWidth cell.1 cell.2)) 0

namespace TableInternal

/-- `column`: the cells of all rows at an index, with their formats. -/
def column (table : TableInternal) (index : Nat) :
    Except PrintFault (List (Style × Bytes)) :=
  table.rows.mapM fun row => do
    let cell ← element row.cells "cells_" index
    pure (table.cellStyle row cell, cell.text)

/-- `estimate_num_columns` -/
def estimateNumColumns (table : TableInternal) : Nat :=
  match table.rows with
  | [] => 0
  | row :: _ => row.cells.length

/-- The width of a column: the configured one, or else the computed one. -/
def columnWidth (table : TableInternal) (index : Nat) :
    Except PrintFault Nat := do
  let cells ← table.column index
  let configuredWidth := getConfiguredWidth cells
  pure (if configuredWidth ≠ 0 then configuredWidth
    else getComputedWidth cells)

/-! ## Rows -/

/-- `get_configured_height` -/
def getConfiguredHeight (table : TableInternal) (row : Row) : Nat :=
  row.cells.foldl
    (fun result cell =>
      match (table.cellStyle row cell).height with
      | some height => max result height
      | none => result)
    0

end TableInternal

/-- The text of a cell, wrapped unless it has new lines of its own. -/
def wordWrappedText
    (fuel : Nat)
    (style : Style)
    (text : Bytes)
    (columnWidth : Nat) :
    Except PrintFault Bytes :=
  if text.count newline = 0 then
    wrap fuel text (contentWidth style columnWidth)
  else
    pure text

/-- `get_cell_height` -/
def getCellHeight
    (fuel : Nat)
    (style : Style)
    (text : Bytes)
    (columnWidth : Nat) :
    Except PrintFault Nat := do
  let wrapped ← wordWrappedText fuel style text columnWidth
  let newlines := wrapped.count newline
  let estimatedRowHeight :=
    if wrapped ≠ [] ∧ wrapped.getLast? ≠ some newline then
      newlines + 1
    else
      newlines
  pure (style.paddingTop + estimatedRowHeight + style.paddingBottom)

namespace TableInternal

/-- `get_computed_height` -/
def getComputedHeight
    (table : TableInternal)
    (fuel : Nat)
    (row : Row)
    (columnWidths : List Nat) :
    Except PrintFault Nat :=
  row.cells.zipIdx.foldlM
    (fun result entry => do
      let columnWidth ← element columnWidths "column_widths" entry.2
      let height ←
        getCellHeight fuel (table.cellStyle row entry.1) entry.1.text
          columnWidth
      pure (max result height))
    0

/-- The height of a row: the larger of the configured and the computed one. -/
def rowHeight
    (table : TableInternal)
    (fuel : Nat)
    (columnWidths : List Nat)
    (row : Row) :
    Except PrintFault Nat := do
  let computedHeight ← table.getComputedHeight fuel row columnWidths
  pure (max (table.getConfiguredHeight row) computedHeight)

end TableInternal

/-! ## Cells -/

/-- The text of a cell, split into the lines that are printed. -/
def splittedCellText
    (fuel : Nat)
    (style : Style)
    (text : Bytes)
    (columnWidth : Nat) :
    Except PrintFault (List Bytes) := do
  if newline ∈ text then
    pure (splitLines text newline)
  else
    let wordWrappedText ← wrap fuel text (contentWidth style columnWidth)
    pure (splitLines wordWrappedText newline)

/-- A cell as the printer sees it: where it is, its format and its lines. -/
structure CellView where
  row : Nat
  column : Nat
  columnWidth : Nat
  style : Style
  lines : List Bytes
  deriving Repr, DecidableEq

/-- `std::string(count, ' ')` -/
def spaces (count : Nat) : Bytes :=
  List.replicate count blank

/-- `column_width - text_with_padding_size`, as a `size_t`. -/
def spacesAround (columnWidth size : Nat) : Nat :=
  (columnWidth + (sizeModulus - size % sizeModulus)) % sizeModulus

/-- `print_content_left_aligned`, `…_center_aligned` and `…_right_aligned`. -/
def printContent
    (align : FontAlign)
    (content : Bytes)
    (textWithPaddingSize columnWidth : Nat) :
    Bytes :=
  match align with
  | .left => content ++ spaces (columnWidth - textWithPaddingSize)
  | .right => spaces (columnWidth - textWithPaddingSize) ++ content
  | .center =>
      let numSpaces := spacesAround columnWidth textWithPaddingSize
      if numSpaces % 2 = 0 then
        spaces (numSpaces / 2) ++ content ++ spaces (numSpaces / 2)
      else
        let numSpacesBefore := numSpaces / 2 + 1
        spaces numSpacesBefore ++ content ++
          spaces (numSpaces - numSpacesBefore)

/-- A line, trimmed as its cell wants it. -/
def trimLine (mode : TrimMode) (line : Bytes) : Bytes :=
  match mode with
  | .kBoth => trim line
  | .kLeft => trimLeft line
  | .kRight => trimRight line
  | .kNone => line

namespace CellView

/-- The part of `print_row_in_cell` between the borders of a cell. -/
def printText (cell : CellView) (rowIndex : Nat) : Bytes :=
  let style := cell.style
  if rowIndex < style.paddingTop then
    spaces cell.columnWidth
  else
    match cell.lines[rowIndex - style.paddingTop]? with
    | some line =>
        let line := trimLine style.trimMode line
        let lineWithPaddingSize :=
          getSequenceLength line + style.paddingLeft + style.paddingRight
        spaces style.paddingLeft ++
          printContent style.fontAlign line lineWithPaddingSize
            cell.columnWidth ++
          spaces style.paddingRight
    | none => spaces cell.columnWidth

/-- `print_row_in_cell` -/
def printRowInCell (cell : CellView) (numColumns rowIndex : Nat) : Bytes :=
  let style := cell.style
  (if style.showBorderLeft then style.borderLeft else []) ++
    (if style.showColumnSeparator ∧ cell.column ≠ 0 then
      style.columnSeparator else []) ++
    cell.printText rowIndex ++
    (if cell.column + 1 = numColumns ∧ style.showBorderRight then
      style.borderRight else [])

/-- A border character, or a blank where rows are only separated. -/
def separated (cell : CellView) (border : Bytes) : Bytes :=
  if cell.style.showRowSeparator then
    if cell.row ≠ 0 then border else [blank]
  else
    border

/-- Whether `print_cell_border_top` prints. -/
def hasBorderTop (cell : CellView) : Bool :=
  !((cell.style.cornerTopLeft = [] ∧ cell.style.borderTop = []) ∨
    cell.style.showBorderTop = false)

/-- `print_cell_border_top` -/
def printCellBorderTop (cell : CellView) (numColumns : Nat) : Bytes :=
  let style := cell.style
  if cell.hasBorderTop then
    cell.separated style.cornerTopLeft ++
      (List.replicate cell.columnWidth
        (cell.separated style.borderTop)).flatten ++
      (if cell.column + 1 = numColumns then
        cell.separated style.cornerTopRight else [])
  else
    []

/-- Whether `print_cell_border_bottom` prints. -/
def hasBorderBottom (cell : CellView) : Bool :=
  !((cell.style.cornerBottomLeft = [] ∧ cell.style.borderBottom = []) ∨
    cell.style.showBorderBottom = false)

/-- `print_cell_border_bottom` -/
def printCellBorderBottom (cell : CellView) (numColumns : Nat) : Bytes :=
  let style := cell.style
  if cell.hasBorderBottom then
    style.cornerBottomLeft ++
      (List.replicate cell.columnWidth style.borderBottom).flatten ++
      (if cell.column + 1 = numColumns then
        style.cornerBottomRight else [])
  else
    []

/-- The check for a bottom border, which does not ask whether to show it. -/
def needsBorderBottom (cell : CellView) : Bool :=
  !(cell.style.cornerBottomLeft = [] ∧ cell.style.borderBottom = [])

end CellView

/-! ## The table -/

/-- One row of the loop of `print_table`. -/
def printRow
    (numRows index height : Nat)
    (cells : List CellView) :
    Bytes :=
  let numColumns := cells.length
  cells.flatMap (·.printCellBorderTop numColumns) ++
    (if cells.all (·.hasBorderTop) then [newline] else []) ++
    (List.range height).flatMap (fun k =>
      cells.flatMap (·.printRowInCell numColumns k) ++
        if k + 1 < height then [newline] else []) ++
    (if index + 1 = numRows then
      (if cells.all (·.needsBorderBottom) then [newline] else []) ++
        cells.flatMap (·.printCellBorderBottom numColumns)
    else
      []) ++
    if index + 1 < numRows then [newline] else []

namespace TableInternal

/-- The cells of a row as the printer sees them. -/
def rowViews
    (table : TableInternal)
    (fuel : Nat)
    (columnWidths : List Nat)
    (entry : Row × Nat) :
    Except PrintFault (List CellView) :=
  columnWidths.zipIdx.mapM fun width => do
    let cell ← element entry.1.cells "cells_" width.2
    let style := table.cellStyle entry.1 cell
    let lines ← splittedCellText fuel style cell.text width.1
    pure {
      row := entry.2
      column := width.2
      columnWidth := width.1
      style := style
      lines := lines }

/-- `print_table` -/
def print (table : TableInternal) (fuel : Nat) :
    Except PrintFault Bytes := do
  let numRows := table.rows.length
  let columnWidths ←
    (List.range table.estimateNumColumns).mapM table.columnWidth
  let rowHeights ← table.rows.mapM (table.rowHeight fuel columnWidths)
  let views ← table.rows.zipIdx.mapM (table.rowViews fuel columnWidths)
  pure ((views.zip rowHeights).zipIdx.flatMap fun entry =>
    printRow numRows entry.2 entry.1.2 entry.1.1)

end TableInternal

end IqosXapp.Tabulate
