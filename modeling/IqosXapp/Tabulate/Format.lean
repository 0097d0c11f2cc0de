import IqosXapp.Tabulate.Text

namespace IqosXapp.Tabulate

open KpmManager (Bytes literal)

/-!
# Formats of tables, rows and cells

A format is set on a table, a row or a cell, and what an inner one leaves open
it takes from the outer one.  The colours and the font styles are left out: they
only reach the output as escape sequences of a coloured terminal.  The colours
are merged like the fields here.  The font styles are not: `merge` joins those
of both formats, so that what is said here of a merge does not hold of them.
The locale and the multi-byte switch are left out as well; the texts are those
of a program that sets neither.

Asking a row or a cell for its format merges the outer formats in and keeps the
result, which the setters here do as well.
-/

/-- `FontAlign` -/
inductive FontAlign where
  | left
  | right
  | center
  deriving Repr, DecidableEq

/-- `TrimMode` -/
inductive TrimMode where
  | kNone
  | kLeft
  | kRight
  | kBoth
  deriving Repr, DecidableEq

/-- `Format` -/
@[ext]
structure Format where
  width : Option Nat
  height : Option Nat
  fontAlign : Option FontAlign
  paddingLeft : Option Nat
  paddingTop : Option Nat
  paddingRight : Option Nat
  paddingBottom : Option Nat
  showBorderTop : Option Bool
  borderTop : Option Bytes
  showBorderBottom : Option Bool
  borderBottom : Option Bytes
  showBorderLeft : Option Bool
  borderLeft : Option Bytes
  showBorderRight : Option Bool
  borderRight : Option Bytes
  cornerTopLeft : Option Bytes
  cornerTopRight : Option Bytes
  cornerBottomLeft : Option Bytes
  cornerBottomRight : Option Bytes
  showColumnSeparator : Option Bool
  columnSeparator : Option Bytes
  trimMode : Option TrimMode
  showRowSeparator : Option Bool
  deriving Repr, DecidableEq

/-- A format that leaves everything open. -/
def Format.unset : Format where
  width := none
  height := none
  fontAlign := none
  paddingLeft := none
  paddingTop := none
  paddingRight := none
  paddingBottom := none
  showBorderTop := none
  borderTop := none
  showBorderBottom := none
  borderBottom := none
  showBorderLeft := none
  borderLeft := none
  showBorderRight := none
  borderRight := none
  cornerTopLeft := none
  cornerTopRight := none
  cornerBottomLeft := none
  cornerBottomRight := none
  showColumnSeparator := none
  columnSeparator := none
  trimMode := none
  showRowSeparator := none

/--
`merge`: the first format has the higher precedence, in each field that is
modelled.
-/
def Format.merge (first second : Format) : Format where
  width := first.width.or second.width
  height := first.height.or second.height
  fontAlign := first.fontAlign.or second.fontAlign
  paddingLeft := first.paddingLeft.or second.paddingLeft
  paddingTop := first.paddingTop.or second.paddingTop
  paddingRight := first.paddingRight.or second.paddingRight
  paddingBottom := first.paddingBottom.or second.paddingBottom
  showBorderTop := first.showBorderTop.or second.showBorderTop
  borderTop := first.borderTop.or second.borderTop
  showBorderBottom := first.showBorderBottom.or second.showBorderBottom
  borderBottom := first.borderBottom.or second.borderBottom
  showBorderLeft := first.showBorderLeft.or second.showBorderLeft
  borderLeft := first.borderLeft.or second.borderLeft
  showBorderRight := first.showBorderRight.or second.showBorderRight
  borderRight := first.borderRight.or second.borderRight
  cornerTopLeft := first.cornerTopLeft.or second.cornerTopLeft
  cornerTopRight := first.cornerTopRight.or second.cornerTopRight
  cornerBottomLeft := first.cornerBottomLeft.or second.cornerBottomLeft
  cornerBottomRight := first.cornerBottomRight.or second.cornerBottomRight
  showColumnSeparator :=
    first.showColumnSeparator.or second.showColumnSeparator
  columnSeparator := first.columnSeparator.or second.columnSeparator
  trimMode := first.trimMode.or second.trimMode
  showRowSeparator := first.showRowSeparator.or second.showRowSeparator

/-- `set_defaults`; the width and the height stay open. -/
def Format.defaults : Format where
  width := none
  height := none
  fontAlign := some .left
  paddingLeft := some 1
  paddingTop := some 0
  paddingRight := some 1
  paddingBottom := some 0
  showBorderTop := some true
  borderTop := some (literal "-")
  showBorderBottom := some true
  borderBottom := some (literal "-")
  showBorderLeft := some true
  borderLeft := some (literal "|")
  showBorderRight := some true
  borderRight := some (literal "|")
  cornerTopLeft := some (literal "+")
  cornerTopRight := some (literal "+")
  cornerBottomLeft := some (literal "+")
  cornerBottomRight := some (literal "+")
  showColumnSeparator := some true
  columnSeparator := some (literal "|")
  trimMode := some .kBoth
  showRowSeparator := some false

namespace Format

theorem merge_assoc (first second third : Format) :
    merge (merge first second) third =
      merge first (merge second third) := by
  simp only [merge, Option.or_assoc]

@[simp] theorem unset_merge (format : Format) :
    merge unset format = format := by
  simp only [merge, unset, Option.none_or]

@[simp] theorem merge_unset (format : Format) :
    merge format unset = format := by
  simp only [merge, unset, Option.or_none]

@[simp] theorem merge_self (format : Format) :
    merge format format = format := by
  simp only [merge, Option.or_self]

/-- Merging the same outer format in again changes nothing. -/
@[simp] theorem merge_merge_self (first second : Format) :
    merge (merge first second) second = merge first second := by
  rw [merge_assoc, merge_self]

/-- Everything is set but the width and the height. -/
structure Complete (format : Format) : Prop where
  fontAlign : format.fontAlign.isSome
  paddingLeft : format.paddingLeft.isSome
  paddingTop : format.paddingTop.isSome
  paddingRight : format.paddingRight.isSome
  paddingBottom : format.paddingBottom.isSome
  showBorderTop : format.showBorderTop.isSome
  borderTop : format.borderTop.isSome
  showBorderBottom : format.showBorderBottom.isSome
  borderBottom : format.borderBottom.isSome
  showBorderLeft : format.showBorderLeft.isSome
  borderLeft : format.borderLeft.isSome
  showBorderRight : format.showBorderRight.isSome
  borderRight : format.borderRight.isSome
  cornerTopLeft : format.cornerTopLeft.isSome
  cornerTopRight : format.cornerTopRight.isSome
  cornerBottomLeft : format.cornerBottomLeft.isSome
  cornerBottomRight : format.cornerBottomRight.isSome
  showColumnSeparator : format.showColumnSeparator.isSome
  columnSeparator : format.columnSeparator.isSome
  trimMode : format.trimMode.isSome
  showRowSeparator : format.showRowSeparator.isSome

theorem complete_defaults : defaults.Complete := by
  constructor <;> rfl

theorem isSome_or_right
    {α : Type}
    {second : Option α}
    (some : second.isSome)
    (first : Option α) :
    (first.or second).isSome := by
  rw [Option.isSome_or, some, Bool.or_true]

/-- What an inner format leaves open is set by a complete outer one. -/
theorem Complete.merge
    {second : Format}
    (complete : second.Complete)
    (first : Format) :
    (first.merge second).Complete where
  fontAlign := isSome_or_right complete.fontAlign _
  paddingLeft := isSome_or_right complete.paddingLeft _
  paddingTop := isSome_or_right complete.paddingTop _
  paddingRight := isSome_or_right complete.paddingRight _
  paddingBottom := isSome_or_right complete.paddingBottom _
  showBorderTop := isSome_or_right complete.showBorderTop _
  borderTop := isSome_or_right complete.borderTop _
  showBorderBottom := isSome_or_right complete.showBorderBottom _
  borderBottom := isSome_or_right complete.borderBottom _
  showBorderLeft := isSome_or_right complete.showBorderLeft _
  borderLeft := isSome_or_right complete.borderLeft _
  showBorderRight := isSome_or_right complete.showBorderRight _
  borderRight := isSome_or_right complete.borderRight _
  cornerTopLeft := isSome_or_right complete.cornerTopLeft _
  cornerTopRight := isSome_or_right complete.cornerTopRight _
  cornerBottomLeft := isSome_or_right complete.cornerBottomLeft _
  cornerBottomRight := isSome_or_right complete.cornerBottomRight _
  showColumnSeparator := isSome_or_right complete.showColumnSeparator _
  columnSeparator := isSome_or_right complete.columnSeparator _
  trimMode := isSome_or_right complete.trimMode _
  showRowSeparator := isSome_or_right complete.showRowSeparator _

/-- What is set does not look at what is behind it. -/
theorem or_congr_of_isSome
    {α : Type}
    {first : Option α}
    (some : first.isSome)
    (second other : Option α) :
    first.or other = first.or second := by
  rw [Option.or_of_isSome some, Option.or_of_isSome some]

/-- Behind a complete format only the sizes of an outer one matter. -/
theorem Complete.merge_congr
    {first second other : Format}
    (complete : first.Complete)
    (width : other.width = second.width)
    (height : other.height = second.height) :
    first.merge other = first.merge second :=
  Format.ext
    (congrArg first.width.or width)
    (congrArg first.height.or height)
    (or_congr_of_isSome complete.fontAlign _ _)
    (or_congr_of_isSome complete.paddingLeft _ _)
    (or_congr_of_isSome complete.paddingTop _ _)
    (or_congr_of_isSome complete.paddingRight _ _)
    (or_congr_of_isSome complete.paddingBottom _ _)
    (or_congr_of_isSome complete.showBorderTop _ _)
    (or_congr_of_isSome complete.borderTop _ _)
    (or_congr_of_isSome complete.showBorderBottom _ _)
    (or_congr_of_isSome complete.borderBottom _ _)
    (or_congr_of_isSome complete.showBorderLeft _ _)
    (or_congr_of_isSome complete.borderLeft _ _)
    (or_congr_of_isSome complete.showBorderRight _ _)
    (or_congr_of_isSome complete.borderRight _ _)
    (or_congr_of_isSome complete.cornerTopLeft _ _)
    (or_congr_of_isSome complete.cornerTopRight _ _)
    (or_congr_of_isSome complete.cornerBottomLeft _ _)
    (or_congr_of_isSome complete.cornerBottomRight _ _)
    (or_congr_of_isSome complete.showColumnSeparator _ _)
    (or_congr_of_isSome complete.columnSeparator _ _)
    (or_congr_of_isSome complete.trimMode _ _)
    (or_congr_of_isSome complete.showRowSeparator _ _)

end Format

/-- A complete format, with the values that the printer reads. -/
@[ext]
structure Style where
  width : Option Nat
  height : Option Nat
  fontAlign : FontAlign
  paddingLeft : Nat
  paddingTop : Nat
  paddingRight : Nat
  paddingBottom : Nat
  showBorderTop : Bool
  borderTop : Bytes
  showBorderBottom : Bool
  borderBottom : Bytes
  showBorderLeft : Bool
  borderLeft : Bytes
  showBorderRight : Bool
  borderRight : Bytes
  cornerTopLeft : Bytes
  cornerTopRight : Bytes
  cornerBottomLeft : Bytes
  cornerBottomRight : Bytes
  showColumnSeparator : Bool
  columnSeparator : Bytes
  trimMode : TrimMode
  showRowSeparator : Bool
  deriving Repr, DecidableEq

/-- Read the values of a complete format. -/
def Format.style (format : Format) (complete : format.Complete) : Style where
  width := format.width
  height := format.height
  fontAlign := format.fontAlign.get complete.fontAlign
  paddingLeft := format.paddingLeft.get complete.paddingLeft
  paddingTop := format.paddingTop.get complete.paddingTop
  paddingRight := format.paddingRight.get complete.paddingRight
  paddingBottom := format.paddingBottom.get complete.paddingBottom
  showBorderTop := format.showBorderTop.get complete.showBorderTop
  borderTop := format.borderTop.get complete.borderTop
  showBorderBottom := format.showBorderBottom.get complete.showBorderBottom
  borderBottom := format.borderBottom.get complete.borderBottom
  showBorderLeft := format.showBorderLeft.get complete.showBorderLeft
  borderLeft := format.borderLeft.get complete.borderLeft
  showBorderRight := format.showBorderRight.get complete.showBorderRight
  borderRight := format.borderRight.get complete.borderRight
  cornerTopLeft := format.cornerTopLeft.get complete.cornerTopLeft
  cornerTopRight := format.cornerTopRight.get complete.cornerTopRight
  cornerBottomLeft := format.cornerBottomLeft.get complete.cornerBottomLeft
  cornerBottomRight := format.cornerBottomRight.get complete.cornerBottomRight
  showColumnSeparator :=
    format.showColumnSeparator.get complete.showColumnSeparator
  columnSeparator := format.columnSeparator.get complete.columnSeparator
  trimMode := format.trimMode.get complete.trimMode
  showRowSeparator := format.showRowSeparator.get complete.showRowSeparator

/-! ## Tables -/

/-- `Cell` -/
structure Cell where
  text : Bytes
  format : Option Format
  deriving Repr, DecidableEq

/-- `Row` -/
structure Row where
  cells : List Cell
  format : Option Format
  deriving Repr, DecidableEq

/-- `TableInternal`; its own format is complete from the beginning. -/
structure TableInternal where
  rows : List Row
  format : Format
  complete : format.Complete

/-- The format that a part has: its own one, and the outer one behind it. -/
def inherit (own : Option Format) (outer : Format) : Format :=
  match own with
  | none => outer
  | some own => own.merge outer

theorem Format.Complete.inherit
    {outer : Format}
    (complete : outer.Complete)
    (own : Option Format) :
    (inherit own outer).Complete := by
  cases own with
  | none => exact complete
  | some own => exact complete.merge own

/-- Merging the outer format in again changes nothing. -/
theorem inherit_merge (own : Option Format) (outer : Format) :
    (inherit own outer).merge outer = inherit own outer := by
  cases own with
  | none => exact Format.merge_self outer
  | some own => exact Format.merge_merge_self own outer

namespace TableInternal

/-- `create` -/
def create : TableInternal where
  rows := []
  format := Format.defaults
  complete := Format.complete_defaults

/-- `add_row` -/
def addRow (table : TableInternal) (cells : List Bytes) : TableInternal :=
  { table with
    rows := table.rows ++ [{
      cells := cells.map fun text => { text := text, format := none }
      format := none }] }

/-- What `Row::format` returns. -/
def rowFormat (table : TableInternal) (row : Row) : Format :=
  inherit row.format table.format

/-- What `Cell::format` returns. -/
def cellFormat
    (table : TableInternal)
    (row : Row)
    (cell : Cell) :
    Format :=
  inherit cell.format (table.rowFormat row)

theorem complete_cellFormat
    (table : TableInternal)
    (row : Row)
    (cell : Cell) :
    (table.cellFormat row cell).Complete :=
  (table.complete.inherit row.format).inherit cell.format

/-- The values of a cell's format. -/
def cellStyle
    (table : TableInternal)
    (row : Row)
    (cell : Cell) :
    Style :=
  (table.cellFormat row cell).style (table.complete_cellFormat row cell)

/-- Setters on the format of a table, given by what they set. -/
def formatTable (table : TableInternal) (patch : Format) :
    TableInternal where
  rows := table.rows
  format := patch.merge table.format
  complete := table.complete.merge patch

/-- A row that was asked for its format, with setters applied to it. -/
def patchRow (table : TableInternal) (patch : Format) (row : Row) : Row :=
  { row with format := some (patch.merge (table.rowFormat row)) }

/-- Setters on the format of a row. -/
def formatRow (table : TableInternal) (index : Nat) (patch : Format) :
    TableInternal :=
  { table with
    rows := table.rows.modify index (table.patchRow patch) }

/-- A cell that was asked for its format, with setters applied to it. -/
def patchCell
    (table : TableInternal)
    (row : Row)
    (patch : Format)
    (cell : Cell) :
    Cell :=
  { cell with format := some (patch.merge (table.cellFormat row cell)) }

/-- Setters on the format of a cell, which asks the row first. -/
def formatCell
    (table : TableInternal)
    (rowIndex cellIndex : Nat)
    (patch : Format) :
    TableInternal :=
  { table with
    rows := table.rows.modify rowIndex fun row =>
      let row := table.patchRow Format.unset row
      { row with
        cells := row.cells.modify cellIndex
          (table.patchCell row patch) } }

/-- `set_text` on one cell. -/
def setText
    (table : TableInternal)
    (rowIndex cellIndex : Nat)
    (text : Bytes) :
    TableInternal :=
  { table with
    rows := table.rows.modify rowIndex fun row =>
      { row with
        cells := row.cells.modify cellIndex fun cell =>
          { cell with text := text } } }

end TableInternal

end IqosXapp.Tabulate
