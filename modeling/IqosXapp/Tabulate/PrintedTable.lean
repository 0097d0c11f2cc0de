import IqosXapp.Tabulate.Rectangle
import IqosXapp.Tabulate.Table

namespace IqosXapp.Tabulate

open KpmManager (Bytes literal)

/-!
# Printed tables

What holds of the text that `print_table` writes for a table whose cells have
the same borders and room for their texts: it can be read back, and it is a
rectangle unless the separators or an empty row break it.
-/

/-! ## A narrow table -/

/--
A table with columns that are too narrow for one of its words, and paddings, an
alignment and a trimming of its own for the cell of that word.
-/
def narrowTable : TableInternal :=
  (textTable { Format.unset with width := some 6 } .center
    [literal "node", literal "id"]
    [[literal "alpha", literal "7"]]).formatCell 1 0 {
      Format.unset with
      paddingLeft := some 2
      paddingTop := some 1
      fontAlign := some .right
      trimMode := some .kNone }

theorem regular_narrowTable : narrowTable.Regular := by
  unfold TableInternal.Regular
  decide

theorem framed_narrowTable : narrowTable.Framed narrowTable.baseStyle := by
  unfold TableInternal.Framed
  decide

theorem legible_narrowTable : narrowTable.baseStyle.Legible 43 where
  frame := {
    top := by decide
    bottom := by decide
    rows := by decide
    clean := by decide }
  topLeft := by decide
  topRight := by decide
  bottomLeft := by decide
  ruled := by decide
  shown := by decide
  side := ⟨124, [], by decide, by decide⟩

theorem widthAt_narrowTable
    {column : Nat}
    (inside : column < 2) :
    narrowTable.widthAt column = 6 := by
  have configured :
      ∀ column < 2, narrowTable.configuredAt column = 6 := by
    decide
  rw [TableInternal.widthAt, configured column inside]
  rfl

theorem roomy_narrowTable : narrowTable.Roomy 6 := by
  have room :
      ∀ row ∈ narrowTable.rows, ∀ entry ∈ row.cells.zipIdx,
        newline ∉ entry.1.text ∧ entry.1.text.length < 6 ∧
          (narrowTable.cellStyle row entry.1).paddingLeft +
              (narrowTable.cellStyle row entry.1).paddingRight + 2 ≤ 6 ∧
          entry.2 < 2 := by
    decide
  intro row listed entry member
  obtain ⟨free, enough, wide, inside⟩ := room row listed entry member
  rw [widthAt_narrowTable inside]
  exact .wraps free enough wide (by decide)

theorem measured_narrowTable : narrowTable.Measured 6 where
  widths := by
    intro column inside
    rw [widthAt_narrowTable inside]
    decide
  heights := by
    have configured :
        ∀ row ∈ narrowTable.rows,
          narrowTable.getConfiguredHeight row ≤ 22 := by
      decide
    have short :
        ∀ row ∈ narrowTable.rows, ∀ cell ∈ row.cells,
          (narrowTable.cellStyle row cell).paddingTop +
              (4 * cell.text.length + 1) +
              (narrowTable.cellStyle row cell).paddingBottom ≤
            22 := by
      decide
    intro row listed
    have low :=
      roomy_narrowTable.heightOf_le listed (configured row listed)
        (short row listed)
    exact lt_of_le_of_lt low (by decide)

/-! ## Every table -/

section Printed

variable
  {table : TableInternal}
  {base : Style}
  {corner : UInt8}
  {fuel : Nat}

/--
Such a table is always printed.  A reader who knows its borders finds what every
cell shows on every line, and in each cell, line below line, the characters of
its own text: none is lost or moved to another cell, wrapped or not.
-/
theorem readTable_print
    (regular : table.Regular)
    (framed : table.Framed base)
    (measured : table.Measured fuel)
    (roomy : table.Roomy fuel)
    (legible : base.Legible corner)
    (some : 0 < table.estimateNumColumns) :
    ∃ text, table.print fuel = .ok text ∧
      base.readTable corner text = table.shows fuel ∧
        ∀ row ∈ table.rows.zipIdx, ∀ entry ∈ row.1.cells.zipIdx,
          ink (columnText
              ((base.readTable corner text)[row.2]?.getD []) entry.2) =
            ink entry.1.text := by
  have shown :
      base.readTable corner (table.layout fuel) = table.shows fuel :=
    TableInternal.readTable_layout regular framed measured.widths
      roomy.fitted legible some
  refine ⟨table.layout fuel,
    TableInternal.print_of_wraps regular roomy.wraps,
    shown, fun row listed entry member => ?_⟩
  have here : table.rows[row.2]? = Option.some row.1 :=
    List.mk_mem_zipIdx_iff_getElem?.mp listed
  rw [shown, TableInternal.shows, List.getElem?_map, here, Option.map_some,
    Option.getD_some]
  exact TableInternal.ink_showsRow roomy (List.fst_mem_of_mem_zipIdx listed)
    member

theorem readTable_print_narrow :
    ∃ text, narrowTable.print 6 = .ok text ∧
      ink (columnText
          ((narrowTable.baseStyle.readTable 43 text)[1]?.getD []) 0) =
        literal "alpha" := by
  obtain ⟨text, printed, _, kept⟩ :=
    readTable_print regular_narrowTable framed_narrowTable measured_narrowTable
      roomy_narrowTable legible_narrowTable (by decide)
  refine ⟨text, printed, ?_⟩
  exact kept (narrowTable.rows[1], 1) (by decide)
    (narrowTable.rows[1].cells[0], 0) (by decide)

/--
With borders of one character, a printed table is a rectangle exactly when no
row is empty and no separator stands between two columns.
-/
theorem print_rectangle_iff
    {text : Bytes}
    (regular : table.Regular)
    (framed : table.Framed base)
    (measured : table.Measured fuel)
    (roomy : table.Roomy fuel)
    (frame : base.Frame)
    (unit : base.Unit)
    (some : 0 < table.estimateNumColumns)
    (printed : table.print fuel = .ok text) :
    (∃ width, ∀ line ∈ splitLines text newline, line.length = width) ↔
      (∀ row ∈ table.rows, table.heightOf fuel row ≠ 0) ∧
        (table.estimateNumColumns = 1 ∨ base.separatorWidth = 0) := by
  rw [TableInternal.print_of_wraps regular roomy.wraps]
    at printed
  obtain rfl := Except.ok.inj printed
  exact TableInternal.rectangle_iff regular framed measured.widths
    roomy.fitted frame unit some

/-- With the borders it has by default, a table of two columns is none. -/
theorem print_rectangle_iff_narrow :
    ¬∃ width, ∀ line ∈ splitLines (narrowTable.layout 6) newline,
      line.length = width := by
  have unit : narrowTable.baseStyle.Unit := by
    constructor <;> decide
  have printed :=
    TableInternal.print_of_wraps regular_narrowTable
      roomy_narrowTable.wraps
  rw [print_rectangle_iff regular_narrowTable framed_narrowTable
    measured_narrowTable roomy_narrowTable legible_narrowTable.frame unit
    (by decide) printed]
  rintro ⟨_, narrow⟩
  exact absurd narrow (by decide)

end Printed

end IqosXapp.Tabulate
