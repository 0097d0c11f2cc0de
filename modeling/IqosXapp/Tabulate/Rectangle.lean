import Mathlib.Algebra.BigOperators.Group.List.Basic
import Mathlib.Algebra.Ring.Nat
import Mathlib.Data.Nat.Cast.Basic
import IqosXapp.Tabulate.Reading

namespace IqosXapp.Tabulate

open KpmManager (Bytes)

/-!
# Tables that are rectangles

The printer writes the left border of a cell and the column separator one after
the other, while a border line has only a corner at that place.  With borders
of one character, the lines of text are therefore longer than the border lines
by the separators, and a table is a rectangle only without them.
-/

/-- All borders are shown and take one character each. -/
structure Style.Unit (base : Style) : Prop where
  topLeft : base.cornerTopLeft.length = 1
  topRight : base.cornerTopRight.length = 1
  bottomLeft : base.cornerBottomLeft.length = 1
  bottomRight : base.cornerBottomRight.length = 1
  top : base.borderTop.length = 1
  bottom : base.borderBottom.length = 1
  left : base.showBorderLeft = true ∧ base.borderLeft.length = 1
  right : base.showBorderRight = true ∧ base.borderRight.length = 1

/-- What a separator adds to a line of text. -/
def Style.separatorWidth (base : Style) : Nat :=
  if base.showColumnSeparator then base.columnSeparator.length else 0

/-- The length of a border line. -/
def frameWidth (views : List CellView) : Nat :=
  (views.map fun view => view.columnWidth + 1).sum + 1

/-! ## Sums over columns -/

theorem sum_last (numColumns : Nat) (some : 0 < numColumns) :
    ((List.range numColumns).map fun column =>
      if column + 1 = numColumns then 1 else 0).sum = 1 := by
  obtain ⟨last, rfl⟩ := Nat.exists_eq_add_one_of_ne_zero some.ne'
  have before :
      ((List.range last).map fun column =>
        if column + 1 = last + 1 then 1 else 0) =
        (List.range last).map fun _ => 0 := by
    refine List.map_congr_left fun column member => ?_
    have inside := List.mem_range.mp member
    rw [if_neg (by omega)]
  rw [List.range_succ, List.map_append, List.sum_append, before]
  simp

theorem sum_separators (numColumns separator : Nat) :
    ((List.range numColumns).map fun column =>
      if column ≠ 0 then separator else 0).sum =
        (numColumns - 1) * separator := by
  induction numColumns with
  | zero =>
      simp
  | succ last inductionHypothesis =>
      rw [List.range_succ, List.map_append, List.sum_append,
        inductionHypothesis]
      cases last with
      | zero =>
          simp
      | succ before =>
          simp [Nat.succ_mul]

/-! ## The lengths of the lines -/

section Lengths

variable
  {base : Style}
  {views : List CellView}
  (unit : base.Unit)
  (row : base.RowOf views)
  (some : views ≠ [])

include row

/-- A sum over the cells of a row that looks at their columns only. -/
theorem sum_columns (amount : Nat → Nat) :
    (views.map fun view => amount view.column).sum =
      ((List.range views.length).map amount).sum := by
  rw [← row.columns, List.map_map]
  rfl

include unit some

/-- A border line takes a corner for each column, and one behind the last. -/
theorem length_topLine (frame : base.Frame) :
    (topLine views).length = frameWidth views := by
  have pieces :
      views.map (fun view =>
          (view.printCellBorderTop views.length).length) =
        views.map fun view =>
          (view.columnWidth + 1) +
            if view.column + 1 = views.length then 1 else 0 := by
    refine List.map_congr_left fun view member => ?_
    rw [printCellBorderTop_of_bordered (row.framed view member) frame]
    split <;> simp [unit.topLeft, unit.topRight, unit.top, Nat.add_comm]
  have corner :=
    sum_columns row fun column =>
      if column + 1 = views.length then 1 else 0
  rw [sum_last views.length (List.length_pos_iff.mpr some)] at corner
  rw [topLine, List.length_flatMap, pieces, List.sum_map_add, corner]
  rfl

theorem length_bottomLine (frame : base.Frame) :
    (bottomLine views).length = frameWidth views := by
  have pieces :
      views.map (fun view =>
          (view.printCellBorderBottom views.length).length) =
        views.map fun view =>
          (view.columnWidth + 1) +
            if view.column + 1 = views.length then 1 else 0 := by
    refine List.map_congr_left fun view member => ?_
    rw [printCellBorderBottom_of_bordered (row.framed view member) frame]
    split <;>
      simp [unit.bottomLeft, unit.bottomRight, unit.bottom, Nat.add_comm]
  have corner :=
    sum_columns row fun column =>
      if column + 1 = views.length then 1 else 0
  rw [sum_last views.length (List.length_pos_iff.mpr some)] at corner
  rw [bottomLine, List.length_flatMap, pieces, List.sum_map_add, corner]
  rfl

/-- A line of text is longer than a border line by the separators. -/
theorem length_contentLine (rowIndex : Nat) :
    (contentLine views rowIndex).length =
      frameWidth views + (views.length - 1) * base.separatorWidth := by
  have pieces :
      views.map (fun view =>
          (view.printRowInCell views.length rowIndex).length) =
        views.map fun view =>
          (view.columnWidth + 1) +
            (if view.column + 1 = views.length then 1 else 0) +
            if view.column ≠ 0 then base.separatorWidth else 0 := by
    refine List.map_congr_left fun view member => ?_
    have text :=
      (CellView.printText_of_fits (row.fits view member) rowIndex).1
    have left :
        (base.leftOf view.column).length =
          1 + if view.column ≠ 0 then base.separatorWidth else 0 := by
      unfold Style.leftOf Style.separatorWidth
      by_cases first : view.column = 0
      · simp [first, unit.left]
      · cases shown : base.showColumnSeparator <;>
          simp [first, unit.left]
    have right :
        (base.rightOf views.length view.column).length =
          if view.column + 1 = views.length then 1 else 0 := by
      unfold Style.rightOf
      by_cases last : view.column + 1 = views.length
      · simp [last, unit.right]
      · simp [last]
    rw [printRowInCell_of_bordered (row.framed view member)]
    simp only [List.length_append, left, right, text]
    omega
  have corner :=
    sum_columns row fun column =>
      if column + 1 = views.length then 1 else 0
  have separators :=
    sum_columns row fun column =>
      if column ≠ 0 then base.separatorWidth else 0
  rw [sum_last views.length (List.length_pos_iff.mpr some)] at corner
  rw [sum_separators] at separators
  rw [contentLine, List.length_flatMap, pieces, List.sum_map_add,
    List.sum_map_add, corner, separators]
  rfl

end Lengths

/-! ## Rectangles -/

namespace TableInternal

/-- The length of the border lines of a table. -/
def frameWidth (table : TableInternal) : Nat :=
  (table.widths.map (· + 1)).sum + 1

/-- The length of the lines of text of a table. -/
def textWidth (table : TableInternal) (base : Style) : Nat :=
  table.frameWidth +
    (table.estimateNumColumns - 1) * base.separatorWidth

section Rectangle

variable
  {table : TableInternal}
  {base : Style}
  {row : Row}
  {fuel : Nat}
  (regular : table.Regular)
  (framed : table.Framed base)
  (sized : table.Sized)
  (fitted : table.Fitted fuel)
  (frame : base.Frame)
  (unit : base.Unit)
  (some : 0 < table.estimateNumColumns)

include regular framed sized fitted some frame unit

/-- The lengths of the lines of a row. -/
theorem length_rowLines
    (listed : row ∈ table.rows)
    (index : Nat) :
    (topLine (table.viewsOf fuel row index)).length = table.frameWidth ∧
      (bottomLine (table.viewsOf fuel row index)).length =
          table.frameWidth ∧
        ∀ rowIndex,
          (contentLine (table.viewsOf fuel row index) rowIndex).length =
            table.textWidth base := by
  have here := rowOf_viewsOf regular framed sized fitted listed index
  have cells := viewsOf_ne_nil regular some listed fuel index
  have columns :
      (table.viewsOf fuel row index).length = table.estimateNumColumns := by
    rw [viewsOf, List.length_map, List.length_zipIdx,
      regular row listed]
  have widths :
      Tabulate.frameWidth (table.viewsOf fuel row index) =
        table.frameWidth := by
    have same :=
      congrArg (List.map Prod.fst) (widths_zipIdx regular listed fuel index)
    rw [List.zipIdx_map_fst, List.map_map] at same
    rw [Tabulate.frameWidth, frameWidth, same, List.map_map]
    rfl
  refine ⟨?_, ?_, fun rowIndex => ?_⟩
  · rw [length_topLine unit here cells frame, widths]
  · rw [length_bottomLine unit here cells frame, widths]
  · rw [length_contentLine unit here cells rowIndex, widths, columns]
    rfl

/-- A line of a table is a border line, a line of text or empty. -/
theorem length_of_mem_lines
    {line : Bytes}
    (member : line ∈ splitLines (table.layout fuel) newline) :
    line.length = table.frameWidth ∨
      line.length = table.textWidth base ∨
        line = [] ∧ ∃ row ∈ table.rows, table.heightOf fuel row = 0 := by
  obtain none | ⟨rest, last, rows⟩ := table.rows.eq_nil_or_concat'
  · simp [estimateNumColumns, none] at some
  · have listed : last ∈ table.rows := by simp [rows]
    rw [splitLines_layout regular framed sized fitted frame rows some] at member
    rcases List.mem_append.mp member with above | bottom
    · obtain ⟨entry, present, inside⟩ := List.mem_flatMap.mp above
      have listed := List.fst_mem_of_mem_zipIdx present
      obtain ⟨top, _, texts⟩ :=
        length_rowLines regular framed sized fitted frame unit some
          listed entry.2
      rcases List.mem_cons.mp inside with rfl | content
      · exact .inl top
      · split at content
        · rename_i low
          exact .inr (.inr
            ⟨List.mem_singleton.mp content, entry.1, listed, low⟩)
        · obtain ⟨rowIndex, _, rfl⟩ := List.mem_map.mp content
          exact .inr (.inl (texts rowIndex))
    · rw [List.mem_singleton.mp bottom]
      exact .inl
        (length_rowLines regular framed sized fitted frame unit some listed
          rest.length).2.1

omit unit in
/-- Which lines a table has for sure. -/
theorem mem_lines
    (listed : row ∈ table.rows) :
    ∃ index,
      topLine (table.viewsOf fuel row index) ∈
          splitLines (table.layout fuel) newline ∧
        (table.heightOf fuel row = 0 →
          [] ∈ splitLines (table.layout fuel) newline) ∧
        (table.heightOf fuel row ≠ 0 →
          contentLine (table.viewsOf fuel row index) 0 ∈
            splitLines (table.layout fuel) newline) := by
  obtain ⟨index, inside, rfl⟩ := List.mem_iff_getElem.mp listed
  obtain none | ⟨rest, last, rows⟩ := table.rows.eq_nil_or_concat'
  · simp [estimateNumColumns, none] at some
  · have lines
        {line : Bytes}
        (member :
          line ∈ rowLines (table.viewsOf fuel table.rows[index] index)
            (table.heightOf fuel table.rows[index])) :
        line ∈ splitLines (table.layout fuel) newline := by
      rw [splitLines_layout regular framed sized fitted frame rows some]
      refine List.mem_append_left _ (List.mem_flatMap.mpr
        ⟨(table.rows[index], index), ?_, member⟩)
      exact List.mk_mem_zipIdx_iff_getElem?.mpr
        (List.getElem?_eq_getElem inside)
    refine ⟨index, lines (by simp [rowLines]), fun low => lines ?_,
      fun high => lines ?_⟩
    · simp [rowLines, low]
    · rw [rowLines, if_neg high]
      exact List.mem_cons_of_mem _ (List.mem_map.mpr
        ⟨0, List.mem_range.mpr (Nat.pos_of_ne_zero high), rfl⟩)

/-- A layout is a rectangle when nothing is empty and nothing separated. -/
theorem rectangle_iff :
    (∃ width,
        ∀ line ∈ splitLines (table.layout fuel) newline,
          line.length = width) ↔
      (∀ row ∈ table.rows, table.heightOf fuel row ≠ 0) ∧
        (table.estimateNumColumns = 1 ∨ base.separatorWidth = 0) := by
  constructor
  · rintro ⟨width, lines⟩
    have high
        {row : Row}
        (listed : row ∈ table.rows) :
        table.heightOf fuel row ≠ 0 ∧
          table.textWidth base = table.frameWidth := by
      obtain ⟨index, border, empty, text⟩ :=
        mem_lines regular framed sized fitted frame some listed
      obtain ⟨top, _, texts⟩ :=
        length_rowLines regular framed sized fitted frame unit some listed index
      have width_eq := (lines _ border).symm.trans top
      have positive : table.frameWidth ≠ 0 := Nat.succ_ne_zero _
      have nonempty : table.heightOf fuel row ≠ 0 := by
        intro low
        have none := lines [] (empty low)
        rw [List.length_nil] at none
        omega
      exact ⟨nonempty,
        (texts 0).symm.trans ((lines _ (text nonempty)).trans width_eq)⟩
    refine ⟨fun row listed => (high listed).1, ?_⟩
    obtain ⟨row, listed⟩ :
        ∃ row, row ∈ table.rows := by
      refine List.exists_mem_of_ne_nil _ fun none => ?_
      simp [estimateNumColumns, none] at some
    have same := (high listed).2
    have product :
        (table.estimateNumColumns - 1) * base.separatorWidth = 0 := by
      unfold textWidth at same
      omega
    rcases Nat.mul_eq_zero.mp product with single | none
    · exact .inl (by omega)
    · exact .inr none
  · rintro ⟨high, narrow⟩
    have same : table.textWidth base = table.frameWidth := by
      rcases narrow with single | none
      · simp [textWidth, single]
      · simp [textWidth, none]
    refine ⟨table.frameWidth, fun line member => ?_⟩
    rcases length_of_mem_lines regular framed sized fitted frame unit
      some member with border | text | ⟨_, row, listed, low⟩
    · exact border
    · exact text.trans same
    · exact absurd low (high row listed)

end Rectangle

end TableInternal

end IqosXapp.Tabulate
