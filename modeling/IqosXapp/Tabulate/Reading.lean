import IqosXapp.Tabulate.Recovery
import IqosXapp.Tabulate.Room

namespace IqosXapp.Tabulate

open KpmManager (Bytes)

/-!
# A reader of printed tables

Someone who knows the borders of a table can read its text back: the border
lines are the ones that begin with a corner, the first of them shows how wide
the columns are, and the lines between two of them are cut at these widths.

The reader does not see the table.  Its result is compared with what the cells
show, line by line, each without the white space around it.
-/

namespace Style

/-- The borders with which a table can be read. -/
structure Legible (base : Style) (corner : UInt8) : Prop where
  frame : base.Frame
  topLeft : base.cornerTopLeft = [corner]
  topRight : base.cornerTopRight = [corner]
  bottomLeft : base.cornerBottomLeft = [corner]
  ruled : base.borderTop ≠ [] ∧ corner ∉ base.borderTop
  shown : base.showBorderLeft = true
  side :
    ∃ first rest, base.borderLeft = first :: rest ∧ first ≠ corner

/-- The widths of the columns, as a border line shows them. -/
def readWidths (base : Style) (corner : UInt8) (line : Bytes) : List Nat :=
  (splitLines line.tail corner).map fun piece =>
    piece.length / base.borderTop.length

/-- Cut a line at the widths of the columns. -/
def readCells (base : Style) (numColumns : Nat) :
    List (Nat × Nat) → Bytes → List Bytes
  | [], _ => []
  | (width, column) :: rest, line =>
      let text := line.drop (base.leftOf column).length
      trim (text.take width) ::
        readCells base numColumns rest
          (text.drop (width + (base.rightOf numColumns column).length))

/-- The lines of each row, cut into cells; a row of no height has none. -/
def readLines (base : Style) (corner : UInt8) (lines : List Bytes) :
    List (List (List Bytes)) :=
  let widths := base.readWidths corner (lines.head?.getD [])
  let rows := lines.splitOnP fun line => line.head? = some corner
  rows.tail.dropLast.map fun body =>
    (body.filter (· ≠ [])).map
      (base.readCells widths.length widths.zipIdx)

/-- Read a printed table. -/
def readTable (base : Style) (corner : UInt8) (text : Bytes) :
    List (List (List Bytes)) :=
  base.readLines corner (splitLines text newline)

end Style

/-! ## Reading a border line -/

section Border

variable
  {base : Style}
  {corner : UInt8}
  {views : List CellView}
  (legible : base.Legible corner)
  (row : base.RowOf views)

include legible row

/-- The border of a cell ends where the corner of the next one stands. -/
theorem topLine_of_legible
    (some : views ≠ []) :
    topLine views =
      corner :: views.flatMap fun view =>
        (List.replicate view.columnWidth base.borderTop).flatten ++
          [corner] := by
  have step
      (cells : List CellView)
      (start : Nat)
      (framed : ∀ view ∈ cells, base.Bordered view.style)
      (columns :
        cells.map (·.column) = List.range' start cells.length)
      (rest : cells ≠ []) :
      cells.flatMap (·.printCellBorderTop (start + cells.length)) =
        corner :: cells.flatMap fun view =>
          (List.replicate view.columnWidth base.borderTop).flatten ++
            [corner] := by
    induction cells generalizing start with
    | nil =>
        exact absurd rfl rest
    | cons view later inductionHypothesis =>
        simp only [List.map_cons, List.length_cons, List.range'_succ,
          List.cons.injEq] at columns
        have border :=
          printCellBorderTop_of_bordered (framed view (by simp))
            legible.frame (start + (later.length + 1))
        simp only [List.flatMap_cons, List.length_cons, border,
          columns.1, legible.topLeft, legible.topRight]
        cases later with
        | nil =>
            simp
        | cons next others =>
            have tail :=
              inductionHypothesis (start + 1)
                (fun view member => framed view (by simp [member]))
                columns.2 (by simp)
            rw [if_neg (by simp),
              show start + ((next :: others).length + 1) =
                start + 1 + (next :: others).length by omega, tail]
            simp
  have columns := row.columns
  rw [List.range_eq_range'] at columns
  simpa [topLine] using step views 0 row.framed columns some

/-- The first border line of a row shows the widths of its columns. -/
theorem readWidths_topLine
    (some : views ≠ []) :
    base.readWidths corner (topLine views) =
      views.map (·.columnWidth) := by
  have pieces :
      views.flatMap (fun view =>
          (List.replicate view.columnWidth base.borderTop).flatten ++
            [corner]) =
        (views.map fun view =>
          (List.replicate view.columnWidth base.borderTop).flatten).flatMap
            (· ++ [corner]) ++ [] := by
    rw [List.flatMap_map, List.append_nil]
  rw [Style.readWidths, topLine_of_legible legible row some, List.tail_cons,
    pieces, splitLines_ended]
  · rw [splitLines_of_not_mem (by simp), if_pos rfl, List.append_nil,
      List.map_map]
    refine List.map_congr_left fun view member => ?_
    have positive := List.length_pos_iff.mpr legible.ruled.1
    simp [Nat.mul_div_cancel _ positive]
  · intro piece member
    obtain ⟨view, _, rfl⟩ := List.mem_map.mp member
    intro inside
    obtain ⟨border, listed, here⟩ := List.mem_flatten.mp inside
    rw [(List.mem_replicate.mp listed).2] at here
    exact legible.ruled.2 here

end Border

/-! ## Reading a line of text -/

/-- Cutting a line at the widths of its cells gives what they show. -/
theorem readCells_contentLine
    {base : Style}
    {views : List CellView}
    (row : base.RowOf views)
    (rowIndex : Nat) :
    base.readCells views.length
        (views.map fun view => (view.columnWidth, view.column))
        (contentLine views rowIndex) =
      views.map fun view => trim (view.lineAt rowIndex) := by
  have step
      (numColumns : Nat)
      (cells : List CellView)
      (listed : ∀ view ∈ cells, view ∈ views) :
      base.readCells numColumns
          (cells.map fun view => (view.columnWidth, view.column))
          (cells.flatMap (·.printRowInCell numColumns rowIndex)) =
        cells.map fun view => trim (view.lineAt rowIndex) := by
    induction cells with
    | nil =>
        rfl
    | cons view later inductionHypothesis =>
        have here := listed view (by simp)
        have tail :=
          inductionHypothesis fun view member =>
            listed view (by simp [member])
        obtain ⟨wide, shows⟩ :=
          CellView.printText_of_fits (row.fits view here) rowIndex
        simp only [List.map_cons, List.flatMap_cons, Style.readCells,
          printRowInCell_of_bordered (row.framed view here),
          List.append_assoc, List.drop_left]
        rw [← wide, List.take_left, ← List.drop_drop, List.drop_left,
          List.drop_left, tail, shows]
  exact step views.length views fun _ member => member

/-! ## Telling the lines apart -/

section Heads

variable
  {base : Style}
  {corner : UInt8}
  {views : List CellView}
  (legible : base.Legible corner)
  (row : base.RowOf views)
  (some : views ≠ [])

include legible row some

theorem head_topLine : (topLine views).head? = Option.some corner := by
  rw [topLine_of_legible legible row some]
  rfl

theorem head_bottomLine : (bottomLine views).head? = Option.some corner := by
  obtain ⟨view, rest, rfl⟩ := List.exists_cons_of_ne_nil some
  rw [bottomLine, List.flatMap_cons,
    printCellBorderBottom_of_bordered (row.framed view (by simp))
      legible.frame, legible.bottomLeft]
  rfl

/-- A line of text begins with the left border. -/
theorem head_contentLine (rowIndex : Nat) :
    ∃ first, (contentLine views rowIndex).head? = Option.some first ∧
      first ≠ corner := by
  obtain ⟨view, rest, rfl⟩ := List.exists_cons_of_ne_nil some
  obtain ⟨first, others, side, different⟩ := legible.side
  refine ⟨first, ?_, different⟩
  rw [contentLine, List.flatMap_cons,
    printRowInCell_of_bordered (row.framed view (by simp)), Style.leftOf,
    if_pos legible.shown, side]
  rfl

end Heads

/-! ## Lines with closed ends -/

/-- The borders at both ends of a line are no white space. -/
structure Style.Closed (base : Style) (corner : UInt8) : Prop where
  solid : isSpace corner = false
  bottomRight : base.cornerBottomRight = [corner]
  left : ∀ first ∈ base.borderLeft.head?, isSpace first = false
  shown : base.showBorderRight = true
  right : base.borderRight ≠ []
  rightEnd : ∀ last ∈ base.borderRight.getLast?, isSpace last = false

section Closed

variable
  {base : Style}
  {corner : UInt8}
  {views : List CellView}
  (legible : base.Legible corner)
  (closed : base.Closed corner)
  (row : base.RowOf views)
  (some : views ≠ [])

omit legible closed in
/-- The last cell of a row stands in its last column. -/
theorem Style.RowOf.last
    {rest : List CellView}
    {view : CellView}
    (row : base.RowOf views)
    (shape : views = rest ++ [view]) :
    view.column + 1 = views.length := by
  have columns := congrArg List.getLast? row.columns
  rw [shape, List.map_append, List.length_append, List.length_singleton,
    List.range_succ] at columns
  rw [shape, List.length_append, List.length_singleton]
  simpa using columns

include legible closed row some

theorem trimmed_topLine : Trimmed (topLine views) := by
  refine trimmed_of_ends (fun character head => ?_)
    fun character last => ?_
  · rw [head_topLine legible row some] at head
    rw [← Option.mem_some_iff.mp head]
    exact closed.solid
  · obtain none | ⟨rest, view, shape⟩ := views.eq_nil_or_concat'
    · exact absurd none some
    · have line :
          topLine views =
            (corner :: rest.flatMap fun view =>
              (List.replicate view.columnWidth base.borderTop).flatten ++
                [corner]) ++
              (List.replicate view.columnWidth base.borderTop).flatten ++
              [corner] := by
        rw [topLine_of_legible legible row some, shape]
        simp
      rw [line, List.getLast?_concat] at last
      rw [← Option.mem_some_iff.mp last]
      exact closed.solid

theorem trimmed_bottomLine : Trimmed (bottomLine views) := by
  refine trimmed_of_ends (fun character head => ?_)
    fun character last => ?_
  · rw [head_bottomLine legible row some] at head
    rw [← Option.mem_some_iff.mp head]
    exact closed.solid
  · obtain none | ⟨rest, view, shape⟩ := views.eq_nil_or_concat'
    · exact absurd none some
    · have inside : view ∈ views := by simp [shape]
      have border :=
        printCellBorderBottom_of_bordered (row.framed view inside)
          legible.frame views.length
      rw [if_pos (row.last shape), closed.bottomRight] at border
      have line :
          bottomLine views =
            rest.flatMap (·.printCellBorderBottom views.length) ++
              (base.cornerBottomLeft ++
                (List.replicate view.columnWidth
                  base.borderBottom).flatten) ++
              [corner] := by
        rw [bottomLine]
        conv_lhs => arg 2; rw [shape]
        simp [border]
      rw [line, List.getLast?_concat] at last
      rw [← Option.mem_some_iff.mp last]
      exact closed.solid

theorem trimmed_contentLine (rowIndex : Nat) :
    Trimmed (contentLine views rowIndex) := by
  refine trimmed_of_ends (fun character head => ?_)
    fun character last => ?_
  · obtain ⟨view, rest, rfl⟩ := List.exists_cons_of_ne_nil some
    obtain ⟨first, others, side, different⟩ := legible.side
    rw [contentLine, List.flatMap_cons,
      printRowInCell_of_bordered (row.framed view (by simp)), Style.leftOf,
      if_pos legible.shown, side] at head
    exact closed.left character (by rw [side]; exact head)
  · obtain none | ⟨rest, view, shape⟩ := views.eq_nil_or_concat'
    · exact absurd none some
    · have inside : view ∈ views := by simp [shape]
      have text :=
        printRowInCell_of_bordered (row.framed view inside) views.length
          rowIndex
      rw [Style.rightOf, if_pos ⟨row.last shape, closed.shown⟩] at text
      refine closed.rightEnd character ?_
      rw [contentLine] at last
      rw [shape] at last text
      rw [List.flatMap_append, List.flatMap_singleton, text] at last
      rw [← List.append_assoc, List.getLast?_append_of_ne_nil _ closed.right]
        at last
      exact last

end Closed

/-! ## Reading the lines of a table -/

/-- Rows that begin with a border line are found by their border lines. -/
theorem splitOnP_rows
    {α : Type}
    (isBorder : Bytes → Bool)
    (rows : List α)
    (top : α → Bytes)
    (body : α → List Bytes)
    (bottom : Bytes)
    (borders : ∀ row ∈ rows, isBorder (top row) = true)
    (last : isBorder bottom = true)
    (texts : ∀ row ∈ rows, ∀ line ∈ body row, isBorder line = false)
    (before : List Bytes)
    (free : ∀ line ∈ before, isBorder line = false) :
    (before ++ rows.flatMap (fun row => top row :: body row) ++
        [bottom]).splitOnP isBorder =
      before :: rows.map body ++ [[]] := by
  induction rows generalizing before with
  | nil =>
      simpa using
        List.splitOnP_append_cons_of_forall_mem free bottom last []
  | cons row rest inductionHypothesis =>
      have tail :=
        inductionHypothesis
          (fun row member => borders row (by simp [member]))
          (fun row member => texts row (by simp [member]))
          (body row) (texts row (by simp))
      have cut :=
        List.splitOnP_append_cons_of_forall_mem free (top row)
          (borders row (by simp))
          (body row ++ rest.flatMap (fun row => top row :: body row) ++
            [bottom])
      rw [tail] at cut
      simpa using cut

namespace TableInternal

/-- All cells have the same borders. -/
def Framed (table : TableInternal) (base : Style) : Prop :=
  ∀ row ∈ table.rows, ∀ cell ∈ row.cells,
    base.Bordered (table.cellStyle row cell)

/-- What a cell shows on one of its lines. -/
def shownLine
    (style : Style)
    (lines : List Bytes)
    (rowIndex : Nat) :
    Bytes :=
  trim <|
    if rowIndex < style.paddingTop then
      []
    else
      lines[rowIndex - style.paddingTop]?.getD []

/-- What the cells of a row show, line by line. -/
def showsRow
    (table : TableInternal)
    (fuel : Nat)
    (row : Row) :
    List (List Bytes) :=
  (List.range (table.heightOf fuel row)).map fun rowIndex =>
    row.cells.zipIdx.map fun entry =>
      shownLine (table.cellStyle row entry.1)
        (table.linesIn fuel row entry) rowIndex

/-- What the cells show, line by line. -/
def shows (table : TableInternal) (fuel : Nat) :
    List (List (List Bytes)) :=
  table.rows.map (table.showsRow fuel)

section Reading

variable
  {table : TableInternal}
  {base : Style}
  {corner : UInt8}
  {row : Row}
  {fuel : Nat}
  (regular : table.Regular)
  (framed : table.Framed base)
  (sized : table.Sized)
  (fitted : table.Fitted fuel)

include regular framed sized fitted

/-- The cells of a row of the layout. -/
theorem rowOf_viewsOf
    (listed : row ∈ table.rows)
    (index : Nat) :
    base.RowOf (table.viewsOf fuel row index) where
  framed := by
    intro view member
    obtain ⟨entry, present, rfl⟩ := List.mem_map.mp member
    exact framed row listed entry.1 (List.fst_mem_of_mem_zipIdx present)
  columns := by
    simp [viewsOf, viewOf, List.range_eq_range', Function.comp_def,
      List.zipIdx_map_snd]
  fits := by
    intro view member
    obtain ⟨entry, present, rfl⟩ := List.mem_map.mp member
    exact {
      lines := fitted row listed entry present
      sized := sized entry.2 (regular.column_lt listed present) }
  clean := by
    intro view member
    obtain ⟨entry, _, rfl⟩ := List.mem_map.mp member
    exact fun line member => not_mem_splitLines member

omit framed sized fitted in
/-- The widths of the columns, next to their positions. -/
theorem widths_zipIdx
    (listed : row ∈ table.rows)
    (fuel index : Nat) :
    table.widths.zipIdx =
      (table.viewsOf fuel row index).map fun view =>
        (view.columnWidth, view.column) := by
  refine List.ext_getElem ?_ fun column before after => ?_
  · simp [widths, viewsOf, regular row listed]
  · simp [widths, viewsOf, viewOf]

/-- The lines of the layout, without the bottom border. -/
def linesAbove (table : TableInternal) (fuel : Nat) : List Bytes :=
  table.rows.zipIdx.flatMap fun entry =>
    rowLines (table.viewsOf fuel entry.1 entry.2) (table.heightOf fuel entry.1)

omit regular sized fitted in
/-- A bottom border is printed below the last row only. -/
theorem layout_of_framed
    (frame : base.Frame)
    {rest : List Row}
    (rows : table.rows = rest ++ [row]) :
    table.layout fuel =
      (table.linesAbove fuel).flatMap (· ++ [newline]) ++
        bottomLine (table.viewsOf fuel row rest.length) := by
  have framedAt
      (entry : Row × Nat)
      (listed : entry.1 ∈ table.rows) :
      ∀ view ∈ table.viewsOf fuel entry.1 entry.2,
        base.Bordered view.style := by
    intro view member
    obtain ⟨cell, present, rfl⟩ := List.mem_map.mp member
    exact framed entry.1 listed cell.1 (List.fst_mem_of_mem_zipIdx present)
  have above :
      rest.zipIdx.flatMap (fun entry =>
          printRow (rest ++ [row]).length entry.2
            (table.heightOf fuel entry.1)
            (table.viewsOf fuel entry.1 entry.2)) =
        rest.zipIdx.flatMap fun entry =>
          (rowLines (table.viewsOf fuel entry.1 entry.2)
            (table.heightOf fuel entry.1)).flatMap (· ++ [newline]) := by
    refine List.flatMap_congr fun entry member => ?_
    have present := List.fst_mem_of_mem_zipIdx member
    have inside : entry.2 < rest.length := by
      simpa using List.snd_lt_of_mem_zipIdx member
    rw [printRow_of_frame frame
      (framedAt entry (by simp [rows, present])) (by simp; omega)]
    simp [Nat.ne_of_lt inside]
  have last :=
    printRow_of_frame frame
      (framedAt (row, rest.length) (by simp [rows]))
      (show rest.length < (rest ++ [row]).length by simp)
      (table.heightOf fuel row)
  rw [layout, linesAbove, rows, List.zipIdx_append, List.flatMap_append,
    List.flatMap_append, List.flatMap_append, above]
  simp only [List.zipIdx_cons, List.zipIdx_nil, List.flatMap_cons,
    List.flatMap_nil, List.append_nil, Nat.zero_add]
  rw [last, List.flatMap_assoc]
  simp

/-- The lines of the layout are its lines: no text breaks another one. -/
theorem splitLines_layout
    (frame : base.Frame)
    {rest : List Row}
    (rows : table.rows = rest ++ [row])
    (some : 0 < table.estimateNumColumns) :
    splitLines (table.layout fuel) newline =
      table.linesAbove fuel ++
        [bottomLine (table.viewsOf fuel row rest.length)] := by
  have listed : row ∈ table.rows := by simp [rows]
  have last := rowOf_viewsOf regular framed sized fitted listed rest.length
  have cells : table.viewsOf fuel row rest.length ≠ [] := by
    rw [← List.length_pos_iff, viewsOf, List.length_map,
      List.length_zipIdx, regular row listed]
    exact some
  rw [layout_of_framed framed frame rows, splitLines_ended,
    splitLines_of_not_mem (not_mem_bottomLine frame last),
    if_neg (bottomLine_ne_nil frame last cells)]
  intro line member
  obtain ⟨entry, present, inside⟩ := List.mem_flatMap.mp member
  exact not_mem_rowLines frame
    (rowOf_viewsOf regular framed sized fitted
      (List.fst_mem_of_mem_zipIdx present) entry.2) inside

/-- The lines of a row below its top border, cut into cells. -/
theorem readCells_rowLines
    (legible : base.Legible corner)
    (some : 0 < table.estimateNumColumns)
    (listed : row ∈ table.rows)
    (index : Nat) :
    (((rowLines (table.viewsOf fuel row index)
          (table.heightOf fuel row)).tail.filter (· ≠ [])).map
        (base.readCells table.widths.length table.widths.zipIdx)) =
      table.showsRow fuel row := by
  have here := rowOf_viewsOf regular framed sized fitted listed index
  have columns : (table.viewsOf fuel row index).length = table.widths.length := by
    simp [viewsOf, widths, regular row listed]
  have cells : table.viewsOf fuel row index ≠ [] := by
    rw [← List.length_pos_iff, columns, widths, List.length_map,
      List.length_range]
    exact some
  rw [rowLines, List.tail_cons]
  split
  · rename_i none
    simp [showsRow, none]
  · rw [showsRow, List.filter_eq_self.mpr, List.map_map]
    · refine List.map_congr_left fun rowIndex _ => ?_
      rw [Function.comp_apply, widths_zipIdx regular listed fuel index,
        ← columns, readCells_contentLine here, viewsOf, List.map_map]
      rfl
    · intro line member
      obtain ⟨rowIndex, _, rfl⟩ := List.mem_map.mp member
      obtain ⟨first, head, _⟩ :=
        head_contentLine legible here cells rowIndex
      have filled : contentLine (table.viewsOf fuel row index) rowIndex ≠ [] := by
        intro none
        rw [none] at head
        exact absurd head (by simp)
      simpa using filled

omit framed sized fitted in
theorem viewsOf_ne_nil
    (some : 0 < table.estimateNumColumns)
    (listed : row ∈ table.rows)
    (fuel index : Nat) :
    table.viewsOf fuel row index ≠ [] := by
  rw [← List.length_pos_iff, viewsOf, List.length_map,
    List.length_zipIdx, regular row listed]
  exact some

/-- The first line shows the widths of the columns. -/
theorem readWidths_linesAbove
    (legible : base.Legible corner)
    (some : 0 < table.estimateNumColumns)
    (nonempty : table.rows ≠ [])
    (below : List Bytes) :
    base.readWidths corner
        ((table.linesAbove fuel ++ below).head?.getD []) =
      table.widths := by
  obtain ⟨top, later, shape⟩ := List.exists_cons_of_ne_nil nonempty
  have present : top ∈ table.rows := by simp [shape]
  have columns :=
    congrArg (List.map Prod.fst) (widths_zipIdx regular present fuel 0)
  rw [List.zipIdx_map_fst, List.map_map] at columns
  rw [linesAbove, shape, List.zipIdx_cons, List.flatMap_cons, rowLines]
  simp only [List.cons_append, List.head?_cons, Option.getD_some]
  rw [readWidths_topLine legible
    (rowOf_viewsOf regular framed sized fitted present 0)
    (viewsOf_ne_nil regular some present fuel 0)]
  exact columns.symm

/-- Only the border lines begin with a corner. -/
theorem splitOnP_linesAbove
    (legible : base.Legible corner)
    (some : 0 < table.estimateNumColumns)
    (listed : row ∈ table.rows)
    (index : Nat) :
    (table.linesAbove fuel ++
          [bottomLine (table.viewsOf fuel row index)]).splitOnP
        (fun line => line.head? = Option.some corner) =
      [] :: table.rows.zipIdx.map (fun entry =>
        (rowLines (table.viewsOf fuel entry.1 entry.2)
          (table.heightOf fuel entry.1)).tail) ++ [[]] := by
  have here
      {row : Row}
      (listed : row ∈ table.rows)
      (index : Nat) :
      base.RowOf (table.viewsOf fuel row index) ∧
        table.viewsOf fuel row index ≠ [] :=
    ⟨rowOf_viewsOf regular framed sized fitted listed index,
      viewsOf_ne_nil regular some listed fuel index⟩
  refine splitOnP_rows (fun line => line.head? = Option.some corner)
    table.rows.zipIdx
    (fun entry => topLine (table.viewsOf fuel entry.1 entry.2))
    (fun entry =>
      (rowLines (table.viewsOf fuel entry.1 entry.2)
        (table.heightOf fuel entry.1)).tail)
    (bottomLine (table.viewsOf fuel row index)) ?_ ?_ ?_ [] (by simp)
  · intro entry member
    obtain ⟨rowOf, cells⟩ := here (List.fst_mem_of_mem_zipIdx member) entry.2
    simpa using head_topLine legible rowOf cells
  · obtain ⟨rowOf, cells⟩ := here listed index
    simpa using head_bottomLine legible rowOf cells
  · intro entry member line inside
    obtain ⟨rowOf, cells⟩ := here (List.fst_mem_of_mem_zipIdx member) entry.2
    rw [rowLines, List.tail_cons] at inside
    split at inside
    · rw [List.mem_singleton.mp inside]
      simp
    · obtain ⟨rowIndex, _, rfl⟩ := List.mem_map.mp inside
      obtain ⟨first, head, different⟩ :=
        head_contentLine legible rowOf cells rowIndex
      simp [head, different]

/-- A layout has a border line above its last one. -/
theorem length_lines_ne_one
    (frame : base.Frame)
    (some : 0 < table.estimateNumColumns) :
    (splitLines (table.layout fuel) newline).length ≠ 1 := by
  obtain none | ⟨rest, last, rows⟩ := table.rows.eq_nil_or_concat'
  · simp [estimateNumColumns, none] at some
  · have above :
        topLine (table.viewsOf fuel last rest.length) ∈
          table.linesAbove fuel := by
      refine List.mem_flatMap.mpr ⟨(last, rest.length), ?_, by
        simp [rowLines]⟩
      simp [rows, List.zipIdx_append]
    have positive := List.length_pos_of_mem above
    rw [splitLines_layout regular framed sized fitted frame rows some,
      List.length_append, List.length_singleton]
    omega

/-- A new line behind the layout adds no line to it. -/
theorem splitLines_layout_newline
    (frame : base.Frame)
    (some : 0 < table.estimateNumColumns) :
    splitLines (table.layout fuel ++ [newline]) newline =
      splitLines (table.layout fuel) newline := by
  obtain none | ⟨rest, last, rows⟩ := table.rows.eq_nil_or_concat'
  · simp [estimateNumColumns, none] at some
  · have listed : last ∈ table.rows := by simp [rows]
    have free :
        ∀ line ∈ table.linesAbove fuel ++
            [bottomLine (table.viewsOf fuel last rest.length)],
          newline ∉ line := by
      rw [← splitLines_layout regular framed sized fitted frame rows some]
      exact fun line member => not_mem_splitLines member
    have ended := splitLines_ended free []
    rw [splitLines_layout regular framed sized fitted frame rows some,
      layout_of_framed framed frame rows]
    simpa using ended

/-- No line of the layout has white space at its ends. -/
theorem trimmed_lines
    (legible : base.Legible corner)
    (closed : base.Closed corner)
    (some : 0 < table.estimateNumColumns)
    {line : Bytes}
    (member : line ∈ splitLines (table.layout fuel) newline) :
    Trimmed line := by
  obtain none | ⟨rest, last, rows⟩ := table.rows.eq_nil_or_concat'
  · simp [estimateNumColumns, none] at some
  · have listed : last ∈ table.rows := by simp [rows]
    rw [splitLines_layout regular framed sized fitted legible.frame rows some]
      at member
    rcases List.mem_append.mp member with above | bottom
    · obtain ⟨entry, present, inside⟩ := List.mem_flatMap.mp above
      have listed := List.fst_mem_of_mem_zipIdx present
      have here := rowOf_viewsOf regular framed sized fitted listed entry.2
      have cells := viewsOf_ne_nil regular some listed fuel entry.2
      rcases List.mem_cons.mp inside with rfl | content
      · exact trimmed_topLine legible closed here cells
      · split at content
        · rw [List.mem_singleton.mp content]
          rfl
        · obtain ⟨rowIndex, _, rfl⟩ := List.mem_map.mp content
          exact trimmed_contentLine legible closed here cells rowIndex
    · rw [List.mem_singleton.mp bottom]
      exact trimmed_bottomLine legible closed
        (rowOf_viewsOf regular framed sized fitted listed rest.length)
        (viewsOf_ne_nil regular some listed fuel rest.length)

/-- The reader finds in the layout what the cells show. -/
theorem readTable_layout
    (legible : base.Legible corner)
    (some : 0 < table.estimateNumColumns) :
    base.readTable corner (table.layout fuel) = table.shows fuel := by
  obtain none | ⟨rest, last, rows⟩ := table.rows.eq_nil_or_concat'
  · simp [estimateNumColumns, none] at some
  · have listed : last ∈ table.rows := by simp [rows]
    rw [Style.readTable, Style.readLines,
      splitLines_layout regular framed sized fitted legible.frame rows some,
      readWidths_linesAbove regular framed sized fitted legible some
        (by simp [rows]),
      splitOnP_linesAbove regular framed sized fitted legible some listed,
      List.cons_append, List.tail_cons, List.dropLast_concat,
      List.map_map, shows]
    conv_rhs => rw [← List.zipIdx_map_fst 0 table.rows, List.map_map]
    refine List.map_congr_left fun entry member => ?_
    exact readCells_rowLines regular framed sized fitted legible some
      (List.fst_mem_of_mem_zipIdx member) entry.2

end Reading

/-- A row is high enough for the lines of its cells. -/
theorem lines_le_heightOf
    {table : TableInternal}
    {row : Row}
    {fuel : Nat}
    {entry : Cell × Nat}
    (member : entry ∈ row.cells.zipIdx) :
    (table.cellStyle row entry.1).paddingTop +
        (table.linesIn fuel row entry).length ≤
      table.heightOf fuel row := by
  have highest := le_largest (table.heightIn fuel row) member
  calc
    _ ≤ table.heightIn fuel row entry := Nat.le_add_right _ _
    _ ≤ largest (table.heightIn fuel row) row.cells.zipIdx := highest
    _ ≤ table.heightOf fuel row := Nat.le_max_right _ _

/-- A roomy table shows the ink of every text in its own cell. -/
theorem ink_showsRow
    {table : TableInternal}
    {row : Row}
    {fuel : Nat}
    (roomy : table.Roomy fuel)
    (listed : row ∈ table.rows)
    {entry : Cell × Nat}
    (member : entry ∈ row.cells.zipIdx) :
    ink (columnText (table.showsRow fuel row) entry.2) =
      ink entry.1.text := by
  have place : row.cells.zipIdx[entry.2]? = some entry := by
    have here : row.cells[entry.2]? = some entry.1 :=
      List.mk_mem_zipIdx_iff_getElem?.mp member
    simp [here]
  have column :
      columnText (table.showsRow fuel row) entry.2 =
        (List.range (table.heightOf fuel row)).flatMap
          (shownLine (table.cellStyle row entry.1)
            (table.linesIn fuel row entry)) := by
    simp [columnText, showsRow, List.flatMap_map, place]
  rw [column]
  exact (congrArg ink
    (flatMap_range_getElem? rfl _ (lines_le_heightOf member))).trans
    (roomy.ink_linesIn listed member)

end TableInternal

end IqosXapp.Tabulate
