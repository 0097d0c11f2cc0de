import IqosXapp.Tabulate.Printer
import IqosXapp.Transition.System

namespace IqosXapp.Tabulate

open KpmManager (Bytes literal)
open Relation Transition

/-!
# Formats that printing keeps

Printing asks every cell for its format, and the cell and its row keep what they
answer.  A setter on the format of the table or of a row that comes later finds
everything set, except for a width or a height that was left open: it changes
nothing of what is printed from then on.

This is about the text that is printed.  Font styles, which are joined and not
kept, still reach a cell that was printed, as colours would not.
-/

/-! ## Printing depends on the styles and the texts -/

/-- Loops over lists that show the same, with turns that depend on it. -/
theorem mapM_congr
    {α β γ δ Fault : Type}
    {first : List α}
    {second : List β}
    {shown : α → γ}
    {alike : β → γ}
    {body : α → Except Fault δ}
    {other : β → Except Fault δ}
    (same : first.map shown = second.map alike)
    (turns :
      ∀ element later,
        shown element = alike later → body element = other later) :
    first.mapM body = second.mapM other := by
  induction first generalizing second with
  | nil =>
      obtain rfl := List.map_eq_nil_iff.mp same.symm
      rfl
  | cons element rest inductionHypothesis =>
      obtain ⟨later, behind, rfl, head, tail⟩ :=
        List.map_eq_cons_iff.mp same.symm
      rw [List.mapM_cons, List.mapM_cons,
        turns element later head.symm, inductionHypothesis tail.symm]

/-- Reading an element of two lists that show the same. -/
theorem element_congr
    {α β γ : Type}
    {first : List α}
    {second : List β}
    {shown : α → γ}
    {alike : β → γ}
    (same : first.map shown = second.map alike)
    (array : String)
    (index : Nat) :
    (element first array index).map shown =
      (element second array index).map alike := by
  have here := congrArg (fun elements => elements[index]?) same
  simp only [List.getElem?_map] at here
  unfold element
  cases before : first[index]? <;> cases after : second[index]? <;>
    simp_all [Except.map]

namespace TableInternal

/-- The styles and the texts of a row. -/
def styledRow (table : TableInternal) (row : Row) : List (Style × Bytes) :=
  row.cells.map fun cell => (table.cellStyle row cell, cell.text)

/-- The styles and the texts of a table. -/
def styled (table : TableInternal) : List (List (Style × Bytes)) :=
  table.rows.map table.styledRow

section Congruence

variable
  {table other : TableInternal}
  {row later : Row}

theorem numColumns_congr (same : table.styled = other.styled) :
    table.estimateNumColumns = other.estimateNumColumns := by
  have first := congrArg (fun rows => rows.head?.map List.length) same
  simp only [styled, List.head?_map] at first
  unfold estimateNumColumns
  cases before : table.rows <;> cases after : other.rows <;>
    simp_all [styledRow]

theorem column_congr
    (same : table.styled = other.styled)
    (index : Nat) :
    table.column index = other.column index := by
  refine mapM_congr same fun row later alike => ?_
  exact element_congr alike "cells_" index

theorem columnWidth_congr
    (same : table.styled = other.styled)
    (index : Nat) :
    table.columnWidth index = other.columnWidth index := by
  rw [columnWidth, columnWidth, column_congr same]

theorem rowHeight_congr
    (same : table.styledRow row = other.styledRow later)
    (fuel : Nat)
    (columnWidths : List Nat) :
    table.rowHeight fuel columnWidths row =
      other.rowHeight fuel columnWidths later := by
  have configured
      (table : TableInternal)
      (row : Row) :
      table.getConfiguredHeight row =
        (table.styledRow row).foldl
          (fun result cell => cell.1.height.elim result (max result))
          0 := by
    rw [getConfiguredHeight, styledRow, List.foldl_map]
    congr 1
    funext result cell
    cases (table.cellStyle row cell).height <;> rfl
  have computed
      (table : TableInternal)
      (row : Row) :
      table.getComputedHeight fuel row columnWidths =
        (table.styledRow row).zipIdx.foldlM
          (fun result entry => do
            let columnWidth ←
              element columnWidths "column_widths" entry.2
            let height ←
              getCellHeight fuel entry.1.1 entry.1.2 columnWidth
            pure (max result height))
          0 := by
    rw [getComputedHeight, styledRow, List.zipIdx_map, List.foldlM_map]
    rfl
  rw [rowHeight, rowHeight, configured, configured, computed, computed,
    same]

theorem rowViews_congr
    (same : table.styledRow row = other.styledRow later)
    (fuel : Nat)
    (columnWidths : List Nat)
    (index : Nat) :
    table.rowViews fuel columnWidths (row, index) =
      other.rowViews fuel columnWidths (later, index) := by
  have viewed
      (table : TableInternal)
      (row : Row)
      (width : Nat × Nat) :
      (do
        let cell ← element row.cells "cells_" width.2
        let style := table.cellStyle row cell
        let lines ← splittedCellText fuel style cell.text width.1
        pure {
          row := index
          column := width.2
          columnWidth := width.1
          style := style
          lines := lines : CellView }) =
        (do
          let cell ←
            (element row.cells "cells_" width.2).map fun cell =>
              (table.cellStyle row cell, cell.text)
          let lines ← splittedCellText fuel cell.1 cell.2 width.1
          pure {
            row := index
            column := width.2
            columnWidth := width.1
            style := cell.1
            lines := lines : CellView }) := by
    cases element row.cells "cells_" width.2 <;> rfl
  unfold rowViews
  refine congrArg (List.mapM · columnWidths.zipIdx)
    (funext fun width => ?_)
  rw [viewed table row, viewed other later,
    element_congr same "cells_" width.2]

/-- Tables of the same styles and texts are printed the same. -/
theorem print_congr
    (same : table.styled = other.styled)
    (fuel : Nat) :
    table.print fuel = other.print fuel := by
  have columns :
      (List.range table.estimateNumColumns).mapM table.columnWidth =
        (List.range other.estimateNumColumns).mapM other.columnWidth := by
    rw [numColumns_congr same, funext (columnWidth_congr same)]
  have heights (columnWidths : List Nat) :
      table.rows.mapM (table.rowHeight fuel columnWidths) =
        other.rows.mapM (other.rowHeight fuel columnWidths) :=
    mapM_congr same fun _ _ alike =>
      rowHeight_congr alike fuel columnWidths
  have views (columnWidths : List Nat) :
      table.rows.zipIdx.mapM (table.rowViews fuel columnWidths) =
        other.rows.zipIdx.mapM (other.rowViews fuel columnWidths) := by
    have positions :
        table.rows.zipIdx.map (Prod.map table.styledRow id) =
          other.rows.zipIdx.map (Prod.map other.styledRow id) := by
      rw [← List.zipIdx_map, ← List.zipIdx_map]
      exact congrArg List.zipIdx same
    refine mapM_congr positions fun entry later alike => ?_
    obtain ⟨row, index⟩ := entry
    obtain ⟨row', index'⟩ := later
    obtain ⟨rows, rfl⟩ := Prod.mk.inj alike
    exact rowViews_congr rows fuel columnWidths index
  have length : table.rows.length = other.rows.length := by
    simpa [styled] using congrArg List.length same
  simp only [print, columns, heights, views, length]

end Congruence

/-! ## What printing leaves behind -/

/-- A row of which every cell was asked for its format. -/
def askRow (table : TableInternal) (row : Row) : Row where
  cells := row.cells.map fun cell =>
    { cell with format := some (table.cellFormat row cell) }
  format :=
    if row.cells = [] then row.format else some (table.rowFormat row)

/-- The table behind `print_table`, if that returns. -/
def asked (table : TableInternal) : TableInternal :=
  { table with rows := table.rows.map table.askRow }

/-- A format that sets no sizes; every other field may be set. -/
structure Sizeless (patch : Format) : Prop where
  width : patch.width = none
  height : patch.height = none

/-- Printing, and setters that set no sizes. -/
inductive Step : TableInternal → TableInternal → Prop where
  | print (table : TableInternal) :
      Step table table.asked
  | format
      (table : TableInternal)
      {patch : Format}
      (sizeless : Sizeless patch) :
      Step table (table.formatTable patch)
  | formatRow
      (table : TableInternal)
      (index : Nat)
      {patch : Format}
      (sizeless : Sizeless patch) :
      Step table (table.formatRow index patch)

/-- A printed table, and everything that steps make of it. -/
def printed (table : TableInternal) : System TableInternal where
  initial first := first = table.asked
  step := Step

/-- Every cell has kept its format. -/
def Kept (table : TableInternal) : Prop :=
  ∀ row ∈ table.rows, ∀ cell ∈ row.cells,
    cell.format = some (table.cellFormat row cell)

section Kept

variable
  {table other : TableInternal}
  {row later : Row}
  {patch : Format}

theorem rowFormat_merge (table : TableInternal) (row : Row) :
    (table.rowFormat row).merge table.format = table.rowFormat row :=
  inherit_merge row.format table.format

theorem cellFormat_merge
    (table : TableInternal)
    (row : Row)
    (cell : Cell) :
    (table.cellFormat row cell).merge (table.rowFormat row) =
      table.cellFormat row cell :=
  inherit_merge cell.format (table.rowFormat row)

/-- A kept format stays when its row changes in no sizes. -/
theorem cellFormat_of_kept
    {cell : Cell}
    (kept : cell.format = some (table.cellFormat row cell))
    (width :
      (other.rowFormat later).width = (table.rowFormat row).width)
    (height :
      (other.rowFormat later).height = (table.rowFormat row).height) :
    other.cellFormat later cell = table.cellFormat row cell := by
  have complete := table.complete_cellFormat row cell
  calc
    other.cellFormat later cell =
        (table.cellFormat row cell).merge (other.rowFormat later) := by
      rw [cellFormat, kept, inherit]
    _ = (table.cellFormat row cell).merge (table.rowFormat row) :=
      complete.merge_congr width height
    _ = table.cellFormat row cell :=
      table.cellFormat_merge row cell

/-- The style of a cell is what its format says. -/
theorem cellStyle_congr
    {cell same : Cell}
    (formats : other.cellFormat later same = table.cellFormat row cell) :
    other.cellStyle later same = table.cellStyle row cell := by
  unfold cellStyle
  congr 1

/-- Cells that keep their formats have the styles that they had. -/
theorem styledRow_of_kept
    (kept :
      ∀ cell ∈ row.cells, cell.format = some (table.cellFormat row cell))
    (cells : later.cells = row.cells)
    (width :
      (other.rowFormat later).width = (table.rowFormat row).width)
    (height :
      (other.rowFormat later).height = (table.rowFormat row).height) :
    other.styledRow later = table.styledRow row := by
  rw [styledRow, styledRow, cells]
  refine List.map_congr_left fun cell member => ?_
  rw [cellStyle_congr (cellFormat_of_kept (kept cell member) width height)]

/-- Behind the question, a cell has the format that it answered. -/
theorem cellFormat_asked
    {cell : Cell}
    (member : cell ∈ row.cells) :
    table.asked.cellFormat (table.askRow row)
        { cell with format := some (table.cellFormat row cell) } =
      table.cellFormat row cell := by
  have some : row.cells ≠ [] := List.ne_nil_of_mem member
  have rowFormat :
      table.asked.rowFormat (table.askRow row) = table.rowFormat row := by
    simp only [TableInternal.rowFormat, asked, askRow, if_neg some, inherit]
    exact table.rowFormat_merge row
  rw [cellFormat, rowFormat]
  exact table.cellFormat_merge row cell

/-- Asking for the formats changes no style. -/
theorem styled_asked (table : TableInternal) :
    table.asked.styled = table.styled := by
  rw [styled, styled, asked, List.map_map]
  refine List.map_congr_left fun row _ => ?_
  rw [Function.comp_apply, styledRow, styledRow, askRow, List.map_map]
  refine List.map_congr_left fun cell member => ?_
  exact Prod.ext (cellStyle_congr (cellFormat_asked member)) rfl

theorem kept_asked (table : TableInternal) : table.asked.Kept := by
  intro row listed cell member
  obtain ⟨before, _, rfl⟩ := List.mem_map.mp listed
  obtain ⟨own, inside, rfl⟩ := List.mem_map.mp member
  rw [cellFormat_asked inside]

/-! ## Steps behind a printed table -/

/-- What stands in a list of which one element was changed. -/
theorem mem_modify_cases
    {α : Type}
    {elements : List α}
    {index : Nat}
    {change : α → α}
    {element : α}
    (member : element ∈ elements.modify index change) :
    element ∈ elements ∨ ∃ before ∈ elements, element = change before := by
  obtain ⟨place, here⟩ := List.mem_iff_getElem?.mp member
  rw [List.getElem?_modify] at here
  obtain ⟨before, there, same⟩ := Option.map_eq_some_iff.mp here
  have present := List.mem_of_getElem? there
  split at same
  · exact .inr ⟨before, present, same.symm⟩
  · exact .inl (same ▸ present)

/-- A change that shows as another one. -/
theorem map_modify_of_commutes
    {α β : Type}
    {elements : List α}
    {change : α → α}
    {shown : α → β}
    {later : β → β}
    (commutes :
      ∀ element ∈ elements, shown (change element) = later (shown element))
    (index : Nat) :
    (elements.modify index change).map shown =
      (elements.map shown).modify index later := by
  refine List.ext_getElem? fun place => ?_
  simp only [List.getElem?_map, List.getElem?_modify]
  cases here : elements[place]? with
  | none => rfl
  | some element =>
      have shows := commutes element (List.mem_of_getElem? here)
      by_cases there : index = place
      · simpa [there] using shows
      · simp [there]

/-- A change that does not show. -/
theorem map_modify_of_same
    {α β : Type}
    {elements : List α}
    {change : α → α}
    {shown : α → β}
    (same : ∀ element ∈ elements, shown (change element) = shown element)
    (index : Nat) :
    (elements.modify index change).map shown = elements.map shown := by
  have commuted :
      (elements.modify index change).map shown =
        (elements.map shown).modify index id :=
    map_modify_of_commutes same index
  rw [commuted, List.modify_id]

/-- Setters on the table leave kept formats and their styles alone. -/
theorem formatTable_of_kept
    (kept : table.Kept)
    (sizeless : Sizeless patch) :
    (table.formatTable patch).Kept ∧
      (table.formatTable patch).styled = table.styled := by
  have sizes (row : Row) :
      ((table.formatTable patch).rowFormat row).width =
          (table.rowFormat row).width ∧
        ((table.formatTable patch).rowFormat row).height =
          (table.rowFormat row).height := by
    unfold rowFormat inherit formatTable
    cases row.format <;>
      simp [Format.merge, sizeless.width, sizeless.height]
  constructor
  · intro row listed cell member
    have own := kept row listed cell member
    rw [cellFormat_of_kept own (sizes row).1 (sizes row).2]
    exact own
  · refine List.map_congr_left fun row listed => ?_
    exact styledRow_of_kept (kept row listed) rfl (sizes row).1
      (sizes row).2

/-- So do setters on a row. -/
theorem formatRow_of_kept
    (kept : table.Kept)
    (sizeless : Sizeless patch)
    (index : Nat) :
    (table.formatRow index patch).Kept ∧
      (table.formatRow index patch).styled = table.styled := by
  have sizes (row : Row) :
      (table.rowFormat (table.patchRow patch row)).width =
          (table.rowFormat row).width ∧
        (table.rowFormat (table.patchRow patch row)).height =
          (table.rowFormat row).height := by
    have merged := table.rowFormat_merge row
    constructor
    · calc
        (table.rowFormat (table.patchRow patch row)).width =
            ((table.rowFormat row).merge table.format).width := by
          simp [rowFormat, patchRow, inherit, Format.merge,
            sizeless.width]
        _ = (table.rowFormat row).width := by rw [merged]
    · calc
        (table.rowFormat (table.patchRow patch row)).height =
            ((table.rowFormat row).merge table.format).height := by
          simp [rowFormat, patchRow, inherit, Format.merge,
            sizeless.height]
        _ = (table.rowFormat row).height := by rw [merged]
  constructor
  · intro row listed cell member
    rcases mem_modify_cases listed with same | ⟨before, there, rfl⟩
    · exact kept row same cell member
    · have own := kept before there cell member
      exact own.trans (congrArg some
        (cellFormat_of_kept own (sizes before).1 (sizes before).2).symm)
  · refine map_modify_of_same (fun row listed => ?_) index
    exact styledRow_of_kept (kept row listed) rfl (sizes row).1
      (sizes row).2

/-- Behind a print, every cell keeps its format and its style. -/
theorem printed_inductive (table : TableInternal) :
    table.printed.Inductive fun next =>
      next.Kept ∧ next.styled = table.styled where
  initially := by
    rintro next rfl
    exact ⟨kept_asked table, styled_asked table⟩
  preserved := by
    rintro before next ⟨kept, same⟩ step
    cases step with
    | print =>
        exact ⟨kept_asked before, (styled_asked before).trans same⟩
    | format sizeless =>
        obtain ⟨later, alike⟩ := formatTable_of_kept kept sizeless
        exact ⟨later, alike.trans same⟩
    | formatRow index sizeless =>
        obtain ⟨later, alike⟩ := formatRow_of_kept kept sizeless index
        exact ⟨later, alike.trans same⟩

/--
Once a table was printed, it is printed the same for ever: no setters on the
format of the table or of a row change it, in any order and with any prints in
between, unless they set a width or a height.
-/
theorem print_printed
    {next : TableInternal}
    (reachable : table.printed.Reachable next)
    (fuel : Nat) :
    next.print fuel = table.print fuel :=
  print_congr (table.printed_inductive.holds reachable).2 fuel

/--
A top border that is set for the table behind the first print, and a left one
for the second row behind the next print.
-/
theorem print_printed_borderTop :
    let table :=
      (create.addRow [literal "node", literal "id"]).addRow
        [literal "gNB", literal "7"]
    let top := { Format.unset with borderTop := some (literal "=") }
    let left := { Format.unset with borderLeft := some (literal "!") }
    ((table.asked.formatTable top).asked.formatRow 1 left).print 9 =
      table.print 9 :=
  print_printed
    ((System.Reachable.of_initial rfl).run
      (((ReflTransGen.single (.format _ ⟨rfl, rfl⟩)).tail (.print _)).tail
        (.formatRow _ 1 ⟨rfl, rfl⟩))) 9

end Kept

end TableInternal

end IqosXapp.Tabulate
