import IqosXapp.Tabulate.KeptFormats

namespace IqosXapp.Tabulate

open KpmManager (Bytes literal)

/-!
# How far setters reach

A table, its rows and its cells hold formats; asking an inner part for its
format merges the outer ones in and keeps the result.  Behind that is a simple
rule: a setter reaches the values that nothing further inside has kept, and
asking keeps every value that is set.

The rule is stated on tables that hold nothing but the texts and formats of
their cells, and where these are kept.  The tables of the library follow it, in
all fields of a format that reach an uncoloured text.
-/

/-! ## The rule -/

/-- Where a value of a cell's format is kept, and where a setter is called. -/
inductive Level where
  | table
  | row
  | cell
  deriving Repr, DecidableEq

namespace Level

/-- A setter reaches values that are kept no further inside. -/
def reaches : Level → Level → Bool
  | .cell, _ => true
  | .row, .cell => false
  | .row, _ => true
  | .table, .table => true
  | .table, _ => false

/-- Where a value is kept once it was asked for; what is not set stays open. -/
def ask (asked kept : Level) (present : Bool) : Level :=
  if present && asked.reaches kept then asked else kept

/-- The innermost level that keeps a value. -/
def innermost (inCell inRow : Bool) : Level :=
  if inCell then .cell else if inRow then .row else .table

end Level

/-- A cell as the user of a table may think of it. -/
@[ext]
structure SeenCell where
  text : Bytes
  format : Format
  kept : Level
  keptWidth : Level
  keptHeight : Level
  deriving Repr, DecidableEq

namespace SeenCell

/-- A cell that follows its table in everything. -/
def fresh (format : Format) (text : Bytes) : SeenCell where
  text := text
  format := format
  kept := .table
  keptWidth := .table
  keptHeight := .table

/-- The part of a patch that reaches a cell. -/
def reached (cell : SeenCell) (setter : Level) (patch : Format) : Format :=
  { (if setter.reaches cell.kept then patch else Format.unset) with
    width := if setter.reaches cell.keptWidth then patch.width else none
    height := if setter.reaches cell.keptHeight then patch.height else none }

/-- Setters on the cell, its row or its table, which ask for the format. -/
def set (cell : SeenCell) (setter : Level) (patch : Format) : SeenCell :=
  let format := (cell.reached setter patch).merge cell.format
  { text := cell.text
    format := format
    kept := setter.ask cell.kept true
    keptWidth := setter.ask cell.keptWidth format.width.isSome
    keptHeight := setter.ask cell.keptHeight format.height.isSome }

end SeenCell

/--
A call to a table.  An index out of range is undefined behaviour; here it
changes nothing.  A call of `print` is one that returns.
-/
inductive TableCall where
  | addRow (cells : List Bytes)
  | setText (row column : Nat) (text : Bytes)
  | format (patch : Format)
  | formatRow (row : Nat) (patch : Format)
  | formatCell (row column : Nat) (patch : Format)
  | print
  deriving Repr, DecidableEq

/-- A table as its user may think of it. -/
@[ext]
structure SeenTable where
  format : Format
  complete : format.Complete
  rows : List (List SeenCell)

namespace SeenTable

/-- A new table. -/
def empty : SeenTable where
  format := Format.defaults
  complete := Format.complete_defaults
  rows := []

/-- What the user expects of a call. -/
def perform (table : SeenTable) : TableCall → SeenTable
  | .addRow cells =>
      { table with
        rows := table.rows ++ [cells.map (SeenCell.fresh table.format)] }
  | .setText row column text =>
      { table with
        rows := table.rows.modify row
          (·.modify column fun cell => { cell with text := text }) }
  | .format patch =>
      { format := patch.merge table.format
        complete := table.complete.merge patch
        rows := table.rows.map (·.map (·.set .table patch)) }
  | .formatRow row patch =>
      { table with
        rows := table.rows.modify row (·.map (·.set .row patch)) }
  | .formatCell row column patch =>
      { table with
        rows := table.rows.modify row fun cells =>
          (cells.map (·.set .row Format.unset)).modify column
            (·.set .cell patch) }
  | .print =>
      { table with
        rows := table.rows.map (·.map (·.set .cell Format.unset)) }

/-- A table whose cells hold the formats that their user sees. -/
def table (seen : SeenTable) : TableInternal where
  rows := seen.rows.map fun cells => {
    cells := cells.map fun cell => ⟨cell.text, some cell.format⟩
    format := none }
  format := seen.format
  complete := seen.complete

end SeenTable

/-! ## Values in three places -/

/-- A value that may be set in a cell, in its row and in its table. -/
structure Layers (α : Type) where
  cell : Option α
  row : Option α
  table : Option α

namespace Layers

variable
  {α : Type}

/-- The value that counts. -/
def value (layers : Layers α) : Option α :=
  layers.cell.or (layers.row.or layers.table)

/-- The innermost place where it is set. -/
def kept (layers : Layers α) : Level :=
  .innermost layers.cell.isSome layers.row.isSome

/-- Set the value somewhere; a row and a cell keep what they see first. -/
def set (layers : Layers α) (setter : Level) (patch : Option α) :
    Layers α :=
  match setter with
  | .table =>
      { layers with table := patch.or layers.table }
  | .row =>
      { layers with row := patch.or (layers.row.or layers.table) }
  | .cell =>
      { layers with
        row := layers.row.or layers.table
        cell := patch.or layers.value }

theorem value_set
    (layers : Layers α)
    (setter : Level)
    (patch : Option α) :
    (layers.set setter patch).value =
      (if setter.reaches layers.kept then patch else none).or
        layers.value := by
  rcases layers with ⟨cell, row, table⟩
  cases setter <;> cases cell <;> cases row <;> cases patch <;>
    cases table <;> rfl

theorem kept_set
    (layers : Layers α)
    (setter : Level)
    (patch : Option α) :
    (layers.set setter patch).kept =
      setter.ask layers.kept (layers.set setter patch).value.isSome := by
  rcases layers with ⟨cell, row, table⟩
  cases setter <;> cases cell <;> cases row <;> cases patch <;>
    cases table <;> rfl

end Layers

/-! ## Formats without their sizes -/

namespace Format

/-- The part of a format without its width and its height. -/
def unsized (format : Format) : Format :=
  { format with width := none, height := none }

theorem unsized_merge (first second : Format) :
    (first.merge second).unsized =
      first.unsized.merge second.unsized :=
  rfl

theorem Complete.unsized
    {format : Format}
    (complete : format.Complete) :
    format.unsized.Complete :=
  { complete with }

/-- Behind a complete format only the sizes of an outer one matter. -/
theorem Complete.unsized_merge
    {first : Format}
    (complete : first.Complete)
    (second : Format) :
    (first.merge second).unsized = first.unsized := by
  have same :
      first.unsized.merge second.unsized =
        first.unsized.merge first.unsized :=
    complete.unsized.merge_congr rfl rfl
  rw [Format.unsized_merge, same, merge_self]

/-- Formats that differ in nothing but their sizes, and not in these. -/
theorem eq_of_unsized
    {first second : Format}
    (same : first.unsized = second.unsized)
    (width : first.width = second.width)
    (height : first.height = second.height) :
    first = second := by
  rcases first with ⟨⟩
  rcases second with ⟨⟩
  simp only [unsized, mk.injEq] at *
  simp_all only [and_self]

end Format

/-! ## The formats around a cell -/

/-- The formats of a cell, of its row and of its table. -/
structure Around where
  cell : Option Format
  row : Option Format
  table : Format

namespace Around

/-- The format that the cell has. -/
def format (around : Around) : Format :=
  inherit around.cell (inherit around.row around.table)

/-- One value in the three formats. -/
def layers
    {α : Type}
    (around : Around)
    (field : Format → Option α) :
    Layers α where
  cell := around.cell.bind field
  row := around.row.bind field
  table := field around.table

/-- Where everything but the sizes is kept. -/
def kept (around : Around) : Level :=
  .innermost around.cell.isSome around.row.isSome

/-- Setters on the cell, its row or its table. -/
def set (around : Around) (setter : Level) (patch : Format) : Around :=
  match setter with
  | .table =>
      { around with table := patch.merge around.table }
  | .row =>
      { around with
        row := some (patch.merge (inherit around.row around.table)) }
  | .cell =>
      { around with
        row := some (inherit around.row around.table)
        cell := some (patch.merge around.format) }

/-- Formats that are kept have everything set but their sizes. -/
structure Settled (around : Around) : Prop where
  cell : ∀ own ∈ around.cell, own.Complete
  row : ∀ own ∈ around.row, own.Complete
  table : around.table.Complete

section Set

variable
  {around : Around}
  (setter : Level)
  (patch : Format)

theorem kept_set :
    (around.set setter patch).kept = setter.ask around.kept true := by
  rcases around with ⟨cell, row, table⟩
  cases setter <;> cases cell <;> cases row <;> rfl

/-- Formats that are kept hide what is set around them, but for sizes. -/
theorem unsized_inherit
    {own outer : Format}
    (complete : own.Complete) :
    (inherit (some own) outer).unsized = own.unsized :=
  complete.unsized_merge outer

/-- Setters on a row, as its cells see them. -/
theorem inherit_row_set :
    inherit (around.set .row patch).row around.table =
      patch.merge (inherit around.row around.table) := by
  have merged := inherit_merge around.row around.table
  rw [set, inherit, Format.merge_assoc, merged]

/-- Setters on a cell. -/
theorem format_set_cell :
    (around.set .cell patch).format = patch.merge around.format := by
  have row := inherit_merge around.row around.table
  have cell :=
    inherit_merge around.cell (inherit around.row around.table)
  calc
    (around.set .cell patch).format =
        (patch.merge around.format).merge
          ((inherit around.row around.table).merge around.table) := rfl
    _ = patch.merge
          (around.format.merge (inherit around.row around.table)) := by
      rw [row, Format.merge_assoc]
    _ = patch.merge around.format := by
      rw [format, cell]

/-- Up to the sizes, setters count where they reach. -/
theorem Settled.unsized_set (settled : around.Settled) :
    (around.set setter patch).format.unsized =
      if setter.reaches around.kept then
        (patch.merge around.format).unsized
      else
        around.format.unsized := by
  rcases around with ⟨cell, row, table⟩
  cases cell with
  | some own =>
      have hidden (outer : Format) :
          (inherit (some own) outer).unsized = own.unsized :=
        unsized_inherit (settled.cell own rfl)
      cases setter with
      | cell => exact congrArg Format.unsized (format_set_cell patch)
      | row => exact (hidden _).trans (hidden _).symm
      | table => exact (hidden _).trans (hidden _).symm
  | none =>
      cases row with
      | some own =>
          have hidden (outer : Format) :
              (inherit (some own) outer).unsized = own.unsized :=
            unsized_inherit (settled.row own rfl)
          cases setter with
          | cell => exact congrArg Format.unsized (format_set_cell patch)
          | row => exact congrArg Format.unsized (inherit_row_set patch)
          | table => exact (hidden _).trans (hidden _).symm
      | none =>
          cases setter with
          | cell => exact congrArg Format.unsized (format_set_cell patch)
          | row => exact congrArg Format.unsized (inherit_row_set patch)
          | table => rfl

/-! ### One value -/

section Field

variable
  {α : Type}
  {field : Format → Option α}
  (merges :
    ∀ first second,
      field (first.merge second) = (field first).or (field second))

include merges

theorem field_inherit
    (own : Option Format)
    (outer : Format) :
    field (inherit own outer) = (own.bind field).or (field outer) := by
  cases own with
  | none => rfl
  | some own => exact merges own outer

theorem value_layers :
    (around.layers field).value = field around.format := by
  rw [format, field_inherit merges, field_inherit merges]
  rfl

/-- Setters set each value alone. -/
theorem layers_set :
    (around.set setter patch).layers field =
      (around.layers field).set setter (field patch) := by
  have value : (around.layers field).value = field around.format :=
    value_layers merges
  have row := field_inherit merges around.row around.table
  cases setter with
  | table =>
      simp only [layers, set, Layers.set, merges]
  | row =>
      simp only [layers, set, Layers.set, Option.bind_some, merges, row]
  | cell =>
      simp only [layers, set, Layers.set, Option.bind_some, merges, row]
      rw [← value, layers]

end Field

end Set

end Around

/-! ## What the user of a table sees -/

namespace SeenCell

/-- A cell, from its text and the formats around it. -/
def of (text : Bytes) (around : Around) : SeenCell where
  text := text
  format := around.format
  kept := around.kept
  keptWidth := (around.layers (·.width)).kept
  keptHeight := (around.layers (·.height)).kept

section Set

variable
  {around : Around}
  (text : Bytes)
  (setter : Level)
  (patch : Format)

theorem unsized_reached (cell : SeenCell) :
    (cell.reached setter patch).unsized =
      if setter.reaches cell.kept then patch.unsized
      else Format.unset := by
  unfold reached
  split <;> rfl

/-- A setter gives a cell the format that its user expects. -/
theorem format_of_set (settled : around.Settled) :
    (around.set setter patch).format =
      ((of text around).reached setter patch).merge around.format := by
  have width :
      ((around.set setter patch).layers (·.width)).value =
        (around.set setter patch).format.width :=
    Around.value_layers fun _ _ => rfl
  have height :
      ((around.set setter patch).layers (·.height)).value =
        (around.set setter patch).format.height :=
    Around.value_layers fun _ _ => rfl
  rw [Around.layers_set _ _ fun _ _ => rfl, Layers.value_set,
    Around.value_layers fun _ _ => rfl] at width height
  have kept : (of text around).kept = around.kept := rfl
  refine Format.eq_of_unsized ?_ width.symm height.symm
  simp only [settled.unsized_set, Format.unsized_merge,
    unsized_reached, kept]
  split
  · rfl
  · exact (Format.unset_merge _).symm

/-- The rule holds of one setter. -/
theorem of_set (settled : around.Settled) :
    of text (around.set setter patch) =
      (of text around).set setter patch := by
  have format := format_of_set text setter patch settled
  have kept
      (field : Format → Option Nat)
      (merges :
        ∀ first second,
          field (first.merge second) = (field first).or (field second)) :
      ((around.set setter patch).layers field).kept =
        setter.ask (around.layers field).kept
          (field (((of text around).reached setter patch).merge
            around.format)).isSome := by
    rw [← format, ← Around.value_layers merges,
      Around.layers_set _ _ merges, Layers.kept_set]
  exact SeenCell.ext rfl format (around.kept_set setter patch)
    (kept (·.width) fun _ _ => rfl) (kept (·.height) fun _ _ => rfl)

end Set

end SeenCell

/-- Formats that are kept in a row have everything set but their sizes. -/
structure Row.Settled (row : Row) : Prop where
  format : ∀ own ∈ row.format, own.Complete
  cells : ∀ cell ∈ row.cells, ∀ own ∈ cell.format, own.Complete

namespace TableInternal

/-- Carry out a call. -/
def perform (table : TableInternal) : TableCall → TableInternal
  | .addRow cells => table.addRow cells
  | .setText row column text => table.setText row column text
  | .format patch => table.formatTable patch
  | .formatRow row patch => table.formatRow row patch
  | .formatCell row column patch => table.formatCell row column patch
  | .print => table.asked

/-- The formats around a cell of a table. -/
def around (table : TableInternal) (row : Row) (cell : Cell) : Around where
  cell := cell.format
  row := row.format
  table := table.format

/-- What the user sees of a row. -/
def seenRow (table : TableInternal) (row : Row) : List SeenCell :=
  row.cells.map fun cell => .of cell.text (table.around row cell)

/-- What the user sees of a table. -/
def seen (table : TableInternal) : SeenTable where
  format := table.format
  complete := table.complete
  rows := table.rows.map table.seenRow

section Seen

variable
  {table : TableInternal}
  {row : Row}
  (patch : Format)

theorem settled_around
    {cell : Cell}
    (settled : row.Settled)
    (member : cell ∈ row.cells) :
    (table.around row cell).Settled :=
  ⟨settled.cells cell member, settled.format, table.complete⟩

/-! ### Rows -/

/-- Setters around the cells of a row, as the user sees them. -/
theorem seenRow_of_set
    {later : TableInternal}
    {changed : Row}
    {setter : Level}
    (settled : row.Settled)
    (cells : changed.cells = row.cells)
    (around :
      ∀ cell ∈ row.cells,
        later.around changed cell =
          (table.around row cell).set setter patch) :
    later.seenRow changed =
      (table.seenRow row).map (·.set setter patch) := by
  rw [seenRow, seenRow, List.map_map, cells]
  refine List.map_congr_left fun cell member => ?_
  rw [around cell member]
  exact SeenCell.of_set cell.text setter patch
    (settled_around settled member)

theorem seenRow_formatTable (settled : row.Settled) :
    (table.formatTable patch).seenRow row =
      (table.seenRow row).map (·.set .table patch) :=
  seenRow_of_set patch settled rfl fun _ _ => rfl

theorem seenRow_patchRow (settled : row.Settled) :
    table.seenRow (table.patchRow patch row) =
      (table.seenRow row).map (·.set .row patch) :=
  seenRow_of_set patch settled rfl fun _ _ => rfl

theorem settled_patchRow (settled : row.Settled) :
    (table.patchRow patch row).Settled where
  format := by
    rintro own ⟨⟩
    exact (table.complete.inherit row.format).merge patch
  cells := settled.cells

/-- A row that was asked for its format answers the same again. -/
theorem rowFormat_patchRow_unset :
    table.rowFormat (table.patchRow Format.unset row) =
      table.rowFormat row := by
  rw [rowFormat, patchRow, inherit, Format.unset_merge]
  exact table.rowFormat_merge row

/-- Setters on a cell of a row. -/
theorem seenRow_patchCell
    (settled : row.Settled)
    (column : Nat) :
    let asked := table.patchRow Format.unset row
    table.seenRow
        { asked with
          cells := asked.cells.modify column
            (table.patchCell asked patch) } =
      ((table.seenRow row).map (·.set .row Format.unset)).modify column
        (·.set .cell patch) := by
  intro asked
  have kept : asked.format = some (table.rowFormat asked) := by
    rw [rowFormat_patchRow_unset]
    exact congrArg some (Format.unset_merge _)
  have later : asked.Settled := settled_patchRow Format.unset settled
  rw [← seenRow_patchRow Format.unset settled]
  refine map_modify_of_commutes (fun cell member => ?_) column
  have around :
      table.around asked (table.patchCell asked patch cell) =
        (table.around asked cell).set .cell patch :=
    congrArg (Around.mk _ · _) kept
  change SeenCell.of cell.text
    (table.around asked (table.patchCell asked patch cell)) = _
  rw [around]
  exact SeenCell.of_set cell.text .cell patch
    (settled_around later member)

theorem settled_patchCell
    (settled : row.Settled)
    (column : Nat) :
    let asked := table.patchRow Format.unset row
    Row.Settled
      { asked with
        cells := asked.cells.modify column
          (table.patchCell asked patch) } where
  format := (settled_patchRow Format.unset settled).format
  cells := by
    intro cell member own present
    rcases mem_modify_cases member with same | ⟨before, _, rfl⟩
    · exact settled.cells cell same own present
    · obtain rfl := Option.some.inj present
      exact (table.complete_cellFormat _ before).merge patch

/-- A row that is printed. -/
theorem seenRow_askRow (settled : row.Settled) :
    table.asked.seenRow (table.askRow row) =
      (table.seenRow row).map (·.set .cell Format.unset) := by
  rw [seenRow, seenRow, List.map_map]
  unfold askRow
  rw [List.map_map]
  refine List.map_congr_left fun cell member => ?_
  have nonempty : row.cells ≠ [] := List.ne_nil_of_mem member
  have around :
      table.asked.around (table.askRow row)
          { cell with format := some (table.cellFormat row cell) } =
        (table.around row cell).set .cell Format.unset := by
    have kept :
        (table.askRow row).format = some (table.rowFormat row) :=
      if_neg nonempty
    simp only [TableInternal.around, kept, Around.set, Format.unset_merge]
    rfl
  exact (congrArg (SeenCell.of cell.text) around).trans
    (SeenCell.of_set cell.text .cell Format.unset
      (settled_around settled member))

theorem settled_askRow (settled : row.Settled) :
    (table.askRow row).Settled where
  format := by
    intro own present
    unfold askRow at present
    split at present
    · exact settled.format own present
    · obtain rfl := Option.some.inj present
      exact table.complete.inherit row.format
  cells := by
    intro cell member own present
    obtain ⟨before, _, rfl⟩ := List.mem_map.mp member
    obtain rfl := Option.some.inj present
    exact table.complete_cellFormat row before

theorem seenRow_setText
    (column : Nat)
    (text : Bytes) :
    table.seenRow
        { row with
          cells := row.cells.modify column fun cell =>
            { cell with text := text } } =
      (table.seenRow row).modify column fun cell =>
        { cell with text := text } := by
  unfold seenRow
  refine map_modify_of_commutes (fun cell _ => ?_) column
  rfl

theorem settled_setText
    (settled : row.Settled)
    (column : Nat)
    (text : Bytes) :
    Row.Settled
      { row with
        cells := row.cells.modify column fun cell =>
          { cell with text := text } } where
  format := settled.format
  cells := by
    intro cell member own present
    rcases mem_modify_cases member with same | ⟨before, there, rfl⟩
    · exact settled.cells cell same own present
    · exact settled.cells before there own present

/-! ### Calls -/

/-- Every row of the table is settled. -/
def Settled (table : TableInternal) : Prop :=
  ∀ row ∈ table.rows, row.Settled

/-- A changed row, among settled ones. -/
theorem settled_modify
    {change : Row → Row}
    (settled : table.Settled)
    (changed : ∀ row ∈ table.rows, (change row).Settled)
    (index : Nat) :
    ∀ row ∈ table.rows.modify index change, row.Settled := by
  intro row member
  rcases mem_modify_cases member with same | ⟨before, there, rfl⟩
  · exact settled row same
  · exact changed before there

/-- What is kept by a call has everything set but its sizes. -/
theorem Settled.perform
    (settled : table.Settled)
    (call : TableCall) :
    (table.perform call).Settled := by
  cases call with
  | addRow cells =>
      intro row member
      rcases List.mem_append.mp member with same | new
      · exact settled row same
      · rw [List.mem_singleton.mp new]
        refine ⟨fun own present => ?_, fun cell inside own present => ?_⟩
        · cases present
        · obtain ⟨text, _, rfl⟩ := List.mem_map.mp inside
          cases present
  | setText row column text =>
      refine settled_modify settled (fun before there => ?_) row
      exact settled_setText (settled before there) column text
  | format patch =>
      exact settled
  | formatRow row patch =>
      refine settled_modify settled (fun before there => ?_) row
      exact settled_patchRow patch (settled before there)
  | formatCell row column patch =>
      refine settled_modify settled (fun before there => ?_) row
      exact settled_patchCell patch (settled before there) column
  | print =>
      intro row member
      obtain ⟨before, there, rfl⟩ := List.mem_map.mp member
      exact settled_askRow (settled before there)

/-- Every call does to a table what its user expects. -/
theorem seen_perform
    (settled : table.Settled)
    (call : TableCall) :
    (table.perform call).seen = table.seen.perform call := by
  cases call with
  | addRow cells =>
      refine SeenTable.ext rfl ?_
      have new :
          table.seenRow {
              cells := cells.map fun text => ⟨text, none⟩
              format := none } =
            cells.map (SeenCell.fresh table.format) := by
        rw [seenRow, List.map_map]
        rfl
      exact List.map_append.trans
        (congrArg (fun row => table.rows.map table.seenRow ++ [row]) new)
  | setText row column text =>
      refine SeenTable.ext rfl ?_
      refine map_modify_of_commutes (fun before _ => ?_) row
      exact seenRow_setText column text
  | format patch =>
      refine SeenTable.ext rfl ?_
      have rows :
          table.rows.map (table.formatTable patch).seenRow =
            table.rows.map fun row =>
              (table.seenRow row).map (·.set .table patch) :=
        List.map_congr_left fun row listed =>
          seenRow_formatTable patch (settled row listed)
      exact rows.trans List.map_map.symm
  | formatRow row patch =>
      refine SeenTable.ext rfl ?_
      refine map_modify_of_commutes (fun before there => ?_) row
      exact seenRow_patchRow patch (settled before there)
  | formatCell row column patch =>
      refine SeenTable.ext rfl ?_
      refine map_modify_of_commutes (fun before there => ?_) row
      exact seenRow_patchCell patch (settled before there) column
  | print =>
      refine SeenTable.ext rfl ?_
      have rows :
          (table.rows.map fun row =>
              table.asked.seenRow (table.askRow row)) =
            table.rows.map fun row =>
              (table.seenRow row).map (·.set .cell Format.unset) :=
        List.map_congr_left fun row listed =>
          seenRow_askRow (settled row listed)
      exact List.map_map.trans (rows.trans List.map_map.symm)

/-- So does every sequence of calls. -/
theorem seen_foldl
    (settled : table.Settled)
    (calls : List TableCall) :
    (calls.foldl perform table).seen =
      calls.foldl SeenTable.perform table.seen := by
  induction calls generalizing table with
  | nil =>
      rfl
  | cons call rest inductionHypothesis =>
      rw [List.foldl_cons, List.foldl_cons, ← seen_perform settled call]
      exact inductionHypothesis (settled.perform call)

/-- A cell has merged everything of its table in. -/
theorem cellFormat_merge_table
    (table : TableInternal)
    (row : Row)
    (cell : Cell) :
    (table.cellFormat row cell).merge table.format =
      table.cellFormat row cell := by
  rw [← table.cellFormat_merge row cell, Format.merge_assoc,
    table.rowFormat_merge row]

/-- What the user sees of a table is all that is printed of it. -/
theorem print_seen
    (table : TableInternal)
    (fuel : Nat) :
    table.seen.table.print fuel = table.print fuel := by
  refine print_congr ?_ fuel
  rw [styled, styled, seen, SeenTable.table, List.map_map, List.map_map]
  refine List.map_congr_left fun row _ => ?_
  simp only [Function.comp_apply, styledRow, seenRow, List.map_map]
  refine List.map_congr_left fun cell _ => ?_
  refine Prod.ext (cellStyle_congr ?_) rfl
  exact table.cellFormat_merge_table row cell

/--
Whatever is called on a new table, in whatever order, it shows what the rule
says, and prints that.
-/
theorem perform_refines (calls : List TableCall) :
    (calls.foldl perform create).seen =
        calls.foldl SeenTable.perform .empty ∧
      ∀ fuel,
        (calls.foldl perform create).print fuel =
          (calls.foldl SeenTable.perform .empty).table.print fuel := by
  have settled : create.Settled := by
    intro row member
    cases member
  have shown := seen_foldl settled calls
  refine ⟨shown, fun fuel => ?_⟩
  rw [← print_seen, shown]
  rfl

/-- A row with setters of its own does not follow its table any more. -/
example :
    let calls := [
      .addRow [literal "node"],
      .formatRow 0 { Format.unset with fontAlign := some .center },
      .format { Format.unset with borderTop := some (literal "=") }]
    (calls.foldl SeenTable.perform .empty).rows.map
        (·.map (·.format.borderTop)) =
      [[some (literal "-")]] := by
  decide

end Seen

end TableInternal

end IqosXapp.Tabulate
