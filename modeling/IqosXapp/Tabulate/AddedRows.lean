import Mathlib.Order.MinMax
import IqosXapp.Tabulate.Table

namespace IqosXapp.Tabulate

open KpmManager (Bytes literal)

/-!
# Tables built row by row

The first row that is added says how many columns a table has.  A later row
with fewer cells is filled up, but one with more keeps all of them, and the
printer then reads widths that are not there.
-/

namespace TableInternal

variable
  {table : TableInternal}
  {fuel : Nat}

/-- A row with too many cells makes the printer read a width too many. -/
theorem print_of_long
    (filled : table.Filled)
    (wraps : table.Wraps fuel)
    (long :
      ∃ row ∈ table.rows,
        table.estimateNumColumns < row.cells.length) :
    table.print fuel =
      .error (.undefinedIndex "column_widths"
        table.estimateNumColumns) := by
  have columnWidths := columnWidths_of_filled filled
  have rowHeights :
      table.rows.mapM (table.rowHeight fuel table.widths) =
        .error (.undefinedIndex "column_widths"
          table.estimateNumColumns) := by
    refine mapM_error (fun row listed => ?_) ?_
    · rcases (filled row listed).eq_or_lt with exactly | longer
      · exact .inl ⟨_, rowHeight_of_wraps wraps listed exactly.symm⟩
      · exact .inr (rowHeight_of_long wraps listed longer)
    · obtain ⟨row, listed, longer⟩ := long
      exact ⟨row, listed, rowHeight_of_long wraps listed longer⟩
  simp only [print, columnWidths, rowHeights, bind, Except.bind]

/-- A filled table is printed exactly when no row has too many cells. -/
theorem print_iff_of_filled
    (filled : table.Filled)
    (wraps : table.Wraps fuel) :
    (∃ text, table.print fuel = .ok text) ↔
      ∀ row ∈ table.rows,
        row.cells.length ≤ table.estimateNumColumns := by
  constructor
  · rintro ⟨text, printed⟩ row listed
    by_contra long
    rw [print_of_long filled wraps ⟨row, listed, Nat.lt_of_not_le long⟩]
      at printed
    cases printed
  · intro short
    have regular : table.Regular := fun row listed =>
      Nat.le_antisymm (short row listed) (filled row listed)
    exact ⟨_, print_of_wraps regular wraps⟩

end TableInternal

namespace Table

/-- Rows of texts, added one after the other. -/
def addRows (table : Table) (fuel : Nat) (rows : List (List Bytes)) :
    Except PrintFault Table :=
  rows.foldlM (fun table texts => table.addRow fuel (texts.map .text)) table

/-- A row of texts, filled up to a number of columns. -/
def fillUp (cols : Nat) (texts : List Bytes) : List Bytes :=
  texts ++ List.replicate (cols - texts.length) []

theorem length_fillUp (cols : Nat) (texts : List Bytes) :
    (fillUp cols texts).length = max cols texts.length := by
  rw [fillUp, List.length_append, List.length_replicate]
  omega

/-- Rows behind the first one are filled up to its number of columns. -/
theorem addRows_behind
    {table : Table}
    (some : 0 < table.rows)
    (fuel : Nat)
    (rest : List (List Bytes)) :
    table.addRows fuel rest =
      .ok {
        table := {
          table.table with
          rows :=
            table.table.rows ++
              rest.map fun texts => textRow (fillUp table.cols texts) }
        rows := table.rows + rest.length
        cols := table.cols } := by
  induction rest generalizing table with
  | nil =>
      simp [addRows, pure, Except.pure]
  | cons texts later inductionHypothesis =>
      have added := addRow_texts table fuel texts
      rw [if_neg some.ne'] at added
      rw [addRows, List.foldlM_cons, added]
      refine (inductionHypothesis (Nat.succ_pos _)).trans ?_
      simp [TableInternal.addRow, fillUp, textRow, Nat.add_comm,
        Nat.add_left_comm]

end Table

/-- The table that rows of texts make, with a format of its own. -/
def filledTable
    (patch : Format)
    (first : List Bytes)
    (rest : List (List Bytes)) :
    TableInternal where
  rows :=
    textRow first ::
      rest.map fun texts => textRow (Table.fillUp first.length texts)
  format := patch.merge Format.defaults
  complete := Format.complete_defaults.merge patch

/-- Adding the rows and setting the format makes that table. -/
theorem addRows_filledTable
    (patch : Format)
    (first : List Bytes)
    (rest : List (List Bytes))
    (fuel : Nat) :
    ∃ table,
      Table.new.addRows fuel (first :: rest) = .ok table ∧
        (table.format patch).table = filledTable patch first rest := by
  have added :
      Table.new.addRow fuel (first.map .text) =
        .ok ⟨TableInternal.create.addRow first, 1, first.length⟩ := by
    simp [Table.addRow_texts, Table.new]
  have run :
      Table.new.addRows fuel (first :: rest) =
        Table.addRows
          ⟨TableInternal.create.addRow first, 1, first.length⟩ fuel
          rest := by
    rw [Table.addRows, List.foldlM_cons, added]
    rfl
  exact ⟨_, run.trans (Table.addRows_behind Nat.one_pos fuel rest), by
    simp [Table.format, TableInternal.formatTable, filledTable,
      TableInternal.addRow, TableInternal.create, textRow]⟩

section Filled

variable
  {patch : Format}
  {first : List Bytes}
  {rest : List (List Bytes)}

theorem plain_filledTable : (filledTable patch first rest).Plain where
  rows := by
    intro row listed
    rcases List.mem_cons.mp listed with rfl | later
    · exact .inl rfl
    · obtain ⟨texts, _, rfl⟩ := List.mem_map.mp later
      exact .inl rfl
  cells := by
    intro row listed cell member
    rcases List.mem_cons.mp listed with rfl | later
    · obtain ⟨text, _, rfl⟩ := List.mem_map.mp member
      rfl
    · obtain ⟨texts, _, rfl⟩ := List.mem_map.mp later
      obtain ⟨text, _, rfl⟩ := List.mem_map.mp member
      rfl

theorem numColumns_filledTable :
    (filledTable patch first rest).estimateNumColumns = first.length := by
  simp [filledTable, TableInternal.estimateNumColumns, textRow]

theorem filled_filledTable : (filledTable patch first rest).Filled := by
  intro row listed
  rw [numColumns_filledTable]
  rcases List.mem_cons.mp listed with rfl | later
  · simp [textRow]
  · obtain ⟨texts, _, rfl⟩ := List.mem_map.mp later
    simp [textRow, Table.length_fillUp]

/--
A table of texts without configured widths is printed exactly when no row has
more cells than the first one; otherwise the printer reads the width of a column
that is not there.
-/
theorem print_addRows_iff
    (unconfigured : patch.width = none)
    (fuel : Nat) :
    ∃ table,
      Table.new.addRows fuel (first :: rest) = .ok table ∧
        ((∃ text, (table.format patch).table.print fuel = .ok text) ↔
          ∀ texts ∈ rest, texts.length ≤ first.length) ∧
        ((∃ texts ∈ rest, first.length < texts.length) →
          (table.format patch).table.print fuel =
            .error (.undefinedIndex "column_widths" first.length)) := by
  obtain ⟨table, added, built⟩ :=
    addRows_filledTable patch first rest fuel
  have wraps : (filledTable patch first rest).Wraps fuel := by
    refine (TableInternal.roomy_of_unconfigured
      (plain_filledTable.unconfigured ?_) fuel).wraps
    simp [filledTable, Format.merge, unconfigured, Format.defaults]
  refine ⟨table, added, ?_, fun long => ?_⟩
  · rw [built, TableInternal.print_iff_of_filled filled_filledTable wraps,
      numColumns_filledTable]
    simp [filledTable, textRow, Table.length_fillUp]
  · rw [built, ← numColumns_filledTable]
    refine TableInternal.print_of_long filled_filledTable wraps ?_
    obtain ⟨texts, member, longer⟩ := long
    refine ⟨textRow (Table.fillUp first.length texts), ?_, ?_⟩
    · simp only [filledTable, List.mem_cons, List.mem_map]
      exact .inr ⟨texts, member, rfl⟩
    · rw [numColumns_filledTable]
      simpa [textRow, Table.length_fillUp, lt_max_iff] using longer

/-- A second row that is longer than the first one. -/
theorem print_addRows_iff_longer :
    ∃ table,
      Table.new.addRows 0
          [[literal "node"], [literal "gNB", literal "7"]] =
        .ok table ∧
        (table.format Format.unset).table.print 0 =
          .error (.undefinedIndex "column_widths" 1) := by
  obtain ⟨table, added, _, fails⟩ :=
    @print_addRows_iff Format.unset [literal "node"]
      [[literal "gNB", literal "7"]] rfl 0
  exact ⟨table, added, fails ⟨_, List.mem_singleton_self _, by decide⟩⟩

end Filled

end IqosXapp.Tabulate
