import IqosXapp.Tabulate.Layout

namespace IqosXapp.Tabulate

open KpmManager (Bytes)

/-!
# Room for the texts

A text has room in its column when its lines fit there as they are, which they
do wherever no width is configured, or when it can be wrapped.  The printer then
gives each of its lines a place, and drops none of its ink.
-/

/-! ## Texts that fit -/

section Cells

variable
  {style : Style}
  {text : Bytes}
  {columnWidth : Nat}

/-- A cell's width has room for each of its lines. -/
theorem line_le_getCellWidth
    {line : Bytes}
    (listed : line ∈ splitLines text newline) :
    style.paddingLeft + line.length + style.paddingRight ≤
      getCellWidth style text := by
  have whole := length_le_of_mem_splitLines listed
  have widest :
      line.length ≤
        (splitLines text newline).foldl
          (fun widest line => max widest line.length) 0 :=
    le_largest List.length listed
  simp only [getCellWidth, getSequenceLength_eq]
  split <;> omega

/-- No line makes a cell wider than its text. -/
theorem getCellWidth_le (style : Style) (text : Bytes) :
    getCellWidth style text ≤
      style.paddingLeft + text.length + style.paddingRight := by
  have widest :
      (splitLines text newline).foldl
          (fun widest line => max widest line.length) 0 ≤
        text.length :=
    largest_le_iff.mpr fun line listed => length_le_of_mem_splitLines listed
  simp only [getCellWidth, getSequenceLength_eq]
  split <;> omega

/-- A text of several lines is as wide as its widest line. -/
theorem getCellWidth_le_of_lines
    {bound : Nat}
    (several : (splitLines text newline).length ≠ 1)
    (short : ∀ line ∈ splitLines text newline, line.length ≤ bound) :
    getCellWidth style text ≤
      style.paddingLeft + bound + style.paddingRight := by
  have widest :
      (splitLines text newline).foldl
          (fun widest line => max widest line.length) 0 ≤
        bound :=
    largest_le_iff.mpr short
  simp only [getCellWidth, getSequenceLength_eq, if_neg several]
  omega

/-- A text of one line fits into its column without being wrapped. -/
theorem text_le_contentWidth
    (free : newline ∉ text)
    (wide : getCellWidth style text ≤ columnWidth) :
    text.length ≤ contentWidth style columnWidth := by
  by_cases empty : text = []
  · simp [empty]
  · have listed : text ∈ splitLines text newline := by
      rw [splitLines_of_not_mem free, if_neg empty]
      simp
    have room :
        style.paddingLeft + text.length + style.paddingRight ≤
          columnWidth :=
      (line_le_getCellWidth listed).trans wide
    have positive := List.length_pos_iff.mpr empty
    unfold contentWidth
    split <;> omega

/-- A text that fits is not wrapped. -/
theorem wordWrappedText_of_fits
    (fuel : Nat)
    (wide : getCellWidth style text ≤ columnWidth) :
    wordWrappedText fuel style text columnWidth = .ok text := by
  unfold wordWrappedText
  split
  · rename_i none
    have fits :=
      text_le_contentWidth (List.count_eq_zero.mp none) wide
    rw [wrap, wordWrap_of_fits fuel fits]
    rfl
  · rfl

end Cells

/-! ## Texts that have room -/

/-- What a column must offer for a text to be printed whole. -/
inductive Room
    (fuel : Nat)
    (style : Style)
    (text : Bytes)
    (columnWidth : Nat) :
    Prop where
  | fits (wide : getCellWidth style text ≤ columnWidth)
  | wraps
      (free : newline ∉ text)
      (enough : text.length < fuel)
      (room : style.paddingLeft + style.paddingRight + 2 ≤ columnWidth)
      (sized : columnWidth < sizeModulus)

/--
With room, wrapping returns lines that fit, keeps the ink and adds at most three
characters for each one.
-/
theorem Room.wrapped
    {fuel : Nat}
    {style : Style}
    {text : Bytes}
    {columnWidth : Nat}
    (room : Room fuel style text columnWidth) :
    ∃ wrapped,
      wordWrappedText fuel style text columnWidth = .ok wrapped ∧
        (∀ line ∈ splitLines wrapped newline,
          style.paddingLeft + line.length + style.paddingRight ≤
            columnWidth) ∧
        ink wrapped = ink text ∧
        wrapped.length ≤ 4 * text.length := by
  cases room with
  | fits wide =>
      exact ⟨text, wordWrappedText_of_fits fuel wide,
        fun line listed => (line_le_getCellWidth listed).trans wide, rfl,
        by omega⟩
  | wraps free enough room sized =>
      have width :
          contentWidth style columnWidth =
            columnWidth - (style.paddingLeft + style.paddingRight) :=
        if_pos (by omega)
      have narrow : contentWidth style columnWidth < sizeModulus := by omega
      have two : 2 ≤ contentWidth style columnWidth := by omega
      obtain ⟨wrapped, returns⟩ := wordWrap_of_two_le two narrow enough
      refine ⟨wrapped, ?_, fun line listed => ?_, ?_,
        length_wordWrap_le two narrow returns⟩
      · rw [wordWrappedText, if_pos (List.count_eq_zero.mpr free), wrap,
          returns]
        rfl
      · have short :=
          wordWrap_lines_fit (by omega) narrow returns line listed
        omega
      · exact wordWrap_filter (by omega) narrow
          (fun character space => by simp [space]) (.inl (by decide)) returns

/-! ## The ink of the lines -/

/-- What stands in a column of lines that are cut into cells. -/
def columnText (lines : List (List Bytes)) (column : Nat) : Bytes :=
  lines.flatMap fun cells => cells[column]?.getD []

theorem ink_flatMap_trim (lines : List Bytes) :
    ink (lines.flatMap trim) = ink lines.flatten := by
  induction lines with
  | nil =>
      rfl
  | cons line rest inductionHypothesis =>
      have first :=
        @filter_trim
          (fun character => !isSpace character && character != dash)
          line fun character space => by simp [space]
      unfold ink at *
      rw [List.flatMap_cons, List.flatten_cons, List.filter_append,
        List.filter_append, inductionHypothesis, first]

/-- Cutting a text into trimmed lines keeps its ink. -/
theorem ink_splitLines (text : Bytes) :
    ink ((splitLines text newline).flatMap trim) = ink text := by
  rw [ink_flatMap_trim, flatten_splitLines, ink, ink, List.filter_filter]
  refine List.filter_congr fun character _ => ?_
  by_cases line : character = newline
  · subst line
    decide
  · simp [line]

/-- Reading on below the last line adds nothing. -/
theorem flatMap_range_getElem?
    {shown : Bytes → Bytes}
    (empty : shown [] = [])
    (lines : List Bytes)
    {top height : Nat}
    (fits : top + lines.length ≤ height) :
    (List.range height).flatMap
        (fun index =>
          shown (if index < top then [] else
            lines[index - top]?.getD [])) =
      lines.flatMap shown := by
  obtain ⟨below, rfl⟩ := Nat.exists_eq_add_of_le fits
  have above :
      (List.range top).flatMap
          (fun index =>
            shown (if index < top then [] else
              lines[index - top]?.getD [])) =
        [] := by
    refine List.flatMap_eq_nil_iff.mpr fun index member => ?_
    rw [if_pos (List.mem_range.mp member), empty]
  have inside :
      (List.range lines.length).flatMap
          (fun index => shown (lines[index]?.getD [])) =
        lines.flatMap shown := by
    have same :
        (List.range lines.length).map (fun index => lines[index]?.getD []) =
          lines := by
      refine List.ext_getElem (by simp) fun index before after => ?_
      simp [after]
    rw [← List.flatMap_map, same]
  have outside :
      (List.range below).flatMap
          (fun index => shown (lines[lines.length + index]?.getD [])) =
        [] := by
    refine List.flatMap_eq_nil_iff.mpr fun index _ => ?_
    rw [List.getElem?_eq_none (by omega), Option.getD_none, empty]
  have shifted (index : Nat) :
      (if top + index < top then [] else
        lines[top + index - top]?.getD []) =
        lines[index]?.getD [] := by
    rw [if_neg (by omega), Nat.add_sub_cancel_left]
  rw [Nat.add_assoc, List.range_add, List.flatMap_append, above,
    List.nil_append, List.flatMap_map, List.range_add, List.flatMap_append,
    List.flatMap_map]
  simp only [shifted, inside, outside, List.append_nil]

namespace TableInternal

/-- No column is wider than a `size_t` can say. -/
def Sized (table : TableInternal) : Prop :=
  ∀ column < table.estimateNumColumns, table.widthAt column < sizeModulus

/--
No column is wider and no row is higher, its paddings included, than a `size_t`
can say.
-/
structure Measured (table : TableInternal) (fuel : Nat) : Prop where
  widths : table.Sized
  heights : ∀ row ∈ table.rows, table.heightOf fuel row < sizeModulus

/-- Every text has room in its column. -/
def Roomy (table : TableInternal) (fuel : Nat) : Prop :=
  ∀ row ∈ table.rows, ∀ entry ∈ row.cells.zipIdx,
    Room fuel (table.cellStyle row entry.1) entry.1.text
      (table.widthAt entry.2)

section Roomy

variable
  {table : TableInternal}
  {row : Row}
  {fuel : Nat}

/-- Without a configured width, a column has room for its cells. -/
theorem getCellWidth_le_widthAt
    (listed : row ∈ table.rows)
    {entry : Cell × Nat}
    (member : entry ∈ row.cells.zipIdx)
    (unconfigured : table.configuredAt entry.2 = 0) :
    getCellWidth (table.cellStyle row entry.1) entry.1.text ≤
      table.widthAt entry.2 := by
  have here : row.cells[entry.2]? = some entry.1 :=
    List.mk_mem_zipIdx_iff_getElem?.mp member
  have widest :=
    le_largest
      (fun row =>
        getCellWidth (table.cellIn entry.2 row).1
          (table.cellIn entry.2 row).2)
      listed
  simp only [cellIn, here, Option.getD_some] at widest
  rw [widthAt, if_neg (by simpa using unconfigured)]
  exact widest

/-- Cells without a width of their own configure none. -/
theorem getConfiguredWidth_of_none
    {cells : List (Style × Bytes)}
    (unset : ∀ cell ∈ cells, cell.1.width = none) :
    getConfiguredWidth cells = 0 := by
  unfold getConfiguredWidth
  induction cells with
  | nil =>
      rfl
  | cons first rest inductionHypothesis =>
      rw [List.foldl_cons, unset first (by simp)]
      exact inductionHypothesis fun cell member =>
        unset cell (by simp [member])

/-- Nor do they configure a height. -/
theorem getConfiguredHeight_of_none
    (unset :
      ∀ cell ∈ row.cells, (table.cellStyle row cell).height = none) :
    table.getConfiguredHeight row = 0 := by
  unfold getConfiguredHeight
  generalize row.cells = cells at unset ⊢
  induction cells with
  | nil =>
      rfl
  | cons first rest inductionHypothesis =>
      rw [List.foldl_cons, unset first (by simp)]
      exact inductionHypothesis fun cell member =>
        unset cell (by simp [member])

/-- A table without configured widths is roomy. -/
theorem roomy_of_unconfigured
    (unconfigured : ∀ column, table.configuredAt column = 0)
    (fuel : Nat) :
    table.Roomy fuel :=
  fun _ listed entry member =>
    .fits (getCellWidth_le_widthAt listed member (unconfigured entry.2))

/-- Where a text fits, its lines are its own. -/
theorem linesIn_of_fits
    {entry : Cell × Nat}
    (wide :
      getCellWidth (table.cellStyle row entry.1) entry.1.text ≤
        table.widthAt entry.2) :
    table.linesIn fuel row entry = splitLines entry.1.text newline := by
  rw [linesIn, wrappedText_of_ok (wordWrappedText_of_fits fuel wide)]

/-- Where all texts fit, the layout does not wrap. -/
theorem layout_of_fits
    (fits :
      ∀ row ∈ table.rows, ∀ entry ∈ row.cells.zipIdx,
        getCellWidth (table.cellStyle row entry.1) entry.1.text ≤
          table.widthAt entry.2)
    (fuel : Nat) :
    table.layout fuel = table.layout 0 := by
  refine List.flatMap_congr fun entry listed => ?_
  have present := List.fst_mem_of_mem_zipIdx listed
  have lines (cell : Cell × Nat) (member : cell ∈ entry.1.cells.zipIdx) :
      table.linesIn fuel entry.1 cell = table.linesIn 0 entry.1 cell := by
    have wide := fits entry.1 present cell member
    rw [linesIn_of_fits wide, linesIn_of_fits wide]
  have heights :
      table.heightOf fuel entry.1 = table.heightOf 0 entry.1 := by
    have largest_eq :
        largest (table.heightIn fuel entry.1) entry.1.cells.zipIdx =
          largest (table.heightIn 0 entry.1) entry.1.cells.zipIdx := by
      refine Nat.le_antisymm (largest_le_iff.mpr fun cell member => ?_)
        (largest_le_iff.mpr fun cell member => ?_)
      · have le := le_largest (table.heightIn 0 entry.1) member
        rwa [heightIn, ← lines cell member] at le
      · have le := le_largest (table.heightIn fuel entry.1) member
        rwa [heightIn, lines cell member] at le
    rw [heightOf, heightOf, largest_eq]
  have views :
      table.viewsOf fuel entry.1 entry.2 =
        table.viewsOf 0 entry.1 entry.2 := by
    refine List.map_congr_left fun cell member => ?_
    simp only [viewOf, lines cell member]
  rw [heights, views]

variable (roomy : table.Roomy fuel)

include roomy

/-- The word wrapping of a roomy table returns. -/
theorem Roomy.wraps : table.Wraps fuel := by
  intro row listed entry member
  obtain ⟨wrapped, returns, _⟩ := (roomy row listed entry member).wrapped
  exact ⟨wrapped, returns⟩

/-- The lines of a roomy table fit. -/
theorem Roomy.fitted : table.Fitted fuel := by
  intro row listed entry member
  obtain ⟨wrapped, returns, fit, _⟩ :=
    (roomy row listed entry member).wrapped
  rw [linesIn, wrappedText_of_ok returns]
  exact fit

/-- The lines of a cell have the ink of its text. -/
theorem Roomy.ink_linesIn
    (listed : row ∈ table.rows)
    {entry : Cell × Nat}
    (member : entry ∈ row.cells.zipIdx) :
    ink ((table.linesIn fuel row entry).flatMap trim) =
      ink entry.1.text := by
  obtain ⟨wrapped, returns, _, kept, _⟩ :=
    (roomy row listed entry member).wrapped
  rw [linesIn, wrappedText_of_ok returns, ink_splitLines, kept]

/-- How high a row gets, by its texts and its own height. -/
theorem Roomy.heightOf_le
    {bound : Nat}
    (listed : row ∈ table.rows)
    (configured : table.getConfiguredHeight row ≤ bound)
    (short :
      ∀ cell ∈ row.cells,
        (table.cellStyle row cell).paddingTop + (4 * cell.text.length + 1) +
            (table.cellStyle row cell).paddingBottom ≤
          bound) :
    table.heightOf fuel row ≤ bound := by
  refine Nat.max_le.mpr ⟨configured, largest_le_iff.mpr
    fun entry member => ?_⟩
  obtain ⟨wrapped, returns, _, _, length⟩ :=
    (roomy row listed entry member).wrapped
  have lines := @length_splitLines_le newline wrapped
  have room := short entry.1 (List.fst_mem_of_mem_zipIdx member)
  rw [heightIn, linesIn, wrappedText_of_ok returns]
  omega

/--
The sizes that the printer adds up with the paddings of a cell: none of these
sums of `size_t` values wraps around.
-/
theorem Measured.sums_lt
    (measured : table.Measured fuel)
    (regular : table.Regular)
    (listed : row ∈ table.rows)
    {entry : Cell × Nat}
    (member : entry ∈ row.cells.zipIdx) :
    let style := table.cellStyle row entry.1
    (table.configuredAt entry.2 = 0 →
        getCellWidth style entry.1.text < sizeModulus) ∧
      style.paddingLeft + style.paddingRight < sizeModulus ∧
      (∀ line ∈ table.linesIn fuel row entry,
        style.paddingLeft + line.length + style.paddingRight <
          sizeModulus) ∧
      table.heightIn fuel row entry < sizeModulus := by
  have width := measured.widths entry.2 (regular.column_lt listed member)
  have height := measured.heights row listed
  refine ⟨fun unconfigured => ?_, ?_, fun line inside => ?_, ?_⟩
  · have wide := getCellWidth_le_widthAt listed member unconfigured
    omega
  · cases roomy row listed entry member with
    | fits wide =>
        have paddings :
            (table.cellStyle row entry.1).paddingLeft +
                (table.cellStyle row entry.1).paddingRight ≤
              getCellWidth (table.cellStyle row entry.1) entry.1.text := by
          simp only [getCellWidth]
          omega
        omega
    | wraps free enough room sized =>
        omega
  · have fits := roomy.fitted row listed entry member line inside
    omega
  · have highest := le_largest (table.heightIn fuel row) member
    exact lt_of_le_of_lt (highest.trans (Nat.le_max_right _ _)) height

end Roomy

end TableInternal

end IqosXapp.Tabulate
