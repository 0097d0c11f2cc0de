import IqosXapp.Tabulate.Layout

namespace IqosXapp.Tabulate

open KpmManager (Bytes literal)

/-!
# Reading a printed table

In the layout of a table whose borders are all alike, every cell takes exactly
the width of its column on every line, and trimming what stands there gives the
line of its text.  The widths themselves can be read off the border lines.  So
the printed text determines what the cells show.
-/

/-! ## What a cell prints -/

theorem length_spaces (count : Nat) : (spaces count).length = count :=
  List.length_replicate

theorem spaces_add (count more : Nat) :
    spaces (count + more) = spaces count ++ spaces more :=
  List.replicate_add count more blank

theorem isSpace_of_mem_spaces
    {count : Nat}
    {character : UInt8}
    (member : character ∈ spaces count) :
    isSpace character = true := by
  rw [(List.mem_replicate.mp member).2]
  rfl

/-- A text that fits leaves the spaces that are missing to the width. -/
theorem spacesAround_of_le
    {columnWidth size : Nat}
    (fits : size ≤ columnWidth)
    (sized : columnWidth < sizeModulus) :
    spacesAround columnWidth size = columnWidth - size := by
  unfold spacesAround sizeModulus at *
  omega

/-- However it is aligned, a text that fits is filled up with spaces. -/
theorem printContent_of_le
    (align : FontAlign)
    (content : Bytes)
    {size columnWidth : Nat}
    (fits : size ≤ columnWidth)
    (sized : columnWidth < sizeModulus) :
    ∃ before after,
      printContent align content size columnWidth =
          spaces before ++ content ++ spaces after ∧
        before + after = columnWidth - size := by
  have around := spacesAround_of_le fits sized
  cases align with
  | left =>
      exact ⟨0, columnWidth - size, by simp [printContent, spaces],
        Nat.zero_add _⟩
  | right =>
      exact ⟨columnWidth - size, 0, by simp [printContent, spaces],
        Nat.add_zero _⟩
  | center =>
      simp only [printContent, around]
      split
      · exact ⟨_, _, rfl, by omega⟩
      · exact ⟨_, _, rfl, by omega⟩

/-- What is left of a line when it is trimmed as its cell wants it. -/
theorem trim_trimLine (mode : TrimMode) (line : Bytes) :
    trim (trimLine mode line) = trim line := by
  cases mode with
  | kNone => rfl
  | kLeft => exact trim_trimLeft line
  | kRight => exact trim_trimRight line
  | kBoth => exact trim_trim line

theorem length_trimLine_le (mode : TrimMode) (line : Bytes) :
    (trimLine mode line).length ≤ line.length := by
  cases mode with
  | kNone => exact Nat.le_refl _
  | kLeft => exact trimLeft_length line
  | kRight => exact trimRight_length line
  | kBoth => exact trim_length line

namespace CellView

/-- The lines of a cell fit between its paddings. -/
structure Fits (view : CellView) : Prop where
  lines :
    ∀ line ∈ view.lines,
      view.style.paddingLeft + line.length + view.style.paddingRight ≤
        view.columnWidth
  sized : view.columnWidth < sizeModulus

/-- The line that a cell shows on one of its rows; empty above and below. -/
def lineAt (view : CellView) (rowIndex : Nat) : Bytes :=
  if rowIndex < view.style.paddingTop then
    []
  else
    view.lines[rowIndex - view.style.paddingTop]?.getD []

/-- A cell takes the width of its column, and shows its line in there. -/
theorem printText_of_fits
    {view : CellView}
    (fits : view.Fits)
    (rowIndex : Nat) :
    (view.printText rowIndex).length = view.columnWidth ∧
      trim (view.printText rowIndex) = trim (view.lineAt rowIndex) := by
  have empty : trim (spaces view.columnWidth) = trim [] := by
    have surround : trim (spaces view.columnWidth ++ [] ++ []) = trim [] :=
      trim_surround [] (fun _ => isSpace_of_mem_spaces) (by simp)
    simpa using surround
  unfold printText lineAt
  dsimp only
  split
  · exact ⟨length_spaces _, empty⟩
  · cases here : view.lines[rowIndex - view.style.paddingTop]? with
    | none =>
        exact ⟨length_spaces _, empty⟩
    | some line =>
        have room := fits.lines line (List.mem_of_getElem? here)
        have short := length_trimLine_le view.style.trimMode line
        have le :
            getSequenceLength (trimLine view.style.trimMode line) +
                view.style.paddingLeft + view.style.paddingRight ≤
              view.columnWidth := by
          rw [getSequenceLength_eq]
          omega
        obtain ⟨before, after, content, total⟩ :=
          printContent_of_le view.style.fontAlign
            (trimLine view.style.trimMode line) le fits.sized
        have shape :
            spaces view.style.paddingLeft ++
                (spaces before ++ trimLine view.style.trimMode line ++
                  spaces after) ++
                spaces view.style.paddingRight =
              spaces (view.style.paddingLeft + before) ++
                trimLine view.style.trimMode line ++
                spaces (after + view.style.paddingRight) := by
          simp [spaces_add]
        simp only [content, shape, Option.getD_some]
        constructor
        · simp only [List.length_append, length_spaces]
          rw [getSequenceLength_eq] at le total
          omega
        · exact (trim_surround _ (fun _ => isSpace_of_mem_spaces)
            fun _ => isSpace_of_mem_spaces).trans (trim_trimLine _ line)

end CellView

/-! ## Lines of a row -/

/-- The top border of a row. -/
def topLine (views : List CellView) : Bytes :=
  views.flatMap (·.printCellBorderTop views.length)

/-- The bottom border of a row. -/
def bottomLine (views : List CellView) : Bytes :=
  views.flatMap (·.printCellBorderBottom views.length)

/-- One line of the cells of a row. -/
def contentLine (views : List CellView) (rowIndex : Nat) : Bytes :=
  views.flatMap (·.printRowInCell views.length rowIndex)

/-- The lines of a row; one that has no height leaves an empty line. -/
def rowLines (views : List CellView) (height : Nat) : List Bytes :=
  topLine views ::
    if height = 0 then
      [[]]
    else
      (List.range height).map (contentLine views)

/-- Lines with new lines between them, and one behind the last. -/
theorem flatMap_range_newline
    (height : Nat)
    (line : Nat → Bytes) :
    ((List.range height).flatMap fun k =>
        line k ++ if k + 1 < height then [newline] else []) ++
        [newline] =
      (if height = 0 then [[]] else (List.range height).map line).flatMap
        (· ++ [newline]) := by
  cases height with
  | zero =>
      rfl
  | succ last =>
      have inner :
          ((List.range last).flatMap fun k =>
              line k ++ if k + 1 < last + 1 then [newline] else []) =
            (List.range last).flatMap fun k => line k ++ [newline] := by
        refine List.flatMap_congr fun k member => ?_
        rw [if_pos (Nat.succ_lt_succ (List.mem_range.mp member))]
      rw [List.range_succ, List.flatMap_append, inner,
        if_neg (Nat.succ_ne_zero last)]
      simp [List.flatMap_map]

/-- What is printed around the texts. -/
def Style.borders (style : Style) : List Bytes :=
  [style.cornerTopLeft, style.cornerTopRight, style.cornerBottomLeft,
    style.cornerBottomRight, style.borderTop, style.borderBottom,
    style.borderLeft, style.borderRight, style.columnSeparator]

/-- The borders of all cells are shown, and no border breaks the line. -/
structure Style.Frame (base : Style) : Prop where
  top : base.showBorderTop = true ∧ base.cornerTopLeft ≠ []
  bottom : base.showBorderBottom = true ∧ base.cornerBottomLeft ≠ []
  rows : base.showRowSeparator = false
  clean : ∀ border ∈ base.borders, newline ∉ border

/--
The cell has these borders.  Its sizes, its paddings, its alignment and its
trimming may be its own.
-/
def Style.Bordered (base style : Style) : Prop :=
  ∃ inside : Style,
    style = { base with
      width := inside.width
      height := inside.height
      fontAlign := inside.fontAlign
      paddingLeft := inside.paddingLeft
      paddingTop := inside.paddingTop
      paddingRight := inside.paddingRight
      paddingBottom := inside.paddingBottom
      trimMode := inside.trimMode }

instance (base style : Style) : Decidable (base.Bordered style) :=
  decidable_of_iff
    (style = { base with
      width := style.width
      height := style.height
      fontAlign := style.fontAlign
      paddingLeft := style.paddingLeft
      paddingTop := style.paddingTop
      paddingRight := style.paddingRight
      paddingBottom := style.paddingBottom
      trimMode := style.trimMode })
    ⟨fun same => ⟨style, same⟩, by rintro ⟨inside, rfl⟩; rfl⟩

section Rows

variable
  {base : Style}
  {views : List CellView}
  (frame : base.Frame)
  (framed : ∀ view ∈ views, base.Bordered view.style)

include frame framed

theorem all_hasBorderTop : views.all (·.hasBorderTop) = true := by
  rw [List.all_eq_true]
  intro view member
  obtain ⟨inside, style⟩ := framed view member
  simp [CellView.hasBorderTop, style, frame.top]

theorem all_needsBorderBottom :
    views.all (·.needsBorderBottom) = true := by
  rw [List.all_eq_true]
  intro view member
  obtain ⟨inside, style⟩ := framed view member
  simp [CellView.needsBorderBottom, style, frame.bottom]

/-- A row is printed line by line, the bottom border behind the last one. -/
theorem printRow_of_frame
    {numRows index : Nat}
    (inside : index < numRows)
    (height : Nat) :
    printRow numRows index height views =
      (rowLines views height).flatMap (· ++ [newline]) ++
        if index + 1 = numRows then bottomLine views else [] := by
  have content :=
    flatMap_range_newline height (contentLine views)
  rw [rowLines, List.flatMap_cons, ← content]
  simp only [printRow, all_hasBorderTop frame framed,
    all_needsBorderBottom frame framed, topLine, bottomLine,
    contentLine, if_true]
  rcases Nat.lt_or_eq_of_le (Nat.succ_le_of_lt inside) with more | last
  · rw [if_pos more, if_neg (Nat.ne_of_lt more),
      if_neg (Nat.ne_of_lt more)]
    simp
  · rw [if_pos last, if_pos last,
      if_neg (Nat.not_lt.mpr (Nat.le_of_eq last.symm))]
    simp

end Rows

/-! ## Rows whose borders are alike -/

/-- A row of cells with the same borders, at consecutive columns. -/
structure Style.RowOf (base : Style) (views : List CellView) : Prop where
  framed : ∀ view ∈ views, base.Bordered view.style
  columns : views.map (·.column) = List.range views.length
  fits : ∀ view ∈ views, view.Fits
  clean : ∀ view ∈ views, ∀ line ∈ view.lines, newline ∉ line

/-- The left border and the separator of a column. -/
def Style.leftOf (base : Style) (column : Nat) : Bytes :=
  (if base.showBorderLeft then base.borderLeft else []) ++
    if base.showColumnSeparator ∧ column ≠ 0 then
      base.columnSeparator
    else
      []

/-- The right border, behind the last column. -/
def Style.rightOf (base : Style) (numColumns column : Nat) : Bytes :=
  if column + 1 = numColumns ∧ base.showBorderRight then
    base.borderRight
  else
    []

section Pieces

variable
  {base : Style}
  {view : CellView}
  (bordered : base.Bordered view.style)

include bordered

theorem printRowInCell_of_bordered (numColumns rowIndex : Nat) :
    view.printRowInCell numColumns rowIndex =
      base.leftOf view.column ++ view.printText rowIndex ++
        base.rightOf numColumns view.column := by
  obtain ⟨inside, style⟩ := bordered
  simp [CellView.printRowInCell, Style.leftOf, Style.rightOf, style]

theorem printCellBorderTop_of_bordered
    (frame : base.Frame)
    (numColumns : Nat) :
    view.printCellBorderTop numColumns =
      base.cornerTopLeft ++
        (List.replicate view.columnWidth base.borderTop).flatten ++
        if view.column + 1 = numColumns then base.cornerTopRight
        else [] := by
  obtain ⟨inside, style⟩ := bordered
  have shown : view.hasBorderTop = true := by
    simp [CellView.hasBorderTop, style, frame.top]
  simp [CellView.printCellBorderTop, shown, CellView.separated, style,
    frame.rows]

theorem printCellBorderBottom_of_bordered
    (frame : base.Frame)
    (numColumns : Nat) :
    view.printCellBorderBottom numColumns =
      base.cornerBottomLeft ++
        (List.replicate view.columnWidth base.borderBottom).flatten ++
        if view.column + 1 = numColumns then base.cornerBottomRight
        else [] := by
  obtain ⟨inside, style⟩ := bordered
  have shown : view.hasBorderBottom = true := by
    simp [CellView.hasBorderBottom, style, frame.bottom]
  simp [CellView.printCellBorderBottom, shown, style]

end Pieces

/-! ### No line is broken -/

theorem not_mem_replicate_flatten
    {border : Bytes}
    (clean : newline ∉ border)
    (count : Nat) :
    newline ∉ (List.replicate count border).flatten := by
  intro member
  obtain ⟨piece, listed, inside⟩ := List.mem_flatten.mp member
  rw [(List.mem_replicate.mp listed).2] at inside
  exact clean inside

theorem not_mem_spaces (count : Nat) : newline ∉ spaces count := by
  intro member
  exact absurd (List.mem_replicate.mp member).2 (by decide)

/-- Trimming and aligning a line do not break it. -/
theorem CellView.not_mem_printText
    {view : CellView}
    (clean : ∀ line ∈ view.lines, newline ∉ line)
    (rowIndex : Nat) :
    newline ∉ view.printText rowIndex := by
  have trimmed
      {line : Bytes}
      (listed : line ∈ view.lines) :
      newline ∉ trimLine view.style.trimMode line := by
    intro member
    refine clean line listed ?_
    cases mode : view.style.trimMode <;> rw [mode] at member
    · exact member
    · exact (line.dropWhile_suffix isSpace).mem member
    · exact (line.rdropWhile_prefix isSpace).mem member
    · exact (line.rdropWhile_prefix isSpace).mem
        (((trimRight line).dropWhile_suffix isSpace).mem member)
  unfold CellView.printText
  dsimp only
  split
  · exact not_mem_spaces _
  · split
    · rename_i line here
      have free := trimmed (List.mem_of_getElem? here)
      cases align : view.style.fontAlign with
      | left =>
          simp [printContent, not_mem_spaces, free]
      | right =>
          simp [printContent, not_mem_spaces, free]
      | center =>
          simp only [printContent]
          split <;> simp [not_mem_spaces, free]
    · exact not_mem_spaces _

section Lines

variable
  {base : Style}
  {views : List CellView}
  (frame : base.Frame)
  (row : base.RowOf views)

include frame row

theorem not_mem_topLine : newline ∉ topLine views := by
  intro member
  obtain ⟨view, listed, inside⟩ := List.mem_flatMap.mp member
  rw [printCellBorderTop_of_bordered (row.framed view listed) frame]
    at inside
  have left := frame.clean base.cornerTopLeft (by simp [Style.borders])
  have right := frame.clean base.cornerTopRight (by simp [Style.borders])
  have filled :=
    not_mem_replicate_flatten
      (frame.clean base.borderTop (by simp [Style.borders]))
      view.columnWidth
  revert inside
  split <;> simp [left, right, filled]

theorem not_mem_bottomLine : newline ∉ bottomLine views := by
  intro member
  obtain ⟨view, listed, inside⟩ := List.mem_flatMap.mp member
  rw [printCellBorderBottom_of_bordered (row.framed view listed) frame]
    at inside
  have left := frame.clean base.cornerBottomLeft (by simp [Style.borders])
  have right :=
    frame.clean base.cornerBottomRight (by simp [Style.borders])
  have filled :=
    not_mem_replicate_flatten
      (frame.clean base.borderBottom (by simp [Style.borders]))
      view.columnWidth
  revert inside
  split <;> simp [left, right, filled]

theorem not_mem_contentLine (rowIndex : Nat) :
    newline ∉ contentLine views rowIndex := by
  intro member
  obtain ⟨view, listed, inside⟩ := List.mem_flatMap.mp member
  rw [printRowInCell_of_bordered (row.framed view listed)] at inside
  have left := frame.clean base.borderLeft (by simp [Style.borders])
  have right := frame.clean base.borderRight (by simp [Style.borders])
  have separator :=
    frame.clean base.columnSeparator (by simp [Style.borders])
  have text :=
    CellView.not_mem_printText (row.clean view listed) rowIndex
  have before : newline ∉ base.leftOf view.column := by
    unfold Style.leftOf
    split <;> split <;> simp [left, separator]
  have behind : newline ∉ base.rightOf views.length view.column := by
    unfold Style.rightOf
    split <;> simp [right]
  simp [before, text, behind] at inside

theorem not_mem_rowLines
    {height : Nat}
    {line : Bytes}
    (listed : line ∈ rowLines views height) :
    newline ∉ line := by
  rcases List.mem_cons.mp listed with rfl | content
  · exact not_mem_topLine frame row
  · split at content
    · rw [List.mem_singleton.mp content]
      simp
    · obtain ⟨rowIndex, _, rfl⟩ := List.mem_map.mp content
      exact not_mem_contentLine frame row rowIndex

theorem bottomLine_ne_nil
    (some : views ≠ []) :
    bottomLine views ≠ [] := by
  obtain ⟨view, rest, rfl⟩ := List.exists_cons_of_ne_nil some
  rw [bottomLine, List.flatMap_cons,
    printCellBorderBottom_of_bordered (row.framed view (by simp)) frame]
  simp [frame.bottom.2]

end Lines

end IqosXapp.Tabulate
