import Mathlib.Algebra.Order.BigOperators.Group.List
import Mathlib.Data.Nat.Digits.Lemmas
import IqosXapp.E2Info.Nodes
import IqosXapp.Tabulate.Rectangle

namespace IqosXapp.E2Info

open Effect Program KpmManager Tabulate

/-!
# Reading the printed nodes

The text that `printE2Nodes` writes determines what it was told to show: a
reader who knows the borders of the two tables finds the table of the nodes
below the title, and the nodes in its rows.
-/

/-- The corner of all tables of the module. -/
def corner : UInt8 := 43

/-- The borders of the table of the nodes. -/
def infoStyle : Style :=
  (infoTable []).baseStyle

/-- The borders of the table around it. -/
def titleStyle : Style :=
  (titleTable []).baseStyle

theorem legible_infoStyle : infoStyle.Legible corner where
  frame := {
    top := by decide
    bottom := by decide
    rows := by decide
    clean := by decide }
  topLeft := by decide
  topRight := by decide
  bottomLeft := by decide
  ruled := by decide
  shown := by decide
  side := ⟨124, [], by decide, by decide⟩

theorem closed_infoStyle : infoStyle.Closed corner where
  solid := by decide
  bottomRight := by decide
  left := by
    rintro first ⟨⟩
    rfl
  shown := by decide
  right := by decide
  rightEnd := by
    rintro last ⟨⟩
    rfl

theorem legible_titleStyle : titleStyle.Legible corner where
  frame := {
    top := by decide
    bottom := by decide
    rows := by decide
    clean := by decide }
  topLeft := by decide
  topRight := by decide
  bottomLeft := by decide
  ruled := by decide
  shown := by decide
  side := ⟨124, [], by decide, by decide⟩

/-! ## Nodes as they are shown -/

/-- What the table shows of a node. -/
structure ShownNode where
  index : Nat
  nbId : Nat
  mcc : Nat
  mnc : Nat
  mncDigitLen : Nat
  ranType : Bytes
  cuDuId : Option Nat
  rfIds : List Nat
  deriving Repr, DecidableEq

/-- What is to be shown of a node. -/
def shownNode
    {NgranNode : Type}
    (ranTypes : RanTypes NgranNode)
    (index : Nat)
    (node : E2Node NgranNode) :
    ShownNode where
  index := index
  nbId := node.connected.id.nbId.toNat
  mcc := node.connected.id.plmn.mcc.toNat
  mnc := node.connected.id.plmn.mnc.toNat
  mncDigitLen := node.connected.id.plmn.mncDigitLen.toNat
  ranType := trim (ranTypes.getNgranName node.type)
  cuDuId :=
    if ranTypes.showsCuDuId node.type then
      node.connected.id.cuDuId.map (·.toNat)
    else
      none
  rfIds := node.connected.rf.map (·.id.toNat)

/-- The identifiers of RAN functions, with blanks between them. -/
def readRfIds (text : Bytes) : List Nat :=
  (splitLines text blank).map readDecimal

/-- Read the cells of a node's row. -/
def readNode : List Bytes → Option ShownNode
  | [index, nbId, mcc, mnc, mncDigitLen, ranType, cuDuId, rfIds] =>
      some {
        index := readDecimal index
        nbId := readDecimal nbId
        mcc := readDecimal mcc
        mnc := readDecimal mnc
        mncDigitLen := readDecimal mncDigitLen
        ranType := ranType
        cuDuId := if cuDuId = [] then none else some (readDecimal cuDuId)
        rfIds := readRfIds rfIds }
  | _ => none

/-- Read the nodes: the table below the title, without its first row. -/
def readE2Nodes (text : Bytes) : List ShownNode :=
  let below := (titleStyle.readTable corner text).tail
  let rows := infoStyle.readLines corner below.flatten.flatten
  rows.tail.flatten.filterMap readNode

/-! ## Reading a row -/

/-- A number below a power of ten has as many digits. -/
theorem length_decimal_le
    {value digits : Nat}
    (positive : 0 < digits)
    (small : value < 10 ^ digits) :
    (decimal value).length ≤ digits := by
  unfold decimal
  split
  · exact positive
  · rw [List.length_map, List.length_reverse,
      Nat.digits_length_le_iff (by decide)]
    exact small

theorem isSpace_of_mem_decimal
    {value : Nat}
    {character : UInt8}
    (member : character ∈ decimal value) :
    isSpace character = false := by
  obtain ⟨place, small, rfl⟩ := mem_decimal member
  exact isSpace_digit small

theorem trim_decimal (value : Nat) : trim (decimal value) = decimal value :=
  trimmed_of_ends
    (fun _ head => isSpace_of_mem_decimal (List.mem_of_mem_head? head))
    (fun _ last => isSpace_of_mem_decimal (List.mem_of_getLast? last))

theorem newline_not_mem_decimal (value : Nat) :
    newline ∉ decimal value := by
  intro member
  obtain ⟨place, small, same⟩ := mem_decimal member
  exact digit_ne_newline small same.symm

theorem blank_not_mem_decimal (value : Nat) : blank ∉ decimal value := by
  intro member
  obtain ⟨place, small, same⟩ := mem_decimal member
  have solid := isSpace_digit small
  rw [← same] at solid
  exact absurd solid (by decide)

section Node

variable
  {NgranNode : Type}
  {ranTypes : RanTypes NgranNode}
  (node : E2Node NgranNode)

theorem rfIdLst_eq :
    rfIdLst node =
      (node.connected.rf.map fun rf => decimal rf.id.toNat).flatMap
        (· ++ [blank]) := by
  rw [List.flatMap_map, List.flatMap_eq_foldl]
  rfl

theorem newline_not_mem_rfIdLst : newline ∉ rfIdLst node := by
  rw [rfIdLst_eq]
  intro member
  obtain ⟨piece, listed, inside⟩ := List.mem_flatMap.mp member
  obtain ⟨rf, _, rfl⟩ := List.mem_map.mp listed
  rcases List.mem_append.mp inside with number | separator
  · exact newline_not_mem_decimal _ number
  · exact absurd (List.mem_singleton.mp separator) (by decide)

/-- Trimming takes the last blank, behind which no number stands. -/
theorem readRfIds_trim_rfIdLst :
    readRfIds (trim (rfIdLst node)) =
      node.connected.rf.map (·.id.toNat) := by
  obtain none | ⟨rest, last, rfs⟩ := node.connected.rf.eq_nil_or_concat'
  · have empty : trim [] = [] := rfl
    simp [rfIdLst_eq, none, empty, readRfIds]
  · have numbers :
        ∀ number ∈ rest.map fun rf => decimal rf.id.toNat,
          blank ∉ number := by
      intro number member
      obtain ⟨rf, _, rfl⟩ := List.mem_map.mp member
      exact blank_not_mem_decimal _
    have text :
        rfIdLst node =
          [] ++
            ((rest.map fun rf => decimal rf.id.toNat).flatMap
              (· ++ [blank]) ++ decimal last.id.toNat) ++
            [blank] := by
      rw [rfIdLst_eq, rfs]
      simp
    have trimmed :
        Trimmed
          ((rest.map fun rf => decimal rf.id.toNat).flatMap
            (· ++ [blank]) ++ decimal last.id.toNat) := by
      refine trimmed_of_ends (fun character head => ?_)
        fun character end_ => ?_
      · cases rest with
        | nil =>
            exact isSpace_of_mem_decimal (List.mem_of_mem_head? head)
        | cons rf others =>
            have first :
                character ∈ (decimal rf.id.toNat).head? := by
              rw [List.map_cons, List.flatMap_cons, List.append_assoc,
                List.append_assoc,
                List.head?_append_of_ne_nil _ (decimal_ne_nil _)] at head
              exact head
            exact isSpace_of_mem_decimal (List.mem_of_mem_head? first)
      · rw [List.getLast?_append_of_ne_nil _ (decimal_ne_nil _)] at end_
        exact isSpace_of_mem_decimal (List.mem_of_getLast? end_)
    rw [text, trim_surround _ (by simp)
      (List.forall_mem_singleton.mpr rfl), trimmed, readRfIds,
      splitLines_ended numbers,
      splitLines_of_not_mem (blank_not_mem_decimal _),
      if_neg (decimal_ne_nil _), rfs]
    simp [readDecimal_decimal]

theorem readNode_nodeTexts (index : Nat) :
    readNode ((nodeTexts ranTypes index node).map trim) =
      some (shownNode ranTypes index node) := by
  have cuDuId :
      (if trim (cuDuIdText ranTypes node) = [] then none
        else some (readDecimal (trim (cuDuIdText ranTypes node)))) =
      (shownNode ranTypes index node).cuDuId := by
    unfold cuDuIdText shownNode
    dsimp only
    cases ranTypes.showsCuDuId node.type with
    | false =>
        rfl
    | true =>
        cases node.connected.id.cuDuId with
        | none =>
            rfl
        | some id =>
            simp [trim_decimal, decimal_ne_nil, readDecimal_decimal]
  simp only [nodeTexts, List.map_cons, List.map_nil, readNode, cuDuId,
    trim_decimal, readDecimal_decimal, readRfIds_trim_rfIdLst]
  rfl

end Node

/-! ## Widths -/

/-- A bound on the width of a column of the table of the nodes. -/
def columnBound (column : Nat) : Nat :=
  if column = 7 then 6 * 2 ^ 60 + 18 else 2 ^ 60 + 22

/-- The texts of the rows fit into the columns. -/
def Narrow (rows : List (List Bytes)) : Prop :=
  ∀ texts ∈ rows, ∀ column text, texts[column]? = some text →
    text.length + 2 ≤ columnBound column

theorem separatorWidth_infoStyle : infoStyle.separatorWidth = 0 :=
  rfl

theorem unit_infoStyle : infoStyle.Unit := by
  constructor <;> decide

section Tables

variable {rows : List (List Bytes)}

theorem framed_infoTable : (infoTable rows).Framed infoStyle :=
  plain_textTable.framed

theorem framed_titleTable : (titleTable rows).Framed titleStyle :=
  plain_textTable.framed

theorem regular_titleTable : (titleTable rows).Regular :=
  regular_textTable (by simp)

theorem fitted_infoTable : (infoTable rows).Fitted 0 :=
  (roomy_textTable unsized_infoFormat 0).fitted

theorem fitted_titleTable : (titleTable rows).Fitted 0 :=
  (roomy_textTable unsized_titleFormat 0).fitted

theorem numColumns_infoTable :
    0 < (infoTable rows).estimateNumColumns :=
  Nat.succ_pos _

theorem numColumns_titleTable :
    0 < (titleTable rows).estimateNumColumns :=
  Nat.succ_pos _

variable
  (lengths : ∀ texts ∈ rows, texts.length = columnNames.length)
  (narrow : Narrow rows)

include lengths

theorem regular_infoTable : (infoTable rows).Regular :=
  regular_textTable lengths

include narrow

theorem widthAt_infoTable_le
    {column : Nat}
    (inside : column < columnNames.length) :
    (infoTable rows).widthAt column ≤ columnBound column := by
  refine widthAt_textTable_le unsized_infoFormat lengths inside
    fun texts listed text here style left right => ?_
  have wide := getCellWidth_le style text
  have fits : text.length + 2 ≤ columnBound column := by
    rcases List.mem_cons.mp listed with rfl | later
    · have names : ∀ name ∈ columnNames, name.length ≤ 16 := by decide
      have short := names text (List.mem_of_getElem? here)
      unfold columnBound
      split <;> omega
    · exact narrow texts later column text here
  omega

theorem sized_infoTable : (infoTable rows).Sized := by
  intro column inside
  have wide := widthAt_infoTable_le lengths narrow inside
  have bound : columnBound column < sizeModulus := by
    unfold columnBound
    split <;> decide
  omega

/-- The lines of the inner table are not too long for the outer one. -/
theorem frameWidth_infoTable_le :
    (infoTable rows).frameWidth ≤ 14 * 2 ^ 60 := by
  have widths :
      ((List.range 8).map fun column =>
          (infoTable rows).widthAt column + 1).sum ≤
        ((List.range 8).map fun column => columnBound column + 1).sum := by
    refine List.sum_le_sum fun column member => ?_
    exact Nat.succ_le_succ
      (widthAt_infoTable_le lengths narrow (List.mem_range.mp member))
  have bound :
      ((List.range 8).map fun column => columnBound column + 1).sum + 1 ≤
        14 * 2 ^ 60 := by
    decide
  rw [TableInternal.frameWidth, TableInternal.widths, List.map_map]
  exact le_trans (Nat.succ_le_succ widths) bound

theorem sized_titleTable : (titleTable rows).Sized := by
  have several :=
    TableInternal.length_lines_ne_one (regular_infoTable lengths)
      framed_infoTable (sized_infoTable lengths narrow) fitted_infoTable
      legible_infoStyle.frame numColumns_infoTable
  have short :
      ∀ line ∈ splitLines ((infoTable rows).layout 0) newline,
        line.length ≤ 14 * 2 ^ 60 := by
    intro line member
    have bound := frameWidth_infoTable_le lengths narrow
    rcases TableInternal.length_of_mem_lines (regular_infoTable lengths)
      framed_infoTable (sized_infoTable lengths narrow) fitted_infoTable
      legible_infoStyle.frame unit_infoStyle numColumns_infoTable member
      with border | text | ⟨rfl, _⟩
    · exact border.le.trans bound
    · rw [TableInternal.textWidth, separatorWidth_infoStyle] at text
      exact text.le.trans bound
    · exact Nat.zero_le _
  intro column inside
  have wide :
      (titleTable rows).widthAt column ≤ 14 * 2 ^ 60 + 2 := by
    refine widthAt_textTable_le unsized_titleFormat (by simp) inside
      fun texts listed text here style left right => ?_
    have member := List.mem_of_getElem? here
    rcases List.mem_cons.mp listed with rfl | later
    · have words := getCellWidth_le style text
      have length : text.length = 33 := by
        rw [List.mem_singleton.mp member]
        rfl
      omega
    · rw [List.mem_singleton.mp later] at member
      rw [List.mem_singleton.mp member]
      have lines :
          getCellWidth style ((infoTable rows).layout 0) ≤
            style.paddingLeft + 14 * 2 ^ 60 + style.paddingRight :=
        getCellWidth_le_of_lines several short
      omega
  exact lt_of_le_of_lt wide (by decide)

/-- The outer table shows the lines of the inner one. -/
theorem readTable_titleTable :
    titleStyle.readTable corner ((titleTable rows).layout 0 ++ [newline]) =
      [rowShows [title],
        (splitLines ((infoTable rows).layout 0) newline).map fun line =>
          [line]] := by
  have text :=
    TableInternal.readTable_layout regular_titleTable framed_titleTable
      (sized_titleTable lengths narrow) fitted_titleTable
      legible_titleStyle numColumns_titleTable
  have ended :=
    TableInternal.splitLines_layout_newline regular_titleTable
      framed_titleTable (sized_titleTable lengths narrow)
      fitted_titleTable legible_titleStyle.frame
      numColumns_titleTable
  have below :
      rowShows [(infoTable rows).layout 0] =
        (splitLines ((infoTable rows).layout 0) newline).map fun line =>
          [line] := by
    rw [rowShows_singleton]
    refine List.map_congr_left fun line member => ?_
    have trimmed :=
      TableInternal.trimmed_lines (regular_infoTable lengths)
        framed_infoTable (sized_infoTable lengths narrow)
        fitted_infoTable legible_infoStyle
        closed_infoStyle numColumns_infoTable member
    rw [trimmed]
  rw [Style.readTable] at text ⊢
  rw [ended, text, ← below]
  exact shows_textTable unsized_titleFormat 0

/-- The rows of the inner table are read from its lines. -/
theorem readLines_infoTable :
    infoStyle.readLines corner
        (splitLines ((infoTable rows).layout 0) newline) =
      (columnNames :: rows).map rowShows := by
  have text :=
    TableInternal.readTable_layout (regular_infoTable lengths)
      framed_infoTable (sized_infoTable lengths narrow)
      fitted_infoTable legible_infoStyle
      numColumns_infoTable
  rw [Style.readTable] at text
  exact text.trans (shows_textTable unsized_infoFormat 0)

end Tables

section Nodes

variable
  {NgranNode : Type}
  {ranTypes : RanTypes NgranNode}
  {e2Nodes : List (E2Node NgranNode)}

/--
How many nodes and RAN functions there are, and how long the names are: fewer
than 2 ^ 60, since an element of either array takes more than 16 bytes and the
names are literals.
-/
structure InMemory
    (ranTypes : RanTypes NgranNode)
    (e2Nodes : List (E2Node NgranNode)) :
    Prop where
  nodes : e2Nodes.length < 2 ^ 60
  rfs : ∀ node ∈ e2Nodes, node.connected.rf.length < 2 ^ 60
  names :
    ∀ node ∈ e2Nodes, (ranTypes.getNgranName node.type).length < 2 ^ 60

theorem length_rfIdLst_le (node : E2Node NgranNode) :
    (rfIdLst node).length ≤ 6 * node.connected.rf.length := by
  rw [rfIdLst_eq]
  induction node.connected.rf with
  | nil =>
      simp
  | cons rf rest inductionHypothesis =>
      have digits : (decimal rf.id.toNat).length ≤ 5 :=
        length_decimal_le (by decide)
          (lt_trans rf.id.toNat_lt (by decide))
      simp only [List.map_cons, List.flatMap_cons, List.length_append,
        List.length_cons, List.length_nil]
      omega

/-- The text of a `cu_du_id` is empty or a number. -/
theorem cuDuIdText_cases
    (ranTypes : RanTypes NgranNode)
    (node : E2Node NgranNode) :
    cuDuIdText ranTypes node = [] ∨
      ∃ id : UInt64, cuDuIdText ranTypes node = decimal id.toNat := by
  unfold cuDuIdText
  split
  · cases node.connected.id.cuDuId with
    | none => exact .inl rfl
    | some id => exact .inr ⟨id, rfl⟩
  · exact .inl rfl

theorem length_cuDuIdText_le (node : E2Node NgranNode) :
    (cuDuIdText ranTypes node).length ≤ 20 := by
  rcases cuDuIdText_cases ranTypes node with none | ⟨id, some⟩
  · simp [none]
  · rw [some]
    exact length_decimal_le (by decide)
      (lt_trans id.toNat_lt (by decide))

/-- The texts of nodes in memory fit into the columns. -/
theorem narrow_nodeRows (inMemory : InMemory ranTypes e2Nodes) :
    Narrow (nodeRows ranTypes e2Nodes) := by
  intro texts member column text here
  obtain ⟨⟨node, index⟩, listed, rfl⟩ := List.mem_map.mp member
  have present := List.fst_mem_of_mem_zipIdx listed
  have position : index < e2Nodes.length := by
    simpa using List.snd_lt_of_mem_zipIdx listed
  have number
      {value : Nat}
      (small : value < 2 ^ 64) :
      (decimal value).length ≤ 20 :=
    length_decimal_le (by decide) (lt_trans small (by decide))
  have indexText :=
    number (lt_trans (lt_trans position inMemory.nodes) (by decide))
  have nbId :=
    number (lt_trans node.connected.id.nbId.toNat_lt (by decide))
  have mcc :=
    number (lt_trans node.connected.id.plmn.mcc.toNat_lt (by decide))
  have mnc :=
    number (lt_trans node.connected.id.plmn.mnc.toNat_lt (by decide))
  have mncDigitLen :=
    number
      (lt_trans node.connected.id.plmn.mncDigitLen.toNat_lt (by decide))
  have name := inMemory.names node present
  have cuDuId : (cuDuIdText ranTypes node).length ≤ 20 :=
    length_cuDuIdText_le node
  have rfIds := length_rfIdLst_le node
  have rfs := inMemory.rfs node present
  have inside : column < 8 := (List.getElem?_eq_some_iff.mp here).1
  change (nodeTexts ranTypes index node)[column]? = some text at here
  unfold columnBound
  split
  · rename_i last
    subst last
    obtain rfl := Option.some.inj here
    omega
  · -- one case for each other column, each with the bound on its text
    interval_cases column <;> obtain rfl := Option.some.inj here <;> omega

/-- A row shows its texts on one line. -/
theorem rowShows_nodeTexts
    {node : E2Node NgranNode}
    (oneLine : newline ∉ ranTypes.getNgranName node.type)
    (index : Nat) :
    rowShows (nodeTexts ranTypes index node) =
      [(nodeTexts ranTypes index node).map trim] := by
  refine rowShows_of_oneLine (fun text member => ?_)
    ⟨decimal index, by simp [nodeTexts], decimal_ne_nil index⟩
  have cuDuId : newline ∉ cuDuIdText ranTypes node := by
    rcases cuDuIdText_cases ranTypes node with none | ⟨id, some⟩
    · simp [none]
    · rw [some]
      exact newline_not_mem_decimal id.toNat
  have numbers := newline_not_mem_decimal
  have rfIds := newline_not_mem_rfIdLst node
  simp only [nodeTexts, List.mem_cons, List.not_mem_nil, or_false]
    at member
  rcases member with rfl | rfl | rfl | rfl | rfl | rfl | rfl | rfl
  · exact numbers _
  · exact numbers _
  · exact numbers _
  · exact numbers _
  · exact numbers _
  · exact oneLine
  · exact cuDuId
  · exact rfIds

/-- The reader finds the nodes in the printed table. -/
theorem readE2Nodes_layout
    (oneLine :
      ∀ node ∈ e2Nodes, newline ∉ ranTypes.getNgranName node.type)
    (inMemory : InMemory ranTypes e2Nodes) :
    readE2Nodes
        ((titleTable (nodeRows ranTypes e2Nodes)).layout 0 ++ [newline]) =
      e2Nodes.zipIdx.map fun entry =>
        shownNode ranTypes entry.2 entry.1 := by
  have lengths := length_nodeRows ranTypes e2Nodes
  have narrow := narrow_nodeRows inMemory
  have rows :
      ((columnNames :: nodeRows ranTypes e2Nodes).map rowShows).tail.flatten =
        (nodeRows ranTypes e2Nodes).map (·.map trim) := by
    have single :
        (nodeRows ranTypes e2Nodes).map rowShows =
          (nodeRows ranTypes e2Nodes).map fun texts =>
            [texts.map trim] := by
      refine List.map_congr_left fun texts member => ?_
      obtain ⟨entry, listed, rfl⟩ := List.mem_map.mp member
      exact rowShows_nodeTexts
        (oneLine entry.1 (List.fst_mem_of_mem_zipIdx listed)) entry.2
    rw [List.map_cons, List.tail_cons, single, ← List.flatMap_def,
      ← List.map_eq_flatMap]
  have lines :
      ((splitLines ((infoTable (nodeRows ranTypes e2Nodes)).layout 0)
          newline).map fun line => [line]).flatten =
        splitLines ((infoTable (nodeRows ranTypes e2Nodes)).layout 0)
          newline := by
    rw [← List.flatMap_def, List.flatMap_singleton']
  have nodes :
      e2Nodes.zipIdx.filterMap (fun entry =>
          readNode ((nodeTexts ranTypes entry.2 entry.1).map trim)) =
        e2Nodes.zipIdx.map fun entry =>
          shownNode ranTypes entry.2 entry.1 := by
    have read :
        ∀ entry ∈ e2Nodes.zipIdx,
          readNode ((nodeTexts ranTypes entry.2 entry.1).map trim) =
            (some ∘ fun entry : E2Node NgranNode × Nat =>
              shownNode ranTypes entry.2 entry.1) entry :=
      fun entry _ => readNode_nodeTexts entry.1 entry.2
    rw [List.filterMap_congr read, List.filterMap_eq_map]
  rw [readE2Nodes, readTable_titleTable lengths narrow, List.tail_cons,
    List.flatten_singleton, lines, readLines_infoTable lengths narrow, rows,
    nodeRows, List.map_map, List.filterMap_map]
  exact nodes

/-- Whether a node shows its `cu_du_id`, in the words of its type. -/
theorem shown_iff
    (ranTypes : RanTypes NgranNode)
    (node : E2Node NgranNode) :
    Shown ranTypes node ↔
      (ranTypes.nodeIsMonolithic node.type = false →
        ranTypes.nodeIsCu node.type = false →
          node.connected.id.cuDuId ≠ none) := by
  simp [Shown, RanTypes.showsCuDuId, Option.isSome_iff_ne_none]

/--
`printE2Nodes` prints exactly when no pointer that it dereferences is null; if
one is, it ends after its line in the log.  There is no other way to end.
-/
theorem printE2Nodes_prints_iff
    (ranTypes : RanTypes NgranNode)
    (e2Nodes : List (E2Node NgranNode))
    (fuel : Nat) :
    ((∃ text,
        Returns (printE2Nodes ranTypes fuel e2Nodes) ()
          [showing, .cout text] () ()) ↔
      ∀ node ∈ e2Nodes,
        ranTypes.nodeIsMonolithic node.type = false →
          ranTypes.nodeIsCu node.type = false →
            node.connected.id.cuDuId ≠ none) ∧
      ((∃ node ∈ e2Nodes,
          ranTypes.nodeIsMonolithic node.type = false ∧
            ranTypes.nodeIsCu node.type = false ∧
            node.connected.id.cuDuId = none) →
        printE2Nodes ranTypes fuel e2Nodes () =
          ⟨[showing], (), .stop (.nullDereference "cu_du_id")⟩) := by
  refine ⟨⟨?_, fun shown => ?_⟩, ?_⟩
  · rintro ⟨text, prints⟩ node member
    rw [← shown_iff]
    by_contra null
    have stops := printE2Nodes_null ⟨node, member, null⟩ fuel
    rw [prints.apply] at stops
    cases stops
  · exact ⟨_, printE2Nodes_shown
      (fun node member => (shown_iff ranTypes node).mpr (shown node member))
      fuel⟩
  · rintro ⟨node, member, monolithic, cu, null⟩
    refine printE2Nodes_null ⟨node, member, fun shown => ?_⟩ fuel
    exact (shown_iff ranTypes node).mp shown monolithic cu null

/--
What `printE2Nodes` prints can be read back: the nodes in their order, with the
numbers, the name of the type and the RAN functions of each, and its `cu_du_id`
unless it is monolithic or a CU.
-/
theorem printE2Nodes_readable
    {ranTypes : RanTypes NgranNode}
    {e2Nodes : List (E2Node NgranNode)}
    {text : Bytes}
    {fuel : Nat}
    (oneLine :
      ∀ node ∈ e2Nodes, newline ∉ ranTypes.getNgranName node.type)
    (inMemory : InMemory ranTypes e2Nodes)
    (prints :
      Returns (printE2Nodes ranTypes fuel e2Nodes) ()
        [showing, .cout text] () ()) :
    readE2Nodes text =
      e2Nodes.zipIdx.map fun entry =>
        shownNode ranTypes entry.2 entry.1 := by
  by_cases shown : ∀ node ∈ e2Nodes, Shown ranTypes node
  · have run := printE2Nodes_shown shown fuel
    rw [prints.apply] at run
    obtain rfl :
        text =
          (titleTable (nodeRows ranTypes e2Nodes)).layout 0 ++
            [newline] := by
      simpa using congrArg Run.log run
    exact readE2Nodes_layout oneLine inMemory
  · have run := printE2Nodes_null (by simpa using shown) fuel
    rw [prints.apply] at run
    cases run

/-- Types of which the first is monolithic and the second a DU. -/
def gnbTypes : RanTypes Bool where
  getNgranName type := if type then literal "gNB_DU" else literal "gNB"
  nodeIsMonolithic type := !type
  nodeIsCu _ := false

/-- A DU with two RAN functions, and a monolithic node without any. -/
def gnbNodes : List (E2Node Bool) :=
  [⟨true, ⟨⟨7, ⟨1, 5, 2⟩, some 3584⟩, [⟨2, .other⟩, ⟨142, .other⟩], none⟩⟩,
    ⟨false, ⟨⟨8, ⟨1, 5, 2⟩, none⟩, [], none⟩⟩]

theorem printE2Nodes_readable_gnb :
    ∃ text,
      Returns (printE2Nodes gnbTypes 0 gnbNodes) () [showing, .cout text]
          () () ∧
        readE2Nodes text =
          [⟨0, 7, 1, 5, 2, literal "gNB_DU", some 3584, [2, 142]⟩,
            ⟨1, 8, 1, 5, 2, literal "gNB", none, []⟩] := by
  have prints :
      Returns (printE2Nodes gnbTypes 0 gnbNodes) () _ () () :=
    printE2Nodes_shown (by decide) 0
  refine ⟨_, prints, ?_⟩
  exact printE2Nodes_readable (by decide)
    ⟨by decide, by decide, by decide⟩ prints

end Nodes

end IqosXapp.E2Info
