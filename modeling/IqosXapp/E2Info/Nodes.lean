import Mathlib.Data.Nat.Digits.Defs
import IqosXapp.KpmManager.Types
import IqosXapp.Tabulate.Table

namespace IqosXapp.E2Info

open Effect Program KpmManager Tabulate

/-!
# `E2Info`

`printE2Nodes` shows the connected E2 nodes as a table with one row for each
node, inside a table that carries the title.

The type of a node and what is known of it belong to FlexRIC, and are
parameters here.  A node's `cu_du_id` may be a null pointer; the code
dereferences it for every node that is neither monolithic nor a CU.
-/

/-- What FlexRIC says of the type of a node. -/
structure RanTypes (NgranNode : Type) where
  getNgranName : NgranNode → Bytes
  nodeIsMonolithic : NgranNode → Bool
  nodeIsCu : NgranNode → Bool

/-- `e2_node_connected_xapp_t`, with `id.type` beside it. -/
structure E2Node (NgranNode : Type) where
  type : NgranNode
  connected : E2NodeConnectedXapp
  deriving Repr, DecidableEq

/-- What `printE2Nodes` writes, to the log and to `std::cout`. -/
inductive E2InfoEvent where
  | logInfo (text : String)
  | cout (text : Bytes)
  deriving Repr, DecidableEq

/-- Why `printE2Nodes` does not return. -/
inductive E2InfoStop where
  | nullDereference (pointer : String)
  | print (fault : PrintFault)
  deriving Repr, DecidableEq

/-- A function of `E2Info`; the nodes are arguments. -/
abbrev E2InfoProgram := Program Unit E2InfoEvent E2InfoStop

/-- Go on with what a table operation returns. -/
def ofPrint {α : Type} : Except PrintFault α → E2InfoProgram α
  | .ok value => pure value
  | .error fault => stop (.print fault)

@[simp] theorem ofPrint_ok {α : Type} (value : α) :
    ofPrint (.ok value) = pure value :=
  rfl

/-! ## Decimal numbers -/

/-- A digit, as a character. -/
def digit (value : Nat) : UInt8 :=
  UInt8.ofNat (48 + value)

/-- A number as `operator<<` and `fmt::to_string` print it. -/
def decimal (value : Nat) : Bytes :=
  if value = 0 then
    [digit 0]
  else
    (Nat.digits 10 value).reverse.map digit

/-- The value of decimal digits. -/
def readDecimal (text : Bytes) : Nat :=
  Nat.ofDigits 10 (text.reverse.map fun character => character.toNat - 48)

theorem readDecimal_decimal (value : Nat) :
    readDecimal (decimal value) = value := by
  have back
      {place : Nat}
      (small : place < 10) :
      (digit place).toNat - 48 = place := by
    rw [digit, UInt8.toNat_ofNat']
    omega
  unfold readDecimal decimal
  split
  · rename_i zero
    rw [zero]
    rfl
  · rw [← List.map_reverse, List.reverse_reverse, List.map_map]
    have same :
        (Nat.digits 10 value).map
            ((fun character : UInt8 => character.toNat - 48) ∘ digit) =
          Nat.digits 10 value := by
      conv_rhs => rw [← List.map_id (Nat.digits 10 value)]
      exact List.map_congr_left fun place member =>
        back (Nat.digits_lt_base (by decide) member)
    rw [same, Nat.ofDigits_digits]

theorem decimal_ne_nil (value : Nat) : decimal value ≠ [] := by
  unfold decimal
  split
  · simp
  · rename_i positive
    simpa using Nat.digits_ne_nil_iff_ne_zero.mpr positive

/-- A decimal number consists of digits. -/
theorem mem_decimal
    {value : Nat}
    {character : UInt8}
    (member : character ∈ decimal value) :
    ∃ place < 10, character = digit place := by
  unfold decimal at member
  split at member
  · exact ⟨0, by decide, List.mem_singleton.mp member⟩
  · obtain ⟨place, listed, rfl⟩ := List.mem_map.mp member
    exact ⟨place,
      Nat.digits_lt_base (by decide) (List.mem_reverse.mp listed), rfl⟩

theorem isSpace_digit
    {place : Nat}
    (small : place < 10) :
    isSpace (digit place) = false := by
  decide +revert

theorem digit_ne_newline
    {place : Nat}
    (small : place < 10) :
    digit place ≠ newline := by
  decide +revert

/-! ## The tables -/

section Print

variable
  {NgranNode : Type}
  (ranTypes : RanTypes NgranNode)

/-- Whether the code dereferences the `cu_du_id` of a node. -/
def RanTypes.showsCuDuId (type : NgranNode) : Bool :=
  !ranTypes.nodeIsMonolithic type && !ranTypes.nodeIsCu type

/-- `rf_id_lst` -/
def rfIdLst (node : E2Node NgranNode) : Bytes :=
  node.connected.rf.foldl
    (fun lst rf => lst ++ (decimal rf.id.toNat ++ [blank])) []

/-- The row that is streamed for a node, up to the name of its type. -/
def nodeRow (index : Nat) (node : E2Node NgranNode) : RowStream :=
  let id := node.connected.id
  let row : RowStream := []
  let row := row.output (decimal index)
  let row := row.output (decimal id.nbId.toNat)
  let row := row.output (decimal id.plmn.mcc.toNat)
  let row := row.output (decimal id.plmn.mnc.toNat)
  let row := row.output (decimal id.plmn.mncDigitLen.toNat)
  row.push (.text (ranTypes.getNgranName node.type))

/-- One turn of the loop over the nodes. -/
def addNode
    (fuel : Nat)
    (e2NodesInfoTab : Table)
    (entry : E2Node NgranNode × Nat) :
    E2InfoProgram Table := do
  let node := entry.1
  let index := entry.2
  let e2NodesInfoTab ←
    ofPrint (e2NodesInfoTab.addRow fuel (nodeRow ranTypes index node))
  let e2NodesInfoTab ←
    if ranTypes.showsCuDuId node.type then do
      let cuDuId ←
        deref node.connected.id.cuDuId (.nullDereference "cu_du_id")
      pure (e2NodesInfoTab.setText (index + 1) 6 (decimal cuDuId.toNat))
    else
      pure e2NodesInfoTab
  pure (e2NodesInfoTab.setText (index + 1) 7 (rfIdLst node))

/-- The title of the table. -/
def title : Bytes :=
  literal "Information of connected E2 nodes"

/-- The names of the columns. -/
def columnNames : List Bytes :=
  [literal "index", literal "nb_id", literal "mcc", literal "mnc",
    literal "mnc_digit_len", literal "ran_type", literal "cu_du_id",
    literal "supported rf_ids"]

/-- An em dash, in UTF-8. -/
def emDash : Bytes :=
  [0xE2, 0x80, 0x94]

/-- The format of the table around the nodes. -/
def titleFormat : Format :=
  { Format.unset with
    columnSeparator := some []
    borderTop := some emDash
    borderBottom := some emDash }

/-- The format of the table of the nodes. -/
def infoFormat : Format :=
  { Format.unset with columnSeparator := some [] }

/-- `printE2Nodes` -/
def printE2Nodes (fuel : Nat) (e2Nodes : List (E2Node NgranNode)) :
    E2InfoProgram Unit := do
  emit (.logInfo "Showing E2 node informations...")
  -- table header
  let e2NodesInfoTabHdr ← ofPrint (Table.new.addRow fuel [.text title])
  let e2NodesInfoTabHdr := e2NodesInfoTabHdr.format titleFormat
  let e2NodesInfoTabHdr :=
    e2NodesInfoTabHdr.formatRow 0 (Format.alignment .center)
  -- information table
  let e2NodesInfoTab ←
    ofPrint (Table.new.addRow fuel (columnNames.map .text))
  let e2NodesInfoTab ←
    e2Nodes.zipIdx.foldlM (addNode ranTypes fuel) e2NodesInfoTab
  let e2NodesInfoTab := e2NodesInfoTab.format infoFormat
  let e2NodesInfoTab :=
    e2NodesInfoTab.formatRow 0 (Format.alignment .center)
  let e2NodesInfoTabHdr ←
    ofPrint (e2NodesInfoTabHdr.addRow fuel
      (RowStream.push [] (.table e2NodesInfoTab)))
  let text ← ofPrint (e2NodesInfoTabHdr.table.print fuel)
  emit (.cout (text ++ [newline]))

/-- `getE2NodesIds` -/
def getE2NodesIds (e2Nodes : List (E2Node NgranNode)) :
    List (NgranNode × GlobalE2NodeId) :=
  e2Nodes.foldl
    (fun ids node => ids ++ [(node.type, node.connected.id)]) []

end Print

/-! ## The rows of the nodes -/

section Rows

variable
  {NgranNode : Type}
  (ranTypes : RanTypes NgranNode)

/-- What the table shows of a node's `cu_du_id`. -/
def cuDuIdText (node : E2Node NgranNode) : Bytes :=
  if ranTypes.showsCuDuId node.type then
    (node.connected.id.cuDuId.map fun id => decimal id.toNat).getD []
  else
    []

/-- The texts of a node's row. -/
def nodeTexts (index : Nat) (node : E2Node NgranNode) : List Bytes :=
  [decimal index,
    decimal node.connected.id.nbId.toNat,
    decimal node.connected.id.plmn.mcc.toNat,
    decimal node.connected.id.plmn.mnc.toNat,
    decimal node.connected.id.plmn.mncDigitLen.toNat,
    ranTypes.getNgranName node.type,
    cuDuIdText ranTypes node,
    rfIdLst node]

/-- The pointer that the code dereferences for a node, if any, is not null. -/
def Shown (node : E2Node NgranNode) : Prop :=
  ranTypes.showsCuDuId node.type = true →
    node.connected.id.cuDuId.isSome = true

instance (node : E2Node NgranNode) : Decidable (Shown ranTypes node) :=
  inferInstanceAs (Decidable (_ → _))

theorem nodeRow_eq (index : Nat) (node : E2Node NgranNode) :
    nodeRow ranTypes index node =
      [decimal index,
        decimal node.connected.id.nbId.toNat,
        decimal node.connected.id.plmn.mcc.toNat,
        decimal node.connected.id.plmn.mnc.toNat,
        decimal node.connected.id.plmn.mncDigitLen.toNat,
        ranTypes.getNgranName node.type].map RowCell.text := by
  simp [nodeRow, RowStream.output_of_ne_nil, decimal_ne_nil,
    RowStream.push]

/-- A table with the given rows of texts below its first one. -/
def infoRows (rows : List (List Bytes)) : Table where
  table :=
    rows.foldl TableInternal.addRow
      (TableInternal.create.addRow columnNames)
  rows := rows.length + 1
  cols := columnNames.length

@[simp] theorem rows_infoRows (rows : List (List Bytes)) :
    (infoRows rows).rows = rows.length + 1 :=
  rfl

@[simp] theorem cols_infoRows (rows : List (List Bytes)) :
    (infoRows rows).cols = 8 :=
  rfl

theorem infoRows_append
    (rows : List (List Bytes))
    (texts : List Bytes) :
    infoRows (rows ++ [texts]) =
      { infoRows rows with
        table := (infoRows rows).table.addRow texts
        rows := (infoRows rows).rows + 1 } := by
  simp [infoRows]

theorem infoRows_rows (rows : List (List Bytes)) :
    (infoRows rows).table.rows =
      textRow columnNames :: rows.map textRow := by
  induction rows using List.reverseRecOn with
  | nil =>
      rfl
  | append_singleton rows texts inductionHypothesis =>
      rw [infoRows_append]
      simp [TableInternal.addRow, textRow, inductionHypothesis]

section Turn

variable
  {ranTypes : RanTypes NgranNode}
  {fuel index : Nat}
  {node : E2Node NgranNode}

/-- The loop adds the row of a node whose pointer is not null. -/
theorem addNode_shown
    {rows : List (List Bytes)}
    (here : rows.length = index)
    (shown : Shown ranTypes node) :
    addNode ranTypes fuel (infoRows rows) (node, index) =
      pure (infoRows (rows ++ [nodeTexts ranTypes index node])) := by
  have last : index + 1 = (infoRows rows).table.rows.length := by
    simp [infoRows_rows, here]
  have set (texts : List Bytes) (cell : Nat) (text : Bytes) :
      ((infoRows rows).table.addRow texts).setText (index + 1) cell text =
        (infoRows rows).table.addRow (texts.set cell text) := by
    rw [last]
    exact TableInternal.setText_addRow _ texts cell text
  rw [addNode, nodeRow_eq, Table.addRow_texts, infoRows_append]
  cases shows : ranTypes.showsCuDuId node.type with
  | false =>
      simp [shows, Table.setText, set, nodeTexts, cuDuIdText]
  | true =>
      obtain ⟨cuDuId, some⟩ := Option.isSome_iff_exists.mp (shown shows)
      simp [shows, some, Table.setText, set, nodeTexts, cuDuIdText]

/-- The loop ends at a node whose pointer is null. -/
theorem addNode_null
    (table : Table)
    (null : ¬Shown ranTypes node) :
    addNode ranTypes fuel table (node, index) =
      stop (.nullDereference "cu_du_id") := by
  simp only [Shown, Classical.not_imp, Option.not_isSome_iff_eq_none]
    at null
  rw [addNode, nodeRow_eq, Table.addRow_texts]
  simp [null.1, null.2, -bind_pure_comp]

/-- The loop adds the rows of nodes whose pointers are not null. -/
theorem addNodes_shown
    (e2Nodes : List (E2Node NgranNode))
    (rows : List (List Bytes))
    (shown : ∀ node ∈ e2Nodes, Shown ranTypes node) :
    (e2Nodes.zipIdx rows.length).foldlM (addNode ranTypes fuel)
        (infoRows rows) =
      pure (infoRows (rows ++
        (e2Nodes.zipIdx rows.length).map fun entry =>
          nodeTexts ranTypes entry.2 entry.1)) := by
  induction e2Nodes generalizing rows with
  | nil =>
      simp
  | cons node rest inductionHypothesis =>
      have later :=
        inductionHypothesis
          (rows ++ [nodeTexts ranTypes rows.length node])
          fun node member => shown node (by simp [member])
      rw [List.length_append, List.length_singleton] at later
      rw [List.zipIdx_cons, List.foldlM_cons,
        addNode_shown rfl (shown node (by simp)), pure_bind, later]
      simp

/-- The loop ends at the first node whose pointer is null. -/
theorem addNodes_null
    (e2Nodes : List (E2Node NgranNode))
    (rows : List (List Bytes))
    (null : ∃ node ∈ e2Nodes, ¬Shown ranTypes node) :
    (e2Nodes.zipIdx rows.length).foldlM (addNode ranTypes fuel)
        (infoRows rows) =
      stop (.nullDereference "cu_du_id") := by
  induction e2Nodes generalizing rows with
  | nil =>
      simp at null
  | cons node rest inductionHypothesis =>
      rw [List.zipIdx_cons, List.foldlM_cons]
      by_cases shown : Shown ranTypes node
      · have later :=
          inductionHypothesis
            (rows ++ [nodeTexts ranTypes rows.length node])
            (by simpa [shown] using null)
        rw [List.length_append, List.length_singleton] at later
        rw [addNode_shown rfl shown, pure_bind, later]
      · rw [addNode_null _ shown]
        rfl

end Turn

end Rows

/-! ## The printed tables -/

/-- The table of the nodes, given the texts of its rows. -/
def infoTable (rows : List (List Bytes)) : TableInternal :=
  textTable infoFormat .center columnNames rows

/-- The table around it, which shows it below the title. -/
def titleTable (rows : List (List Bytes)) : TableInternal :=
  textTable titleFormat .center [title] [[(infoTable rows).layout 0]]

theorem unsized_infoFormat : infoFormat.Unsized := by
  constructor <;> rfl

theorem unsized_titleFormat : titleFormat.Unsized := by
  constructor <;> rfl

/-- The table that the loop built, formatted. -/
theorem format_infoRows (rows : List (List Bytes)) :
    (((infoRows rows).format infoFormat).formatRow 0
        (Format.alignment .center)).table =
      infoTable rows := by
  have unformatted : (infoRows rows).table.format = Format.defaults := by
    induction rows using List.reverseRecOn with
    | nil =>
        rfl
    | append_singleton rows texts inductionHypothesis =>
        rw [infoRows_append]
        exact inductionHypothesis
  simp [Table.format, Table.formatRow, TableInternal.formatTable,
    TableInternal.formatRow, TableInternal.patchRow,
    TableInternal.rowFormat, inherit, infoRows_rows, unformatted,
    infoTable, textTable, textRow]

/-- The table of the nodes is printed into the table around it. -/
theorem print_infoTable
    {rows : List (List Bytes)}
    (lengths : ∀ texts ∈ rows, texts.length = columnNames.length)
    (fuel : Nat) :
    (infoTable rows).print fuel = .ok ((infoTable rows).layout 0) :=
  print_textTable unsized_infoFormat lengths fuel

theorem print_titleTable
    (rows : List (List Bytes))
    (fuel : Nat) :
    (titleTable rows).print fuel = .ok ((titleTable rows).layout 0) :=
  print_textTable unsized_titleFormat (by simp) fuel

section Runs

variable
  {NgranNode : Type}
  (ranTypes : RanTypes NgranNode)
  (e2Nodes : List (E2Node NgranNode))

/-- The texts of all rows of the nodes. -/
def nodeRows : List (List Bytes) :=
  e2Nodes.zipIdx.map fun entry => nodeTexts ranTypes entry.2 entry.1

theorem length_nodeRows :
    ∀ texts ∈ nodeRows ranTypes e2Nodes,
      texts.length = columnNames.length := by
  intro texts member
  obtain ⟨entry, _, rfl⟩ := List.mem_map.mp member
  rfl

/-- What is logged before the table is built. -/
def showing : E2InfoEvent :=
  .logInfo "Showing E2 node informations..."

variable {ranTypes e2Nodes}

/-- The first row of the table of the nodes. -/
theorem addRow_columnNames (fuel : Nat) :
    Table.new.addRow fuel (columnNames.map .text) = .ok (infoRows []) := by
  rw [Table.addRow_texts]
  rfl

/-- The table around the nodes, before they are added. -/
def titleRow : Table where
  table := TableInternal.create.addRow [title]
  rows := 1
  cols := 1

theorem addRow_title (fuel : Nat) :
    Table.new.addRow fuel [.text title] = .ok titleRow :=
  Table.addRow_texts Table.new fuel [title]

/-- The printed table of the nodes is added below the title. -/
theorem addRow_infoTable
    {rows : List (List Bytes)}
    {tab : Table}
    (lengths : ∀ texts ∈ rows, texts.length = columnNames.length)
    (built : tab.table = infoTable rows)
    (fuel : Nat) :
    ((titleRow.format titleFormat).formatRow 0
        (Format.alignment .center)).addRow fuel
        (RowStream.push [] (.table tab)) =
      .ok ⟨titleTable rows, 2, 1⟩ := by
  simp [Table.addRow, RowStream.push, RowCell.cellString, built,
    print_infoTable lengths fuel, bind, Except.bind, pure, Except.pure,
    titleRow, Table.format, Table.formatRow, TableInternal.formatTable,
    TableInternal.formatRow, TableInternal.patchRow,
    TableInternal.rowFormat, inherit, titleTable, textTable, textRow,
    TableInternal.addRow, TableInternal.create]

/-- If no pointer that is dereferenced is null, the table is printed. -/
theorem printE2Nodes_shown
    (shown : ∀ node ∈ e2Nodes, Shown ranTypes node)
    (fuel : Nat) :
    printE2Nodes ranTypes fuel e2Nodes () =
      ⟨[showing,
          .cout ((titleTable (nodeRows ranTypes e2Nodes)).layout 0 ++
            [newline])],
        (), .done ()⟩ := by
  have loop :
      e2Nodes.zipIdx.foldlM (addNode ranTypes fuel) (infoRows []) =
        pure (infoRows (nodeRows ranTypes e2Nodes)) :=
    addNodes_shown e2Nodes [] shown
  have inner :=
    addRow_infoTable (length_nodeRows ranTypes e2Nodes)
      (format_infoRows (nodeRows ranTypes e2Nodes)) fuel
  simp only [printE2Nodes, addRow_title, addRow_columnNames, ofPrint_ok,
    pure_bind, loop, inner, print_titleTable]
  rfl

/-- If one of them is null, nothing is printed. -/
theorem printE2Nodes_null
    (null : ∃ node ∈ e2Nodes, ¬Shown ranTypes node)
    (fuel : Nat) :
    printE2Nodes ranTypes fuel e2Nodes () =
      ⟨[showing], (), .stop (.nullDereference "cu_du_id")⟩ := by
  have loop :
      e2Nodes.zipIdx.foldlM (addNode ranTypes fuel) (infoRows []) =
        stop (.nullDereference "cu_du_id") :=
    addNodes_null e2Nodes [] null
  simp only [printE2Nodes, addRow_title, addRow_columnNames, ofPrint_ok,
    pure_bind, loop]
  rfl

end Runs

end IqosXapp.E2Info
