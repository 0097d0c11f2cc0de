import IqosXapp.Effect.Trace
import IqosXapp.KpmManager.Indication

namespace IqosXapp.KpmManager

open Effect Program

/-!
# What the indication callback does

The whole run of `sm_cb_kpm` is a function of the message: the trace of a
record, of a data item, of a UE report and of the message are given here as
values, and one lemma for each function says that it has that trace.
-/

/-! ## One record -/

/-- The line for an integer. -/
def intLine (name : Bytes) (value : UInt32) : Line :=
  if supportedMeasurements.contains name then
    .intValue name value
  else
    .notSupported name

/-- The line for a real. -/
def realLine (name : Bytes) (value : Double) : Line :=
  if name = literal "DRB.UEThpDl" then
    .realValue name value 1000 "Mbps"
  else if name = literal "DRB.UEThpUl" then
    .realValue name value 1000 "Mbps"
  else if name = literal "DRB.RlcSduDelayDl" then
    .realValue name value 1 "μs"
  else
    .notSupported name

/-- The trace of the handler for a record under a name. -/
def valueTrace (name : Bytes) :
    MeasRecordLst → Trace ReportEvent Stop
  | .intVal value =>
      .logs [
        .handle .integerMeasValue name (.intVal value),
        .line (intLine name value)]
  | .realVal value =>
      .logs [
        .handle .realMeasValue name (.realVal value),
        .line (realLine name value)]
  | .noValue => .stops (.undefined (.nullCall "get_meas_value"))

/-- The assertion of `match_meas_type_id`. -/
def idNotSupported : Stop :=
  .failedCheck "ID Measurement Type not yet supported"

/-- The trace of the dispatch on the kind of a measurement. -/
def measTypeTrace (record : MeasRecordLst) :
    MeasType → Trace ReportEvent Stop
  | .name name => valueTrace name record
  | .id _ => .stops idNotSupported

/-- The mark behind a record. -/
def flagTrace (incompleteFlag : Option EnumValue) :
    Trace ReportEvent Stop :=
  if incompleteFlag = some .trueEnumValue then
    .logs [.line .notReliable]
  else
    .nil

/-- The trace of one record. -/
def recordTrace
    (incompleteFlag : Option EnumValue)
    (measInfo : MeasInfoFormat1Lst)
    (record : MeasRecordLst) : Trace ReportEvent Stop :=
  measTypeTrace record measInfo.measType ++ flagTrace incompleteFlag

theorem intMeasValue_settles (name : Bytes) (value : UInt32) :
    Settles (intMeasValue name (.intVal value))
      (valueTrace name (.intVal value)) := by
  intro counter
  by_cases supported : name ∈ supportedMeasurements <;>
    simp [intMeasValue, MeasRecordLst.readIntVal, valueTrace, intLine,
      Trace.outcome, supported]

theorem realMeasValue_settles (name : Bytes) (value : Double) :
    Settles (realMeasValue name (.realVal value))
      (valueTrace name (.realVal value)) := by
  intro counter
  simp only [realMeasValue, MeasRecordLst.readRealVal, valueTrace,
    realLine]
  split
  · rfl
  · split
    · rfl
    · split <;>
        rfl

theorem matchMeasNameType_settles
    (name : Bytes)
    (record : MeasRecordLst) :
    Settles (matchMeasNameType (.name name) record)
      (valueTrace name record) := by
  cases record with
  | intVal value =>
      exact intMeasValue_settles name value
  | realVal value =>
      exact realMeasValue_settles name value
  | noValue =>
      exact Settles.stop _

theorem printRecord_settles
    (incompleteFlag : Option EnumValue)
    (measInfo : MeasInfoFormat1Lst)
    (record : MeasRecordLst) :
    Settles (printRecord incompleteFlag measInfo record)
      (recordTrace incompleteFlag measInfo record) := by
  have mark :
      Settles
        (if incompleteFlag = some .trueEnumValue then
          emit (.line .notReliable)
        else
          pure () : Callback Unit)
        (flagTrace incompleteFlag) := by
    simp only [flagTrace]
    split
    · exact Settles.emit _
    · exact Settles.pure
  rcases measInfo with ⟨measType, labelLen, labels⟩
  cases measType with
  | name name =>
      exact (matchMeasNameType_settles name record).bind mark
  | id id =>
      exact
        (Settles.stop idNotSupported :
          Settles (matchMeasTypeId (.id id) record) _).bind mark

/-! ## Data items and UE reports -/

/-- How the innermost loop ends behind the pairs that it visits. -/
def overrunTrace (infos records : Nat) : Trace ReportEvent Stop :=
  if records ≤ infos ∧ records ≤ intMax then
    .nil
  else if infos ≤ intMax then
    .stops (.undefined (.outOfRange "meas_info_lst" infos))
  else
    .stops (.undefined (.signedOverflow "j"))

/-- The measurement infos and records that the innermost loop pairs. -/
def visitedPairs
    (measInfoLst : List MeasInfoFormat1Lst)
    (dataItem : MeasDataLst) :
    List (MeasInfoFormat1Lst × MeasRecordLst) :=
  (measInfoLst.zip dataItem.measRecordLst).take (intMax + 1)

/-- The trace of one data item. -/
def dataItemTrace
    (measInfoLst : List MeasInfoFormat1Lst)
    (dataItem : MeasDataLst) : Trace ReportEvent Stop :=
  Trace.sequence
      (fun pair => recordTrace dataItem.incompleteFlag pair.1 pair.2)
      (visitedPairs measInfoLst dataItem) ++
    overrunTrace measInfoLst.length dataItem.measRecordLst.length

/-- The assertion of `print_measurements`. -/
def cannotPrint : Stop :=
  .failedCheck "Cannot correctly print measurements"

/-- The trace of the measurements of one UE. -/
def measurementsTrace (msg : KpmIndMsgFormat1) :
    Trace ReportEvent Stop :=
  if msg.measInfoLst = [] then
    .stops cannotPrint
  else
    Trace.sequence (dataItemTrace msg.measInfoLst) msg.measDataLst

/-- The line for a `ran_ue_id`. -/
def ranUeIdLines : Option UInt64 → List Line
  | some ranUeId => [.ranUeId ranUeId]
  | none => []

/-- The lines for a UE identity. -/
def ueIdLines : UeIdE2sm → List Line
  | .gnb id =>
      (match id.gnbCuUeF1apLst with
        | some lst => lst.map .gnbCu
        | none => [.gnb id.amfUeNgapId]) ++
        ranUeIdLines id.ranUeId
  | .gnbDu id => [.gnbDu id.gnbCuUeF1ap] ++ ranUeIdLines id.ranUeId
  | .gnbCuUp id =>
      [.gnbCuUp id.gnbCuCpUeE1ap] ++ ranUeIdLines id.ranUeId
  | _ => [.ueIdNotSupported]

/-- The trace of a UE identity. -/
def ueIdTrace (ueId : UeIdE2sm) : Trace ReportEvent Stop :=
  .logs ((ueIdLines ueId).map .line)

/-- The trace of the report of one UE. -/
def ueReportTrace (report : MeasReportPerUe) :
    Trace ReportEvent Stop :=
  ueIdTrace report.ueMeasReportLst ++
    measurementsTrace report.indMsgFormat1

/-- The trace of the loop of `sm_cb_kpm` over a message. -/
def messageTrace : KpmIndMsg → Trace ReportEvent Stop
  | .frm3 msg => Trace.sequence ueReportTrace msg.measReportPerUe
  | _ => .stops (.undefined (.inactiveMember "frm_3"))

theorem printDataItem_settles
    (measInfoLst : List MeasInfoFormat1Lst)
    (dataItem : MeasDataLst) :
    Settles (printDataItem measInfoLst dataItem)
      (dataItemTrace measInfoLst dataItem) := by
  have paired :=
    cappedLoop_paired intMax
      (Stop.undefined (.signedOverflow "j"))
      (fun j => .undefined (.outOfRange "meas_info_lst" j))
      (fun j => .undefined (.outOfRange "meas_record_lst" j))
      (printRecord dataItem.incompleteFlag)
      measInfoLst dataItem.measRecordLst
  have visits :
      Settles
        (forM (visitedPairs measInfoLst dataItem)
          fun pair => printRecord dataItem.incompleteFlag pair.1 pair.2)
        (Trace.sequence
          (fun pair => recordTrace dataItem.incompleteFlag pair.1 pair.2)
          (visitedPairs measInfoLst dataItem)) :=
    Settles.forM fun pair _ => printRecord_settles _ pair.1 pair.2
  have ends :
      Settles
        (pairedEnd intMax (.undefined (.signedOverflow "j"))
          (fun j => .undefined (.outOfRange "meas_info_lst" j))
          measInfoLst.length dataItem.measRecordLst.length :
          Callback Unit)
        (overrunTrace measInfoLst.length
          dataItem.measRecordLst.length) := by
    simp only [pairedEnd, overrunTrace]
    split
    · exact Settles.pure
    · split
      · exact Settles.stop _
      · exact Settles.stop _
  simp only [printDataItem]
  unfold pairedBody at paired
  rw [paired]
  exact visits.bind ends

theorem printMeasurements_settles (msg : KpmIndMsgFormat1) :
    Settles (printMeasurements msg) (measurementsTrace msg) := by
  have items :=
    loop_cell_unit msg.measDataLst
      (fun i => Stop.undefined (.outOfRange "meas_data_lst" i))
      (printDataItem msg.measInfoLst)
  simp only [printMeasurements, measurementsTrace]
  rw [items]
  cases listed : msg.measInfoLst with
  | nil =>
      exact Settles.stop _
  | cons info rest =>
      simp only [List.length_cons, Nat.zero_lt_succ, decide_true,
        require_true, pure_bind, reduceCtorEq, ↓reduceIte]
      exact Settles.forM fun dataItem _ =>
        printDataItem_settles (info :: rest) dataItem

theorem printRanUeId_settles (ranUeId : Option UInt64) :
    Settles (printRanUeId ranUeId)
      (.logs ((ranUeIdLines ranUeId).map .line)) := by
  cases ranUeId with
  | none =>
      exact Settles.pure
  | some ranUeId =>
      exact Settles.emit _

/-- Lines that are logged one by one. -/
theorem settles_lines
    {α : Type}
    (line : α → Line)
    (items : List α) :
    Settles
      (forM items fun item =>
        (emit (.line (line item)) : Callback Unit))
      (.logs (items.map fun item => .line (line item))) := by
  have oneByOne :
      Settles
        (forM items fun item =>
          (emit (.line (line item)) : Callback Unit))
        (Trace.sequence
          (fun item => .logs [.line (line item)]) items) :=
    Settles.forM fun item _ => Settles.emit _
  rwa [Trace.sequence_logs, ← List.map_eq_flatMap] at oneByOne

/-- The identity is read under its own tag, whatever the tag is. -/
theorem printUeId_settles (ueId : UeIdE2sm) :
    Settles (printUeId ueId.type ueId) (ueIdTrace ueId) := by
  cases ueId with
  | gnb id =>
      rcases id with ⟨amfUeNgapId, lst, ranUeId⟩
      simp only [ueIdTrace, ueIdLines, List.map_append,
        ← Trace.logs_append_logs]
      cases lst with
      | some lst =>
          have listed :=
            loop_cell_unit lst
              (fun i => Stop.undefined
                (.outOfRange "gnb_cu_ue_f1ap_lst" i))
              (fun id => (emit (.line (.gnbCu id)) : Callback Unit))
          simp only [printUeId, UeIdE2sm.type, UeIdE2sm.readGnb,
            pure_bind, listed, List.map_map]
          exact
            (settles_lines Line.gnbCu lst).bind
              (printRanUeId_settles ranUeId)
      | none =>
          exact
            (Settles.emit (.line (.gnb amfUeNgapId))).bind
              (printRanUeId_settles ranUeId)
  | gnbDu id =>
      exact (Settles.emit _).bind (printRanUeId_settles id.ranUeId)
  | gnbCuUp id =>
      exact (Settles.emit _).bind (printRanUeId_settles id.ranUeId)
  | ngEnb | ngEnbDu | enGnb | enb =>
      exact Settles.emit _

theorem printUeReport_settles (report : MeasReportPerUe) :
    Settles (printUeReport report) (ueReportTrace report) :=
  (printUeId_settles report.ueMeasReportLst).bind
    (printMeasurements_settles report.indMsgFormat1)

theorem printReports_settles (msg : KpmIndMsg) :
    Settles (printReports msg) (messageTrace msg) := by
  cases msg with
  | frm3 msg =>
      have reports :=
        loop_cell_unit msg.measReportPerUe
          (fun i => Stop.undefined (.outOfRange "meas_report_per_ue" i))
          printUeReport
      simp only [printReports, KpmIndMsg.readFrm3, pure_bind, reports]
      exact Settles.forM fun report _ => printUeReport_settles report
  | frm1 msg =>
      exact Settles.stop _
  | frm2 =>
      exact Settles.stop _

/-! ## The callback -/

/-- The first events of a callback: it locks `mtx` and prints its header. -/
def blockHead
    (now : UInt64)
    (ind : KpmIndData)
    (counter : Nat) : List ReportEvent :=
  [.lock, .header counter (now - ind.hdr.collectStartTime)]

/-- What `counter++` stops with at the largest `int`. -/
def counterOverflow : Stop :=
  .undefined (.signedOverflow "counter")

section Callback

variable
  {ind : KpmIndData}
  {counter : Nat}
  (now : UInt64)

/-- The entry assertions accept an indication. -/
theorem smCbKpm_indication :
    smCbKpm now (indicationAnswer ind) = reportIndication now ind :=
  rfl

/-- A message that is printed to its end is counted and the lock released. -/
theorem smCbKpm_returns
    (goesOn : (messageTrace ind.msg).ending = none)
    (room : counter < intMax) :
    Returns (smCbKpm now (indicationAnswer ind)) counter
      (blockHead now ind counter ++ (messageTrace ind.msg).log ++
        [.unlock])
      (counter + 1) () := by
  have reports := (printReports_settles ind.msg).apply counter
  simp only [Trace.outcome, goesOn] at reports
  simp [Returns, smCbKpm_indication, reportIndication, defer, reports,
    incrementCounter, room, blockHead]

/-- At the largest `int` the message is printed and `counter++` overflows. -/
theorem smCbKpm_overflows
    (goesOn : (messageTrace ind.msg).ending = none)
    (full : ¬counter < intMax) :
    Stops (smCbKpm now (indicationAnswer ind)) counter
      (blockHead now ind counter ++ (messageTrace ind.msg).log)
      counter counterOverflow := by
  have reports := (printReports_settles ind.msg).apply counter
  simp only [Trace.outcome, goesOn] at reports
  simp [Stops, smCbKpm_indication, reportIndication, defer, reports,
    incrementCounter, full, blockHead, counterOverflow]

/-- A message that stops its traversal stops the callback inside the lock. -/
theorem smCbKpm_stops
    {why : Stop}
    (ended : (messageTrace ind.msg).ending = some why) :
    Stops (smCbKpm now (indicationAnswer ind)) counter
      (blockHead now ind counter ++ (messageTrace ind.msg).log)
      counter why := by
  have reports := (printReports_settles ind.msg).apply counter
  simp only [Trace.outcome, ended] at reports
  simp [Stops, smCbKpm_indication, reportIndication, defer, reports,
    blockHead]

/-- What a callback does whose message is printed to its end. -/
theorem smCbKpm_of_logs
    (counter : Nat)
    {log : List ReportEvent}
    (trace : messageTrace ind.msg = .logs log) :
    (counter < intMax ∧
        Returns (smCbKpm now (indicationAnswer ind)) counter
          (blockHead now ind counter ++ log ++ [.unlock])
          (counter + 1) ()) ∨
      (¬counter < intMax ∧
        Stops (smCbKpm now (indicationAnswer ind)) counter
          (blockHead now ind counter ++ log)
          counter counterOverflow) := by
  have goesOn : (messageTrace ind.msg).ending = none := by
    rw [trace]
    rfl
  by_cases room : counter < intMax
  · have returns := smCbKpm_returns now goesOn room
    rw [trace] at returns
    exact .inl ⟨room, returns⟩
  · have overflows := smCbKpm_overflows now goesOn room
    rw [trace] at overflows
    exact .inr ⟨room, overflows⟩

end Callback

/-! ## Messages that are printed to their end -/

/-- The name of a measurement that is typed by name. -/
def MeasType.name? : MeasType → Option Bytes
  | .name bytes => some bytes
  | .id _ => none

@[simp] theorem MeasType.name?_name (bytes : Bytes) :
    (MeasType.name bytes).name? = some bytes :=
  rfl

/-- Every measurement is typed by name. -/
def AllByName (measInfoLst : List MeasInfoFormat1Lst) : Prop :=
  ∀ info ∈ measInfoLst, info.measType.type = .nameMeasType

/-- Every record is an integer or a real. -/
def AllValued (measDataLst : List MeasDataLst) : Prop :=
  ∀ dataItem ∈ measDataLst,
    ∀ record ∈ dataItem.measRecordLst,
      record.value ≠ .noValueMeasValue

/-- Every measurement is typed by name and every record has a value. -/
def NamesAndValues (reports : List MeasReportPerUe) : Prop :=
  ∀ report ∈ reports,
    AllByName report.indMsgFormat1.measInfoLst ∧
      AllValued report.indMsgFormat1.measDataLst

/-- The infos and the loop counter have room for the records of an item. -/
def ItemFits
    (measInfoLst : List MeasInfoFormat1Lst)
    (dataItem : MeasDataLst) : Prop :=
  dataItem.measRecordLst.length ≤ measInfoLst.length ∧
    dataItem.measRecordLst.length ≤ intMax

instance (measInfoLst : List MeasInfoFormat1Lst) :
    Decidable (AllByName measInfoLst) :=
  inferInstanceAs (Decidable (∀ info ∈ measInfoLst, _))

instance (measDataLst : List MeasDataLst) :
    Decidable (AllValued measDataLst) :=
  inferInstanceAs
    (Decidable
      (∀ dataItem ∈ measDataLst, ∀ record ∈ dataItem.measRecordLst, _))

instance (reports : List MeasReportPerUe) :
    Decidable (NamesAndValues reports) :=
  inferInstanceAs (Decidable (∀ report ∈ reports, _ ∧ _))

instance (measInfoLst : List MeasInfoFormat1Lst) (dataItem : MeasDataLst) :
    Decidable (ItemFits measInfoLst dataItem) :=
  inferInstanceAs (Decidable (_ ∧ _))

/-- The records of an item, each with the name that stands at its position. -/
def namedRecords
    (measInfoLst : List MeasInfoFormat1Lst)
    (dataItem : MeasDataLst) : List (Bytes × MeasRecordLst) :=
  (measInfoLst.zip dataItem.measRecordLst).filterMap fun pair =>
    pair.1.measType.name?.map fun name => (name, pair.2)

/-- The events of one record under a name. -/
def recordLog
    (incompleteFlag : Option EnumValue)
    (name : Bytes)
    (record : MeasRecordLst) : List ReportEvent :=
  (valueTrace name record).log ++ (flagTrace incompleteFlag).log

/-- The events of one data item. -/
def dataItemLog
    (measInfoLst : List MeasInfoFormat1Lst)
    (dataItem : MeasDataLst) : List ReportEvent :=
  (namedRecords measInfoLst dataItem).flatMap fun entry =>
    recordLog dataItem.incompleteFlag entry.1 entry.2

/-- The events of the report of one UE. -/
def ueReportLog (report : MeasReportPerUe) : List ReportEvent :=
  (ueIdLines report.ueMeasReportLst).map .line ++
    report.indMsgFormat1.measDataLst.flatMap
      (dataItemLog report.indMsgFormat1.measInfoLst)

/-- The events of a message. -/
def messageLog (msg : KpmIndMsgFormat3) : List ReportEvent :=
  msg.measReportPerUe.flatMap ueReportLog

/-- The records of a message with their names, in the order of the loops. -/
def namedMessage
    (msg : KpmIndMsgFormat3) : List (Bytes × MeasRecordLst) :=
  msg.measReportPerUe.flatMap fun report =>
    report.indMsgFormat1.measDataLst.flatMap
      (namedRecords report.indMsgFormat1.measInfoLst)

/-- The measurements of a UE can be printed. -/
structure Printable (msg : KpmIndMsgFormat1) : Prop where
  infos : msg.measInfoLst ≠ []
  byName : AllByName msg.measInfoLst
  valued : AllValued msg.measDataLst
  fits : ∀ dataItem ∈ msg.measDataLst, ItemFits msg.measInfoLst dataItem

theorem MeasType.eq_name_of_type
    {measType : MeasType}
    (byName : measType.type = .nameMeasType) :
    ∃ bytes, measType = .name bytes := by
  cases measType with
  | name bytes =>
      exact ⟨bytes, rfl⟩
  | id id =>
      cases byName

theorem valueTrace_of_valued
    (name : Bytes)
    {record : MeasRecordLst}
    (valued : record.value ≠ .noValueMeasValue) :
    valueTrace name record = .logs (valueTrace name record).log := by
  cases record with
  | intVal value =>
      rfl
  | realVal value =>
      rfl
  | noValue =>
      exact (valued rfl).elim

theorem flagTrace_eq_logs (incompleteFlag : Option EnumValue) :
    flagTrace incompleteFlag = .logs (flagTrace incompleteFlag).log := by
  simp only [flagTrace]
  split <;>
    rfl

/-- A record with a value under a name is printed. -/
theorem recordTrace_of_name
    (incompleteFlag : Option EnumValue)
    {info : MeasInfoFormat1Lst}
    {name : Bytes}
    (named : info.measType = .name name)
    {record : MeasRecordLst}
    (valued : record.value ≠ .noValueMeasValue) :
    recordTrace incompleteFlag info record =
      .logs (recordLog incompleteFlag name record) := by
  have value := valueTrace_of_valued name valued
  have flag := flagTrace_eq_logs incompleteFlag
  simp only [recordTrace, named, measTypeTrace]
  rw [value, flag]
  rfl

theorem overrunTrace_of_fits
    {measInfoLst : List MeasInfoFormat1Lst}
    {dataItem : MeasDataLst}
    (fits : ItemFits measInfoLst dataItem) :
    overrunTrace measInfoLst.length dataItem.measRecordLst.length =
      .nil := by
  simp only [overrunTrace]
  exact if_pos fits

/-- Without room, the loop leaves the infos or overflows its counter. -/
theorem overrunTrace_of_not_fits
    {measInfoLst : List MeasInfoFormat1Lst}
    {dataItem : MeasDataLst}
    (overruns : ¬ItemFits measInfoLst dataItem) :
    overrunTrace measInfoLst.length dataItem.measRecordLst.length =
        .stops (.undefined
          (.outOfRange "meas_info_lst" measInfoLst.length)) ∨
      overrunTrace measInfoLst.length dataItem.measRecordLst.length =
        .stops (.undefined (.signedOverflow "j")) := by
  simp only [ItemFits] at overruns
  simp only [overrunTrace, overruns, ↓reduceIte]
  split
  · exact Or.inl rfl
  · exact Or.inr rfl

/-- With room for all records, the innermost loop visits every pair. -/
theorem dataItemTrace_of_fits
    {measInfoLst : List MeasInfoFormat1Lst}
    {dataItem : MeasDataLst}
    (fits : ItemFits measInfoLst dataItem) :
    dataItemTrace measInfoLst dataItem =
      Trace.sequence
        (fun pair => recordTrace dataItem.incompleteFlag pair.1 pair.2)
        (measInfoLst.zip dataItem.measRecordLst) := by
  have whole :
      visitedPairs measInfoLst dataItem =
        measInfoLst.zip dataItem.measRecordLst := by
    apply List.take_of_length_le
    have shorter := fits.2
    simp only [List.length_zip]
    omega
  simp only [dataItemTrace, whole, overrunTrace_of_fits fits,
    Trace.append_nil]

/-- Pairs of names and values are printed, one after the other. -/
theorem sequence_recordTrace
    (incompleteFlag : Option EnumValue)
    {pairs : List (MeasInfoFormat1Lst × MeasRecordLst)}
    (byName : ∀ pair ∈ pairs, pair.1.measType.type = .nameMeasType)
    (valued : ∀ pair ∈ pairs, pair.2.value ≠ .noValueMeasValue) :
    Trace.sequence
        (fun pair => recordTrace incompleteFlag pair.1 pair.2) pairs =
      .logs
        ((pairs.filterMap fun pair =>
            pair.1.measType.name?.map fun name =>
              (name, pair.2)).flatMap
          fun entry => recordLog incompleteFlag entry.1 entry.2) := by
  induction pairs with
  | nil =>
      rfl
  | cons pair rest inductionHypothesis =>
      obtain ⟨name, named⟩ :=
        MeasType.eq_name_of_type (byName pair (by simp))
      have head :=
        recordTrace_of_name incompleteFlag named
          (valued pair (by simp))
      have tail :=
        inductionHypothesis
          (fun later member => byName later (by simp [member]))
          (fun later member => valued later (by simp [member]))
      simp only [Trace.sequence_cons, head, tail,
        Trace.logs_append_logs, named, MeasType.name?_name,
        Option.map_some, List.filterMap_cons, List.flatMap_cons]

theorem dataItemTrace_of_printable
    {msg : KpmIndMsgFormat1}
    (printable : Printable msg)
    {dataItem : MeasDataLst}
    (member : dataItem ∈ msg.measDataLst) :
    dataItemTrace msg.measInfoLst dataItem =
      .logs (dataItemLog msg.measInfoLst dataItem) := by
  rw [dataItemTrace_of_fits (printable.fits dataItem member)]
  apply sequence_recordTrace
  · intro pair paired
    exact printable.byName pair.1 (List.of_mem_zip paired).1
  · intro pair paired
    exact printable.valued dataItem member pair.2
      (List.of_mem_zip paired).2

theorem ueReportTrace_of_printable
    {report : MeasReportPerUe}
    (printable : Printable report.indMsgFormat1) :
    ueReportTrace report = .logs (ueReportLog report) := by
  have items :=
    Trace.sequence_congr fun _ member =>
      dataItemTrace_of_printable printable member
  simp only [ueReportTrace, ueIdTrace, measurementsTrace,
    printable.infos, ↓reduceIte, items, Trace.sequence_logs,
    Trace.logs_append_logs]
  rfl

/-- A message whose reports can all be printed is printed to its end. -/
theorem messageTrace_of_printable
    {msg : KpmIndMsgFormat3}
    (printable :
      ∀ report ∈ msg.measReportPerUe,
        Printable report.indMsgFormat1) :
    messageTrace (.frm3 msg) = .logs (messageLog msg) := by
  have reports :=
    Trace.sequence_congr fun report member =>
      ueReportTrace_of_printable (printable report member)
  simp only [messageTrace, reports, Trace.sequence_logs]
  rfl

/-- A paired record is a record of its item. -/
theorem mem_of_mem_namedRecords
    {measInfoLst : List MeasInfoFormat1Lst}
    {dataItem : MeasDataLst}
    {entry : Bytes × MeasRecordLst}
    (member : entry ∈ namedRecords measInfoLst dataItem) :
    entry.2 ∈ dataItem.measRecordLst := by
  obtain ⟨pair, paired, named⟩ := List.mem_filterMap.mp member
  obtain ⟨name, _, rfl⟩ := Option.map_eq_some_iff.mp named
  exact (List.of_mem_zip paired).2

/--
A projection of the log of a message that drops the UE identities is the
projection of its records, one after the other.
-/
theorem filterMap_messageLog
    {α : Type}
    (extract : ReportEvent → Option α)
    (perRecord : Bytes × MeasRecordLst → List α)
    (identity :
      ∀ ueId,
        ((ueIdLines ueId).map ReportEvent.line).filterMap extract = [])
    (record :
      ∀ incompleteFlag entry,
        entry.2.value ≠ .noValueMeasValue →
        (recordLog incompleteFlag entry.1 entry.2).filterMap extract =
          perRecord entry)
    {msg : KpmIndMsgFormat3}
    (valued :
      ∀ report ∈ msg.measReportPerUe,
        AllValued report.indMsgFormat1.measDataLst) :
    (messageLog msg).filterMap extract =
      (namedMessage msg).flatMap perRecord := by
  simp only [messageLog, namedMessage, ueReportLog, dataItemLog,
    List.filterMap_flatMap, List.filterMap_append, identity,
    List.nil_append, List.flatMap_assoc]
  refine List.flatMap_congr fun report listed => ?_
  refine List.flatMap_congr fun dataItem member => ?_
  refine List.flatMap_congr fun entry paired => ?_
  exact record dataItem.incompleteFlag entry
    (valued report listed dataItem member entry.2
      (mem_of_mem_namedRecords paired))

/-! ## Small messages -/

/-- Two measurements that are typed by name. -/
def namedInfos : List MeasInfoFormat1Lst := [
  ⟨.name (literal "DRB.UEThpDl"), 0, none⟩,
  ⟨.name (literal "RRU.PrbTotDl"), 0, none⟩]

/-- A data item of the first integers. -/
def integers (count : Nat) : MeasDataLst where
  measRecordLst :=
    (List.range count).map fun value => .intVal (UInt32.ofNat value)
  incompleteFlag := none

/-- A format 3 message of one UE with one data item. -/
def messageOf
    (measInfoLst : List MeasInfoFormat1Lst)
    (dataItem : MeasDataLst) : KpmIndMsgFormat3 where
  measReportPerUe := [{
    ueMeasReportLst := .gnb ⟨1, none, none⟩
    indMsgFormat1 := {
      measDataLst := [dataItem]
      measInfoLst := measInfoLst } }]

/-- An indication with this message. -/
def indicationOf (msg : KpmIndMsg) : KpmIndData where
  hdr := ⟨0⟩
  msg := msg

end IqosXapp.KpmManager
