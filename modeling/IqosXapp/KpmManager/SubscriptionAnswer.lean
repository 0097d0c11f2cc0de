import IqosXapp.KpmManager.IndicationSpec
import IqosXapp.KpmManager.SubscriptionSpec

namespace IqosXapp.KpmManager

open Effect Program

/-!
# From a subscription to the indications that answer it

The builder asks for the advertised measures by name, one label each, and the
reader pairs the records of an indication with the measurement infos by
position.  The two share no code; they agree because the builder keeps the
order of the measures.  An indication that answers the subscription is handled
record by record, each under its advertised name.
-/

/-- The measurement infos that a subscription asks for. -/
def KpmSubData.requestedInfos
    (sub : KpmSubData) : Option (List MeasInfoFormat1Lst) := do
  let actDefs ← sub.ad
  let actDef ← actDefs.head?
  actDef.frm4.actionDefFormat1.measInfoLst

/-- The info asks for a name with the no-label label and no other. -/
structure AsksForName
    (info : MeasInfoFormat1Lst)
    (name : Bytes) : Prop where
  byName : info.measType = .name name
  oneLabel : info.labelInfoLstLen = 1
  noLabel :
    info.labelInfoLst =
      some [{
        noLabel := some .trueEnumValue
        plmnId := none
        sliceId := none
        fiveQi := none }]

/-- The infos ask for these names, one for one and in order. -/
structure AsksForNames
    (infos : List MeasInfoFormat1Lst)
    (names : List Bytes) : Prop where
  sameLength : infos.length = names.length
  entries :
    ∀ (index : Nat) info name,
      infos[index]? = some info →
      names[index]? = some name →
      AsksForName info name

/-- The message answers a subscription that asks for these infos. -/
def Answers
    (msg : KpmIndMsgFormat3)
    (infos : List MeasInfoFormat1Lst) : Prop :=
  ∀ report ∈ msg.measReportPerUe,
    report.indMsgFormat1.measInfoLst = infos ∧
      ∀ dataItem ∈ report.indMsgFormat1.measDataLst,
        dataItem.measRecordLst.length = infos.length ∧
          ∀ record ∈ dataItem.measRecordLst,
            record.value ≠ .noValueMeasValue

instance
    (msg : KpmIndMsgFormat3)
    (infos : List MeasInfoFormat1Lst) :
    Decidable (Answers msg infos) :=
  inferInstanceAs (Decidable (∀ report ∈ msg.measReportPerUe, _))

/-- The line for a record with a value. -/
def recordLine (name : Bytes) : MeasRecordLst → List Line
  | .intVal value => [intLine name value]
  | .realVal value => [realLine name value]
  | .noValue => []

/--
One record of an answer: it is handed to the handler for its kind under the
name at its position, and marked when its item is incomplete.
-/
def answeredRecord
    (incompleteFlag : Option EnumValue)
    (name : Bytes)
    (record : MeasRecordLst) : List ReportEvent :=
  [.handle record.value name record] ++
    (recordLine name record).map .line ++
    if incompleteFlag = some .trueEnumValue then
      [.line .notReliable]
    else
      []

/-- One data item of an answer: its records in the order of the names. -/
def answeredItem
    (names : List Bytes)
    (dataItem : MeasDataLst) : List ReportEvent :=
  (names.zip dataItem.measRecordLst).flatMap fun entry =>
    answeredRecord dataItem.incompleteFlag entry.1 entry.2

/-- A whole answer: UE by UE, item by item, record by record. -/
def answerLog
    (names : List Bytes)
    (msg : KpmIndMsgFormat3) : List ReportEvent :=
  msg.measReportPerUe.flatMap fun report =>
    (ueIdLines report.ueMeasReportLst).map .line ++
      report.indMsgFormat1.measDataLst.flatMap (answeredItem names)

/--
The callback handles every record of the answer once and in order, prints
nothing else between its header and the release of the lock, and counts the
message unless the counter is at its largest value.
-/
structure HandlesAnswer
    (now : UInt64)
    (counter : Nat)
    (ind : KpmIndData)
    (names : List Bytes)
    (msg : KpmIndMsgFormat3) : Prop where
  log :
    (smCbKpm now (indicationAnswer ind) counter).log =
      [.lock, .header counter (now - ind.hdr.collectStartTime)] ++
        answerLog names msg ++
        if counter < intMax then [.unlock] else []
  state :
    (smCbKpm now (indicationAnswer ind) counter).state =
      if counter < intMax then counter + 1 else counter
  outcome :
    (smCbKpm now (indicationAnswer ind) counter).outcome =
      if counter < intMax then .done () else .stop counterOverflow

section Requested

variable (env : Environment)

/-- The infos that the builder asks for are its advertised measures. -/
theorem requestedInfos_kpmSubOf (item : RicReportStyleItem) :
    (kpmSubOf env item).requestedInfos =
      some (item.measInfoForActionLst.map (measInfoOf env)) :=
  rfl

theorem asksForNames_measInfoOf
    (copies : ∀ bytes, env.copyByteArray bytes = bytes)
    (measures : List MeasInfoForActionLst) :
    AsksForNames (measures.map (measInfoOf env))
      (measures.map (·.name)) where
  sameLength := by
    simp
  entries := by
    intro index info name infoAt nameAt
    rw [List.getElem?_map, Option.map_eq_some_iff] at infoAt nameAt
    obtain ⟨measure, measureAt, rfl⟩ := infoAt
    obtain ⟨other, otherAt, rfl⟩ := nameAt
    have same : measure = other := by
      rw [measureAt] at otherAt
      exact Option.some.inj otherAt
    subst same
    exact {
      byName := by rw [measInfoOf, copies]
      oneLabel := rfl
      noLabel := rfl }

end Requested

section Reading

variable
  {infos : List MeasInfoFormat1Lst}
  {names : List Bytes}

/-- Infos that ask for names are typed by name. -/
theorem AsksForNames.allByName
    (asks : AsksForNames infos names) :
    AllByName infos := by
  intro info listed
  obtain ⟨index, inside, rfl⟩ := List.mem_iff_getElem.mp listed
  have insideNames : index < names.length :=
    asks.sameLength ▸ inside
  have entry :=
    asks.entries index infos[index] names[index]
      (List.getElem?_eq_getElem inside)
      (List.getElem?_eq_getElem insideNames)
  rw [entry.byName]
  rfl

/-- The rest of the infos asks for the rest of the names. -/
theorem AsksForNames.tail
    {info : MeasInfoFormat1Lst}
    {name : Bytes}
    (asks : AsksForNames (info :: infos) (name :: names)) :
    AsksForNames infos names where
  sameLength := by
    simpa using asks.sameLength
  entries := by
    intro index later other infoAt nameAt
    exact asks.entries (index + 1) later other infoAt nameAt

/-- Pairing records with the infos is pairing them with the names. -/
theorem namedRecords_of_asks
    (asks : AsksForNames infos names)
    (dataItem : MeasDataLst) :
    namedRecords infos dataItem = names.zip dataItem.measRecordLst := by
  rcases dataItem with ⟨records, incompleteFlag⟩
  simp only [namedRecords]
  induction infos generalizing names records with
  | nil =>
      have empty : names = [] := by
        simpa using asks.sameLength.symm
      simp [empty]
  | cons info infos inductionHypothesis =>
      cases names with
      | nil =>
          simpa using asks.sameLength
      | cons name names =>
          cases records with
          | nil =>
              rfl
          | cons record records =>
              have head := (asks.entries 0 info name rfl rfl).byName
              have tail := inductionHypothesis asks.tail records
              simp [head, tail]

theorem recordLog_eq_answeredRecord
    (incompleteFlag : Option EnumValue)
    (name : Bytes)
    {record : MeasRecordLst}
    (valued : record.value ≠ .noValueMeasValue) :
    recordLog incompleteFlag name record =
      answeredRecord incompleteFlag name record := by
  have mark :
      (flagTrace incompleteFlag).log =
        if incompleteFlag = some .trueEnumValue then
          [.line .notReliable]
        else
          [] := by
    simp only [flagTrace]
    split <;>
      rfl
  cases record with
  | intVal value =>
      simp [recordLog, answeredRecord, mark, valueTrace, recordLine,
        MeasRecordLst.value]
  | realVal value =>
      simp [recordLog, answeredRecord, mark, valueTrace, recordLine,
        MeasRecordLst.value]
  | noValue =>
      exact (valued rfl).elim

/-- The log of an answer is the answer under the advertised names. -/
theorem messageLog_of_answers
    (asks : AsksForNames infos names)
    {msg : KpmIndMsgFormat3}
    (answers : Answers msg infos) :
    messageLog msg = answerLog names msg := by
  simp only [messageLog, answerLog]
  refine List.flatMap_congr fun report listed => ?_
  obtain ⟨sameInfos, items⟩ := answers report listed
  simp only [ueReportLog]
  congr 1
  refine List.flatMap_congr fun dataItem member => ?_
  rw [sameInfos, dataItemLog, namedRecords_of_asks asks]
  refine List.flatMap_congr fun entry paired => ?_
  exact recordLog_eq_answeredRecord _ entry.1
    ((items dataItem member).2 entry.2 (List.of_mem_zip paired).2)

/-- An answer to a subscription of countable size can be printed. -/
theorem printable_of_answers
    (asks : AsksForNames infos names)
    (nonempty : 1 ≤ names.length)
    (counted : names.length ≤ intMax)
    {msg : KpmIndMsgFormat3}
    (answers : Answers msg infos) :
    ∀ report ∈ msg.measReportPerUe,
      Printable report.indMsgFormat1 := by
  intro report listed
  obtain ⟨sameInfos, items⟩ := answers report listed
  exact {
    infos := by
      intro empty
      have noNames := asks.sameLength
      rw [← sameInfos, empty] at noNames
      rw [← noNames] at nonempty
      cases nonempty
    byName := sameInfos ▸ asks.allByName
    valued := fun dataItem member => (items dataItem member).2
    fits := by
      intro dataItem member
      have records := (items dataItem member).1
      constructor
      · exact Nat.le_of_eq (by rw [records, sameInfos])
      · rw [records, asks.sameLength]
        exact counted }

/-- The callback handles an answer under the names that were asked for. -/
theorem handlesAnswer_of_answers
    (asks : AsksForNames infos names)
    (nonempty : 1 ≤ names.length)
    (counted : names.length ≤ intMax)
    {ind : KpmIndData}
    {msg : KpmIndMsgFormat3}
    (format3 : ind.msg = .frm3 msg)
    (answers : Answers msg infos)
    (now : UInt64)
    (counter : Nat) :
    HandlesAnswer now counter ind names msg := by
  have trace :
      messageTrace ind.msg = .logs (answerLog names msg) := by
    rw [format3, ← messageLog_of_answers asks answers]
    exact messageTrace_of_printable
      (printable_of_answers asks nonempty counted answers)
  rcases smCbKpm_of_logs now counter trace with
    ⟨room, returns⟩ | ⟨full, overflows⟩
  · have run := returns.apply
    constructor <;>
      rw [run, if_pos room]
    rfl
  · have run := overflows.apply
    constructor <;>
      rw [run, if_neg full]
    simp [blockHead]

end Reading

/--
A definition with a style 4 report of at least one and at most 65535 measures:
the subscription asks for exactly the advertised names, and every indication
that answers it is handled record by record under these names.
-/
theorem genKpmSubs_answer_handled
    {env : Environment}
    (granted : env.AllGranted)
    (copies : ∀ bytes, env.copyByteArray bytes = bytes)
    {ranFunc : KpmRanFunctionDef}
    (accepted : EventTriggerAccepted ranFunc)
    {item : RicReportStyleItem}
    {rest : List RicReportStyleItem}
    (listed : ranFunc.ricReportStyleList = some (item :: rest))
    (style4 : IsStyle4 item)
    (atLeastOne : 1 ≤ item.measInfoForActionLst.length)
    (documented : item.measInfoForActionLst.length ≤ 65535) :
    ∃ infos,
      (∀ world,
        ∃ sub,
          (genKpmSubs env (some ranFunc) world).outcome = .done sub ∧
            sub.requestedInfos = some infos) ∧
        infos.length = item.measInfoForActionLst.length ∧
        AsksForNames infos
          (item.measInfoForActionLst.map (·.name)) ∧
        ∀ now counter ind msg,
          ind.msg = .frm3 msg →
          Answers msg infos →
          HandlesAnswer now counter ind
            (item.measInfoForActionLst.map (·.name)) msg := by
  have asks :=
    asksForNames_measInfoOf env copies item.measInfoForActionLst
  have allocates := genKpmSubs_allocates env accepted listed style4
  refine ⟨item.measInfoForActionLst.map (measInfoOf env), ?_, ?_,
    asks, ?_⟩
  · intro world
    exact ⟨kpmSubOf env item,
      outcome_of_allGranted allocates granted world,
      requestedInfos_kpmSubOf env item⟩
  · exact List.length_map _
  · intro now counter ind msg format3 answers
    have counted : 65535 ≤ intMax := by
      decide
    exact handlesAnswer_of_answers asks (by simpa using atLeastOne)
      (by
        rw [List.length_map]
        exact Nat.le_trans documented counted)
      format3 answers now counter

/-- An answer of two UEs: three items of two records, one not reliable. -/
def answerOf (infos : List MeasInfoFormat1Lst) : KpmIndMsgFormat3 where
  measReportPerUe := [{
      ueMeasReportLst := .gnb ⟨1, none, none⟩
      indMsgFormat1 := {
        measDataLst := [
          ⟨[.intVal 7, .realVal ⟨0⟩], none⟩,
          ⟨[.realVal ⟨0⟩, .intVal 8], some .trueEnumValue⟩]
        measInfoLst := infos } }, {
      ueMeasReportLst := .gnb ⟨2, none, none⟩
      indMsgFormat1 := {
        measDataLst := [⟨[.intVal 9, .intVal 10], none⟩]
        measInfoLst := infos } }]

theorem answers_answerOf
    {infos : List MeasInfoFormat1Lst}
    (two : infos.length = 2) :
    Answers (answerOf infos) infos := by
  simp [Answers, answerOf, two, MeasRecordLst.value]

/-- A style 4 report of two measures, and an answer of two UEs. -/
theorem genKpmSubs_answer_handled_twoMeasures :
    ∃ infos,
      (∀ world,
        ∃ sub,
          (genKpmSubs Environment.ideal
              (some (ranFuncWith [twoMeasuresItem])) world).outcome =
              .done sub ∧
            sub.requestedInfos = some infos) ∧
        HandlesAnswer 5 1 (indicationOf (.frm3 (answerOf infos)))
          [literal "DRB.UEThpDl", literal "RRU.PrbTotDl"]
          (answerOf infos) := by
  obtain ⟨infos, subscribes, two, _, handles⟩ :=
    genKpmSubs_answer_handled Environment.ideal_allGranted
      (fun _ => rfl) (ranFuncWith_accepted _) rfl
      twoMeasuresItem_isStyle4 (by decide) (by decide)
  exact ⟨infos, subscribes,
    handles 5 1 _ (answerOf infos) rfl (answers_answerOf two)⟩

end IqosXapp.KpmManager
