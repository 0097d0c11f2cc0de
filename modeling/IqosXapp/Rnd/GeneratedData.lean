import IqosXapp.KpmManager.IndicationSpec
import IqosXapp.KpmManager.SubscriptionSpec
import IqosXapp.Rnd.Generator

namespace IqosXapp.Rnd

open Effect Effect.Drawing Program KpmManager

/-!
# The KPM manager on random data

No message of the generator is one that the callback prints to its end: only
messages of format 3 are read as what they are, and in these every data item
has four records for two measurement infos.  A generated definition is served
exactly when the first report style drawn for it is style 4.
-/

/-! ## Messages -/

/-- Why the callback ends at a generated message. -/
def generatedStops : List Stop := [
  .undefined (.inactiveMember "frm_3"),
  idNotSupported,
  .undefined (.nullCall "get_meas_value"),
  .undefined (.outOfRange "meas_info_lst" 2)]

/-- The lengths in a generated message of format 1. -/
structure Overruns (msg : KpmIndMsgFormat1) : Prop where
  infos : msg.measInfoLst.length = 2
  items : msg.measDataLst.length = 3
  records :
    ∀ dataItem ∈ msg.measDataLst, dataItem.measRecordLst.length = 4

theorem always_measData :
    Always fillRndMeasData fun dataItem =>
      dataItem.measRecordLst.length = 4 :=
  (Always.length_fill 4).bind fun _ records => Always.pure records

theorem always_msgFrm1 : Always fillRndKpmIndMsgFrm1 Overruns := by
  refine (Always.fill (fun _ => always_measData) 3).bind
    fun measDataLst items => ?_
  refine Always.after fun _ => ?_
  refine (Always.length_fill 2).bind fun measInfoLst infos => ?_
  exact Always.pure {
    infos := infos
    items := items.1
    records := items.2 }

/-- A generated message of format 3 has reports, which all overrun. -/
theorem always_msgFrm3 :
    Always fillRndKpmIndMsgFrm3 fun msg =>
      msg.measReportPerUe ≠ [] ∧
        ∀ report ∈ msg.measReportPerUe, Overruns report.indMsgFormat1 := by
  have report :
      Always
        (do
          let ueMeasReportLst ← fillRndUeIdData
          let indMsgFormat1 ← fillRndKpmIndMsgFrm1
          pure {
            ueMeasReportLst := ueMeasReportLst
            indMsgFormat1 := indMsgFormat1 : MeasReportPerUe })
        fun report => Overruns report.indMsgFormat1 :=
    Always.after fun _ =>
      always_msgFrm1.bind fun _ overruns => Always.pure overruns
  refine (Always.fill (fun _ => report) 3).bind fun reports filled => ?_
  exact Always.pure
    ⟨List.ne_nil_of_length_eq_add_one filled.1, filled.2⟩

section Endings

variable {why : Stop}

/-- Why the trace of a record ends, if it does. -/
theorem recordTrace_ending
    {incompleteFlag : Option EnumValue}
    {measInfo : MeasInfoFormat1Lst}
    {record : MeasRecordLst}
    (ended :
      (recordTrace incompleteFlag measInfo record).ending = some why) :
    why ∈ generatedStops := by
  have flag : (flagTrace incompleteFlag).ending = none := by
    unfold flagTrace
    split <;> rfl
  rw [recordTrace, Trace.append_ending, flag, Option.or_none] at ended
  cases type : measInfo.measType with
  | id id =>
      rw [type] at ended
      cases ended
      decide
  | name name =>
      rw [type] at ended
      cases record with
      | intVal value => cases ended
      | realVal value => cases ended
      | noValue =>
          cases ended
          decide

/-- A data item with four records and two infos ends the trace. -/
theorem dataItemTrace_overruns
    {measInfoLst : List MeasInfoFormat1Lst}
    {dataItem : MeasDataLst}
    (infos : measInfoLst.length = 2)
    (records : dataItem.measRecordLst.length = 4) :
    ∃ why ∈ generatedStops,
      (dataItemTrace measInfoLst dataItem).ending = some why := by
  have overrun :
      (overrunTrace measInfoLst.length
        dataItem.measRecordLst.length).ending =
          some (.undefined (.outOfRange "meas_info_lst" 2)) := by
    rw [infos, records]
    rfl
  rw [dataItemTrace, Trace.append_ending, overrun]
  cases ended :
      (Trace.sequence
        (fun pair => recordTrace dataItem.incompleteFlag pair.1 pair.2)
        (visitedPairs measInfoLst dataItem)).ending with
  | none =>
      exact ⟨_, by decide, rfl⟩
  | some why =>
      obtain ⟨pair, _, endedHere⟩ := Trace.sequence_ending_eq_some ended
      exact ⟨why, recordTrace_ending endedHere, rfl⟩

/-- The first trace decides how a sequence of ended traces ends. -/
theorem sequence_ends
    {α : Type}
    {trace : α → Trace ReportEvent Stop}
    {items : List α}
    (nonempty : items ≠ [])
    (each :
      ∀ item ∈ items,
        ∃ why ∈ generatedStops, (trace item).ending = some why) :
    ∃ why ∈ generatedStops,
      (Trace.sequence trace items).ending = some why := by
  obtain ⟨item, rest, rfl⟩ := List.exists_cons_of_ne_nil nonempty
  obtain ⟨why, listed, ended⟩ := each item (by simp)
  exact ⟨why, listed, by simp [ended]⟩

/-- So does every report with such items. -/
theorem ueReportTrace_overruns
    {report : MeasReportPerUe}
    (overruns : Overruns report.indMsgFormat1) :
    ∃ why ∈ generatedStops,
      (ueReportTrace report).ending = some why := by
  have infos : report.indMsgFormat1.measInfoLst ≠ [] :=
    List.ne_nil_of_length_eq_add_one overruns.infos
  have items : report.indMsgFormat1.measDataLst ≠ [] :=
    List.ne_nil_of_length_eq_add_one overruns.items
  have measurements :=
    sequence_ends items fun dataItem member =>
      dataItemTrace_overruns overruns.infos
        (overruns.records dataItem member)
  simpa [ueReportTrace, ueIdTrace, measurementsTrace, infos]
    using measurements

/-- No generated message is printed to its end. -/
theorem always_message :
    Always fillRndKpmIndMsg fun msg =>
      ∃ why ∈ generatedStops, (messageTrace msg).ending = some why := by
  refine Always.after fun type => ?_
  split
  · exact Always.after fun _ => Always.pure ⟨_, by decide, rfl⟩
  · exact Always.pure ⟨_, by decide, rfl⟩
  · refine Always.bind (always_msgFrm3) fun msg reports => ?_
    exact Always.pure (sequence_ends reports.1 fun report member =>
      ueReportTrace_overruns (reports.2 report member))

end Endings

/-! ## The lock -/

theorem unlock_not_mem_recordTrace
    (incompleteFlag : Option EnumValue)
    (measInfo : MeasInfoFormat1Lst)
    (record : MeasRecordLst) :
    .unlock ∉ (recordTrace incompleteFlag measInfo record).log := by
  intro logged
  rcases Trace.mem_append_log logged with value | flag
  · cases kind : measInfo.measType with
    | id id =>
        simp [kind, measTypeTrace, Trace.stops] at value
    | name name =>
        cases record <;>
          simp [kind, measTypeTrace, valueTrace, Trace.logs, Trace.stops]
            at value
  · unfold flagTrace at flag
    split at flag <;> simp [Trace.logs, Trace.nil] at flag

theorem unlock_not_mem_dataItemTrace
    (measInfoLst : List MeasInfoFormat1Lst)
    (dataItem : MeasDataLst) :
    .unlock ∉ (dataItemTrace measInfoLst dataItem).log := by
  intro logged
  rcases Trace.mem_append_log logged with records | overrun
  · obtain ⟨pair, _, inside⟩ := Trace.mem_sequence_log records
    exact unlock_not_mem_recordTrace _ _ _ inside
  · unfold overrunTrace at overrun
    split at overrun
    · simp [Trace.nil] at overrun
    · split at overrun <;> simp [Trace.stops] at overrun

/-- What is logged for a message leaves the lock alone. -/
theorem unlock_not_mem_messageTrace (msg : KpmIndMsg) :
    .unlock ∉ (messageTrace msg).log := by
  intro logged
  cases msg with
  | frm1 msg =>
      simp [messageTrace, Trace.stops] at logged
  | frm2 =>
      simp [messageTrace, Trace.stops] at logged
  | frm3 msg =>
      obtain ⟨report, _, inside⟩ := Trace.mem_sequence_log logged
      rcases Trace.mem_append_log inside with ueId | measurements
      · simp [ueIdTrace, Trace.logs] at ueId
      · unfold measurementsTrace at measurements
        split at measurements
        · simp [Trace.stops] at measurements
        · obtain ⟨dataItem, _, here⟩ :=
            Trace.mem_sequence_log measurements
          exact unlock_not_mem_dataItemTrace _ dataItem here

/-! ## What the KPM manager makes of it -/

/--
Whatever `rand` returns, the callback does not come back from a generated
indication: it ends for one of four reasons, with `mtx` locked and the
indication uncounted.
-/
theorem generated_indication_stops
    (hdrDraws msgDraws : Draws)
    (timeNowUs now : UInt64)
    (counter : Nat) :
    let ind : KpmIndData := {
      hdr := (fillRndKpmIndHdr timeNowUs hdrDraws).1
      msg := (fillRndKpmIndMsg msgDraws).1 }
    ∃ log, ∃ why ∈ generatedStops,
      Stops (smCbKpm now (indicationAnswer ind)) counter log counter why ∧
        .lock ∈ log ∧ .unlock ∉ log := by
  intro ind
  obtain ⟨why, listed, ended⟩ := always_message msgDraws
  refine ⟨_, why, listed, smCbKpm_stops now ended, ?_, ?_⟩
  · simp [blockHead]
  · simp [blockHead, unlock_not_mem_messageTrace]

/-- The report of style 4 that the generator makes. -/
def generatedItem : RicReportStyleItem where
  reportStyleType := .style4RicServiceReport
  actDefFormatType := .format4ActionDefinition
  measInfoForActionLst := List.replicate 3 ⟨literal "Name_for_action"⟩

/--
For a generated RAN function definition `gen_kpm_subs` returns exactly when the
fourth value drawn makes the first report style a style 4; it then subscribes
to the three measurements of that style, and otherwise calls a null pointer.
-/
theorem genKpmSubs_generated
    {env : Environment}
    (granted : env.AllGranted)
    (draws : Draws)
    (world : World) :
    (genKpmSubs env (some (fillRndKpmRanFuncDef draws).1) world).outcome =
      if draws 3 % 5 = 3 then
        .done (kpmSubOf env generatedItem)
      else
        .stop (.undefined (.nullCall "get_kpm_act_def")) := by
  have accepted : EventTriggerAccepted (fillRndKpmRanFuncDef draws).1 :=
    ⟨_, _, rfl, rfl⟩
  have listed :
      (fillRndKpmRanFuncDef draws).1.ricReportStyleList =
        some [(fillRndReportStyle fun index => draws (index + 3)).1,
          (fillRndReportStyle fun index => draws (index + 4)).1,
          (fillRndReportStyle fun index => draws (index + 5)).1] :=
    rfl
  by_cases style4 : draws 3 % 5 = 3
  · have item :
        (fillRndReportStyle fun index => draws (index + 3)).1 =
          generatedItem := by
      change (⟨(reportStyle (draws 3)).1, (reportStyle (draws 3)).2, _⟩ :
        RicReportStyleItem) = _
      simp [reportStyle, style4, generatedItem]
    rw [item] at listed
    rw [if_pos style4]
    exact outcome_of_allGranted
      (genKpmSubs_allocates env accepted listed ⟨rfl, rfl⟩) granted world
  · have other :
        (fillRndReportStyle fun index => draws (index + 3)).1.reportStyleType ≠
          .style4RicServiceReport := by
      change (reportStyle (draws 3)).1 ≠ _
      unfold reportStyle
      split <;> simp_all
    have rejected :
        firstStyleStop
            (fillRndKpmRanFuncDef draws).1.ricReportStyleList =
          some (.undefined (.nullCall "get_kpm_act_def")) := by
      rw [listed, firstStyleStop, if_neg other]
    rw [if_neg style4, (genKpmSubs_stops_of_firstStyle env accepted
      rejected (granted world.callocs)).apply]

/-- If `rand` always returns 3, the definition is served. -/
theorem genKpmSubs_generated_style4 :
    (genKpmSubs Environment.ideal
        (some (fillRndKpmRanFuncDef fun _ => 3).1) World.fresh).outcome =
      .done (kpmSubOf Environment.ideal generatedItem) :=
  genKpmSubs_generated Environment.ideal_allGranted (fun _ => 3) World.fresh

end IqosXapp.Rnd
