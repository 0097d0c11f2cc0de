import IqosXapp.KpmManager.IndicationSpec

namespace IqosXapp.KpmManager

open Effect Program

/-!
# Bounded traversal of an indication

A node chooses the lengths of a message independently of each other.  The
innermost loop of `print_measurements` is bounded by the number of records and
reads the measurement infos at the same index, so the traversal stays inside
the message exactly when no data item that is reached has more records than
its UE has infos, or more than an `int` can count.
-/

/-- The records that a log shows as handled. -/
def handledRecords (log : List ReportEvent) : List MeasRecordLst :=
  log.filterMap fun
    | .handle _ _ record => some record
    | _ => none

/-- The records of a message, in the order of the nested loops. -/
def messageRecords (msg : KpmIndMsgFormat3) : List MeasRecordLst :=
  msg.measReportPerUe.flatMap fun report =>
    report.indMsgFormat1.measDataLst.flatMap fun dataItem =>
      dataItem.measRecordLst

/-- The traversal is over; only `counter++` may still overflow. -/
def TraversalOver (outcome : Outcome Stop Unit) : Prop :=
  outcome = .done () ∨ outcome = .stop counterOverflow

/--
The traversal of a message is bounded: no array is left, and the message is
either processed completely or rejected by an assertion.
-/
structure BoundedTraversal
    (now : UInt64)
    (counter : Nat)
    (ind : KpmIndData)
    (msg : KpmIndMsgFormat3) : Prop where
  readsInside :
    ∀ array index,
      (smCbKpm now (indicationAnswer ind) counter).outcome ≠
        .stop (.undefined (.outOfRange array index))
  completeOrRejected :
    (TraversalOver
          (smCbKpm now (indicationAnswer ind) counter).outcome ∧
        handledRecords
            (smCbKpm now (indicationAnswer ind) counter).log =
          messageRecords msg) ∨
      ∃ text,
        (smCbKpm now (indicationAnswer ind) counter).outcome =
          .stop (.failedCheck text)

/--
Every data item fits, up to the first UE without measurement infos: the
assertion of `print_measurements` ends the traversal there.
-/
def LengthsFit : List MeasReportPerUe → Prop
  | [] => True
  | report :: rest =>
      report.indMsgFormat1.measInfoLst = [] ∨
        ((∀ dataItem ∈ report.indMsgFormat1.measDataLst,
            ItemFits report.indMsgFormat1.measInfoLst dataItem) ∧
          LengthsFit rest)

instance decidableLengthsFit :
    (reports : List MeasReportPerUe) → Decidable (LengthsFit reports)
  | [] => isTrue True.intro
  | _ :: rest =>
      haveI := decidableLengthsFit rest
      inferInstanceAs (Decidable (_ ∨ _ ∧ _))

section HandledRecords

@[simp] theorem handledRecords_append (log later : List ReportEvent) :
    handledRecords (log ++ later) =
      handledRecords log ++ handledRecords later :=
  List.filterMap_append

/-- A record with a value is handed to its handler once. -/
theorem handledRecords_recordLog
    (incompleteFlag : Option EnumValue)
    (name : Bytes)
    {record : MeasRecordLst}
    (valued : record.value ≠ .noValueMeasValue) :
    handledRecords (recordLog incompleteFlag name record) =
      [record] := by
  have mark :
      handledRecords (flagTrace incompleteFlag).log = [] := by
    simp only [flagTrace]
    split <;>
      rfl
  simp only [recordLog, handledRecords_append, mark]
  cases record with
  | intVal value =>
      rfl
  | realVal value =>
      rfl
  | noValue =>
      exact (valued rfl).elim

/-- An item that fits has all of its records paired with a name. -/
theorem namedRecords_records
    {measInfoLst : List MeasInfoFormat1Lst}
    {dataItem : MeasDataLst}
    (byName : AllByName measInfoLst)
    (covered :
      dataItem.measRecordLst.length ≤ measInfoLst.length) :
    (namedRecords measInfoLst dataItem).map (·.2) =
      dataItem.measRecordLst := by
  have named :
      ∀ pairs : List (MeasInfoFormat1Lst × MeasRecordLst),
        (∀ pair ∈ pairs,
          pair.1.measType.type = .nameMeasType) →
        (pairs.filterMap fun pair =>
            pair.1.measType.name?.map fun name =>
              (name, pair.2)).map (·.2) =
          pairs.map (·.2) := by
    intro pairs typed
    induction pairs with
    | nil =>
        rfl
    | cons pair rest inductionHypothesis =>
        obtain ⟨name, shape⟩ :=
          MeasType.eq_name_of_type (typed pair (by simp))
        have later :=
          inductionHypothesis fun later member =>
            typed later (by simp [member])
        simpa [shape] using later
  calc
    (namedRecords measInfoLst dataItem).map (·.2) =
        (measInfoLst.zip dataItem.measRecordLst).map (·.2) :=
      named _ fun pair paired =>
        byName pair.1 (List.of_mem_zip paired).1
    _ = dataItem.measRecordLst :=
      List.map_snd_zip covered

/-- A printed message has all of its records handled, once and in order. -/
theorem handledRecords_messageLog
    {msg : KpmIndMsgFormat3}
    (printable :
      ∀ report ∈ msg.measReportPerUe,
        Printable report.indMsgFormat1) :
    handledRecords (messageLog msg) = messageRecords msg := by
  have handled :
      handledRecords (messageLog msg) =
        (namedMessage msg).flatMap fun entry => [entry.2] :=
    filterMap_messageLog _ _
      (fun ueId => by simp)
      (fun incompleteFlag entry valued =>
        handledRecords_recordLog incompleteFlag entry.1 valued)
      (fun report listed => (printable report listed).valued)
  rw [handled, ← List.map_eq_flatMap]
  simp only [namedMessage, messageRecords, List.map_flatMap]
  refine List.flatMap_congr fun report listed => ?_
  refine List.flatMap_congr fun dataItem member => ?_
  exact
    namedRecords_records (printable report listed).byName
      ((printable report listed).fits dataItem member).1

end HandledRecords

section Endings

/-- Among names and values only the lengths can end the trace of an item. -/
theorem dataItemTrace_ending
    {msg : KpmIndMsgFormat1}
    (byName : AllByName msg.measInfoLst)
    (valued : AllValued msg.measDataLst)
    {dataItem : MeasDataLst}
    (member : dataItem ∈ msg.measDataLst) :
    (dataItemTrace msg.measInfoLst dataItem).ending =
      (overrunTrace msg.measInfoLst.length
        dataItem.measRecordLst.length).ending := by
  have visited :
      ∀ pair ∈ visitedPairs msg.measInfoLst dataItem,
        pair ∈ msg.measInfoLst.zip dataItem.measRecordLst :=
    fun pair taken => List.mem_of_mem_take taken
  have printed :=
    sequence_recordTrace dataItem.incompleteFlag
      (fun pair taken =>
        byName pair.1 (List.of_mem_zip (visited pair taken)).1)
      (fun pair taken =>
        valued dataItem member pair.2
          (List.of_mem_zip (visited pair taken)).2)
  simp only [dataItemTrace, printed, Trace.append_ending,
    Trace.logs_ending, Option.none_or]

/-- Undefined behaviour that is not the overflow of `counter`. -/
def Escapes (ending : Option Stop) : Prop :=
  (∃ array index,
    ending = some (.undefined (.outOfRange array index))) ∨
    ending = some (.undefined (.signedOverflow "j"))

/-- The first ending counts. -/
theorem Escapes.or
    {ending : Option Stop}
    (escapes : Escapes ending)
    (later : Option Stop) :
    Escapes (ending.or later) := by
  rcases escapes with ⟨array, index, rfl⟩ | rfl
  · exact .inl ⟨array, index, rfl⟩
  · exact .inr rfl

/-- Without room, the innermost loop escapes. -/
theorem overrunTrace_escapes
    {measInfoLst : List MeasInfoFormat1Lst}
    {dataItem : MeasDataLst}
    (overruns : ¬ItemFits measInfoLst dataItem) :
    Escapes
      (overrunTrace measInfoLst.length
        dataItem.measRecordLst.length).ending := by
  rcases overrunTrace_of_not_fits overruns with escape | escape
  · rw [escape]
    exact .inl ⟨_, _, rfl⟩
  · rw [escape]
    exact .inr rfl

/-- The traversal of the measurements of one UE, by its lengths. -/
theorem measurementsTrace_ending
    {msg : KpmIndMsgFormat1}
    (byName : AllByName msg.measInfoLst)
    (valued : AllValued msg.measDataLst)
    (nonempty : msg.measInfoLst ≠ []) :
    ((∀ dataItem ∈ msg.measDataLst,
          ItemFits msg.measInfoLst dataItem) ∧
        (measurementsTrace msg).ending = none) ∨
      ((¬∀ dataItem ∈ msg.measDataLst,
          ItemFits msg.measInfoLst dataItem) ∧
        Escapes (measurementsTrace msg).ending) := by
  have items :
      measurementsTrace msg =
        Trace.sequence (dataItemTrace msg.measInfoLst)
          msg.measDataLst := by
    simp [measurementsTrace, nonempty]
  rw [items]
  refine Trace.sequence_ending_cases (by simp [Escapes]) ?_
  intro dataItem member
  rw [dataItemTrace_ending byName valued member]
  by_cases fits : ItemFits msg.measInfoLst dataItem
  · exact .inl ⟨fits, by rw [overrunTrace_of_fits fits]; rfl⟩
  · exact .inr ⟨fits, overrunTrace_escapes fits⟩

/-- The traversal of a list of UE reports, by its lengths. -/
theorem reports_ending
    {reports : List MeasReportPerUe}
    (named : NamesAndValues reports) :
    (LengthsFit reports ∧
        ((Trace.sequence ueReportTrace reports).ending = none ∧
            (∀ report ∈ reports, Printable report.indMsgFormat1) ∨
          (Trace.sequence ueReportTrace reports).ending =
            some cannotPrint)) ∨
      (¬LengthsFit reports ∧
        Escapes (Trace.sequence ueReportTrace reports).ending) := by
  induction reports with
  | nil =>
      exact Or.inl ⟨True.intro, Or.inl ⟨rfl, by simp⟩⟩
  | cons report rest inductionHypothesis =>
      obtain ⟨byName, valued⟩ := named report (by simp)
      have ending :
          (Trace.sequence ueReportTrace (report :: rest)).ending =
            (measurementsTrace report.indMsgFormat1).ending.or
              (Trace.sequence ueReportTrace rest).ending := by
        simp [ueReportTrace, ueIdTrace]
      by_cases empty : report.indMsgFormat1.measInfoLst = []
      · left
        refine ⟨Or.inl empty, Or.inr ?_⟩
        rw [ending]
        simp [measurementsTrace, empty]
      · rw [ending]
        rcases measurementsTrace_ending byName valued empty with
            ⟨fits, goesOn⟩ | ⟨overruns, escapes⟩
        · have later :=
            inductionHypothesis fun later member =>
              named later (by simp [member])
          have printable : Printable report.indMsgFormat1 :=
            ⟨empty, byName, valued, fits⟩
          rw [goesOn, Option.none_or]
          rcases later with ⟨fitLater, ended⟩ | ⟨overruns, escapes⟩
          · left
            refine ⟨Or.inr ⟨fits, fitLater⟩, ?_⟩
            rcases ended with ⟨goesOnLater, printableLater⟩ | rejected
            · left
              refine ⟨goesOnLater, ?_⟩
              intro other member
              rcases List.mem_cons.mp member with rfl | inRest
              · exact printable
              · exact printableLater other inRest
            · exact Or.inr rejected
          · right
            refine ⟨?_, escapes⟩
            rintro (isEmpty | ⟨_, fitLater⟩)
            · exact empty isEmpty
            · exact overruns fitLater
        · right
          constructor
          · rintro (isEmpty | ⟨fits, _⟩)
            · exact empty isEmpty
            · exact overruns fits
          · exact escapes.or _

end Endings

section Traversal

variable
  {now : UInt64}
  {counter : Nat}
  {ind : KpmIndData}
  {msg : KpmIndMsgFormat3}

/-- A message that is printed to its end is processed completely. -/
theorem boundedTraversal_of_printable
    (format3 : ind.msg = .frm3 msg)
    (printable :
      ∀ report ∈ msg.measReportPerUe,
        Printable report.indMsgFormat1) :
    BoundedTraversal now counter ind msg := by
  have trace : messageTrace ind.msg = .logs (messageLog msg) := by
    rw [format3]
    exact messageTrace_of_printable printable
  have handled :
      handledRecords (blockHead now ind counter) = [] :=
    rfl
  rcases smCbKpm_of_logs now counter trace with
    ⟨_, returns⟩ | ⟨_, overflows⟩
  · have run := returns.apply
    constructor
    · intro array index reached
      rw [run] at reached
      cases reached
    · left
      rw [run]
      refine ⟨Or.inl rfl, ?_⟩
      simp only [handledRecords_append, handled,
        handledRecords_messageLog printable]
      simp [handledRecords]
  · have run := overflows.apply
    constructor
    · intro array index reached
      rw [run] at reached
      cases reached
    · left
      rw [run]
      refine ⟨Or.inr rfl, ?_⟩
      simp only [handledRecords_append, handled,
        handledRecords_messageLog printable, List.nil_append]

/-- A message without infos for a UE is rejected by the assertion. -/
theorem boundedTraversal_of_cannotPrint
    (rejected : (messageTrace ind.msg).ending = some cannotPrint) :
    BoundedTraversal now counter ind msg := by
  have run : smCbKpm now (indicationAnswer ind) counter = _ :=
    (smCbKpm_stops now rejected).apply
  constructor
  · intro array index reached
    rw [run] at reached
    cases reached
  · rw [run]
    exact Or.inr ⟨_, rfl⟩

/-- A traversal that escapes is not bounded. -/
theorem not_boundedTraversal_of_escapes
    (escapes : Escapes (messageTrace ind.msg).ending) :
    ¬BoundedTraversal now counter ind msg := by
  intro bounded
  rcases escapes with ⟨array, index, ended⟩ | ended
  · apply bounded.readsInside array index
    rw [(smCbKpm_stops now ended).apply]
  · have complete := bounded.completeOrRejected
    rw [(smCbKpm_stops now ended).apply] at complete
    rcases complete with ⟨returned | overflow, _⟩ | ⟨text, rejected⟩
    · cases returned
    · simp [counterOverflow] at overflow
    · cases rejected

/--
For a format 3 message of names and values, the traversal is bounded exactly
when the lengths fit.
-/
theorem boundedTraversal_iff
    (format3 : ind.msg = .frm3 msg)
    (named : NamesAndValues msg.measReportPerUe) :
    BoundedTraversal now counter ind msg ↔
      LengthsFit msg.measReportPerUe := by
  have trace :
      messageTrace ind.msg =
        Trace.sequence ueReportTrace msg.measReportPerUe := by
    rw [format3]
    rfl
  rcases reports_ending named with
      ⟨fits, ⟨_, printable⟩ | rejected⟩ | ⟨overruns, escapes⟩
  · exact ⟨fun _ => fits, fun _ =>
      boundedTraversal_of_printable format3 printable⟩
  · rw [← trace] at rejected
    exact ⟨fun _ => fits, fun _ =>
      boundedTraversal_of_cannotPrint rejected⟩
  · rw [← trace] at escapes
    exact ⟨fun bounded =>
        (not_boundedTraversal_of_escapes escapes bounded).elim,
      fun fits => (overruns fits).elim⟩

end Traversal

/-- Two names and one item of two records: the condition is met. -/
theorem boundedTraversal_twoRecords :
    BoundedTraversal 0 1
      (indicationOf (.frm3 (messageOf namedInfos (integers 2))))
      (messageOf namedInfos (integers 2)) :=
  (boundedTraversal_iff rfl (by decide)).mpr (by decide)

/--
Two names and one item of four records, as the random generator fills them:
the third record is paired with an info behind the list.
-/
theorem not_boundedTraversal_fourRecords :
    NamesAndValues (messageOf namedInfos (integers 4)).measReportPerUe ∧
      ¬BoundedTraversal 0 1
        (indicationOf (.frm3 (messageOf namedInfos (integers 4))))
        (messageOf namedInfos (integers 4)) := by
  refine ⟨by decide, fun bounded => ?_⟩
  exact bounded.readsInside "meas_info_lst" 2 (by rfl)

end IqosXapp.KpmManager
