import IqosXapp.KpmManager.IndicationSpec

namespace IqosXapp.KpmManager

open Effect Program

/-!
# Tags and dispatch in the indication callback

What a callback may read depends on the tags of its message: the format, the
kind of each UE identity, of each measurement and of each record.  For format 3
messages whose records have values, every member is read under its own tag and
every called table entry exists; the callback then either counts the message
and releases the lock, or stops at one of two assertions, one for a UE without
measurement infos and one for a measurement that is typed by ID.
-/

/--
The callback keeps to the tags of an indication and gets through: it reads
only active members, calls no empty table entry, and ends by releasing the
lock with the counter increased by one.
-/
structure TagDiscipline
    (now : UInt64)
    (counter : Nat)
    (ind : KpmIndData) : Prop where
  readsActive :
    ∀ member,
      (smCbKpm now (indicationAnswer ind) counter).outcome ≠
        .stop (.undefined (.inactiveMember member))
  callsEntry :
    ∀ table,
      (smCbKpm now (indicationAnswer ind) counter).outcome ≠
        .stop (.undefined (.nullCall table))
  getsThrough :
    (∃ earlier,
      (smCbKpm now (indicationAnswer ind) counter).log =
        earlier ++ [.unlock]) ∧
      (smCbKpm now (indicationAnswer ind) counter).state =
        counter + 1 ∧
      (smCbKpm now (indicationAnswer ind) counter).outcome = .done ()

/-- Each item of each UE has one record for each info, as an `int` counts. -/
def RecordsMatchInfos (msg : KpmIndMsgFormat3) : Prop :=
  ∀ report ∈ msg.measReportPerUe,
    ∀ dataItem ∈ report.indMsgFormat1.measDataLst,
      dataItem.measRecordLst.length =
          report.indMsgFormat1.measInfoLst.length ∧
        dataItem.measRecordLst.length ≤ intMax

/-- Every record of the message has a value. -/
def RecordsValued (msg : KpmIndMsgFormat3) : Prop :=
  ∀ report ∈ msg.measReportPerUe,
    AllValued report.indMsgFormat1.measDataLst

/--
The measurements of a UE are supported: it has some, and they are typed by
name if there are data items at all.
-/
def MeasurementsSupported (msg : KpmIndMsgFormat1) : Prop :=
  msg.measInfoLst ≠ [] ∧
    (msg.measDataLst ≠ [] → AllByName msg.measInfoLst)

instance (msg : KpmIndMsgFormat3) : Decidable (RecordsMatchInfos msg) :=
  inferInstanceAs (Decidable (∀ report ∈ msg.measReportPerUe, _))

instance (msg : KpmIndMsgFormat3) : Decidable (RecordsValued msg) :=
  inferInstanceAs (Decidable (∀ report ∈ msg.measReportPerUe, _))

instance (msg : KpmIndMsgFormat1) :
    Decidable (MeasurementsSupported msg) :=
  inferInstanceAs (Decidable (_ ∧ _))

/-- The traversal was stopped by one of its assertions. -/
def Rejected (ending : Option Stop) : Prop :=
  ending = some cannotPrint ∨ ending = some idNotSupported

section Endings

/-- A record with a value is printed, or its measurement is typed by ID. -/
theorem recordTrace_ending
    (incompleteFlag : Option EnumValue)
    (info : MeasInfoFormat1Lst)
    {record : MeasRecordLst}
    (valued : record.value ≠ .noValueMeasValue) :
    (recordTrace incompleteFlag info record).ending =
      if info.measType.type = .nameMeasType then
        none
      else
        some idNotSupported := by
  cases typed : info.measType with
  | name name =>
      rw [recordTrace_of_name incompleteFlag typed valued]
      rfl
  | id id =>
      simp only [recordTrace, typed, measTypeTrace, MeasType.type]
      rfl

/-- The trace of an item whose records match the infos. -/
theorem dataItemTrace_ending_of_match
    {measInfoLst : List MeasInfoFormat1Lst}
    {dataItem : MeasDataLst}
    (sameLength :
      dataItem.measRecordLst.length = measInfoLst.length)
    (counted : dataItem.measRecordLst.length ≤ intMax)
    (valued :
      ∀ record ∈ dataItem.measRecordLst,
        record.value ≠ .noValueMeasValue) :
    (AllByName measInfoLst ∧
        (dataItemTrace measInfoLst dataItem).ending = none) ∨
      (¬AllByName measInfoLst ∧
        Rejected (dataItemTrace measInfoLst dataItem).ending) := by
  have fits : ItemFits measInfoLst dataItem :=
    ⟨Nat.le_of_eq sameLength, counted⟩
  -- every info is paired with a record
  have infos :
      AllByName measInfoLst ↔
        ∀ pair ∈ measInfoLst.zip dataItem.measRecordLst,
          pair.1.measType.type = .nameMeasType := by
    have firsts :=
      List.map_fst_zip (Nat.le_of_eq sameLength.symm)
    conv_lhs => rw [AllByName, ← firsts]
    exact List.forall_mem_map
  rw [infos, dataItemTrace_of_fits fits]
  refine Trace.sequence_ending_cases (by simp [Rejected]) ?_
  intro pair paired
  rw [recordTrace_ending _ pair.1
    (valued pair.2 (List.of_mem_zip paired).2)]
  by_cases byName : pair.1.measType.type = .nameMeasType
  · exact .inl ⟨byName, if_pos byName⟩
  · exact .inr ⟨byName, .inr (if_neg byName)⟩

/-- The measurements of a UE end at one of two assertions, or not at all. -/
theorem measurementsTrace_ending_of_match
    {msg : KpmIndMsgFormat1}
    (lengths :
      ∀ dataItem ∈ msg.measDataLst,
        dataItem.measRecordLst.length = msg.measInfoLst.length ∧
          dataItem.measRecordLst.length ≤ intMax)
    (valued : AllValued msg.measDataLst) :
    (MeasurementsSupported msg ∧
        (measurementsTrace msg).ending = none) ∨
      (¬MeasurementsSupported msg ∧
        Rejected (measurementsTrace msg).ending) := by
  have items
      (dataItem : MeasDataLst)
      (member : dataItem ∈ msg.measDataLst) :=
    dataItemTrace_ending_of_match (lengths dataItem member).1
      (lengths dataItem member).2 (valued dataItem member)
  by_cases empty : msg.measInfoLst = []
  · right
    refine ⟨fun supported => supported.1 empty, Or.inl ?_⟩
    simp [measurementsTrace, empty]
  · have trace :
        measurementsTrace msg =
          Trace.sequence (dataItemTrace msg.measInfoLst)
            msg.measDataLst := by
      simp [measurementsTrace, empty]
    have supported :
        MeasurementsSupported msg ↔
          ∀ dataItem ∈ msg.measDataLst, AllByName msg.measInfoLst := by
      simp [MeasurementsSupported, empty, List.eq_nil_iff_forall_not_mem]
    rw [trace, supported]
    exact Trace.sequence_ending_cases (by simp [Rejected]) items

/-- The same for a whole message. -/
theorem messageTrace_ending_of_match
    {msg : KpmIndMsgFormat3}
    (lengths : RecordsMatchInfos msg)
    (valued : RecordsValued msg) :
    ((∀ report ∈ msg.measReportPerUe,
          MeasurementsSupported report.indMsgFormat1) ∧
        (messageTrace (.frm3 msg)).ending = none) ∨
      ((¬∀ report ∈ msg.measReportPerUe,
          MeasurementsSupported report.indMsgFormat1) ∧
        Rejected (messageTrace (.frm3 msg)).ending) := by
  have identity (report : MeasReportPerUe) :
      (ueReportTrace report).ending =
        (measurementsTrace report.indMsgFormat1).ending := by
    simp [ueReportTrace, ueIdTrace]
  refine Trace.sequence_ending_cases (by simp [Rejected]) ?_
  intro report listed
  rw [identity]
  exact measurementsTrace_ending_of_match (lengths report listed)
    (valued report listed)

end Endings

section Callback

variable
  (now : UInt64)
  {counter : Nat}
  {ind : KpmIndData}
  {msg : KpmIndMsgFormat3}

/-- A message that is printed to its end keeps to its tags. -/
theorem tagDiscipline_of_goesOn
    (goesOn : (messageTrace ind.msg).ending = none)
    (room : counter < intMax) :
    TagDiscipline now counter ind := by
  have run := (smCbKpm_returns now goesOn room).apply
  constructor
  · intro member reached
    rw [run] at reached
    cases reached
  · intro table reached
    rw [run] at reached
    cases reached
  · rw [run]
    exact ⟨⟨_, rfl⟩, rfl, rfl⟩

/--
A format 3 message with matching lengths and a value in every record runs into
no undefined behaviour.  The callback gets through exactly when the
measurements of all UEs are supported, and otherwise stops at an assertion.
-/
theorem tagDiscipline_of_format3
    (format3 : ind.msg = .frm3 msg)
    (lengths : RecordsMatchInfos msg)
    (valued : RecordsValued msg)
    (room : counter < intMax) :
    (∀ cause,
      (smCbKpm now (indicationAnswer ind) counter).outcome ≠
        .stop (.undefined cause)) ∧
      (TagDiscipline now counter ind ↔
        ∀ report ∈ msg.measReportPerUe,
          MeasurementsSupported report.indMsgFormat1) ∧
      ((¬∀ report ∈ msg.measReportPerUe,
          MeasurementsSupported report.indMsgFormat1) →
        (smCbKpm now (indicationAnswer ind) counter).outcome =
            .stop cannotPrint ∨
          (smCbKpm now (indicationAnswer ind) counter).outcome =
            .stop idNotSupported) := by
  have endings := messageTrace_ending_of_match lengths valued
  rw [← format3] at endings
  rcases endings with ⟨supported, goesOn⟩ | ⟨unsupported, stopped⟩
  · have disciplined := tagDiscipline_of_goesOn now goesOn room
    refine ⟨?_, ⟨fun _ => supported, fun _ => disciplined⟩,
      fun unsupported => (unsupported supported).elim⟩
    intro cause reached
    rw [disciplined.getsThrough.2.2] at reached
    cases reached
  · have asserted :
        (smCbKpm now (indicationAnswer ind) counter).outcome =
            .stop cannotPrint ∨
          (smCbKpm now (indicationAnswer ind) counter).outcome =
            .stop idNotSupported := by
      rcases stopped with ended | ended
      · left
        rw [(smCbKpm_stops now ended).apply]
      · right
        rw [(smCbKpm_stops now ended).apply]
    refine ⟨?_, ⟨fun disciplined => ?_, fun supported => ?_⟩,
      fun _ => asserted⟩
    · intro cause reached
      rcases asserted with stops | stops <;>
        rw [stops] at reached <;>
        cases reached
    · rcases asserted with stops | stops <;>
        rw [disciplined.getsThrough.2.2] at stops <;>
        cases stops
    · exact (unsupported supported).elim

end Callback

/-- A name and an ID. -/
def nameAndId : List MeasInfoFormat1Lst := [
  ⟨.name (literal "DRB.UEThpDl"), 0, none⟩,
  ⟨.id 1, 0, none⟩]

/-- Two names with two integers get through. -/
theorem tagDiscipline_integers :
    (∀ cause,
      (smCbKpm 0
          (indicationAnswer
            (indicationOf (.frm3 (messageOf namedInfos (integers 2)))))
          1).outcome ≠
        .stop (.undefined cause)) ∧
      TagDiscipline 0 1
        (indicationOf (.frm3 (messageOf namedInfos (integers 2)))) := by
  have format3 :
      (indicationOf (.frm3 (messageOf namedInfos (integers 2)))).msg =
        .frm3 (messageOf namedInfos (integers 2)) :=
    rfl
  have all :=
    tagDiscipline_of_format3 0 format3 (by decide) (by decide)
      (show 1 < intMax by decide)
  exact ⟨all.1, all.2.1.mpr (by decide)⟩

/--
A format 3 message of matching lengths with a measurement that is typed by ID:
the callback is stopped by an assertion and never releases the lock.
-/
theorem not_tagDiscipline_nameAndId :
    RecordsMatchInfos (messageOf nameAndId (integers 2)) ∧
      RecordsValued (messageOf nameAndId (integers 2)) ∧
      ¬TagDiscipline 0 1
        (indicationOf (.frm3 (messageOf nameAndId (integers 2)))) := by
  refine ⟨by decide, by decide, fun disciplined => ?_⟩
  have returned := disciplined.getsThrough.2.2
  revert returned
  decide

end IqosXapp.KpmManager
