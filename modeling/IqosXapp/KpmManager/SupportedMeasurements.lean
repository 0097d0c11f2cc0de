import IqosXapp.KpmManager.IndicationSpec

namespace IqosXapp.KpmManager

open Effect Program

/-!
# Which measurements are reported

Whether a record is reported should depend on its name only.  The handler for
integers looks the name up in `SUPPORTED_MEASUREMENTS`; the handler for reals
compares it with three names of its own.  The two accept the same names except
for the supported ones among which the second handler does not look, and a
message is reported as it should be exactly when no real stands under one of
them.
-/

/-- The names that the handler for reals accepts. -/
def realMeasurements : List Bytes := [
  literal "DRB.UEThpDl",
  literal "DRB.UEThpUl",
  literal "DRB.RlcSduDelayDl"]

/-- The name and value that a value line shows. -/
def Line.reported? : Line → Option (Bytes × MeasRecordLst)
  | .intValue name value => some (name, .intVal value)
  | .realValue name value _ _ => some (name, .realVal value)
  | _ => none

/-- The name that a "not yet supported" line shows. -/
def Line.notSupported? : Line → Option Bytes
  | .notSupported name => some name
  | _ => none

/-- The value lines of a log, in order. -/
def valueLines (log : List ReportEvent) : List (Bytes × MeasRecordLst) :=
  log.filterMap fun event => event.line?.bind Line.reported?

/-- The names in the "not yet supported" lines of a log, in order. -/
def notSupportedNames (log : List ReportEvent) : List Bytes :=
  log.filterMap fun event => event.line?.bind Line.notSupported?

/-- The name is in the shared list. -/
def supported (entry : Bytes × MeasRecordLst) : Bool :=
  supportedMeasurements.contains entry.1

/-- The handler for the record's kind accepts the name. -/
def accepted (entry : Bytes × MeasRecordLst) : Bool :=
  match entry.2 with
  | .intVal _ => supportedMeasurements.contains entry.1
  | .realVal _ => realMeasurements.contains entry.1
  | .noValue => false

/--
No supported measurement is dropped: the value lines are the records with a
supported name, and each other record has one "not yet supported" line.
-/
structure NoneDropped
    (now : UInt64)
    (counter : Nat)
    (ind : KpmIndData)
    (msg : KpmIndMsgFormat3) : Prop where
  reported :
    valueLines (smCbKpm now (indicationAnswer ind) counter).log =
      (namedMessage msg).filter supported
  remaining :
    notSupportedNames (smCbKpm now (indicationAnswer ind) counter).log =
      ((namedMessage msg).filter fun entry =>
        !supported entry).map (·.1)

/--
The lengths of a message agree: every UE has measurement infos, and each of
its items has one record for each info.
-/
def LengthsAgree (msg : KpmIndMsgFormat3) : Prop :=
  ∀ report ∈ msg.measReportPerUe,
    report.indMsgFormat1.measInfoLst ≠ [] ∧
      report.indMsgFormat1.measInfoLst.length ≤ intMax ∧
      ∀ dataItem ∈ report.indMsgFormat1.measDataLst,
        dataItem.measRecordLst.length =
          report.indMsgFormat1.measInfoLst.length

/-- No real stands under a supported name that is not one of the three. -/
def RealsAccepted (msg : KpmIndMsgFormat3) : Prop :=
  ∀ entry ∈ namedMessage msg,
    entry.2.value = .realMeasValue →
    entry.1 ∈ supportedMeasurements →
    entry.1 ∈ realMeasurements

instance (msg : KpmIndMsgFormat3) : Decidable (LengthsAgree msg) :=
  inferInstanceAs (Decidable (∀ report ∈ msg.measReportPerUe, _))

instance (msg : KpmIndMsgFormat3) : Decidable (RealsAccepted msg) :=
  inferInstanceAs (Decidable (∀ entry ∈ namedMessage msg, _))

theorem realMeasurements_supported
    {name : Bytes}
    (member : name ∈ realMeasurements) :
    name ∈ supportedMeasurements := by
  simp only [realMeasurements, List.mem_cons, List.not_mem_nil,
    or_false] at member
  rcases member with rfl | rfl | rfl <;>
    decide

section Handlers

/-- The handler for reals accepts exactly its three names. -/
theorem realLine_eq
    (name : Bytes)
    (value : Double) :
    (name ∈ realMeasurements ∧
        ∃ divisor unit,
          realLine name value = .realValue name value divisor unit) ∨
      (name ∉ realMeasurements ∧
        realLine name value = .notSupported name) := by
  simp only [realMeasurements, List.mem_cons, List.not_mem_nil, or_false,
    realLine]
  split
  · rename_i same
    exact Or.inl ⟨Or.inl same, _, _, rfl⟩
  · rename_i notDl
    split
    · rename_i same
      exact Or.inl ⟨Or.inr (Or.inl same), _, _, rfl⟩
    · rename_i notUl
      split
      · rename_i same
        exact Or.inl ⟨Or.inr (Or.inr same), _, _, rfl⟩
      · rename_i notDelay
        exact Or.inr ⟨by simp [notDl, notUl, notDelay], rfl⟩

/--
The two handlers agree on a name exactly when it is not a supported name
besides the three that the handler for reals knows.
-/
theorem handlers_agree_iff
    (name : Bytes)
    (int : UInt32)
    (real : Double) :
    accepted (name, .intVal int) = accepted (name, .realVal real) ↔
      (name ∈ supportedMeasurements → name ∈ realMeasurements) := by
  have known := @realMeasurements_supported name
  by_cases inReals : name ∈ realMeasurements
  · simp [accepted, inReals, known inReals]
  · simp [accepted, inReals]

/-- The value lines and the other lines of one record. -/
theorem recordLog_lines
    (incompleteFlag : Option EnumValue)
    (entry : Bytes × MeasRecordLst)
    (valued : entry.2.value ≠ .noValueMeasValue) :
    valueLines (recordLog incompleteFlag entry.1 entry.2) =
        (if accepted entry then [entry] else []) ∧
      notSupportedNames (recordLog incompleteFlag entry.1 entry.2) =
        (if accepted entry then [] else [entry.1]) := by
  have mark :
      valueLines (flagTrace incompleteFlag).log = [] ∧
        notSupportedNames (flagTrace incompleteFlag).log = [] := by
    simp only [flagTrace]
    split <;>
      exact ⟨rfl, rfl⟩
  have split
      (log : List ReportEvent) :
      valueLines (log ++ (flagTrace incompleteFlag).log) =
          valueLines log ∧
        notSupportedNames (log ++ (flagTrace incompleteFlag).log) =
          notSupportedNames log := by
    simp only [valueLines, notSupportedNames] at mark ⊢
    simp only [List.filterMap_append, mark, List.append_nil,
      and_self]
  rcases entry with ⟨name, record⟩
  simp only [recordLog, split]
  cases record with
  | intVal value =>
      by_cases listed : name ∈ supportedMeasurements <;>
        simp [valueTrace, intLine, valueLines, notSupportedNames,
          ReportEvent.line?, Line.reported?, Line.notSupported?,
          accepted, listed]
  | realVal value =>
      rcases realLine_eq name value with
          ⟨known, divisor, unit, line⟩ | ⟨unknown, line⟩
      · simp [valueTrace, line, valueLines, notSupportedNames,
          ReportEvent.line?, Line.reported?, Line.notSupported?,
          accepted, known]
      · simp [valueTrace, line, valueLines, notSupportedNames,
          ReportEvent.line?, Line.reported?, Line.notSupported?,
          accepted, unknown]
  | noValue =>
      exact (valued rfl).elim

end Handlers

section Message

variable
  {now : UInt64}
  {counter : Nat}
  {ind : KpmIndData}
  {msg : KpmIndMsgFormat3}

/-- No line of a UE identity is a value line or names a measurement. -/
theorem ueIdLines_extract (ueId : UeIdE2sm) :
    ∀ line ∈ ueIdLines ueId,
      line.reported? = none ∧ line.notSupported? = none := by
  have ranUeId
      (id : Option UInt64) :
      ∀ line ∈ ranUeIdLines id,
        line.reported? = none ∧ line.notSupported? = none := by
    intro line member
    cases id with
    | none =>
        cases member
    | some id =>
        simp only [ranUeIdLines, List.mem_singleton] at member
        subst line
        exact ⟨rfl, rfl⟩
  intro line member
  cases ueId with
  | gnb id =>
      simp only [ueIdLines, List.mem_append] at member
      rcases member with own | ran
      · cases lst : id.gnbCuUeF1apLst with
        | none =>
            simp only [lst, List.mem_singleton] at own
            subst line
            exact ⟨rfl, rfl⟩
        | some items =>
            simp only [lst, List.mem_map] at own
            obtain ⟨item, _, rfl⟩ := own
            exact ⟨rfl, rfl⟩
      · exact ranUeId _ line ran
  | gnbDu id | gnbCuUp id =>
      simp only [ueIdLines, List.mem_append, List.mem_singleton]
        at member
      rcases member with rfl | ran
      · exact ⟨rfl, rfl⟩
      · exact ranUeId _ line ran
  | ngEnb | ngEnbDu | enGnb | enb =>
      simp only [ueIdLines, List.mem_singleton] at member
      subst line
      exact ⟨rfl, rfl⟩

/-- The lines of a message, by which handler accepts which record. -/
theorem messageLog_lines
    (valued :
      ∀ report ∈ msg.measReportPerUe,
        AllValued report.indMsgFormat1.measDataLst) :
    valueLines (messageLog msg) = (namedMessage msg).filter accepted ∧
      notSupportedNames (messageLog msg) =
        ((namedMessage msg).filter fun entry =>
          !accepted entry).map (·.1) := by
  have values :
      valueLines (messageLog msg) =
        (namedMessage msg).flatMap fun entry =>
          if accepted entry then [entry] else [] :=
    filterMap_messageLog _ _
      (fun ueId => by
        simp only [List.filterMap_map, List.filterMap_eq_nil_iff]
        intro line member
        exact (ueIdLines_extract ueId line member).1)
      (fun incompleteFlag entry value =>
        (recordLog_lines incompleteFlag entry value).1)
      valued
  have names :
      notSupportedNames (messageLog msg) =
        (namedMessage msg).flatMap fun entry =>
          if accepted entry then [] else [entry.1] :=
    filterMap_messageLog _ _
      (fun ueId => by
        simp only [List.filterMap_map, List.filterMap_eq_nil_iff]
        intro line member
        exact (ueIdLines_extract ueId line member).2)
      (fun incompleteFlag entry value =>
        (recordLog_lines incompleteFlag entry value).2)
      valued
  rw [values, names]
  constructor
  · induction namedMessage msg with
    | nil =>
        rfl
    | cons entry rest inductionHypothesis =>
        cases kept : accepted entry <;>
          simp [kept, inductionHypothesis]
  · induction namedMessage msg with
    | nil =>
        rfl
    | cons entry rest inductionHypothesis =>
        cases kept : accepted entry <;>
          simp [kept, inductionHypothesis]

/-- The lines of the whole callback are the lines of its message. -/
theorem smCbKpm_lines
    (now : UInt64)
    (counter : Nat)
    (format3 : ind.msg = .frm3 msg)
    (printable :
      ∀ report ∈ msg.measReportPerUe,
        Printable report.indMsgFormat1) :
    valueLines (smCbKpm now (indicationAnswer ind) counter).log =
        (namedMessage msg).filter accepted ∧
      notSupportedNames
          (smCbKpm now (indicationAnswer ind) counter).log =
        ((namedMessage msg).filter fun entry =>
          !accepted entry).map (·.1) := by
  have trace : messageTrace ind.msg = .logs (messageLog msg) := by
    rw [format3]
    exact messageTrace_of_printable printable
  have lines :=
    messageLog_lines fun report listed =>
      (printable report listed).valued
  rw [← lines.1, ← lines.2]
  rcases smCbKpm_of_logs now counter trace with
    ⟨_, returns⟩ | ⟨_, overflows⟩
  · rw [returns.apply]
    simp [valueLines, notSupportedNames, blockHead, ReportEvent.line?]
  · rw [overflows.apply]
    simp [valueLines, notSupportedNames, blockHead, ReportEvent.line?]

/-- A message of agreeing lengths, names and values can be printed. -/
theorem printable_of_lengthsAgree
    (agree : LengthsAgree msg)
    (named : NamesAndValues msg.measReportPerUe) :
    ∀ report ∈ msg.measReportPerUe,
      Printable report.indMsgFormat1 := by
  intro report listed
  obtain ⟨nonempty, counted, lengths⟩ := agree report listed
  exact {
    infos := nonempty
    byName := (named report listed).1
    valued := (named report listed).2
    fits := by
      intro dataItem member
      have same := lengths dataItem member
      exact ⟨Nat.le_of_eq same,
        Nat.le_trans (Nat.le_of_eq same) counted⟩ }

/-- The handler decides as the shared list does, by the kind of the record. -/
theorem accepted_eq_supported_iff
    {entry : Bytes × MeasRecordLst}
    (valued : entry.2.value ≠ .noValueMeasValue) :
    accepted entry = supported entry ↔
      (entry.2.value = .realMeasValue →
        entry.1 ∈ supportedMeasurements →
        entry.1 ∈ realMeasurements) := by
  rcases entry with ⟨name, record⟩
  cases record with
  | intVal value =>
      simp [accepted, supported, MeasRecordLst.value]
  | realVal value =>
      have agree := handlers_agree_iff name 0 value
      simp only [MeasRecordLst.value, forall_const]
      rw [← agree]
      simp only [accepted, supported]
      exact eq_comm
  | noValue =>
      exact (valued rfl).elim

/--
For a message of agreeing lengths, names and values, no supported measurement
is dropped exactly when no real stands under a supported name other than
`DRB.UEThpDl`, `DRB.UEThpUl` and `DRB.RlcSduDelayDl`.
-/
theorem noneDropped_iff
    (format3 : ind.msg = .frm3 msg)
    (agree : LengthsAgree msg)
    (named : NamesAndValues msg.measReportPerUe) :
    NoneDropped now counter ind msg ↔ RealsAccepted msg := by
  have printable := printable_of_lengthsAgree agree named
  have lines :=
    smCbKpm_lines now counter format3 printable
  have value :
      ∀ entry ∈ namedMessage msg,
        entry.2.value ≠ .noValueMeasValue := by
    intro entry member
    obtain ⟨report, listed, inReport⟩ := List.mem_flatMap.mp member
    obtain ⟨dataItem, inItems, paired⟩ := List.mem_flatMap.mp inReport
    exact (named report listed).2 dataItem inItems entry.2
      (mem_of_mem_namedRecords paired)
  constructor
  · intro noneDropped entry member
    rw [← accepted_eq_supported_iff (value entry member)]
    have sameFilter :
        (namedMessage msg).filter accepted =
          (namedMessage msg).filter supported :=
      lines.1.symm.trans noneDropped.reported
    have sameMember :
        entry ∈ (namedMessage msg).filter accepted ↔
          entry ∈ (namedMessage msg).filter supported := by
      rw [sameFilter]
    simp only [List.mem_filter, member, true_and] at sameMember
    exact Bool.eq_iff_iff.mpr sameMember
  · intro realsAccepted
    have same :
        ∀ entry ∈ namedMessage msg,
          accepted entry = supported entry :=
      fun entry member =>
        (accepted_eq_supported_iff (value entry member)).mpr
          (realsAccepted entry member)
    constructor
    · rw [lines.1]
      exact List.filter_congr same
    · rw [lines.2]
      congr 1
      exact List.filter_congr fun entry member => by
        rw [same entry member]

end Message

/-- A data item of one integer and one real. -/
def intAndReal (real : MeasRecordLst) : MeasDataLst where
  measRecordLst := [.intVal 7, real]
  incompleteFlag := none

/-- Integers alone are reported by their names. -/
theorem noneDropped_integers :
    NoneDropped 0 1
      (indicationOf (.frm3 (messageOf namedInfos (integers 2))))
      (messageOf namedInfos (integers 2)) :=
  (noneDropped_iff rfl (by decide) (by decide)).mpr (by decide)

/--
A real under the supported name `RRU.PrbTotDl` is logged as not supported.
-/
theorem not_noneDropped_real :
    LengthsAgree (messageOf namedInfos (intAndReal (.realVal ⟨0⟩))) ∧
      NamesAndValues
        (messageOf namedInfos
          (intAndReal (.realVal ⟨0⟩))).measReportPerUe ∧
      ¬NoneDropped 0 1
        (indicationOf
          (.frm3 (messageOf namedInfos (intAndReal (.realVal ⟨0⟩)))))
        (messageOf namedInfos (intAndReal (.realVal ⟨0⟩))) := by
  refine ⟨by decide, by decide, fun noneDropped => ?_⟩
  have reported := noneDropped.reported
  revert reported
  decide

end IqosXapp.KpmManager
