import IqosXapp.Effect.Traverse
import IqosXapp.KpmManager.Types

namespace IqosXapp.KpmManager

open Effect Program

/-!
# The indication callback

`sm_cb_kpm` and the functions it calls.  The state of a callback is the static
`counter`, and its log holds what it prints, the calls of the value handlers
and the operations on `mtx`.  A member of a union is read through a function
that checks the tag, so reading the wrong member shows as an outcome.
-/

/-- A line that the callback logs. -/
inductive Line where
  | gnbCu (gnbCuUeF1ap : UInt32)
  | gnb (amfUeNgapId : UInt64)
  | gnbDu (gnbCuUeF1ap : UInt32)
  | gnbCuUp (gnbCuCpUeE1ap : UInt32)
  | ranUeId (ranUeId : UInt64)
  | ueIdNotSupported
  | intValue (name : Bytes) (value : UInt32)
  | realValue (name : Bytes) (value : Double) (divisor : Nat) (unit : String)
  | notSupported (name : Bytes)
  | notReliable
  deriving Repr, DecidableEq

/-- What a callback does, in order. -/
inductive ReportEvent where
  | lock
  | unlock
  | header (counter : Nat) (latency : UInt64)
  | handle (handler : MeasValueE) (name : Bytes) (record : MeasRecordLst)
  | line (line : Line)
  deriving Repr, DecidableEq

/-- The line that an event logs. -/
def ReportEvent.line? : ReportEvent → Option Line
  | .line text => some text
  | _ => none

/-- A function that runs in a callback; the state is `counter`. -/
abbrev Callback := Program Nat ReportEvent Stop

/-! ## Members of unions -/

/-- `meas_record.int_val` -/
def MeasRecordLst.readIntVal : MeasRecordLst → Callback UInt32
  | .intVal value => pure value
  | _ => stop (.undefined (.inactiveMember "int_val"))

/-- `meas_record.real_val` -/
def MeasRecordLst.readRealVal : MeasRecordLst → Callback Double
  | .realVal value => pure value
  | _ => stop (.undefined (.inactiveMember "real_val"))

/-- `meas_type.name` -/
def MeasType.readName : MeasType → Callback Bytes
  | .name bytes => pure bytes
  | .id _ => stop (.undefined (.inactiveMember "name"))

/-- `ue_id.gnb` -/
def UeIdE2sm.readGnb : UeIdE2sm → Callback GnbE2sm
  | .gnb id => pure id
  | _ => stop (.undefined (.inactiveMember "gnb"))

/-- `ue_id.gnb_du` -/
def UeIdE2sm.readGnbDu : UeIdE2sm → Callback GnbDuE2sm
  | .gnbDu id => pure id
  | _ => stop (.undefined (.inactiveMember "gnb_du"))

/-- `ue_id.gnb_cu_up` -/
def UeIdE2sm.readGnbCuUp : UeIdE2sm → Callback GnbCuUpE2sm
  | .gnbCuUp id => pure id
  | _ => stop (.undefined (.inactiveMember "gnb_cu_up"))

/-- `ind->msg.frm_3` -/
def KpmIndMsg.readFrm3 : KpmIndMsg → Callback KpmIndMsgFormat3
  | .frm3 msg => pure msg
  | _ => stop (.undefined (.inactiveMember "frm_3"))

/-! ## Values -/

/-- `SUPPORTED_MEASUREMENTS` -/
def supportedMeasurements : List Bytes := [
  literal "DRB.PdcpSduVolumeDL",
  literal "DRB.PdcpSduVolumeUL",
  literal "DRB.RlcSduDelayDl",
  literal "DRB.UEThpDl",
  literal "DRB.UEThpUl",
  literal "RRU.PrbTotDl",
  literal "RRU.PrbTotUl",
  literal "RlcPacketDropRateDl",
  literal "PacketSuccessRateUlgNBUu",
  literal "RlcSduTransmittedVolumeDL",
  literal "RlcSduTransmittedVolumeUL"]

/-- `int_meas_value` -/
def intMeasValue (name : Bytes) (measRecord : MeasRecordLst) :
    Callback Unit := do
  emit (.handle .integerMeasValue name measRecord)
  if supportedMeasurements.contains name then
    let value ← measRecord.readIntVal
    emit (.line (.intValue name value))
  else
    emit (.line (.notSupported name))

/-- `real_meas_value` -/
def realMeasValue (name : Bytes) (measRecord : MeasRecordLst) :
    Callback Unit := do
  emit (.handle .realMeasValue name measRecord)
  if name = literal "DRB.UEThpDl" then
    let value ← measRecord.readRealVal
    emit (.line (.realValue name value 1000 "Mbps"))
  else if name = literal "DRB.UEThpUl" then
    let value ← measRecord.readRealVal
    emit (.line (.realValue name value 1000 "Mbps"))
  else if name = literal "DRB.RlcSduDelayDl" then
    let value ← measRecord.readRealVal
    emit (.line (.realValue name value 1 "μs"))
  else
    emit (.line (.notSupported name))

/-- `get_meas_value`: one entry for each kind of value, in order. -/
def getMeasValue :
    List (Option (Bytes → MeasRecordLst → Callback Unit)) :=
  [some intMeasValue, some realMeasValue, none]

/-! ## Measurements -/

/-- `match_meas_name_type` -/
def matchMeasNameType
    (measType : MeasType)
    (measRecord : MeasRecordLst) :
    Callback Unit := do
  let handler ←
    tableEntry getMeasValue measRecord.value.ordinal "get_meas_value"
  let name ← measType.readName
  handler name measRecord

/-- `match_meas_type_id` -/
def matchMeasTypeId (_ : MeasType) (_ : MeasRecordLst) :
    Callback Unit :=
  stop (.failedCheck "ID Measurement Type not yet supported")

/-- `match_meas_type`: one entry for each kind of measurement, in order. -/
def matchMeasType :
    List (Option (MeasType → MeasRecordLst → Callback Unit)) :=
  [some matchMeasNameType, some matchMeasTypeId]

/-- The body of the innermost loop of `print_measurements`. -/
def printRecord
    (incompleteFlag : Option EnumValue)
    (measInfo : MeasInfoFormat1Lst)
    (recordItem : MeasRecordLst) :
    Callback Unit := do
  let measType := measInfo.measType
  let handler ←
    tableEntry matchMeasType measType.type.ordinal "match_meas_type"
  handler measType recordItem
  if incompleteFlag = some .trueEnumValue then
    emit (.line .notReliable)
  else
    pure ()

/--
The innermost loop of `print_measurements`: its counter `j` is an `int`, and
only the number of records bounds it.
-/
def printDataItem
    (measInfoLst : List MeasInfoFormat1Lst)
    (dataItem : MeasDataLst) :
    Callback Unit :=
  cappedLoop intMax (.undefined (.signedOverflow "j"))
    (fun j => do
      let measInfo ← cell measInfoLst j
        fun j => .undefined (.outOfRange "meas_info_lst" j)
      let recordItem ← cell dataItem.measRecordLst j
        fun j => .undefined (.outOfRange "meas_record_lst" j)
      printRecord dataItem.incompleteFlag measInfo recordItem)
    dataItem.measRecordLst.length 0

/-- `print_measurements` -/
def printMeasurements (msgFrm1 : KpmIndMsgFormat1) :
    Callback Unit := do
  require (0 < msgFrm1.measInfoLst.length)
    (.failedCheck "Cannot correctly print measurements")
  loop
    (fun i _ => do
      let dataItem ← cell msgFrm1.measDataLst i
        fun i => .undefined (.outOfRange "meas_data_lst" i)
      printDataItem msgFrm1.measInfoLst dataItem)
    msgFrm1.measDataLst.length 0 ()

/-! ## UE identities -/

/-- The line for a `ran_ue_id`, if there is one. -/
def printRanUeId : Option UInt64 → Callback Unit
  | some ranUeId => emit (.line (.ranUeId ranUeId))
  | none => pure ()

/-- `print_ue_id` -/
def printUeId (type : UeIdE2smE) (ueId : UeIdE2sm) : Callback Unit :=
  match type with
  | .gnbUeIdE2sm => do
      let gnb ← ueId.readGnb
      match gnb.gnbCuUeF1apLst with
      | some lst =>
          loop
            (fun i _ => do
              let gnbCuUeF1ap ← cell lst i
                fun i => .undefined (.outOfRange "gnb_cu_ue_f1ap_lst" i)
              emit (.line (.gnbCu gnbCuUeF1ap)))
            lst.length 0 ()
      | none => emit (.line (.gnb gnb.amfUeNgapId))
      printRanUeId gnb.ranUeId
  | .gnbDuUeIdE2sm => do
      let gnbDu ← ueId.readGnbDu
      emit (.line (.gnbDu gnbDu.gnbCuUeF1ap))
      printRanUeId gnbDu.ranUeId
  | .gnbCuUpUeIdE2sm => do
      let gnbCuUp ← ueId.readGnbCuUp
      emit (.line (.gnbCuUp gnbCuUp.gnbCuCpUeE1ap))
      printRanUeId gnbCuUp.ranUeId
  | _ => emit (.line .ueIdNotSupported)

/-! ## The callback -/

/-- The body of the loop of `sm_cb_kpm`, for one UE. -/
def printUeReport (report : MeasReportPerUe) : Callback Unit := do
  let ueId := report.ueMeasReportLst
  let ueIdType := ueId.type
  printUeId ueIdType ueId
  printMeasurements report.indMsgFormat1

/-- The loop of `sm_cb_kpm`: it reads the message as format 3, unchecked. -/
def printReports (msg : KpmIndMsg) : Callback Unit := do
  let msgFrm3 ← msg.readFrm3
  loop
    (fun i _ => do
      let report ← cell msgFrm3.measReportPerUe i
        fun i => .undefined (.outOfRange "meas_report_per_ue" i)
      printUeReport report)
    msgFrm3.measReportPerUe.length 0 ()

/-- `counter++` -/
def incrementCounter : Callback Unit := do
  let counter ← getState
  require (counter < intMax) (.undefined (.signedOverflow "counter"))
  setState (counter + 1)

/-- What `sm_cb_kpm` does with an indication; `now` is `get_time_now_us()`. -/
def reportIndication (now : UInt64) (ind : KpmIndData) :
    Callback Unit := do
  let latency := now - ind.hdr.collectStartTime
  emit .lock
  defer (emit .unlock) do
    let counter ← getState
    emit (.header counter latency)
    printReports ind.msg
    incrementCounter

/-- `sm_cb_kpm` -/
def smCbKpm (now : UInt64) (rd : Option SmAgIfRd) : Callback Unit := do
  require rd.isSome (.failedCheck "rd != nullptr")
  let rd ← deref rd (.undefined (.nullDereference "rd"))
  match rd with
  | .otherAnswer =>
      stop (.failedCheck "rd->type == INDICATION_MSG_AGENT_IF_ANS_V0")
  | .indicationMsgAgentIfAnsV0 .otherServiceModel =>
      stop (.failedCheck "rd->ind.type == KPM_STATS_V3_0")
  | .indicationMsgAgentIfAnsV0 (.kpmStatsV3 ind) =>
      reportIndication now ind

/-- What FlexRIC hands to the callback for an indication. -/
def indicationAnswer (ind : KpmIndData) : Option SmAgIfRd :=
  some (.indicationMsgAgentIfAnsV0 (.kpmStatsV3 ind))

end IqosXapp.KpmManager
