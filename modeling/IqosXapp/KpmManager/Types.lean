import IqosXapp.Effect.Program

namespace IqosXapp.KpmManager

open Effect

/-!
# Data of the KPM manager

The records that `kpmManager.cpp` reads from and hands to FlexRIC, with the
fields that its functions use.

An array that the code only reads is one list: the array really has the length
that its length field says, so the field is the length of the list.  In the
subscription, which the code builds, a length field and the array beside it
are kept apart.  A nullable pointer is an `Option`.  A tagged union that the
code reads is an inductive type, and reading a member that is not the active
one is undefined behaviour.
-/

/-- `EXP_TIME`: how long `start` waits for reports, in seconds. -/
def expTime : UInt32 := 60

/-- `PERIOD_MS`: the granularity period. -/
def periodMs : UInt32 := 1000

/-- `KPM_RAN_FUNC_ID` -/
def kpmRanFuncId : UInt16 := 2

/-- The largest value of an `int`. -/
def intMax : Nat := 2147483647

/-- Undefined behaviour that the code can run into. -/
inductive Undefined where
  | outOfRange (array : String) (index : Nat)
  | nullDereference (pointer : String)
  | nullCall (table : String)
  | inactiveMember (member : String)
  | signedOverflow (counter : String)
  deriving Repr, DecidableEq

/--
Why a run stops early: an assertion, given by its text, fails and aborts the
process, or the behaviour is undefined from there on.
-/
inductive Stop where
  | failedCheck (text : String)
  | undefined (cause : Undefined)
  deriving Repr, DecidableEq

/-! ## Shared values -/

/-- A `byte_array_t` whose `len` bytes are all in its buffer. -/
abbrev Bytes := List UInt8

/-- The bytes of a string literal of the source; all of them are ASCII. -/
def literal (text : String) : Bytes :=
  text.toList.map fun character => UInt8.ofNat character.toNat

/-- A `byte_array_t` while it is being filled. -/
structure ByteArrayT where
  len : Nat
  buf : Option (List UInt8)
  deriving Repr, DecidableEq

/-- A `double`, kept as its bits: the code only hands it to the formatter. -/
structure Double where
  bits : UInt64
  deriving Repr, DecidableEq

/-- `enum_value_e` -/
inductive EnumValue where
  | trueEnumValue
  | endEnumValue
  deriving Repr, DecidableEq

/-- `e2sm_plmn_t` -/
structure E2smPlmn where
  mcc : UInt16
  mnc : UInt16
  mncDigitLen : UInt8
  deriving Repr, DecidableEq

/-- `s_nssai_e2sm_t` -/
structure SNssaiE2sm where
  sST : UInt8
  sD : Option UInt32
  deriving Repr, DecidableEq

/-- The tag of a `meas_type_t`. -/
inductive MeasTypeE where
  | nameMeasType
  | idMeasType
  deriving Repr, DecidableEq

/-- Enumerators are numbered from zero in the order of the tables. -/
def MeasTypeE.ordinal : MeasTypeE → Nat
  | .nameMeasType => 0
  | .idMeasType => 1

/-- `meas_type_t` -/
inductive MeasType where
  | name (name : Bytes)
  | id (id : UInt16)
  deriving Repr, DecidableEq

/-- `meas_type.type` -/
def MeasType.type : MeasType → MeasTypeE
  | .name _ => .nameMeasType
  | .id _ => .idMeasType

/-- `label_info_lst_t` -/
structure LabelInfoLst where
  noLabel : Option EnumValue
  plmnId : Option E2smPlmn
  sliceId : Option SNssaiE2sm
  fiveQi : Option UInt8
  deriving Repr, DecidableEq

/-- `label_info_lst_t` with every pointer null. -/
def LabelInfoLst.zeroed : LabelInfoLst where
  noLabel := none
  plmnId := none
  sliceId := none
  fiveQi := none

/-- `meas_info_format_1_lst_t` -/
structure MeasInfoFormat1Lst where
  measType : MeasType
  labelInfoLstLen : Nat
  labelInfoLst : Option (List LabelInfoLst)
  deriving Repr, DecidableEq

/-- `meas_info_format_1_lst_t` as `calloc` leaves it. -/
def MeasInfoFormat1Lst.zeroed : MeasInfoFormat1Lst where
  measType := .name []
  labelInfoLstLen := 0
  labelInfoLst := none

/-! ## Indications -/

/-- The tag of a `meas_record_lst_t`. -/
inductive MeasValueE where
  | integerMeasValue
  | realMeasValue
  | noValueMeasValue
  deriving Repr, DecidableEq

/-- Enumerators are numbered from zero in the order of the tables. -/
def MeasValueE.ordinal : MeasValueE → Nat
  | .integerMeasValue => 0
  | .realMeasValue => 1
  | .noValueMeasValue => 2

/-- `meas_record_lst_t` -/
inductive MeasRecordLst where
  | intVal (value : UInt32)
  | realVal (value : Double)
  | noValue
  deriving Repr, DecidableEq

/-- `meas_record.value` -/
def MeasRecordLst.value : MeasRecordLst → MeasValueE
  | .intVal _ => .integerMeasValue
  | .realVal _ => .realMeasValue
  | .noValue => .noValueMeasValue

/-- `meas_data_lst_t`; `meas_record_len` is the length of the list. -/
structure MeasDataLst where
  measRecordLst : List MeasRecordLst
  incompleteFlag : Option EnumValue
  deriving Repr, DecidableEq

/-- `kpm_ind_msg_format_1_t` -/
structure KpmIndMsgFormat1 where
  measDataLst : List MeasDataLst
  measInfoLst : List MeasInfoFormat1Lst
  deriving Repr, DecidableEq

/-- The tag of a `ue_id_e2sm_t`. -/
inductive UeIdE2smE where
  | gnbUeIdE2sm
  | gnbDuUeIdE2sm
  | gnbCuUpUeIdE2sm
  | ngEnbUeIdE2sm
  | ngEnbDuUeIdE2sm
  | enGnbUeIdE2sm
  | enbUeIdE2sm
  deriving Repr, DecidableEq

/-- `gnb_e2sm_t` -/
structure GnbE2sm where
  amfUeNgapId : UInt64
  gnbCuUeF1apLst : Option (List UInt32)
  ranUeId : Option UInt64
  deriving Repr, DecidableEq

/-- `gnb_du_e2sm_t` -/
structure GnbDuE2sm where
  gnbCuUeF1ap : UInt32
  ranUeId : Option UInt64
  deriving Repr, DecidableEq

/-- `gnb_cu_up_e2sm_t` -/
structure GnbCuUpE2sm where
  gnbCuCpUeE1ap : UInt32
  ranUeId : Option UInt64
  deriving Repr, DecidableEq

/-- `ue_id_e2sm_t`; the 4G members are never read. -/
inductive UeIdE2sm where
  | gnb (id : GnbE2sm)
  | gnbDu (id : GnbDuE2sm)
  | gnbCuUp (id : GnbCuUpE2sm)
  | ngEnb
  | ngEnbDu
  | enGnb
  | enb
  deriving Repr, DecidableEq

/-- `ue_id.type` -/
def UeIdE2sm.type : UeIdE2sm → UeIdE2smE
  | .gnb _ => .gnbUeIdE2sm
  | .gnbDu _ => .gnbDuUeIdE2sm
  | .gnbCuUp _ => .gnbCuUpUeIdE2sm
  | .ngEnb => .ngEnbUeIdE2sm
  | .ngEnbDu => .ngEnbDuUeIdE2sm
  | .enGnb => .enGnbUeIdE2sm
  | .enb => .enbUeIdE2sm

/-- `meas_report_per_ue_t` -/
structure MeasReportPerUe where
  ueMeasReportLst : UeIdE2sm
  indMsgFormat1 : KpmIndMsgFormat1
  deriving Repr, DecidableEq

/-- `kpm_ind_msg_format_3_t` -/
structure KpmIndMsgFormat3 where
  measReportPerUe : List MeasReportPerUe
  deriving Repr, DecidableEq

/-- `kpm_ind_msg_t`; nothing of a format 2 message is ever read. -/
inductive KpmIndMsg where
  | frm1 (msg : KpmIndMsgFormat1)
  | frm2
  | frm3 (msg : KpmIndMsgFormat3)
  deriving Repr, DecidableEq

/-- `kpm_ric_ind_hdr_format_1_t` -/
structure KpmRicIndHdrFormat1 where
  collectStartTime : UInt64
  deriving Repr, DecidableEq

/-- `kpm_ind_data_t`; format 1 is the only header format. -/
structure KpmIndData where
  hdr : KpmRicIndHdrFormat1
  msg : KpmIndMsg
  deriving Repr, DecidableEq

/-- `rd->ind`: the indication of one service model. -/
inductive SmAgIfRdInd where
  | kpmStatsV3 (ind : KpmIndData)
  | otherServiceModel
  deriving Repr, DecidableEq

/-- `sm_ag_if_rd_t` -/
inductive SmAgIfRd where
  | indicationMsgAgentIfAnsV0 (ind : SmAgIfRdInd)
  | otherAnswer
  deriving Repr, DecidableEq

/-! ## RAN functions -/

/-- `format_ric_event_trigger_e` -/
inductive FormatRicEventTrigger where
  | format1RicEventTrigger
  | endFormatRicEventTrigger
  deriving Repr, DecidableEq

/-- `format_action_def_e` -/
inductive FormatActionDef where
  | format1ActionDefinition
  | format2ActionDefinition
  | format3ActionDefinition
  | format4ActionDefinition
  | format5ActionDefinition
  deriving Repr, DecidableEq

/-- `ric_service_report_e` -/
inductive RicServiceReport where
  | style1RicServiceReport
  | style2RicServiceReport
  | style3RicServiceReport
  | style4RicServiceReport
  | style5RicServiceReport
  deriving Repr, DecidableEq

/-- Enumerators are numbered from zero in the order of the tables. -/
def RicServiceReport.ordinal : RicServiceReport → Nat
  | .style1RicServiceReport => 0
  | .style2RicServiceReport => 1
  | .style3RicServiceReport => 2
  | .style4RicServiceReport => 3
  | .style5RicServiceReport => 4

/-- `ric_event_trigger_style_item_t` -/
structure RicEventTriggerStyleItem where
  formatType : FormatRicEventTrigger
  deriving Repr, DecidableEq

/-- `meas_info_for_action_lst_t` -/
structure MeasInfoForActionLst where
  name : Bytes
  deriving Repr, DecidableEq

/-- `ric_report_style_item_t` -/
structure RicReportStyleItem where
  reportStyleType : RicServiceReport
  actDefFormatType : FormatActionDef
  measInfoForActionLst : List MeasInfoForActionLst
  deriving Repr, DecidableEq

/-- `kpm_ran_function_def_t` -/
structure KpmRanFunctionDef where
  ricEventTriggerStyleList : Option (List RicEventTriggerStyleItem)
  ricReportStyleList : Option (List RicReportStyleItem)
  deriving Repr, DecidableEq

/-- `rf[i].defn`, tagged as KPM or as another RAN function. -/
inductive RanFunctionDefn where
  | kpm (defn : KpmRanFunctionDef)
  | other
  deriving Repr, DecidableEq

/-- `sm_ran_function_t` -/
structure SmRanFunction where
  id : UInt16
  defn : RanFunctionDefn
  deriving Repr, DecidableEq

/-- `global_e2_node_id_t` -/
structure GlobalE2NodeId where
  nbId : UInt32
  plmn : E2smPlmn
  cuDuId : Option UInt64
  deriving Repr, DecidableEq

/--
`e2_node_connected_xapp_t`; `len_rf` is the length of `rf`.  `behindRf` is what
the memory right behind the list reads as: an entry, or `none` when it is not
mapped.
-/
structure E2NodeConnectedXapp where
  id : GlobalE2NodeId
  rf : List SmRanFunction
  behindRf : Option SmRanFunction
  deriving Repr, DecidableEq

/-! ## Subscriptions -/

/-- `test_cond_type_e` -/
inductive TestCondType where
  | gbr
  | ambr
  | isStat
  | isCatM
  | dlRsrp
  | dlRsrq
  | ulRsrp
  | cqi
  | fiveQi
  | qci
  | sNssai
  deriving Repr, DecidableEq

/-- `test_cond_e` -/
inductive TestCond where
  | equalTestCond
  | endTestCond
  deriving Repr, DecidableEq

/-- `test_cond_value_e` -/
inductive TestCondValueE where
  | integerTestCondValue
  | enumeratedTestCondValue
  | booleanTestCondValue
  | bitStringTestCondValue
  | octetStringTestCondValue
  | printableStringTestCondValue
  | realTestCondValue
  deriving Repr, DecidableEq

/-- The union of pointers in a `test_cond_value_t`. -/
inductive TestCondValuePointer where
  | null
  | intValue (value : Int)
  | enumValue (value : Int)
  | boolValue (value : Bool)
  | bitStringValue (value : ByteArrayT)
  | octetStringValue (value : ByteArrayT)
  | printableStringValue (value : ByteArrayT)
  | realValue (value : Double)
  deriving Repr, DecidableEq

/-- `test_cond_value_t` -/
structure TestCondValue where
  type : TestCondValueE
  pointer : TestCondValuePointer
  deriving Repr, DecidableEq

/-- `test_cond_value_t` as `calloc` leaves it. -/
def TestCondValue.zeroed : TestCondValue where
  type := .integerTestCondValue
  pointer := .null

/--
`test_info_lst_t`.  Its union of test fields is given by the field that was set
to `TRUE_TEST_COND_TYPE`, named by the test it stands for.
-/
structure TestInfoLst where
  testCondType : TestCondType
  testField : Option TestCondType
  testCond : Option TestCond
  testCondValue : Option TestCondValue
  deriving Repr, DecidableEq

/-- `test_info_lst_t dst{}` -/
def TestInfoLst.zeroed : TestInfoLst where
  testCondType := .gbr
  testField := none
  testCond := none
  testCondValue := none

/-- `matching_condition_format_4_lst_t` -/
structure MatchingConditionFormat4Lst where
  logicalOr : Option EnumValue
  testInfoLst : TestInfoLst
  deriving Repr, DecidableEq

/-- `matching_condition_format_4_lst_t` as `calloc` leaves it. -/
def MatchingConditionFormat4Lst.zeroed : MatchingConditionFormat4Lst where
  logicalOr := none
  testInfoLst := TestInfoLst.zeroed

/--
`kpm_act_def_format_1_t`.  The cell and the bins are pointers to data that the
code never fills, so only whether they are null is kept.
-/
structure KpmActDefFormat1 where
  measInfoLstLen : Nat
  measInfoLst : Option (List MeasInfoFormat1Lst)
  granPeriodMs : UInt32
  cellGlobalId : Option Unit
  measBinRangeInfoLstLen : Nat
  measBinInfoLst : Option Unit
  deriving Repr, DecidableEq

/-- `kpm_act_def_format_1_t ad_frm_1{0}` -/
def KpmActDefFormat1.zeroed : KpmActDefFormat1 where
  measInfoLstLen := 0
  measInfoLst := none
  granPeriodMs := 0
  cellGlobalId := none
  measBinRangeInfoLstLen := 0
  measBinInfoLst := none

/-- `kpm_act_def_format_4_t` -/
structure KpmActDefFormat4 where
  matchingCondLstLen : Nat
  matchingCondLst : Option (List MatchingConditionFormat4Lst)
  actionDefFormat1 : KpmActDefFormat1
  deriving Repr, DecidableEq

/-- `kpm_act_def_t`; format 4 is the only member that the code writes. -/
structure KpmActDef where
  type : FormatActionDef
  frm4 : KpmActDefFormat4
  deriving Repr, DecidableEq

/-- `kpm_act_def_t` with every byte zero. -/
def KpmActDef.zeroed : KpmActDef where
  type := .format1ActionDefinition
  frm4 := {
    matchingCondLstLen := 0
    matchingCondLst := none
    actionDefFormat1 := KpmActDefFormat1.zeroed
  }

/-- `kpm_event_trigger_def_t` -/
structure KpmEventTriggerDef where
  type : FormatRicEventTrigger
  reportPeriodMs : UInt32
  deriving Repr, DecidableEq

/-- `kpm_sub_data_t` -/
structure KpmSubData where
  evTrgDef : KpmEventTriggerDef
  szAd : Nat
  ad : Option (List KpmActDef)
  deriving Repr, DecidableEq

/-- `kpm_sub_data_t kpm_sub{}` -/
def KpmSubData.zeroed : KpmSubData where
  evTrgDef := {
    type := .format1RicEventTrigger
    reportPeriodMs := 0
  }
  szAd := 0
  ad := none

/-- `sm_ans_xapp_t`; `handle` is `u.handle`. -/
structure SmAnsXapp where
  success : Bool
  handle : Int
  deriving Repr, DecidableEq

/-- `sm_ans_xapp_t` as `calloc` leaves it. -/
def SmAnsXapp.zeroed : SmAnsXapp where
  success := false
  handle := 0

/-- Call an entry of a table of function pointers. -/
def tableEntry
    {State Event Handler : Type}
    (table : List (Option Handler))
    (index : Nat)
    (name : String) :
    Program State Event Stop Handler := do
  let entry ← Program.cell table index
    fun index => .undefined (.outOfRange name index)
  Program.deref entry (.undefined (.nullCall name))

/--
`defer`: the destructor at the end of a scope.  It runs when the scope is left
normally; an abort or undefined behaviour inside the scope does not unwind.
-/
def defer
    {State Event α : Type}
    (cleanup : Program State Event Stop Unit)
    (scope : Program State Event Stop α) :
    Program State Event Stop α := do
  let value ← scope
  cleanup
  pure value

end IqosXapp.KpmManager
