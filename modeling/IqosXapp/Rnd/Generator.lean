import Mathlib.Algebra.Group.Nat.Defs
import IqosXapp.Effect.Draw
import IqosXapp.KpmManager.Types

namespace IqosXapp.Rnd

open Effect Effect.Drawing KpmManager

/-!
# Random KPM data

The generators of `fill_rnd_data_kpm.c` for indications and for RAN function
definitions, in the order in which they draw from `rand`.  Fields that the KPM
manager never reads are left out, but the values for them are drawn; memory is
taken to be available.  With the identifier of a gNB its mask is left out, which
shifts by 32 when the unused bits are drawn as 0.

`^` is not a power in the source: `rand() % 2^40` is `(rand() % 2) ^ 40`, and
yields 40 or 41.
-/

/-- `rand() % 2^bits`, as the source computes it. -/
def randXor (bits : Nat) : Drawing Nat := do
  let value ← rand
  pure ((value % 2) ^^^ bits)

/-- A `uint32_t` from `(rand() % 4294967296) + 0`. -/
def randUInt32 : Drawing UInt32 := do
  let value ← rand
  pure (UInt32.ofNat (value % 4294967296))

/-- A small integer as a `double`: its exponent and its leading bits. -/
def doubleOfNat (value : Nat) : Double where
  bits :=
    if value = 0 then
      0
    else
      let exponent := value.log2
      UInt64.ofNat
        ((1023 + exponent) * 2 ^ 52 +
          (value - 2 ^ exponent) * 2 ^ (52 - exponent))

/-! ## UE identities -/

/--
What is drawn for a `global_ng_ran_node_id`: its type, and then two values,
the identifier of a gNB and its unused bits, or the type and the identifier of
an ng-eNB.
-/
def fillRndGlobalNgRanNodeId : Drawing Unit :=
  skip 3

/-- `fill_rnd_gnb_data` -/
def fillRndGnbData : Drawing GnbE2sm := do
  let amfUeNgapId ← randXor 40
  -- the three fields of the GUAMI
  skip 3
  let len ← rand
  let gnbCuUeF1apLst ← fill (len % 4 + 1) fun _ => randUInt32
  -- the list of E1AP identifiers, the XnAP identifier and the global gNB
  skip 3
  skip 1
  skip 2
  fillRndGlobalNgRanNodeId
  pure {
    amfUeNgapId := UInt64.ofNat amfUeNgapId
    gnbCuUeF1apLst := some gnbCuUeF1apLst
    ranUeId := some 14294967296 }

/-- `fill_rnd_gnb_du_data` -/
def fillRndGnbDuData : Drawing GnbDuE2sm := do
  let gnbCuUeF1ap ← randUInt32
  let ranUeId ← randXor 64
  pure {
    gnbCuUeF1ap := gnbCuUeF1ap
    ranUeId := some (UInt64.ofNat ranUeId) }

/-- `fill_rnd_gnb_cu_up_data` -/
def fillRndGnbCuUpData : Drawing GnbCuUpE2sm := do
  let gnbCuCpUeE1ap ← randUInt32
  let ranUeId ← randXor 64
  pure {
    gnbCuCpUeE1ap := gnbCuCpUeE1ap
    ranUeId := some (UInt64.ofNat ranUeId) }

/-- What `fill_rnd_ng_enb_data` draws. -/
def fillRndNgEnbData : Drawing Unit := do
  -- AMF identifier, GUAMI, W1AP and XnAP identifiers, global ng-eNB
  skip 8
  fillRndGlobalNgRanNodeId

/-- What `fill_rnd_ng_enb_du_data` draws. -/
def fillRndNgEnbDuData : Drawing Unit :=
  skip 1

/-- What `fill_rnd_en_gnb_data` draws. -/
def fillRndEnGnbData : Drawing Unit :=
  -- X2AP identifier and extension, global eNB, F1AP, E1AP list, RAN UE
  skip 9

/-- What `fill_rnd_enb_data` draws. -/
def fillRndEnbData : Drawing Unit :=
  -- S1AP identifier, GUMMEI, X2AP identifier and extension, global eNB
  skip 7

/-- `fill_rnd_ue_id_data` -/
def fillRndUeIdData : Drawing UeIdE2sm := do
  let type ← rand
  match type % 7 with
  | 0 => do
      let gnb ← fillRndGnbData
      pure (.gnb gnb)
  | 1 => do
      let gnbDu ← fillRndGnbDuData
      pure (.gnbDu gnbDu)
  | 2 => do
      let gnbCuUp ← fillRndGnbCuUpData
      pure (.gnbCuUp gnbCuUp)
  | 3 => do
      fillRndNgEnbData
      pure .ngEnb
  | 4 => do
      fillRndNgEnbDuData
      pure .ngEnbDu
  | 5 => do
      fillRndEnGnbData
      pure .enGnb
  | _ => do
      fillRndEnbData
      pure .enb

/-! ## Indications -/

/-- One record of `fill_rnd_kpm_ind_msg_frm_1`. -/
def fillRndMeasRecord : Drawing MeasRecordLst := do
  let value ← rand
  match value % 3 with
  | 0 => do
      let intVal ← rand
      pure (.intVal (UInt32.ofNat (intVal % 4294967295)))
  | 1 => do
      let realVal ← rand
      pure (.realVal (doubleOfNat (realVal % 256)))
  | _ => pure .noValue

/-- One data item of `fill_rnd_kpm_ind_msg_frm_1`. -/
def fillRndMeasData : Drawing MeasDataLst := do
  let measRecordLst ← fill 4 fun _ => fillRndMeasRecord
  pure {
    measRecordLst := measRecordLst
    incompleteFlag := some .trueEnumValue }

/-- `"%04x"` -/
def hex4 (value : Nat) : Bytes :=
  let digits := (Nat.toDigits 16 value).map fun character =>
    UInt8.ofNat character.toNat
  List.replicate (4 - digits.length) 48 ++ digits

/-- The measurement type of `fill_rnd_kpm_ind_msg_frm_1` at an index. -/
def fillRndMeasType (index : Nat) : Drawing MeasType := do
  let type ← rand
  if type % 2 = 0 then
    pure (.name
      (literal "RNTI " ++ hex4 (1111 * index + 1111) ++
        literal " PrbDlUsage"))
  else do
    let id ← rand
    pure (.id (UInt16.ofNat (id % 65536 + 1)))

/-- One measurement info of `fill_rnd_kpm_ind_msg_frm_1`. -/
def fillRndMeasInfo (index : Nat) : Drawing MeasInfoFormat1Lst := do
  let measType ← fillRndMeasType index
  pure {
    measType := measType
    labelInfoLstLen := 1
    labelInfoLst :=
      some [{ LabelInfoLst.zeroed with noLabel := some .trueEnumValue }] }

/-- `fill_rnd_kpm_ind_msg_frm_1` -/
def fillRndKpmIndMsgFrm1 : Drawing KpmIndMsgFormat1 := do
  let measDataLst ← fill 3 fun _ => fillRndMeasData
  -- the granularity period
  skip 1
  let measInfoLst ← fill 2 fillRndMeasInfo
  pure { measDataLst := measDataLst, measInfoLst := measInfoLst }

/-- `fill_rnd_kpm_ind_msg_frm_3` -/
def fillRndKpmIndMsgFrm3 : Drawing KpmIndMsgFormat3 := do
  let measReportPerUe ← fill 3 fun _ => do
    let ueMeasReportLst ← fillRndUeIdData
    let indMsgFormat1 ← fillRndKpmIndMsgFrm1
    pure {
      ueMeasReportLst := ueMeasReportLst
      indMsgFormat1 := indMsgFormat1 : MeasReportPerUe }
  pure { measReportPerUe := measReportPerUe }

/-- `fill_rnd_kpm_ind_msg`; of a format 2 message nothing is kept or drawn. -/
def fillRndKpmIndMsg : Drawing KpmIndMsg := do
  let type ← rand
  match type % 3 with
  | 0 => do
      let frm1 ← fillRndKpmIndMsgFrm1
      pure (.frm1 frm1)
  | 1 => pure .frm2
  | _ => do
      let frm3 ← fillRndKpmIndMsgFrm3
      pure (.frm3 frm3)

/-- `fill_rnd_kpm_ind_hdr`, given what `time_now_us` returns. -/
def fillRndKpmIndHdr (timeNowUs : UInt64) : Drawing KpmRicIndHdrFormat1 := do
  -- the type, of which there is one
  skip 1
  pure { collectStartTime := timeNowUs }

/-! ## RAN function definitions -/

/-- One event trigger style; there is one style, and it has format 1. -/
def fillRndEventTriggerStyle : Drawing RicEventTriggerStyleItem := do
  skip 1
  pure { formatType := .format1RicEventTrigger }

/-- The report style of a drawn value, and its action format. -/
def reportStyle (value : Nat) : RicServiceReport × FormatActionDef :=
  match value % 5 with
  | 0 => (.style1RicServiceReport, .format1ActionDefinition)
  | 1 => (.style2RicServiceReport, .format2ActionDefinition)
  | 2 => (.style3RicServiceReport, .format3ActionDefinition)
  | 3 => (.style4RicServiceReport, .format4ActionDefinition)
  | _ => (.style5RicServiceReport, .format5ActionDefinition)

/-- One report style of `fill_rnd_kpm_ran_func_def`. -/
def fillRndReportStyle : Drawing RicReportStyleItem := do
  let value ← rand
  let style := reportStyle value
  pure {
    reportStyleType := style.1
    actDefFormatType := style.2
    measInfoForActionLst :=
      List.replicate 3 ⟨literal "Name_for_action"⟩ }

/-- `fill_rnd_kpm_ran_func_def` -/
def fillRndKpmRanFuncDef : Drawing KpmRanFunctionDef := do
  let eventTriggers ← fill 3 fun _ => fillRndEventTriggerStyle
  let reportStyles ← fill 3 fun _ => fillRndReportStyle
  pure {
    ricEventTriggerStyleList := some eventTriggers
    ricReportStyleList := some reportStyles }

end IqosXapp.Rnd
