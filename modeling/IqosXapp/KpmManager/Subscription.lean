import IqosXapp.Effect.Traverse
import IqosXapp.Effect.Request
import IqosXapp.KpmManager.Types

namespace IqosXapp.KpmManager

open Effect Program

/-!
# Building a subscription

`gen_kpm_subs` and the functions it calls, over an environment that answers
every `calloc`.  Each function stands under the name it has in
`kpmManager.cpp`, and each `assert` is a `require` with the text it prints.
-/

/--
What the code outside of `kpmManager.cpp` does during one run: whether the
`calloc`s get a block, what `report_sm_xapp_api` replies, what
`copy_byte_array` returns and what `pthread_mutex_init` returns.
-/
structure Environment where
  memory : Nat → Bool
  reply : Nat → SmAnsXapp
  copyByteArray : Bytes → Bytes
  mutexInitRc : Int

/-- How often the environment was asked so far. -/
structure World where
  callocs : Nat
  reports : Nat
  deriving Repr, DecidableEq

/-- The world before `start` is called. -/
def World.fresh : World where
  callocs := 0
  reports := 0

/-- The calls of `start` to the outside, and its reads behind a list. -/
inductive SetupEvent where
  | pthreadMutexInit
  | strayRead (array : String) (index : Nat)
  | reportSmXappApi
      (id : GlobalE2NodeId)
      (ranFuncId : UInt16)
      (sub : KpmSubData)
      (reply : SmAnsXapp)
  | freeKpmSubData (sub : KpmSubData)
  | sleepFor (seconds : UInt32)
  | rmReportSmXappApi (handle : Int)
  | freeHndl
  deriving Repr, DecidableEq

/-- A function that runs in `start`'s thread. -/
abbrev Setup := Program World SetupEvent Stop

/-- The `calloc`s are counted in the world. -/
def callocMeter : Meter World where
  count world := world.callocs
  spend world more := { world with callocs := world.callocs + more }
  count_spend _ _ := rfl
  spend_zero _ := rfl
  spend_spend world first second := by
    simp [Nat.add_assoc]

@[simp] theorem callocMeter_count (world : World) :
    callocMeter.count world = world.callocs :=
  rfl

@[simp] theorem callocMeter_spend (world : World) (more : Nat) :
    callocMeter.spend world more =
      { world with callocs := world.callocs + more } :=
  rfl

variable {α : Type}

/-- `calloc`, with the zeroed contents of the block. -/
def calloc (env : Environment) (zeroed : α) : Setup (Option α) :=
  request callocMeter env.memory zeroed

/-- Write through a pointer. -/
def store
    (pointer : Option α)
    (name : String)
    (write : α → α) :
    Setup (Option α) := do
  let target ← deref pointer (.undefined (.nullDereference name))
  pure (some (write target))

/-- Write one cell of a block. -/
def storeCell
    (block : List α)
    (name : String)
    (index : Nat)
    (value : α) :
    Setup (List α) := do
  let _ ← cell block index fun index => .undefined (.outOfRange name index)
  pure (block.set index value)

@[simp] theorem store_some
    (target : α)
    (name : String)
    (write : α → α) :
    store (some target) name write = pure (some (write target)) :=
  rfl

/-- A cell inside its block is written. -/
theorem storeCell_of_lt
    {block : List α}
    {index : Nat}
    (inside : index < block.length)
    (name : String)
    (value : α) :
    storeCell block name index value =
      pure (block.set index value) := by
  simp only [storeCell]
  rw [cell_of_some (List.getElem?_eq_getElem inside)]
  rfl

/-- `filter_predicate` -/
def filterPredicate (env : Environment) : Setup TestInfoLst := do
  let dst := TestInfoLst.zeroed
  -- filter by S-NSSAI criteria
  let dst := { dst with testCondType := .sNssai }
  let dst := { dst with testField := some .sNssai }
  let testCond ← calloc env TestCond.equalTestCond
  require testCond.isSome (.failedCheck "Memory exhausted!")
  let testCond ←
    store testCond "test_cond" fun _ => .equalTestCond
  let testCondValue ← calloc env TestCondValue.zeroed
  require testCondValue.isSome (.failedCheck "Memory exhausted!")
  let testCondValue ←
    store testCondValue "test_cond_value" fun value =>
      { value with type := .octetStringTestCondValue }
  let octetString ← calloc env (⟨0, none⟩ : ByteArrayT)
  require octetString.isSome (.failedCheck "Memory exhausted!")
  let lenNssai := 1
  let octetString ←
    store octetString "octet_string_value" fun value =>
      { value with len := lenNssai }
  let buf ← calloc env (List.replicate lenNssai (0 : UInt8))
  require buf.isSome (.failedCheck "Memory exhausted!")
  let block ← deref buf (.undefined (.nullDereference "buf"))
  let block ← storeCell block "buf" 0 1
  -- what the pointers reach once every block is filled
  let octetString ←
    store octetString "octet_string_value" fun value =>
      { value with buf := some block }
  let filled ←
    deref octetString (.undefined (.nullDereference "octet_string_value"))
  let testCondValue ←
    store testCondValue "test_cond_value" fun value =>
      { value with pointer := .octetStringValue filled }
  pure { dst with
    testCond := testCond
    testCondValue := testCondValue }

/-- `fill_kpm_label`: the block of `noLabel` is written unchecked. -/
def fillKpmLabel (env : Environment) : Setup LabelInfoLst := do
  let labelItem := LabelInfoLst.zeroed
  let noLabel ← calloc env EnumValue.trueEnumValue
  let noLabel ← store noLabel "noLabel" fun _ => .trueEnumValue
  pure { labelItem with noLabel := noLabel }

/-- The body of the loop in `fill_act_def_frm_1`, at measure `i`. -/
def fillMeasItem
    (env : Environment)
    (i : Nat)
    (measure : MeasInfoForActionLst)
    (measInfoLst : List MeasInfoFormat1Lst) :
    Setup (List MeasInfoFormat1Lst) := do
  let name := env.copyByteArray measure.name
  let labelInfoLst ← calloc env [LabelInfoLst.zeroed]
  require labelInfoLst.isSome (.failedCheck "Memory exhausted!")
  let labels ←
    deref labelInfoLst (.undefined (.nullDereference "label_info_lst"))
  let label ← fillKpmLabel env
  let labels ← storeCell labels "label_info_lst" 0 label
  storeCell measInfoLst "meas_info_lst" i {
    measType := .name name
    labelInfoLstLen := 1
    labelInfoLst := some labels }

/-- `fill_act_def_frm_1` -/
def fillActDefFrm1
    (env : Environment)
    (reportItem : Option RicReportStyleItem) :
    Setup KpmActDefFormat1 := do
  require reportItem.isSome (.failedCheck "report_item != nullptr")
  let item ← deref reportItem (.undefined (.nullDereference "report_item"))
  let adFrm1 := KpmActDefFormat1.zeroed
  let size := item.measInfoForActionLst.length
  -- [1, 65535]
  let adFrm1 := { adFrm1 with measInfoLstLen := size }
  let measInfoLst ←
    calloc env (List.replicate size MeasInfoFormat1Lst.zeroed)
  require measInfoLst.isSome (.failedCheck "Memory exhausted!")
  let block ←
    deref measInfoLst (.undefined (.nullDereference "meas_info_lst"))
  let filled ←
    loop
      (fun i block => do
        let measure ← cell item.measInfoForActionLst i
          fun i => .undefined (.outOfRange "meas_info_for_action_lst" i)
        fillMeasItem env i measure block)
      size 0 block
  pure { adFrm1 with
    measInfoLst := some filled
    granPeriodMs := periodMs
    cellGlobalId := none
    measBinRangeInfoLstLen := 0
    measBinInfoLst := none }

/-- `fill_report_style_4` -/
def fillReportStyle4
    (env : Environment)
    (reportItem : Option RicReportStyleItem) :
    Setup KpmActDef := do
  require reportItem.isSome (.failedCheck "report_item != nullptr")
  let item ← deref reportItem (.undefined (.nullDereference "report_item"))
  require (item.actDefFormatType = .format4ActionDefinition)
    (.failedCheck
      "report_item->act_def_format_type == FORMAT_4_ACTION_DEFINITION")
  let actDef :=
    { KpmActDef.zeroed with type := .format4ActionDefinition }
  -- [1, 32768]
  let matchingCondLstLen := 1
  let matchingCondLst ←
    calloc env
      (List.replicate matchingCondLstLen
        MatchingConditionFormat4Lst.zeroed)
  require matchingCondLst.isSome (.failedCheck "Memory exhausted")
  let block ←
    deref matchingCondLst (.undefined (.nullDereference "matching_cond_lst"))
  let testInfoLst ← filterPredicate env
  let block ←
    storeCell block "matching_cond_lst" 0
      { MatchingConditionFormat4Lst.zeroed with
        testInfoLst := testInfoLst }
  let actionDefFormat1 ← fillActDefFrm1 env reportItem
  pure { actDef with
    frm4 := {
      matchingCondLstLen := matchingCondLstLen
      matchingCondLst := some block
      actionDefFormat1 := actionDefFormat1 } }

/-- `get_kpm_act_def`: one entry for each report style, in order. -/
def getKpmActDef (env : Environment) :
    List (Option (Option RicReportStyleItem → Setup KpmActDef)) :=
  [none, none, none, some (fillReportStyle4 env), none]

/-- `gen_kpm_subs` -/
def genKpmSubs
    (env : Environment)
    (ranFunc : Option KpmRanFunctionDef) :
    Setup KpmSubData := do
  require ranFunc.isSome (.failedCheck "ran_func != nullptr")
  let ranFunc ← deref ranFunc (.undefined (.nullDereference "ran_func"))
  require ranFunc.ricEventTriggerStyleList.isSome
    (.failedCheck "ran_func->ric_event_trigger_style_list != nullptr")
  let kpmSub := KpmSubData.zeroed
  -- Generate Event Trigger
  let eventTriggers ←
    deref ranFunc.ricEventTriggerStyleList
      (.undefined (.nullDereference "ric_event_trigger_style_list"))
  let eventTrigger ← cell eventTriggers 0
    fun i => .undefined (.outOfRange "ric_event_trigger_style_list" i)
  require (eventTrigger.formatType = .format1RicEventTrigger)
    (.failedCheck
      "ran_func->ric_event_trigger_style_list[0].format_type == FORMAT_1_RIC_EVENT_TRIGGER")
  let kpmSub := { kpmSub with
    evTrgDef := {
      type := .format1RicEventTrigger
      reportPeriodMs := periodMs } }
  -- Generate Action Definition
  let kpmSub := { kpmSub with szAd := 1 }
  let ad ← calloc env (List.replicate kpmSub.szAd KpmActDef.zeroed)
  require ad.isSome (.failedCheck "Memory exhausted")
  let block ← deref ad (.undefined (.nullDereference "ad"))
  -- the first report style is taken, whatever the size of the list
  let reportStyles ←
    deref ranFunc.ricReportStyleList
      (.undefined (.nullDereference "ric_report_style_list"))
  let reportItem ← cell reportStyles 0
    fun i => .undefined (.outOfRange "ric_report_style_list" i)
  let fill ←
    tableEntry (getKpmActDef env) reportItem.reportStyleType.ordinal
      "get_kpm_act_def"
  let actDef ← fill (some reportItem)
  let block ← storeCell block "ad" 0 actDef
  pure { kpmSub with ad := some block }

end IqosXapp.KpmManager
