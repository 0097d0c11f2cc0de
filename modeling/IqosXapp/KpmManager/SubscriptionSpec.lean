import IqosXapp.KpmManager.Subscription

namespace IqosXapp.KpmManager

open Effect Program

/-!
# What the subscription builder builds

For a RAN function definition that passes the checks of `gen_kpm_subs`, the
builder makes a fixed list of allocations and returns a fixed tree.  Both are
given here as values, and one lemma for each function says that the function
makes those allocations for that value.
-/

/-- The assertion behind almost every allocation. -/
def memoryExhausted : Stop :=
  .failedCheck "Memory exhausted!"

/-- The condition that `filter_predicate` fills: the S-NSSAI is one. -/
def sNssaiTestInfo : TestInfoLst where
  testCondType := .sNssai
  testField := some .sNssai
  testCond := some .equalTestCond
  testCondValue :=
    some {
      type := .octetStringTestCondValue
      pointer := .octetStringValue ⟨1, some [1]⟩
    }

/-- The label that `fill_kpm_label` fills. -/
def noLabelInfo : LabelInfoLst :=
  { LabelInfoLst.zeroed with noLabel := some .trueEnumValue }

/-- The request for one advertised measure. -/
def measInfoOf
    (env : Environment)
    (measure : MeasInfoForActionLst) :
    MeasInfoFormat1Lst where
  measType := .name (env.copyByteArray measure.name)
  labelInfoLstLen := 1
  labelInfoLst := some [noLabelInfo]

/-- The format 1 action definition for the measures of a report style. -/
def actDefFrm1Of
    (env : Environment)
    (item : RicReportStyleItem) :
    KpmActDefFormat1 where
  measInfoLstLen := item.measInfoForActionLst.length
  measInfoLst := some (item.measInfoForActionLst.map (measInfoOf env))
  granPeriodMs := periodMs
  cellGlobalId := none
  measBinRangeInfoLstLen := 0
  measBinInfoLst := none

/-- The format 4 action definition for a style 4 report. -/
def actDefOf
    (env : Environment)
    (item : RicReportStyleItem) :
    KpmActDef where
  type := .format4ActionDefinition
  frm4 := {
    matchingCondLstLen := 1
    matchingCondLst :=
      some [{ logicalOr := none, testInfoLst := sNssaiTestInfo }]
    actionDefFormat1 := actDefFrm1Of env item
  }

/-- The subscription for a style 4 report. -/
def kpmSubOf
    (env : Environment)
    (item : RicReportStyleItem) :
    KpmSubData where
  evTrgDef := {
    type := .format1RicEventTrigger
    reportPeriodMs := periodMs
  }
  szAd := 1
  ad := some [actDefOf env item]

/-- What the two allocations of one measure stop with: the second is unchecked. -/
def measItemRefusals : List Stop :=
  [memoryExhausted, .undefined (.nullDereference "noLabel")]

/-- What the allocations of `fill_act_def_frm_1` stop with. -/
def actDefFrm1Refusals (measures : Nat) : List Stop :=
  memoryExhausted :: (List.replicate measures measItemRefusals).flatten

/-- What the allocations of `gen_kpm_subs` stop with. -/
def genKpmSubsRefusals (measures : Nat) : List Stop :=
  .failedCheck "Memory exhausted" ::
    .failedCheck "Memory exhausted" ::
      (List.replicate 4 memoryExhausted ++ actDefFrm1Refusals measures)

/-- `gen_kpm_subs` makes `7 + 2n` allocations for `n` measures. -/
theorem length_genKpmSubsRefusals (measures : Nat) :
    (genKpmSubsRefusals measures).length = 7 + 2 * measures := by
  simp only [genKpmSubsRefusals, actDefFrm1Refusals,
    measItemRefusals, List.length_cons, List.length_append,
    List.length_replicate, List.length_flatten, List.map_replicate,
    List.sum_replicate_nat, List.length_nil]
  omega

/-- A program of `start`'s thread that only allocates. -/
abbrev Allocates
    {α : Type}
    (env : Environment)
    (program : Setup α)
    (refusals : List Stop)
    (value : α) : Prop :=
  Requests callocMeter env.memory program refusals value

variable (env : Environment)

theorem filterPredicate_allocates :
    Allocates env (filterPredicate env)
      (List.replicate 4 memoryExhausted) sNssaiTestInfo := by
  simp only [filterPredicate]
  refine Requests.ask rfl ?_
  simp only [Option.isSome_some, require_true, pure_bind, store_some]
  refine Requests.ask rfl ?_
  simp only [Option.isSome_some, require_true, pure_bind, store_some]
  refine Requests.ask rfl ?_
  simp only [Option.isSome_some, require_true, pure_bind, store_some]
  refine Requests.ask rfl ?_
  exact Requests.pure _

theorem fillKpmLabel_allocates :
    Allocates env (fillKpmLabel env)
      [.undefined (.nullDereference "noLabel")] noLabelInfo := by
  simp only [fillKpmLabel]
  refine Requests.ask rfl ?_
  exact Requests.pure _

/-- One turn of the loop fills the cell of its measure. -/
theorem fillMeasItem_allocates
    {i : Nat}
    {measInfoLst : List MeasInfoFormat1Lst}
    (inside : i < measInfoLst.length)
    (measure : MeasInfoForActionLst) :
    Allocates env (fillMeasItem env i measure measInfoLst)
      measItemRefusals
      (measInfoLst.set i (measInfoOf env measure)) := by
  simp only [fillMeasItem]
  refine Requests.ask rfl ?_
  simp only [Option.isSome_some, require_true, pure_bind, deref_some]
  have written :
      Allocates env
        (storeCell measInfoLst "meas_info_lst" i
          (measInfoOf env measure))
        [] (measInfoLst.set i (measInfoOf env measure)) := by
    rw [storeCell_of_lt inside]
    exact Requests.pure _
  exact (fillKpmLabel_allocates env).bind written

/--
Filling the cells behind the ones that are done, in order, gives the requests
for the remaining measures.
-/
theorem fill_foldl
    (rest : List MeasInfoForActionLst)
    (filled : List MeasInfoFormat1Lst) :
    (rest.zipIdx filled.length).foldl
        (fun block entry =>
          block.set entry.2 (measInfoOf env entry.1))
        (filled ++
          List.replicate rest.length MeasInfoFormat1Lst.zeroed) =
      filled ++ rest.map (measInfoOf env) := by
  induction rest generalizing filled with
  | nil =>
      simp
  | cons measure rest inductionHypothesis =>
      have next :=
        inductionHypothesis (filled ++ [measInfoOf env measure])
      simp only [List.length_append, List.length_cons,
        List.length_nil, List.append_assoc, List.cons_append,
        List.nil_append] at next
      simpa [List.zipIdx_cons, List.replicate_succ] using next

/-- The loop of `fill_act_def_frm_1`, from the zeroed block on. -/
theorem fillMeasItems_allocates (item : RicReportStyleItem) :
    Allocates env
      (item.measInfoForActionLst.zipIdx.foldlM
        (fun block entry => fillMeasItem env entry.2 entry.1 block)
        (List.replicate item.measInfoForActionLst.length
          MeasInfoFormat1Lst.zeroed))
      (List.replicate item.measInfoForActionLst.length
        measItemRefusals).flatten
      (item.measInfoForActionLst.map (measInfoOf env)) := by
  have filled :
      item.measInfoForActionLst.zipIdx.foldl
          (fun block entry =>
            block.set entry.2 (measInfoOf env entry.1))
          (List.replicate item.measInfoForActionLst.length
            MeasInfoFormat1Lst.zeroed) =
        item.measInfoForActionLst.map (measInfoOf env) :=
    fill_foldl env item.measInfoForActionLst []
  rw [← filled, ← item.measInfoForActionLst.length_zipIdx]
  -- every turn keeps the length of the block, so its own cell is inside
  apply Requests.foldlM fun block =>
    block.length = item.measInfoForActionLst.length
  · intro block entry sized member
    have inside : entry.2 < block.length := by
      rw [sized]
      exact List.snd_lt_of_mem_zipIdx member
    exact ⟨fillMeasItem_allocates env inside entry.1, by
      rw [List.length_set, sized]⟩
  · simp

theorem fillActDefFrm1_allocates (item : RicReportStyleItem) :
    Allocates env (fillActDefFrm1 env (some item))
      (actDefFrm1Refusals item.measInfoForActionLst.length)
      (actDefFrm1Of env item) := by
  unfold fillActDefFrm1
  simp only [Option.isSome_some, require_true, pure_bind, deref_some]
  refine Requests.ask rfl ?_
  simp only [Option.isSome_some, require_true, pure_bind, deref_some]
  rw [loop_cell item.measInfoForActionLst _
    (fun i measure block => fillMeasItem env i measure block)]
  exact
    (fillMeasItems_allocates env item).bind_pure fun filled =>
      { actDefFrm1Of env item with measInfoLst := some filled }

theorem fillReportStyle4_allocates
    {item : RicReportStyleItem}
    (format : item.actDefFormatType = .format4ActionDefinition) :
    Allocates env (fillReportStyle4 env (some item))
      (.failedCheck "Memory exhausted" ::
        (List.replicate 4 memoryExhausted ++
          actDefFrm1Refusals item.measInfoForActionLst.length))
      (actDefOf env item) := by
  unfold fillReportStyle4
  simp only [Option.isSome_some, require_true, pure_bind, deref_some,
    format, decide_true]
  refine Requests.ask rfl ?_
  simp only [Option.isSome_some, require_true, pure_bind, deref_some]
  refine (filterPredicate_allocates env).bind ?_
  rw [storeCell_of_lt (by simp), pure_bind]
  exact
    (fillActDefFrm1_allocates env item).bind_pure
      fun actionDefFormat1 =>
        { actDefOf env item with
          frm4 := { (actDefOf env item).frm4 with
            actionDefFormat1 := actionDefFormat1 } }

/-! ## The checks of `gen_kpm_subs` -/

/-- The first event trigger of the definition has format 1. -/
def EventTriggerAccepted (ranFunc : KpmRanFunctionDef) : Prop :=
  ∃ eventTrigger rest,
    ranFunc.ricEventTriggerStyleList = some (eventTrigger :: rest) ∧
      eventTrigger.formatType = .format1RicEventTrigger

/-- What the checks of the event trigger stop with, if they stop. -/
def eventTriggerStop :
    Option (List RicEventTriggerStyleItem) → Option Stop
  | none =>
      some (.failedCheck
        "ran_func->ric_event_trigger_style_list != nullptr")
  | some [] =>
      some (.undefined (.outOfRange "ric_event_trigger_style_list" 0))
  | some (eventTrigger :: _) =>
      if eventTrigger.formatType = .format1RicEventTrigger then
        none
      else
        some (.failedCheck
          "ran_func->ric_event_trigger_style_list[0].format_type == FORMAT_1_RIC_EVENT_TRIGGER")

/-- The item is a style 4 report with action format 4. -/
structure IsStyle4 (item : RicReportStyleItem) : Prop where
  style : item.reportStyleType = .style4RicServiceReport
  format : item.actDefFormatType = .format4ActionDefinition

theorem isStyle4_iff (item : RicReportStyleItem) :
    IsStyle4 item ↔
      item.reportStyleType = .style4RicServiceReport ∧
        item.actDefFormatType = .format4ActionDefinition :=
  ⟨fun style4 => ⟨style4.style, style4.format⟩,
    fun shape => ⟨shape.1, shape.2⟩⟩

instance (item : RicReportStyleItem) : Decidable (IsStyle4 item) :=
  decidable_of_iff _ (isStyle4_iff item).symm

/-- What choosing the first report style stops with, if it stops. -/
def firstStyleStop : Option (List RicReportStyleItem) → Option Stop
  | none =>
      some (.undefined (.nullDereference "ric_report_style_list"))
  | some [] =>
      some (.undefined (.outOfRange "ric_report_style_list" 0))
  | some (item :: _) =>
      if item.reportStyleType = .style4RicServiceReport then
        if item.actDefFormatType = .format4ActionDefinition then
          none
        else
          some (.failedCheck
            "report_item->act_def_format_type == FORMAT_4_ACTION_DEFINITION")
      else
        some (.undefined (.nullCall "get_kpm_act_def"))

theorem eventTriggerStop_eq_none_iff (ranFunc : KpmRanFunctionDef) :
    eventTriggerStop ranFunc.ricEventTriggerStyleList = none ↔
      EventTriggerAccepted ranFunc := by
  simp only [EventTriggerAccepted]
  rcases ranFunc.ricEventTriggerStyleList with _ | _ | ⟨eventTrigger, rest⟩
  · simp [eventTriggerStop]
  · simp [eventTriggerStop]
  · by_cases format :
        eventTrigger.formatType = .format1RicEventTrigger <;>
      simp [eventTriggerStop, format]

theorem firstStyleStop_eq_none_iff (ranFunc : KpmRanFunctionDef) :
    firstStyleStop ranFunc.ricReportStyleList = none ↔
      ∃ item rest,
        ranFunc.ricReportStyleList = some (item :: rest) ∧
          IsStyle4 item := by
  rcases ranFunc.ricReportStyleList with _ | _ | ⟨item, rest⟩
  · simp [firstStyleStop]
  · simp [firstStyleStop]
  · by_cases style :
        item.reportStyleType = .style4RicServiceReport <;>
      by_cases format :
          item.actDefFormatType = .format4ActionDefinition <;>
        simp [firstStyleStop, style, format, isStyle4_iff]

/-- What `gen_kpm_subs` does once the event trigger is accepted. -/
def genActionDefinition
    (env : Environment)
    (ranFunc : KpmRanFunctionDef) :
    Setup KpmSubData := do
  let ad ← calloc env [KpmActDef.zeroed]
  require ad.isSome (.failedCheck "Memory exhausted")
  let block ← deref ad (.undefined (.nullDereference "ad"))
  let reportStyles ←
    deref ranFunc.ricReportStyleList
      (.undefined (.nullDereference "ric_report_style_list"))
  let reportItem ← cell reportStyles 0
    fun i => .undefined (.outOfRange "ric_report_style_list" i)
  let fill ←
    tableEntry (getKpmActDef env) reportItem.reportStyleType.ordinal
      "get_kpm_act_def"
  let actDef ← fill (some reportItem)
  let block ← storeCell block "ad" 0 actDef
  pure {
    evTrgDef := {
      type := .format1RicEventTrigger
      reportPeriodMs := periodMs }
    szAd := 1
    ad := some block }

/-- Past an accepted event trigger only the action definition is left. -/
theorem genKpmSubs_of_accepted
    {ranFunc : KpmRanFunctionDef}
    (accepted : EventTriggerAccepted ranFunc) :
    genKpmSubs env (some ranFunc) = genActionDefinition env ranFunc := by
  obtain ⟨eventTrigger, rest, listed, format⟩ := accepted
  simp [genKpmSubs, genActionDefinition, listed, format, cell]

/-- A rejected event trigger stops the builder before any allocation. -/
theorem genKpmSubs_stops_of_eventTrigger
    {ranFunc : KpmRanFunctionDef}
    {why : Stop}
    (rejected :
      eventTriggerStop ranFunc.ricEventTriggerStyleList = some why)
    (world : World) :
    Stops (genKpmSubs env (some ranFunc)) world [] world why := by
  simp only [Stops]
  rcases listed : ranFunc.ricEventTriggerStyleList with
      _ | _ | ⟨eventTrigger, rest⟩
  · simp only [listed, eventTriggerStop, Option.some.injEq] at rejected
    simp [genKpmSubs, listed, rejected]
  · simp only [listed, eventTriggerStop, Option.some.injEq] at rejected
    simp [genKpmSubs, listed, cell, rejected]
  · by_cases format :
        eventTrigger.formatType = .format1RicEventTrigger
    · simp [listed, eventTriggerStop, format] at rejected
    · simp only [listed, eventTriggerStop, format, ↓reduceIte,
        Option.some.injEq] at rejected
      simp [genKpmSubs, listed, cell, format, rejected]

/-- The allocation for the action definition is checked. -/
theorem genKpmSubs_stops_of_refused
    {ranFunc : KpmRanFunctionDef}
    (accepted : EventTriggerAccepted ranFunc)
    {world : World}
    (refused : env.memory world.callocs = false) :
    Stops (genKpmSubs env (some ranFunc)) world []
      { world with callocs := world.callocs + 1 }
      (.failedCheck "Memory exhausted") := by
  rw [genKpmSubs_of_accepted env accepted]
  simp only [Stops]
  simp [genActionDefinition, calloc, request, refused]

/--
A first report style that cannot be used stops the builder right after the
allocation for the action definition.
-/
theorem genKpmSubs_stops_of_firstStyle
    {ranFunc : KpmRanFunctionDef}
    (accepted : EventTriggerAccepted ranFunc)
    {why : Stop}
    (rejected : firstStyleStop ranFunc.ricReportStyleList = some why)
    {world : World}
    (granted : env.memory world.callocs = true) :
    Stops (genKpmSubs env (some ranFunc)) world []
      { world with callocs := world.callocs + 1 } why := by
  rw [genKpmSubs_of_accepted env accepted]
  simp only [Stops]
  rcases listed : ranFunc.ricReportStyleList with
      _ | _ | ⟨item, rest⟩
  · simp only [listed, firstStyleStop, Option.some.injEq] at rejected
    simp [genActionDefinition, calloc, request, granted, listed, rejected]
  · simp only [listed, firstStyleStop, Option.some.injEq] at rejected
    simp [genActionDefinition, calloc, request, granted, listed, cell,
      rejected]
  · rcases item with ⟨style, format, measures⟩
    cases style with
    | style4RicServiceReport =>
        by_cases format4 : format = .format4ActionDefinition
        · simp [listed, firstStyleStop, format4] at rejected
        · simp only [listed, firstStyleStop, format4, ↓reduceIte,
            Option.some.injEq] at rejected
          simp [genActionDefinition, calloc, request, granted, listed,
            cell, tableEntry, getKpmActDef, RicServiceReport.ordinal,
            fillReportStyle4, format4, rejected]
    | _ =>
        simp only [listed, firstStyleStop, reduceCtorEq, ↓reduceIte,
          Option.some.injEq] at rejected
        simp [genActionDefinition, calloc, request, granted, listed,
          cell, tableEntry, getKpmActDef, RicServiceReport.ordinal,
          rejected]

/--
A definition that passes all checks: `gen_kpm_subs` allocates and returns the
subscription for its first report style.
-/
theorem genKpmSubs_allocates
    {ranFunc : KpmRanFunctionDef}
    (accepted : EventTriggerAccepted ranFunc)
    {item : RicReportStyleItem}
    {rest : List RicReportStyleItem}
    (listed : ranFunc.ricReportStyleList = some (item :: rest))
    (style4 : IsStyle4 item) :
    Allocates env (genKpmSubs env (some ranFunc))
      (genKpmSubsRefusals item.measInfoForActionLst.length)
      (kpmSubOf env item) := by
  rw [genKpmSubs_of_accepted env accepted]
  simp only [genActionDefinition]
  refine Requests.ask rfl ?_
  have entry :
      (tableEntry (getKpmActDef env) item.reportStyleType.ordinal
          "get_kpm_act_def" :
        Setup (Option RicReportStyleItem → Setup KpmActDef)) =
      pure (fillReportStyle4 env) := by
    rw [style4.style]
    rfl
  simp only [Option.isSome_some, require_true, pure_bind, deref_some,
    listed, cell_of_some List.getElem?_cons_zero, entry]
  exact
    (fillReportStyle4_allocates env style4.format).bind_pure
      fun actDef => { kpmSubOf env item with ad := some [actDef] }

/-! ## Environments without refusals -/

/-- Every `calloc` of the run gets a block. -/
def Environment.AllGranted (env : Environment) : Prop :=
  ∀ index, env.memory index = true

/-- An environment without failures, in which copies are exact. -/
def Environment.ideal : Environment where
  memory _ := true
  reply _ := { success := true, handle := 0 }
  copyByteArray bytes := bytes
  mutexInitRc := 0

theorem Environment.ideal_allGranted :
    Environment.ideal.AllGranted :=
  fun _ => rfl

section Allocation

variable {α : Type} {program : Setup α} {env : Environment}

/-- With all blocks granted, an allocating program returns its value. -/
theorem outcome_of_allGranted
    {refusals : List Stop}
    {value : α}
    (allocates : Allocates env program refusals value)
    (granted : env.AllGranted)
    (world : World) :
    (program world).outcome = .done value := by
  have run :=
    allocates.granted world fun index _ =>
      granted (world.callocs + index)
  rw [run.apply]

/--
An allocating program returns its value, or stops for a reason on its list at
the first refusal.
-/
theorem outcome_of_allocates
    {refusals : List Stop}
    {value : α}
    (allocates : Allocates env program refusals value)
    (world : World) :
    (program world).outcome = .done value ∨
      ∃ why ∈ refusals, (program world).outcome = .stop why := by
  rcases grants_or_firstRefusal
      (fun index => env.memory (world.callocs + index))
      refusals.length with allGranted | refused
  · left
    rw [(allocates.granted world allGranted).apply]
  · right
    obtain ⟨index, below, earlier, refusal⟩ := refused
    have run :=
      allocates.refused world index refusals[index]
        (List.getElem?_eq_getElem below) earlier refusal
    exact ⟨refusals[index], List.getElem_mem below, by
      rw [run.apply]⟩

end Allocation

/-! ## A small definition -/

/-- A style 4 report of one measure named `a`. -/
def style4Item : RicReportStyleItem where
  reportStyleType := .style4RicServiceReport
  actDefFormatType := .format4ActionDefinition
  measInfoForActionLst := [⟨literal "a"⟩]

/-- A style 4 report of two measures. -/
def twoMeasuresItem : RicReportStyleItem :=
  { style4Item with
    measInfoForActionLst :=
      [⟨literal "DRB.UEThpDl"⟩, ⟨literal "RRU.PrbTotDl"⟩] }

/-- A definition with one format 1 event trigger and the given styles. -/
def ranFuncWith (items : List RicReportStyleItem) : KpmRanFunctionDef where
  ricEventTriggerStyleList := some [⟨.format1RicEventTrigger⟩]
  ricReportStyleList := some items

theorem ranFuncWith_accepted (items : List RicReportStyleItem) :
    EventTriggerAccepted (ranFuncWith items) :=
  ⟨_, _, rfl, rfl⟩

theorem style4Item_isStyle4 : IsStyle4 style4Item :=
  ⟨rfl, rfl⟩

theorem twoMeasuresItem_isStyle4 : IsStyle4 twoMeasuresItem :=
  ⟨rfl, rfl⟩

end IqosXapp.KpmManager
