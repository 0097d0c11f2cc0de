import IqosXapp.Effect.Observe
import IqosXapp.KpmManager.StartSpec

namespace IqosXapp.KpmManager

open Effect Program

/-!
# Well-formed subscriptions

The encoder behind `report_sm_xapp_api` reads the subscription under its tags
and its length fields.  Well-formedness is stated level by level over the tree
that `start` passes; the ranges are the ones that stand as comments next to
the assignments.  Everything but one length is fixed by the builder, and that
length is copied from the report style of the node.
-/

/-! ## Well-formedness, level by level -/

/-- A length field beside an allocated block whose entries are all fine. -/
def Sized
    {α : Type}
    (len : Nat)
    (block : Option (List α))
    (fine : α → Prop) : Prop :=
  ∃ entries,
    block = some entries ∧
      entries.length = len ∧
      ∀ entry ∈ entries, fine entry

/-- How many fields of a label are set. -/
def LabelInfoLst.fieldsSet (label : LabelInfoLst) : Nat :=
  [label.noLabel.isSome, label.plmnId.isSome,
    label.sliceId.isSome, label.fiveQi.isSome].count true

/-- An entry is tagged by name and has at least one label. -/
structure MeasInfoFormat1Lst.WellFormed
    (info : MeasInfoFormat1Lst) : Prop where
  byName : info.measType.type = .nameMeasType
  labelled : 1 ≤ info.labelInfoLstLen
  labels :
    Sized info.labelInfoLstLen info.labelInfoLst fun label =>
      label.fieldsSet = 1

/-- The tag of the value pointer that is set. -/
def TestCondValuePointer.type? :
    TestCondValuePointer → Option TestCondValueE
  | .null => none
  | .intValue _ => some .integerTestCondValue
  | .enumValue _ => some .enumeratedTestCondValue
  | .boolValue _ => some .booleanTestCondValue
  | .bitStringValue _ => some .bitStringTestCondValue
  | .octetStringValue _ => some .octetStringTestCondValue
  | .printableStringValue _ => some .printableStringTestCondValue
  | .realValue _ => some .realTestCondValue

/-- The byte array that the value pointer reaches, if it is one. -/
def TestCondValuePointer.bytes? :
    TestCondValuePointer → Option ByteArrayT
  | .bitStringValue value => some value
  | .octetStringValue value => some value
  | .printableStringValue value => some value
  | _ => none

/-- The value tag agrees with the pointer, and a buffer with its length. -/
structure TestCondValue.WellFormed (value : TestCondValue) : Prop where
  tagged : value.pointer.type? = some value.type
  buffer :
    ∀ bytes,
      value.pointer.bytes? = some bytes →
        Sized bytes.len bytes.buf fun _ => True

/-- The test-type tag agrees with the test field, and a value is given. -/
structure TestInfoLst.WellFormed (info : TestInfoLst) : Prop where
  tagged : info.testField = some info.testCondType
  value :
    ∃ value, info.testCondValue = some value ∧ value.WellFormed

/-- Between 1 and 65535 entries, all of them well formed. -/
structure KpmActDefFormat1.WellFormed
    (actDef : KpmActDefFormat1) : Prop where
  nonempty : 1 ≤ actDef.measInfoLstLen
  bounded : actDef.measInfoLstLen ≤ 65535
  infos :
    Sized actDef.measInfoLstLen actDef.measInfoLst
      MeasInfoFormat1Lst.WellFormed

/-- Tagged as format 4, with between 1 and 32768 matching conditions. -/
structure KpmActDef.WellFormed (actDef : KpmActDef) : Prop where
  tagged : actDef.type = .format4ActionDefinition
  nonempty : 1 ≤ actDef.frm4.matchingCondLstLen
  bounded : actDef.frm4.matchingCondLstLen ≤ 32768
  conditions :
    Sized actDef.frm4.matchingCondLstLen actDef.frm4.matchingCondLst
      fun condition => condition.testInfoLst.WellFormed
  measures : actDef.frm4.actionDefFormat1.WellFormed

/--
Exactly one action definition, and a format 1 event trigger whose report
period is the granularity period of that action.
-/
structure KpmSubData.WellFormed (sub : KpmSubData) : Prop where
  triggered : sub.evTrgDef.type = .format1RicEventTrigger
  oneAction : sub.szAd = 1
  actions :
    Sized sub.szAd sub.ad fun actDef =>
      actDef.WellFormed ∧
        sub.evTrgDef.reportPeriodMs =
          actDef.frm4.actionDefFormat1.granPeriodMs

/-! ## What the builder guarantees -/

/-- The number of advertised measures is one that can be asked for. -/
def RicReportStyleItem.Requestable (item : RicReportStyleItem) : Prop :=
  1 ≤ item.measInfoForActionLst.length ∧
    item.measInfoForActionLst.length ≤ 65535

theorem sized_one
    {α : Type}
    {fine : α → Prop}
    {entry : α} :
    Sized 1 (some [entry]) fine ↔ fine entry := by
  simp [Sized]

theorem noLabelInfo_fieldsSet : noLabelInfo.fieldsSet = 1 :=
  rfl

theorem sNssaiTestInfo_wellFormed : sNssaiTestInfo.WellFormed where
  tagged := rfl
  value :=
    ⟨_, rfl, {
      tagged := rfl
      buffer := by
        rintro _ ⟨⟩
        exact sized_one.mpr True.intro }⟩

section Built

variable (env : Environment)

theorem measInfoOf_wellFormed (measure : MeasInfoForActionLst) :
    (measInfoOf env measure).WellFormed where
  byName := rfl
  labelled := Nat.le_refl 1
  labels := sized_one.mpr noLabelInfo_fieldsSet

/-- The entries are always as many as the length field says. -/
theorem actDefFrm1Of_infos (item : RicReportStyleItem) :
    Sized (actDefFrm1Of env item).measInfoLstLen
      (actDefFrm1Of env item).measInfoLst
      MeasInfoFormat1Lst.WellFormed := by
  refine ⟨_, rfl, List.length_map _, ?_⟩
  intro info member
  obtain ⟨measure, _, rfl⟩ := List.mem_map.mp member
  exact measInfoOf_wellFormed env measure

/-- The copied length alone decides about the format 1 definition. -/
theorem actDefFrm1Of_wellFormed_iff (item : RicReportStyleItem) :
    (actDefFrm1Of env item).WellFormed ↔ item.Requestable := by
  constructor
  · intro wellFormed
    exact ⟨wellFormed.nonempty, wellFormed.bounded⟩
  · rintro ⟨nonempty, bounded⟩
    exact {
      nonempty := nonempty
      bounded := bounded
      infos := actDefFrm1Of_infos env item }

theorem actDefOf_wellFormed_iff (item : RicReportStyleItem) :
    (actDefOf env item).WellFormed ↔ item.Requestable := by
  rw [← actDefFrm1Of_wellFormed_iff env]
  constructor
  · intro wellFormed
    exact wellFormed.measures
  · intro measures
    exact {
      tagged := rfl
      nonempty := Nat.le_refl 1
      bounded := (by decide : 1 ≤ 32768)
      conditions := sized_one.mpr sNssaiTestInfo_wellFormed
      measures := measures }

/-- A built subscription is well formed when its measures can be asked for. -/
theorem kpmSubOf_wellFormed_iff (item : RicReportStyleItem) :
    (kpmSubOf env item).WellFormed ↔ item.Requestable := by
  rw [← actDefOf_wellFormed_iff env]
  constructor
  · intro wellFormed
    exact (sized_one.mp wellFormed.actions).1
  · intro actDef
    exact {
      triggered := rfl
      oneAction := rfl
      actions := sized_one.mpr ⟨actDef, rfl⟩ }

end Built

/-! ## The subscriptions of a run -/

/-- The subscription that an event passes to `report_sm_xapp_api`. -/
def SetupEvent.sent? : SetupEvent → Option KpmSubData
  | .reportSmXappApi _ _ sub _ => some sub
  | _ => none

/-- The subscriptions that a log shows as sent. -/
def sent (log : List SetupEvent) : List KpmSubData :=
  log.filterMap SetupEvent.sent?

/-- Every subscription that `start` sends is well formed. -/
def SendsWellFormed
    (env : Environment)
    (e2Nodes : List E2NodeConnectedXapp) : Prop :=
  ∀ sub ∈ sent (start env e2Nodes World.fresh).log, sub.WellFormed

/-- The report style that is subscribed for a node, if one is. -/
def offeredItem
    (e2Node : E2NodeConnectedXapp) : Option RicReportStyleItem :=
  (kpmDefinition e2Node).bind acceptedItem

/-- The nodes up to the first one at which a check fails, that one included. -/
def reachedNodes (env : Environment) :
    World → List E2NodeConnectedXapp → List E2NodeConnectedXapp
  | _, [] => []
  | world, e2Node :: rest =>
      e2Node ::
        if nodeFate env world e2Node = .stopped then
          []
        else
          reachedNodes env ((nodeFate env world e2Node).next world) rest

/-- The subscriptions for the nodes that offer a report style. -/
def offeredSubs
    (env : Environment)
    (e2Nodes : List E2NodeConnectedXapp) : List KpmSubData :=
  (e2Nodes.filterMap offeredItem).map (kpmSubOf env)

@[simp] theorem sent_append (log later : List SetupEvent) :
    sent (log ++ later) = sent log ++ sent later :=
  List.filterMap_append

@[simp] theorem sent_lookupEvents (e2Node : E2NodeConnectedXapp) :
    sent (lookupEvents e2Node) = [] :=
  filterMap_strays rfl lookupEvents_stray

theorem offeredSubs_singleton
    (env : Environment)
    (e2Node : E2NodeConnectedXapp) :
    offeredSubs env [e2Node] =
      ((offeredItem e2Node).map (kpmSubOf env)).toList := by
  cases offered : offeredItem e2Node <;>
    simp [offeredSubs, offered]

theorem offeredSubs_cons
    (env : Environment)
    (e2Node : E2NodeConnectedXapp)
    (rest : List E2NodeConnectedXapp) :
    offeredSubs env (e2Node :: rest) =
      offeredSubs env [e2Node] ++ offeredSubs env rest := by
  simp only [offeredSubs]
  rw [← List.map_append, ← List.filterMap_append,
    List.singleton_append]

section Runs

variable
  {env : Environment}
  {world : World}

theorem blocksGranted_of_allGranted
    (allGranted : env.AllGranted)
    (measures : Nat) :
    blocksGranted env world measures = true := by
  simp only [blocksGranted, List.all_eq_true]
  intro index _
  exact allGranted _

/-- The subscription of an accepted style is sent, whatever is answered. -/
theorem sent_sendSubscription
    (allGranted : env.AllGranted)
    (i : Nat)
    (id : GlobalE2NodeId)
    (kpm : KpmRanFunctionDef)
    (hndl : List SmAnsXapp) :
    sent (sendSubscription env i id kpm hndl world).log =
      ((acceptedItem kpm).map (kpmSubOf env)).toList := by
  cases accepted : acceptedItem kpm with
  | none =>
      have rejected :
          ∃ final why,
            Stops (genKpmSubs env (some kpm)) world [] final why :=
        genKpmSubs_stops_of_rejected accepted
      obtain ⟨final, why, stops⟩ := rejected
      have run :
          sendSubscription env i id kpm hndl world = _ :=
        (stops.bind _).apply
      rw [run]
      rfl
  | some item =>
      have built :
          Returns (genKpmSubs env (some kpm)) world [] _ _ :=
        genKpmSubs_returns accepted
          (blocksGranted_of_allGranted allGranted _)
      rw [sendSubscription_eq, bind_apply, built.apply,
        Run.andThen_done, Run.after_nil, sent,
        Silent.log_bind (keepAnswer_silent rfl)]
      rfl

/-- At any node, the body sends the subscription for the offered style. -/
theorem sent_subscribeNode
    (allGranted : env.AllGranted)
    (i : Nat)
    (e2Node : E2NodeConnectedXapp)
    (hndl : List SmAnsXapp) :
    sent (subscribeNode env i e2Node hndl world).log =
      offeredSubs env [e2Node] := by
  rw [offeredSubs_singleton]
  cases definition : kpmDefinition e2Node with
  | none =>
      have stopped :
          ∃ log why,
            Stops (subscribeNode env i e2Node hndl) world log world why ∧
              ∀ event ∈ log, event = strayRf e2Node :=
        subscribeNode_stops_of_definition definition
      obtain ⟨log, why, stops, strays⟩ := stopped
      rw [stops.apply, offeredItem, definition]
      exact filterMap_strays rfl strays
  | some kpm =>
      rw [subscribeNode_of_definition definition]
      simp only [Run.after, sent_append, sent_lookupEvents,
        List.nil_append, offeredItem, definition, Option.bind_some]
      cases styles : kpm.ricReportStyleList with
      | none =>
          have unaccepted : acceptedItem kpm = none := by
            simp [acceptedItem, styles]
          rw [unaccepted]
          rfl
      | some items =>
          exact sent_sendSubscription allGranted i e2Node.id kpm hndl

/-- At a node that is not stopped, the events of its fate say the same. -/
theorem sent_nodeEvents
    (allGranted : env.AllGranted)
    {e2Node : E2NodeConnectedXapp}
    (proceeds : nodeFate env world e2Node ≠ .stopped) :
    sent (nodeEvents env world e2Node) = offeredSubs env [e2Node] := by
  have turn := subscribeNode_fills proceeds [] []
  rw [List.length_nil, List.nil_append] at turn
  have shown :
      sent
          (subscribeNode env 0 e2Node [SmAnsXapp.zeroed] world).log =
        offeredSubs env [e2Node] :=
    sent_subscribeNode allGranted ..
  rwa [turn.apply] at shown

/--
From a slot on, the loop sends the subscriptions for the nodes it reaches, in
their order.
-/
theorem sent_subscribeNodes
    (allGranted : env.AllGranted)
    (world : World)
    (e2Nodes : List E2NodeConnectedXapp)
    (filled : List SmAnsXapp) :
    sent
        (subscribeNodes env e2Nodes filled.length
          (filled ++ List.replicate e2Nodes.length SmAnsXapp.zeroed)
          world).log =
      offeredSubs env (reachedNodes env world e2Nodes) := by
  induction e2Nodes generalizing world filled with
  | nil =>
      rfl
  | cons e2Node rest inductionHypothesis =>
      rw [List.length_cons, reachedNodes, offeredSubs_cons]
      by_cases stopped : nodeFate env world e2Node = .stopped
      · -- nothing after a failing check is sent
        let hndl :=
          filled ++
            List.replicate (rest.length + 1) SmAnsXapp.zeroed
        obtain ⟨log, final, why, stops, _⟩ :=
          subscribeNode_stops stopped
            (show filled.length < hndl.length by simp [hndl])
        have shown :
            sent
                (subscribeNode env filled.length e2Node hndl
                  world).log =
              offeredSubs env [e2Node] :=
          sent_subscribeNode allGranted ..
        rw [stops.apply] at shown
        rw [if_pos stopped, subscribeNodes_cons, (stops.bind _).apply,
          shown]
        exact (List.append_nil _).symm
      · have later :=
          inductionHypothesis ((nodeFate env world e2Node).next world)
            (filled ++ [(nodeFate env world e2Node).slot env world])
        rw [if_neg stopped, subscribeNodes_goesOn stopped]
        simp only [Run.after, sent_append]
        rw [sent_nodeEvents allGranted stopped, later]

/-- A run sends the subscriptions for the nodes it reaches, and no others. -/
theorem sent_start
    (initialized : env.mutexInitRc = 0)
    (allGranted : env.AllGranted)
    (e2Nodes : List E2NodeConnectedXapp) :
    sent (start env e2Nodes World.fresh).log =
      offeredSubs env (reachedNodes env World.afterHndl e2Nodes) := by
  have firstLoop :=
    sent_subscribeNodes allGranted World.afterHndl e2Nodes []
  rw [List.nil_append, List.length_nil, sent] at firstLoop
  rw [start_eq initialized (allGranted 0)]
  simp only [Run.after, sent_append, defer]
  change [] ++ List.filterMap SetupEvent.sent? _ = _
  rw [List.nil_append, Silent.log_bind, Silent.log_bind, firstLoop]
  · exact fun hndl =>
      removeHandles_silent rfl (fun _ => rfl) hndl e2Nodes.length
  · intro _
    exact (Silent.emit rfl).bind fun _ => Silent.pure ()

/--
With all allocations granted, every subscription sent is well formed exactly
when the mutex is refused, or every reached node that is subscribed advertises
between 1 and 65535 measures in the report style that is taken.
-/
theorem sendsWellFormed_iff
    (allGranted : env.AllGranted)
    (e2Nodes : List E2NodeConnectedXapp) :
    SendsWellFormed env e2Nodes ↔
      env.mutexInitRc ≠ 0 ∨
        ∀ e2Node ∈ reachedNodes env World.afterHndl e2Nodes,
          ∀ item,
            offeredItem e2Node = some item → item.Requestable := by
  by_cases initialized : env.mutexInitRc = 0
  · simp only [SendsWellFormed]
    rw [sent_start initialized allGranted]
    simp only [offeredSubs, List.mem_map, List.mem_filterMap]
    constructor
    · intro wellFormed
      right
      intro e2Node reached item offered
      rw [← kpmSubOf_wellFormed_iff env]
      exact wellFormed _ ⟨item, ⟨e2Node, reached, offered⟩, rfl⟩
    · rintro (failure | requestable)
      · exact (failure initialized).elim
      · rintro _ ⟨item, ⟨e2Node, reached, offered⟩, rfl⟩
        rw [kpmSubOf_wellFormed_iff]
        exact requestable e2Node reached item offered
  · have run :
        start env e2Nodes World.fresh = _ :=
      (start_stops_of_mutex initialized).apply
    simp [SendsWellFormed, run, sent, SetupEvent.sent?, initialized]

end Runs

/-- Two nodes, of which the second advertises two measures. -/
theorem sendsWellFormed_gnbThenDu :
    SendsWellFormed Environment.ideal [gnbNode, duNode] := by
  refine
    (sendsWellFormed_iff Environment.ideal_allGranted
      [gnbNode, duNode]).mpr (Or.inr ?_)
  intro e2Node reached item offered
  have nodes : e2Node = gnbNode ∨ e2Node = duNode := by
    have first : reachedNodes Environment.ideal World.afterHndl
        [gnbNode, duNode] = [gnbNode, duNode] := by
      decide
    rw [first] at reached
    exact List.mem_pair.mp reached
  have style4 : offeredItem gnbNode = some style4Item := by
    decide
  have twoMeasures : offeredItem duNode = some twoMeasuresItem := by
    decide
  rcases nodes with rfl | rfl
  · rw [style4] at offered
    cases offered
    exact ⟨by decide, by decide⟩
  · rw [twoMeasures] at offered
    cases offered
    exact ⟨by decide, by decide⟩

/-- A style 4 report of no measure at all. -/
def unmeasuredItem : RicReportStyleItem :=
  { style4Item with measInfoForActionLst := [] }

/-- A node whose only report style advertises no measure. -/
def unmeasuredNode : E2NodeConnectedXapp where
  id := nodeId 4
  rf := [⟨kpmRanFuncId, .kpm (ranFuncWith [unmeasuredItem])⟩]
  behindRf := none

/-- The subscription for an empty advertised list is sent all the same. -/
theorem not_sendsWellFormed_unmeasuredNode :
    ¬SendsWellFormed Environment.ideal [unmeasuredNode] := by
  intro wellFormed
  have requestable :=
    (kpmSubOf_wellFormed_iff Environment.ideal unmeasuredItem).mp
      (wellFormed _ (by decide))
  exact absurd requestable.1 (by decide)

end IqosXapp.KpmManager
