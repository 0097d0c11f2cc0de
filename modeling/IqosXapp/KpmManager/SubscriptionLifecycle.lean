import IqosXapp.KpmManager.StartSpec

namespace IqosXapp.KpmManager

open Effect Program

/-!
# The life of the subscriptions

For nodes whose first KPM function is usable and an environment in which
nothing fails, the run of `start` is one fixed trace: a subscription is sent
and freed for each node with the REPORT service, in order, and after the wait
every handle is removed once, in the same order.  The two loops share nothing
but the slots of `hndl`, so the trace rests on what each slot holds in between.
-/

/--
The definition of the first function in the node's own list that has the
identifier of KPM.
-/
def firstKpm
    (e2Node : E2NodeConnectedXapp) : Option KpmRanFunctionDef :=
  match e2Node.rf.find? (·.id = kpmRanFuncId) with
  | some ⟨_, .kpm kpm⟩ => some kpm
  | _ => none

/-- The definition asks for style 4 reports, and the builder accepts it. -/
def OffersStyle4 (kpm : KpmRanFunctionDef) : Prop :=
  EventTriggerAccepted kpm ∧
    ∃ item rest,
      kpm.ricReportStyleList = some (item :: rest) ∧ IsStyle4 item

/--
The first KPM function of the node is tagged KPM, and it either has no REPORT
service or begins with a style 4 report.
-/
def Serviceable (e2Node : E2NodeConnectedXapp) : Prop :=
  ∃ kpm,
    firstKpm e2Node = some kpm ∧
      (kpm.ricReportStyleList = none ∨ OffersStyle4 kpm)

/-- The first report style of the node's first KPM function. -/
def reportItem
    (e2Node : E2NodeConnectedXapp) : Option RicReportStyleItem := do
  let kpm ← firstKpm e2Node
  let items ← kpm.ricReportStyleList
  items.head?

/-- The nodes with a report style, each with its first one. -/
def reportingNodes
    (e2Nodes : List E2NodeConnectedXapp) :
    List (E2NodeConnectedXapp × RicReportStyleItem) :=
  e2Nodes.filterMap fun e2Node =>
    (reportItem e2Node).map fun item => (e2Node, item)

/-- The subscription of one reporting node, as the `index`-th one. -/
def subscriptionEvents
    (env : Environment)
    (e2Node : E2NodeConnectedXapp)
    (item : RicReportStyleItem)
    (index : Nat) : List SetupEvent :=
  [.reportSmXappApi e2Node.id kpmRanFuncId (kpmSubOf env item)
      (env.reply index),
    .freeKpmSubData (kpmSubOf env item)]

/-- The subscriptions of all reporting nodes, in order. -/
def subscriptionsTrace
    (env : Environment)
    (nodes : List (E2NodeConnectedXapp × RicReportStyleItem)) :
    List SetupEvent :=
  nodes.zipIdx.flatMap fun entry =>
    subscriptionEvents env entry.1.1 entry.1.2 entry.2

/-- The removals of the first handles that were granted, in order. -/
def removalsTrace (env : Environment) (count : Nat) : List SetupEvent :=
  (List.range count).map fun index =>
    .rmReportSmXappApi (env.reply index).handle

/-- Every call of a run in which nothing fails. -/
def lifecycleTrace
    (env : Environment)
    (e2Nodes : List E2NodeConnectedXapp) : List SetupEvent :=
  [.pthreadMutexInit] ++
    subscriptionsTrace env (reportingNodes e2Nodes) ++
    [.sleepFor expTime] ++
    removalsTrace env (reportingNodes e2Nodes).length ++
    [.freeHndl]

/-- Nothing that `start` asks its environment for fails. -/
structure Environment.Faultless (env : Environment) : Prop where
  initialized : env.mutexInitRc = 0
  granted : env.AllGranted
  succeeds : ∀ index, (env.reply index).success = true

theorem Environment.ideal_faultless :
    Environment.ideal.Faultless where
  initialized := rfl
  granted := Environment.ideal_allGranted
  succeeds _ := rfl

section Fates

variable
  {env : Environment}
  {e2Node : E2NodeConnectedXapp}

/-- A KPM function in the list is what the lookup finds. -/
theorem kpmDefinition_of_firstKpm
    {kpm : KpmRanFunctionDef}
    (first : firstKpm e2Node = some kpm) :
    kpmDefinition e2Node = some kpm ∧ lookupEvents e2Node = [] := by
  simp only [firstKpm] at first
  split at first
  · rename_i id found inside
    cases first
    -- the specification spells out what the lookup compares
    change e2Node.rf.find? (·.isKpm) = _ at inside
    have listed : e2Node.rf.any (·.isKpm) = true :=
      List.any_eq_true.mpr
        ⟨_, List.mem_of_find?_eq_some inside, List.find?_some inside⟩
    constructor
    · simp [kpmDefinition, kpmEntry, List.find?_append, inside]
    · rw [lookupEvents, if_pos listed]
  · cases first

/-- What the builder makes of a definition that offers style 4. -/
theorem acceptedItem_of_offers
    {kpm : KpmRanFunctionDef}
    (offers : OffersStyle4 kpm) :
    ∃ item rest,
      kpm.ricReportStyleList = some (item :: rest) ∧
        acceptedItem kpm = some item := by
  obtain ⟨trigger, item, rest, listed, style4⟩ := offers
  exact ⟨item, rest, listed,
    acceptedItem_eq_some_iff.mpr ⟨trigger, rest, listed, style4⟩⟩

/-- The fate of a serviceable node depends on its report style only. -/
theorem nodeFate_of_serviceable
    (faultless : env.Faultless)
    (serviceable : Serviceable e2Node)
    (world : World) :
    nodeFate env world e2Node =
      match reportItem e2Node with
      | none => .skipped
      | some item => .subscribed item := by
  obtain ⟨kpm, first, service⟩ := serviceable
  have definition := (kpmDefinition_of_firstKpm first).1
  rcases service with noReport | offers
  · simp [nodeFate, definition, reportItem, first, noReport]
  · obtain ⟨item, rest, listed, accepted⟩ := acceptedItem_of_offers offers
    have blocks :
        blocksGranted env world item.measInfoForActionLst.length =
          true :=
      (blocksGranted_iff env world _).mpr fun index _ =>
        faultless.granted (world.callocs + index)
    simp [nodeFate, definition, reportItem, first, listed, accepted,
      blocks, faultless.succeeds]

end Fates

theorem cuCpNode_serviceable : Serviceable cuCpNode :=
  ⟨_, rfl, Or.inl rfl⟩

theorem gnbNode_offers :
    OffersStyle4 (ranFuncWith [style4Item]) :=
  ⟨ranFuncWith_accepted _, _, _, rfl, style4Item_isStyle4⟩

theorem gnbNode_serviceable : Serviceable gnbNode :=
  ⟨_, rfl, Or.inr gnbNode_offers⟩

theorem duNode_serviceable : Serviceable duNode :=
  ⟨_, rfl, Or.inr
    ⟨ranFuncWith_accepted _, _, _, rfl, twoMeasuresItem_isStyle4⟩⟩

section Trace

variable
  {env : Environment}
  {e2Nodes : List E2NodeConnectedXapp}

theorem reportingNodes_cons
    (e2Node : E2NodeConnectedXapp)
    (rest : List E2NodeConnectedXapp) :
    reportingNodes (e2Node :: rest) =
      ((reportItem e2Node).map fun item => (e2Node, item)).toList ++
        reportingNodes rest := by
  simp only [reportingNodes]
  cases reports : reportItem e2Node <;>
    simp [reports]

/-- No check fails at serviceable nodes. -/
theorem completes_of_serviceable
    (faultless : env.Faultless)
    (serviceable : ∀ e2Node ∈ e2Nodes, Serviceable e2Node)
    (world : World) :
    Completes env world e2Nodes := by
  induction e2Nodes generalizing world with
  | nil =>
      exact True.intro
  | cons e2Node rest inductionHypothesis =>
      refine ⟨?_, inductionHypothesis
        (fun later member => serviceable later (by simp [member])) _⟩
      rw [nodeFate_of_serviceable faultless
        (serviceable e2Node (by simp))]
      cases reportItem e2Node <;>
        simp

/-- The first loop sends the subscriptions of the reporting nodes. -/
theorem nodesEvents_of_serviceable
    (faultless : env.Faultless)
    (serviceable : ∀ e2Node ∈ e2Nodes, Serviceable e2Node)
    (world : World) :
    nodesEvents env world e2Nodes =
      ((reportingNodes e2Nodes).zipIdx world.reports).flatMap fun entry =>
        subscriptionEvents env entry.1.1 entry.1.2 entry.2 := by
  induction e2Nodes generalizing world with
  | nil =>
      rfl
  | cons e2Node rest inductionHypothesis =>
      have here := serviceable e2Node (by simp)
      have later (next : World) :=
        inductionHypothesis
          (fun later member => serviceable later (by simp [member])) next
      obtain ⟨kpm, first, _⟩ := id here
      rw [nodesEvents, nodeEvents,
        (kpmDefinition_of_firstKpm first).2, later,
        nodeFate_of_serviceable faultless here, reportingNodes_cons]
      cases reportItem e2Node with
      | none =>
          simp [NodeFate.subscription, NodeFate.next]
      | some item =>
          simp [NodeFate.subscription, NodeFate.next,
            subscriptionEvents]

/-- The second loop removes the handles of the reporting nodes. -/
theorem removals_of_serviceable
    (faultless : env.Faultless)
    (serviceable : ∀ e2Node ∈ e2Nodes, Serviceable e2Node)
    (world : World) :
    removals (slots env world e2Nodes) =
      (List.range' world.reports (reportingNodes e2Nodes).length).map
        fun index => .rmReportSmXappApi (env.reply index).handle := by
  induction e2Nodes generalizing world with
  | nil =>
      rfl
  | cons e2Node rest inductionHypothesis =>
      have later (next : World) :=
        inductionHypothesis
          (fun later member => serviceable later (by simp [member])) next
      rw [slots, removals_cons, later,
        nodeFate_of_serviceable faultless (serviceable e2Node (by simp)),
        reportingNodes_cons]
      cases reportItem e2Node with
      | none =>
          -- the slot of a skipped node is still zeroed
          simp [NodeFate.slot, NodeFate.next, removals, SmAnsXapp.zeroed]
      | some item =>
          simp [NodeFate.slot, NodeFate.next, removals,
            faultless.succeeds, List.range'_succ]

/-- The whole run on serviceable nodes. -/
theorem start_run_of_serviceable
    (faultless : env.Faultless)
    (serviceable : ∀ e2Node ∈ e2Nodes, Serviceable e2Node) :
    Returns (start env e2Nodes) World.fresh
      (lifecycleTrace env e2Nodes)
      (worldAfter env World.afterHndl e2Nodes) () := by
  have run :=
    start_returns faultless.initialized (faultless.granted 0)
      (completes_of_serviceable faultless serviceable World.afterHndl)
  rw [nodesEvents_of_serviceable faultless serviceable,
    removals_of_serviceable faultless serviceable] at run
  rw [lifecycleTrace, removalsTrace, List.range_eq_range']
  exact run

/-- What the builder builds for a reporting node, in every world. -/
theorem genKpmSubs_of_reportItem
    (granted : env.AllGranted)
    {e2Node : E2NodeConnectedXapp}
    (serviceable : Serviceable e2Node)
    {item : RicReportStyleItem}
    (reports : reportItem e2Node = some item) :
    ∃ kpm,
      firstKpm e2Node = some kpm ∧
        ∀ world,
          (genKpmSubs env (some kpm) world).outcome =
            .done (kpmSubOf env item) := by
  obtain ⟨kpm, first, service⟩ := serviceable
  refine ⟨kpm, first, fun world => ?_⟩
  rcases service with noReport | ⟨trigger, head, rest, listed, style4⟩
  · simp [reportItem, first, noReport] at reports
  · have same : head = item := by
      simpa [reportItem, first, listed] using reports
    subst same
    exact outcome_of_allGranted
      (genKpmSubs_allocates env trigger listed style4) granted world

/--
On serviceable nodes and in an environment in which nothing fails, `start`
returns after exactly the calls of `lifecycleTrace`, and each subscription in
them is what `gen_kpm_subs` gives for the first KPM function of its node.
-/
theorem start_lifecycle
    (faultless : env.Faultless)
    (serviceable : ∀ e2Node ∈ e2Nodes, Serviceable e2Node) :
    (start env e2Nodes World.fresh).log = lifecycleTrace env e2Nodes ∧
      (start env e2Nodes World.fresh).outcome = .done () ∧
      ∀ e2Node item,
        (e2Node, item) ∈ reportingNodes e2Nodes →
        ∃ kpm,
          firstKpm e2Node = some kpm ∧
            ∀ world,
              (genKpmSubs env (some kpm) world).outcome =
                .done (kpmSubOf env item) := by
  have run := (start_run_of_serviceable faultless serviceable).apply
  refine ⟨by rw [run], by rw [run], ?_⟩
  intro e2Node item member
  obtain ⟨node, listed, pair⟩ := List.mem_filterMap.mp member
  obtain ⟨found, reports, same⟩ := Option.map_eq_some_iff.mp pair
  cases same
  exact genKpmSubs_of_reportItem faultless.granted
    (serviceable e2Node listed) reports

end Trace

/-- A node with a style 4 report behind one without the REPORT service. -/
theorem start_lifecycle_cuCpThenGnb :
    (start Environment.ideal [cuCpNode, gnbNode] World.fresh).log =
        lifecycleTrace Environment.ideal [cuCpNode, gnbNode] ∧
      (start Environment.ideal [cuCpNode, gnbNode]
          World.fresh).outcome =
        .done () ∧
      ∀ e2Node item,
        (e2Node, item) ∈ reportingNodes [cuCpNode, gnbNode] →
        ∃ kpm,
          firstKpm e2Node = some kpm ∧
            ∀ world,
              (genKpmSubs Environment.ideal (some kpm) world).outcome =
                .done (kpmSubOf Environment.ideal item) :=
  start_lifecycle Environment.ideal_faultless (by
    intro e2Node member
    rcases List.mem_pair.mp member with rfl | rfl
    · exact cuCpNode_serviceable
    · exact gnbNode_serviceable)

end IqosXapp.KpmManager
