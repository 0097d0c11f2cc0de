import IqosXapp.KpmManager.SubscriptionLifecycle

namespace IqosXapp.KpmManager

open Effect Program

/-!
# A node that cannot report among nodes that can

Two runs of `start` are compared: one over nodes that all report, and one with
a further node between them that does not.  A node whose KPM function has no
REPORT service is skipped, and the two runs make the same calls.  A node
without a KPM function is not skipped: the lookup comes before the test for
the service and asserts, so the nodes behind it are never subscribed.
-/

/-- One call of `report_sm_xapp_api`: whom it is sent to and what it asks. -/
structure SubscribeCall where
  id : GlobalE2NodeId
  ranFuncId : UInt16
  sub : KpmSubData
  deriving Repr, DecidableEq

/-- The subscribe calls of a log, in order. -/
def subscribeCalls (log : List SetupEvent) : List SubscribeCall :=
  log.filterMap fun
    | .reportSmXappApi id ranFuncId sub _ => some ⟨id, ranFuncId, sub⟩
    | _ => none

/-- The node has a KPM function that begins with a style 4 report. -/
def Reports (e2Node : E2NodeConnectedXapp) : Prop :=
  ∃ kpm, firstKpm e2Node = some kpm ∧ OffersStyle4 kpm

/-- The node's KPM function has no REPORT service. -/
def WithoutReport (e2Node : E2NodeConnectedXapp) : Prop :=
  ∃ kpm,
    firstKpm e2Node = some kpm ∧ kpm.ricReportStyleList = none

/-- No function in the node's list is KPM. -/
def WithoutKpm (e2Node : E2NodeConnectedXapp) : Prop :=
  ∀ ranFunction ∈ e2Node.rf, ranFunction.id ≠ kpmRanFuncId

/-- What is read right behind the node's list is mapped and is not KPM. -/
def NoKpmBehind (e2Node : E2NodeConnectedXapp) : Prop :=
  ∃ ranFunction,
    e2Node.behindRf = some ranFunction ∧ ranFunction.id ≠ kpmRanFuncId

/--
A run with a node between others makes the calls that the run without it
makes, one subscription and one removal for each of the others.
-/
structure Undisturbed
    (env : Environment)
    (earlier : List E2NodeConnectedXapp)
    (e2Node : E2NodeConnectedXapp)
    (later : List E2NodeConnectedXapp) : Prop where
  subscribes :
    subscribeCalls
        (start env (earlier ++ [e2Node] ++ later) World.fresh).log =
      subscribeCalls (start env (earlier ++ later) World.fresh).log
  removes :
    removed
        (start env (earlier ++ [e2Node] ++ later) World.fresh).log =
      removed (start env (earlier ++ later) World.fresh).log
  subscribed :
    (subscribeCalls
        (start env (earlier ++ [e2Node] ++ later)
          World.fresh).log).map (·.id) =
      (earlier ++ later).map (·.id)
  removedHandles :
    removed
        (start env (earlier ++ [e2Node] ++ later) World.fresh).log =
      (List.range (earlier ++ later).length).map
        fun index => (env.reply index).handle

/-- The run stops at the lookup for a node, with nothing done behind it. -/
structure StoppedAtLookup
    (env : Environment)
    (earlier : List E2NodeConnectedXapp)
    (e2Node : E2NodeConnectedXapp)
    (later : List E2NodeConnectedXapp) : Prop where
  outcome :
    (start env (earlier ++ [e2Node] ++ later) World.fresh).outcome =
      .stop kpmNotFound
  subscribed :
    (subscribeCalls
        (start env (earlier ++ [e2Node] ++ later)
          World.fresh).log).map (·.id) =
      earlier.map (·.id)
  subscribes :
    subscribeCalls
        (start env (earlier ++ [e2Node] ++ later) World.fresh).log =
      (subscribeCalls
        (start env (earlier ++ later) World.fresh).log).take
          earlier.length
  removes :
    removed
        (start env (earlier ++ [e2Node] ++ later) World.fresh).log =
      []

section Projections

variable
  {env : Environment}
  {e2Nodes : List E2NodeConnectedXapp}

@[simp] theorem subscribeCalls_append (log later : List SetupEvent) :
    subscribeCalls (log ++ later) =
      subscribeCalls log ++ subscribeCalls later :=
  List.filterMap_append

/-- The call that subscribes a reporting node. -/
def subscribeCall
    (env : Environment)
    (entry : E2NodeConnectedXapp × RicReportStyleItem) :
    SubscribeCall where
  id := entry.1.id
  ranFuncId := kpmRanFuncId
  sub := kpmSubOf env entry.2

theorem subscribeCalls_subscriptions
    (nodes : List (E2NodeConnectedXapp × RicReportStyleItem))
    (start : Nat) :
    subscribeCalls
        ((nodes.zipIdx start).flatMap fun entry =>
          subscriptionEvents env entry.1.1 entry.1.2 entry.2) =
      nodes.map (subscribeCall env) := by
  induction nodes generalizing start with
  | nil =>
      rfl
  | cons entry rest inductionHypothesis =>
      rw [List.zipIdx_cons, List.flatMap_cons, subscribeCalls_append,
        inductionHypothesis]
      rfl

theorem removed_subscriptions
    (nodes : List (E2NodeConnectedXapp × RicReportStyleItem))
    (start : Nat) :
    removed
        ((nodes.zipIdx start).flatMap fun entry =>
          subscriptionEvents env entry.1.1 entry.1.2 entry.2) =
      [] := by
  induction nodes generalizing start with
  | nil =>
      rfl
  | cons entry rest inductionHypothesis =>
      rw [List.zipIdx_cons, List.flatMap_cons, removed_append,
        inductionHypothesis]
      rfl

theorem subscribeCalls_lifecycleTrace :
    subscribeCalls (lifecycleTrace env e2Nodes) =
      (reportingNodes e2Nodes).map (subscribeCall env) := by
  have noCall (count : Nat) :
      subscribeCalls (removalsTrace env count) = [] := by
    simp [subscribeCalls, removalsTrace]
  simp only [lifecycleTrace, subscriptionsTrace, subscribeCalls_append,
    subscribeCalls_subscriptions, noCall]
  simp [subscribeCalls]

theorem removed_lifecycleTrace :
    removed (lifecycleTrace env e2Nodes) =
      (List.range (reportingNodes e2Nodes).length).map
        fun index => (env.reply index).handle := by
  have handles (count : Nat) :
      removed (removalsTrace env count) =
        (List.range count).map fun index => (env.reply index).handle := by
    simp [removed, removalsTrace]
  simp only [lifecycleTrace, subscriptionsTrace, removed_append,
    removed_subscriptions, handles]
  simp [removed]

theorem reportingNodes_append
    (earlier later : List E2NodeConnectedXapp) :
    reportingNodes (earlier ++ later) =
      reportingNodes earlier ++ reportingNodes later :=
  List.filterMap_append

/-- Nodes that report are reporting nodes, each once. -/
theorem reportingNodes_of_reports
    (reports : ∀ e2Node ∈ e2Nodes, Reports e2Node) :
    (reportingNodes e2Nodes).map (·.1) = e2Nodes := by
  induction e2Nodes with
  | nil =>
      rfl
  | cons e2Node rest inductionHypothesis =>
      obtain ⟨kpm, first, _, item, styles, listed, _⟩ :=
        reports e2Node (by simp)
      have head : reportItem e2Node = some item := by
        simp [reportItem, first, listed]
      rw [reportingNodes_cons, head, List.map_append,
        inductionHypothesis fun later member =>
          reports later (by simp [member])]
      rfl

end Projections

section Isolation

variable
  {env : Environment}
  {earlier later : List E2NodeConnectedXapp}
  {e2Node : E2NodeConnectedXapp}

theorem Reports.serviceable
    (reports : Reports e2Node) :
    Serviceable e2Node := by
  obtain ⟨kpm, first, offers⟩ := reports
  exact ⟨kpm, first, Or.inr offers⟩

theorem WithoutReport.serviceable
    (without : WithoutReport e2Node) :
    Serviceable e2Node := by
  obtain ⟨kpm, first, noReport⟩ := without
  exact ⟨kpm, first, Or.inl noReport⟩

theorem WithoutReport.reportItem_eq_none
    (without : WithoutReport e2Node) :
    reportItem e2Node = none := by
  obtain ⟨kpm, first, noReport⟩ := without
  simp [reportItem, first, noReport]

/-- A node without the REPORT service leaves the trace as it is. -/
theorem lifecycleTrace_withoutReport
    (without : WithoutReport e2Node) :
    lifecycleTrace env (earlier ++ [e2Node] ++ later) =
      lifecycleTrace env (earlier ++ later) := by
  have same :
      reportingNodes (earlier ++ [e2Node] ++ later) =
        reportingNodes (earlier ++ later) := by
    simp only [reportingNodes_append, reportingNodes_cons,
      without.reportItem_eq_none]
    simp [reportingNodes]
  rw [lifecycleTrace, same, lifecycleTrace]

/-- The run over nodes that all report, by its calls. -/
theorem calls_of_reports
    (faultless : env.Faultless)
    {e2Nodes : List E2NodeConnectedXapp}
    (reports : ∀ e2Node ∈ e2Nodes, Reports e2Node) :
    (subscribeCalls (start env e2Nodes World.fresh).log).map (·.id) =
        e2Nodes.map (·.id) ∧
      removed (start env e2Nodes World.fresh).log =
        (List.range e2Nodes.length).map
          fun index => (env.reply index).handle := by
  have nodes := reportingNodes_of_reports reports
  have sameLength :
      (reportingNodes e2Nodes).length = e2Nodes.length := by
    rw [← List.length_map (·.1), nodes]
  have run :=
    (start_run_of_serviceable faultless fun e2Node member =>
      (reports e2Node member).serviceable).apply
  rw [run]
  constructor
  · rw [subscribeCalls_lifecycleTrace, List.map_map]
    conv_rhs => rw [← nodes, List.map_map]
    rfl
  · rw [removed_lifecycleTrace, sameLength]

theorem undisturbed_of_withoutReport
    (faultless : env.Faultless)
    (reports : ∀ other ∈ earlier ++ later, Reports other)
    (without : WithoutReport e2Node) :
    Undisturbed env earlier e2Node later := by
  have serviceable :
      ∀ node ∈ earlier ++ [e2Node] ++ later, Serviceable node := by
    intro node member
    simp only [List.mem_append, List.mem_singleton] at member
    rcases member with (inEarlier | rfl) | inLater
    · exact (reports node (by simp [inEarlier])).serviceable
    · exact without.serviceable
    · exact (reports node (by simp [inLater])).serviceable
  have sameLog :
      (start env (earlier ++ [e2Node] ++ later) World.fresh).log =
        (start env (earlier ++ later) World.fresh).log := by
    rw [(start_run_of_serviceable faultless serviceable).apply,
      (start_run_of_serviceable faultless fun node member =>
        (reports node member).serviceable).apply]
    exact lifecycleTrace_withoutReport without
  have calls := calls_of_reports faultless reports
  exact {
    subscribes := by rw [sameLog]
    removes := by rw [sameLog]
    subscribed := by rw [sameLog, calls.1]
    removedHandles := by rw [sameLog, calls.2] }

/-- The lookup of a node without a KPM function ends in its assertion. -/
theorem subscribeNode_stops_of_withoutKpm
    (withoutKpm : WithoutKpm e2Node)
    (behind : NoKpmBehind e2Node)
    (slot : Nat)
    (hndl : List SmAnsXapp)
    (world : World) :
    Stops (subscribeNode env slot e2Node hndl) world
      [strayRf e2Node] world kpmNotFound := by
  obtain ⟨last, mapped, notKpm⟩ := behind
  have absent : kpmEntry e2Node = none := by
    rw [kpmEntry, List.find?_eq_none]
    intro ranFunction member
    simp only [mapped, Option.toList_some, List.mem_append,
      List.mem_singleton] at member
    rcases member with listed | rfl
    · simpa [SmRanFunction.isKpm] using withoutKpm ranFunction listed
    · simpa [SmRanFunction.isKpm] using notKpm
  have assertion : lookupStop e2Node = kpmNotFound := by
    rw [lookupStop, mapped]
  rw [subscribeNode_eq, ← assertion]
  exact (locateKpm_stops absent world).bind _

/-- The run stops there, after the subscriptions of the nodes before. -/
theorem start_stops_of_withoutKpm
    (faultless : env.Faultless)
    (reports : ∀ other ∈ earlier, Reports other)
    (withoutKpm : WithoutKpm e2Node)
    (behind : NoKpmBehind e2Node)
    (later : List E2NodeConnectedXapp) :
    Stops (start env (earlier ++ [e2Node] ++ later)) World.fresh
      ([.pthreadMutexInit] ++
        (subscriptionsTrace env (reportingNodes earlier) ++
          [strayRf e2Node]))
      (worldAfter env World.afterHndl earlier) kpmNotFound := by
  have serviceable :
      ∀ node ∈ earlier, Serviceable node :=
    fun node member => (reports node member).serviceable
  have before :=
    subscribeNodes_returns
      (completes_of_serviceable faultless serviceable World.afterHndl)
      [] ([e2Node] ++ later).length
  rw [nodesEvents_of_serviceable faultless serviceable] at before
  have here :
      Stops
        (subscribeNodes env ([e2Node] ++ later) earlier.length
          (slots env World.afterHndl earlier ++
            List.replicate ([e2Node] ++ later).length
              SmAnsXapp.zeroed))
        (worldAfter env World.afterHndl earlier)
        [strayRf e2Node]
        (worldAfter env World.afterHndl earlier) kpmNotFound := by
    rw [List.singleton_append, subscribeNodes_cons]
    exact (subscribeNode_stops_of_withoutKpm withoutKpm behind ..).bind _
  apply start_stops_of_nodes faultless.initialized (faultless.granted 0)
  rw [List.append_assoc, subscribeNodes_append, List.length_append,
    Nat.zero_add]
  exact before.bind_stops here

theorem stoppedAtLookup_of_withoutKpm
    (faultless : env.Faultless)
    (reports : ∀ other ∈ earlier ++ later, Reports other)
    (withoutKpm : WithoutKpm e2Node)
    (behind : NoKpmBehind e2Node) :
    StoppedAtLookup env earlier e2Node later := by
  have reportsEarlier : ∀ other ∈ earlier, Reports other :=
    fun other member => reports other (by simp [member])
  have nodes := reportingNodes_of_reports reportsEarlier
  have run :=
    (start_stops_of_withoutKpm faultless reportsEarlier
      withoutKpm behind later).apply
  have calls :
      subscribeCalls
          (start env (earlier ++ [e2Node] ++ later) World.fresh).log =
        (reportingNodes earlier).map (subscribeCall env) := by
    rw [run]
    simp only [subscribeCalls_append, subscriptionsTrace,
      subscribeCalls_subscriptions]
    simp [subscribeCalls, strayRf]
  have whole :=
    (start_run_of_serviceable faultless fun node member =>
      (reports node member).serviceable).apply
  refine {
    outcome := by rw [run]
    subscribed := ?_
    subscribes := ?_
    removes := ?_
  }
  · rw [calls, List.map_map]
    conv_rhs => rw [← nodes, List.map_map]
    rfl
  · have sameLength :
        earlier.length =
          ((reportingNodes earlier).map (subscribeCall env)).length := by
      conv_lhs => rw [← nodes]
      simp only [List.length_map]
    rw [calls, whole, subscribeCalls_lifecycleTrace,
      reportingNodes_append, List.map_append, sameLength,
      List.take_left]
  · rw [run]
    simp only [removed_append, subscriptionsTrace,
      removed_subscriptions]
    simp [removed, strayRf]

/--
Among nodes that all report, a node without the REPORT service disturbs
nothing, and a node without a KPM function stops the run at the lookup.
-/
theorem start_with_unsupported_node
    (faultless : env.Faultless)
    (earlier later : List E2NodeConnectedXapp)
    (reports : ∀ other ∈ earlier ++ later, Reports other) :
    (∀ e2Node,
      WithoutReport e2Node →
      Undisturbed env earlier e2Node later) ∧
      ∀ e2Node,
        WithoutKpm e2Node →
        NoKpmBehind e2Node →
        StoppedAtLookup env earlier e2Node later :=
  ⟨fun _ without =>
      undisturbed_of_withoutReport faultless reports without,
    fun _ withoutKpm behind =>
      stoppedAtLookup_of_withoutKpm faultless reports withoutKpm behind⟩

end Isolation

theorem gnbNode_reports : Reports gnbNode :=
  ⟨_, rfl, gnbNode_offers⟩

theorem cuCpNode_withoutReport : WithoutReport cuCpNode :=
  ⟨_, rfl, rfl⟩

theorem bareNode_withoutKpm : WithoutKpm bareNode := by
  simp [WithoutKpm, bareNode]

theorem bareNode_noKpmBehind : NoKpmBehind bareNode :=
  ⟨_, rfl, by decide⟩

/-- Both kinds of nodes, between two nodes that report. -/
theorem start_with_unsupported_node_between :
    Undisturbed Environment.ideal [gnbNode] cuCpNode [gnbNode] ∧
      StoppedAtLookup Environment.ideal
        [gnbNode] bareNode [gnbNode] := by
  have both :=
    start_with_unsupported_node Environment.ideal_faultless
      [gnbNode] [gnbNode] (by
        intro other member
        simp only [List.cons_append, List.nil_append, List.mem_cons,
          List.not_mem_nil, or_false, or_self] at member
        exact member ▸ gnbNode_reports)
  exact ⟨both.1 cuCpNode cuCpNode_withoutReport,
    both.2 bareNode bareNode_withoutKpm bareNode_noKpmBehind⟩

/--
A node with an empty function list before a node that reports: the second node
is not subscribed.
-/
theorem not_undisturbed_bareNode :
    Environment.ideal.Faultless ∧
      (∀ other ∈ [] ++ [gnbNode], Reports other) ∧
      WithoutKpm bareNode ∧
      ¬Undisturbed Environment.ideal [] bareNode [gnbNode] := by
  refine ⟨Environment.ideal_faultless, ?_, bareNode_withoutKpm, ?_⟩
  · intro other member
    rw [List.nil_append, List.mem_singleton] at member
    exact member ▸ gnbNode_reports
  · intro undisturbed
    have subscribed := undisturbed.subscribed
    revert subscribed
    decide

end IqosXapp.KpmManager
