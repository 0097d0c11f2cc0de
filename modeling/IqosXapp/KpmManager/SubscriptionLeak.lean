import IqosXapp.KpmManager.StartSpec

namespace IqosXapp.KpmManager

open Effect Program

/-!
# Subscriptions that outlive `start`

The second loop of `start` removes the handles, and a run that ends before it
leaves the granted ones behind.  Every failing check ends the run at once, so
whether a handle is left behind depends on what stands before the first node
at which a check fails: nothing is lost exactly when no node before it was
subscribed.
-/

/-- Every granted handle has been removed as often as it was granted. -/
def NoneOutlives
    (env : Environment)
    (e2Nodes : List E2NodeConnectedXapp) : Prop :=
  ∀ handle ∈ granted (start env e2Nodes World.fresh).log,
    (removed (start env e2Nodes World.fresh).log).count handle =
      (granted (start env e2Nodes World.fresh).log).count handle

/--
No check fails at a node, or only skipped nodes stand before the first node at
which one does.
-/
def StopsClean (env : Environment) :
    World → List E2NodeConnectedXapp → Prop
  | _, [] => True
  | world, e2Node :: rest =>
      match nodeFate env world e2Node with
      | .stopped => True
      | .skipped => StopsClean env world rest
      | .subscribed item =>
          Completes env ((NodeFate.subscribed item).next world) rest

section Nodes

variable {env : Environment}

theorem Completes.stopsClean
    {world : World}
    {e2Nodes : List E2NodeConnectedXapp}
    (completes : Completes env world e2Nodes) :
    StopsClean env world e2Nodes := by
  induction e2Nodes generalizing world with
  | nil =>
      exact True.intro
  | cons e2Node rest inductionHypothesis =>
      obtain ⟨proceeds, later⟩ := completes
      unfold StopsClean
      cases fate : nodeFate env world e2Node with
      | stopped =>
          exact (proceeds fate).elim
      | skipped =>
          rw [fate] at later
          exact inductionHypothesis later
      | subscribed item =>
          rw [fate] at later
          exact later

/-- A node at which no check fails removes nothing. -/
theorem removed_nodeEvents
    (world : World)
    (e2Node : E2NodeConnectedXapp) :
    removed (nodeEvents env world e2Node) = [] := by
  rw [nodeEvents, removed_append, removed_lookupEvents]
  cases nodeFate env world e2Node <;>
    rfl

/-- A subscribed node is granted the handle of its reply. -/
theorem nodeFate_subscribed_success
    {world : World}
    {e2Node : E2NodeConnectedXapp}
    {item : RicReportStyleItem}
    (fate : nodeFate env world e2Node = .subscribed item) :
    (env.reply world.reports).success = true := by
  simp only [nodeFate] at fate
  split at fate
  · cases fate
  · split at fate
    · cases fate
    · split at fate
      · cases fate
      · split at fate
        · rename_i answers
          exact (Bool.and_eq_true_iff.mp answers).2
        · cases fate

theorem granted_nodeEvents_of_subscribed
    {world : World}
    {e2Node : E2NodeConnectedXapp}
    {item : RicReportStyleItem}
    (fate : nodeFate env world e2Node = .subscribed item) :
    granted (nodeEvents env world e2Node) =
      [(env.reply world.reports).handle] := by
  rw [nodeEvents, granted_append, granted_lookupEvents, fate]
  simp [NodeFate.subscription, granted,
    nodeFate_subscribed_success fate]

theorem granted_nodeEvents_of_skipped
    {world : World}
    {e2Node : E2NodeConnectedXapp}
    (fate : nodeFate env world e2Node = .skipped) :
    granted (nodeEvents env world e2Node) = [] := by
  rw [nodeEvents, granted_append, granted_lookupEvents, fate]
  rfl

/-- The successful slots hold the handles that the first loop was granted. -/
theorem granted_nodesEvents
    {world : World}
    {e2Nodes : List E2NodeConnectedXapp}
    (completes : Completes env world e2Nodes) :
    granted (nodesEvents env world e2Nodes) =
      removed (removals (slots env world e2Nodes)) := by
  induction e2Nodes generalizing world with
  | nil =>
      rfl
  | cons e2Node rest inductionHypothesis =>
      obtain ⟨proceeds, later⟩ := completes
      rw [nodesEvents, slots, removals_cons, granted_append,
        removed_append, inductionHypothesis later]
      congr 1
      cases fate : nodeFate env world e2Node with
      | stopped =>
          exact (proceeds fate).elim
      | skipped =>
          rw [granted_nodeEvents_of_skipped fate]
          rfl
      | subscribed item =>
          rw [granted_nodeEvents_of_subscribed fate]
          simp [NodeFate.slot, removed_removals,
            nodeFate_subscribed_success fate]

theorem removed_nodesEvents
    (world : World)
    (e2Nodes : List E2NodeConnectedXapp) :
    removed (nodesEvents env world e2Nodes) = [] := by
  induction e2Nodes generalizing world with
  | nil =>
      rfl
  | cons e2Node rest inductionHypothesis =>
      rw [nodesEvents, removed_append, removed_nodeEvents,
        inductionHypothesis, List.append_nil]

/--
When a check fails at some node, the first loop stops, and it was granted
nothing exactly when the nodes stop clean.
-/
theorem subscribeNodes_stops
    {world : World}
    {e2Nodes : List E2NodeConnectedXapp}
    (fails : ¬Completes env world e2Nodes)
    (filled : List SmAnsXapp) :
    ∃ log final why,
      Stops
          (subscribeNodes env e2Nodes filled.length
            (filled ++
              List.replicate e2Nodes.length SmAnsXapp.zeroed))
          world log final why ∧
        (granted log = [] ↔ StopsClean env world e2Nodes) := by
  induction e2Nodes generalizing world filled with
  | nil =>
      exact (fails True.intro).elim
  | cons e2Node rest inductionHypothesis =>
      by_cases stopped : nodeFate env world e2Node = .stopped
      · rw [subscribeNodes_cons]
        obtain ⟨log, final, why, stops, noGrant⟩ :=
          subscribeNode_stops stopped (show
            filled.length <
              (filled ++
                List.replicate (rest.length + 1)
                  SmAnsXapp.zeroed).length
            by simp)
        refine ⟨log, final, why, stops.bind _, ?_⟩
        simp [noGrant, StopsClean, stopped]
      · have failsLater :
            ¬Completes env
              ((nodeFate env world e2Node).next world) rest :=
          fun later => fails ⟨stopped, later⟩
        obtain ⟨log, final, why, stops, clean⟩ :=
          inductionHypothesis failsLater
            (filled ++ [(nodeFate env world e2Node).slot env world])
        have loops :=
          subscribeNodes_goesOn stopped rest filled rest.length
        rw [stops.apply, Run.after_mk] at loops
        refine
          ⟨nodeEvents env world e2Node ++ log, final, why, loops, ?_⟩
        rw [granted_append]
        cases fate : nodeFate env world e2Node with
        | stopped =>
            exact (stopped fate).elim
        | skipped =>
            rw [fate] at clean
            rw [granted_nodeEvents_of_skipped fate, List.nil_append,
              clean, StopsClean, fate]
            rfl
        | subscribed item =>
            -- its handle is granted, and a later check fails
            rw [fate] at failsLater
            rw [granted_nodeEvents_of_subscribed fate, StopsClean,
              fate]
            simpa using failsLater

end Nodes

section Start

variable
  {env : Environment}
  {e2Nodes : List E2NodeConnectedXapp}

/-- A run without removals leaves nothing behind if it was granted nothing. -/
theorem noneOutlives_of_noRemoval
    (noRemoval : removed (start env e2Nodes World.fresh).log = []) :
    NoneOutlives env e2Nodes ↔
      granted (start env e2Nodes World.fresh).log = [] := by
  simp only [NoneOutlives]
  rw [noRemoval]
  constructor
  · intro balanced
    rw [List.eq_nil_iff_forall_not_mem]
    intro handle member
    have counted := balanced handle member
    rw [List.count_nil] at counted
    exact Nat.ne_of_gt (List.count_pos_iff.mpr member) counted.symm
  · intro nothing handle member
    rw [nothing] at member
    cases member

/-- When no check fails, every handle is removed. -/
theorem noneOutlives_of_completes
    (initialized : env.mutexInitRc = 0)
    (allocated : env.memory 0 = true)
    (completes : Completes env World.afterHndl e2Nodes) :
    NoneOutlives env e2Nodes := by
  have run := (start_returns initialized allocated completes).apply
  have same :
      granted (start env e2Nodes World.fresh).log =
        removed (start env e2Nodes World.fresh).log := by
    have noGrant (hndl : List SmAnsXapp) :
        granted (removals hndl) = [] := by
      simp [granted, removals]
    rw [run]
    simp only [granted_append, removed_append, noGrant,
      granted_nodesEvents completes, removed_nodesEvents]
    simp [granted, removed]
  intro handle _
  rw [same]

/--
No subscription outlives `start` exactly when the mutex or `hndl` is refused,
or every node at which a check fails first has only skipped nodes before it.
-/
theorem noneOutlives_iff :
    NoneOutlives env e2Nodes ↔
      env.mutexInitRc ≠ 0 ∨
        env.memory 0 = false ∨
        StopsClean env World.afterHndl e2Nodes := by
  by_cases initialized : env.mutexInitRc = 0
  · cases allocated : env.memory 0 with
    | false =>
        have run : start env e2Nodes World.fresh = _ :=
          (start_stops_of_hndl initialized allocated).apply
        rw [noneOutlives_of_noRemoval (by rw [run]; rfl), run]
        simp [granted]
    | true =>
        by_cases completes : Completes env World.afterHndl e2Nodes
        · simp [noneOutlives_of_completes initialized allocated
            completes, completes.stopsClean]
        · obtain ⟨log, final, why, stops, clean⟩ :=
            subscribeNodes_stops completes []
          rw [List.length_nil, List.nil_append] at stops
          have noRemoval :
              removed
                  (subscribeNodes env e2Nodes 0
                    (List.replicate e2Nodes.length SmAnsXapp.zeroed)
                    World.afterHndl).log = [] :=
            removed_subscribeNodes ..
          rw [stops.apply] at noRemoval
          have run :=
            (start_stops_of_nodes initialized allocated stops).apply
          rw [noneOutlives_of_noRemoval (by
            rw [run, removed_append, noRemoval]
            rfl)]
          rw [run, granted_append]
          simpa [initialized, granted] using clean
  · have run : start env e2Nodes World.fresh = _ :=
      (start_stops_of_mutex initialized).apply
    rw [noneOutlives_of_noRemoval (by rw [run]; rfl), run]
    simp [granted, initialized]

end Start

/-- An environment in which the second subscription is answered by a failure. -/
def Environment.failingSecond : Environment :=
  { Environment.ideal with
    reply := fun asked => { success := asked != 1, handle := asked } }

/-- Two nodes that report: the handle of the first is never removed. -/
theorem not_noneOutlives_failingSecond :
    ¬NoneOutlives Environment.failingSecond [gnbNode, gnbNode] := by
  intro balanced
  have removedOnce :=
    balanced 0 (by decide)
  revert removedOnce
  decide

end IqosXapp.KpmManager
