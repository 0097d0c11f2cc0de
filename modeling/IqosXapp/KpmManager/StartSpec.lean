import IqosXapp.KpmManager.NodeFate

namespace IqosXapp.KpmManager

open Effect Program

/-!
# What `start` does with its nodes

The first loop goes through the nodes until one of them is stopped, and the
second one removes what the first one was granted.  The runs of both follow
from the fates of the nodes, and the runs of `start` from those.
-/

/-! ## The first loop -/

/-- No check fails at any node of the list. -/
def Completes (env : Environment) :
    World → List E2NodeConnectedXapp → Prop
  | _, [] => True
  | world, e2Node :: rest =>
      nodeFate env world e2Node ≠ .stopped ∧
        Completes env ((nodeFate env world e2Node).next world) rest

/-- The events of the first loop over nodes at which no check fails. -/
def nodesEvents (env : Environment) :
    World → List E2NodeConnectedXapp → List SetupEvent
  | _, [] => []
  | world, e2Node :: rest =>
      nodeEvents env world e2Node ++
        nodesEvents env ((nodeFate env world e2Node).next world) rest

/-- The slots that these nodes leave in `hndl`. -/
def slots (env : Environment) :
    World → List E2NodeConnectedXapp → List SmAnsXapp
  | _, [] => []
  | world, e2Node :: rest =>
      (nodeFate env world e2Node).slot env world ::
        slots env ((nodeFate env world e2Node).next world) rest

/-- The world behind these nodes. -/
def worldAfter (env : Environment) :
    World → List E2NodeConnectedXapp → World
  | world, [] => world
  | world, e2Node :: rest =>
      worldAfter env ((nodeFate env world e2Node).next world) rest

/-- The first loop of `start`, over a list of nodes from a slot on. -/
def subscribeNodes
    (env : Environment)
    (e2Nodes : List E2NodeConnectedXapp)
    (slot : Nat)
    (hndl : List SmAnsXapp) :
    Setup (List SmAnsXapp) :=
  (e2Nodes.zipIdx slot).foldlM
    (fun hndl entry => subscribeNode env entry.2 entry.1 hndl) hndl

section Loop

variable {env : Environment}

theorem length_slots
    (world : World)
    (e2Nodes : List E2NodeConnectedXapp) :
    (slots env world e2Nodes).length = e2Nodes.length := by
  induction e2Nodes generalizing world with
  | nil =>
      rfl
  | cons e2Node rest inductionHypothesis =>
      simp [slots, inductionHypothesis]

theorem subscribeNodes_cons
    (e2Node : E2NodeConnectedXapp)
    (rest : List E2NodeConnectedXapp)
    (slot : Nat)
    (hndl : List SmAnsXapp) :
    subscribeNodes env (e2Node :: rest) slot hndl =
      (do
        let hndl ← subscribeNode env slot e2Node hndl
        subscribeNodes env rest (slot + 1) hndl) := by
  simp [subscribeNodes]

theorem subscribeNodes_append
    (first second : List E2NodeConnectedXapp)
    (slot : Nat)
    (hndl : List SmAnsXapp) :
    subscribeNodes env (first ++ second) slot hndl =
      (do
        let hndl ← subscribeNodes env first slot hndl
        subscribeNodes env second (slot + first.length) hndl) := by
  simp [subscribeNodes, List.zipIdx_append]

/-- The first loop removes nothing, however it ends. -/
theorem removed_subscribeNodes
    (e2Nodes : List E2NodeConnectedXapp)
    (slot : Nat)
    (hndl : List SmAnsXapp)
    (world : World) :
    removed (subscribeNodes env e2Nodes slot hndl world).log = [] :=
  Silent.foldlM
    (fun _ _ =>
      subscribeNode_silent rfl (fun _ _ _ _ => rfl) fun _ => rfl)
    _ _ world

/--
One turn of the loop at a node that is not stopped: its slot joins the filled
ones, and the rest of the loop runs behind it.
-/
theorem subscribeNodes_goesOn
    {world : World}
    {e2Node : E2NodeConnectedXapp}
    (proceeds : nodeFate env world e2Node ≠ .stopped)
    (rest : List E2NodeConnectedXapp)
    (filled : List SmAnsXapp)
    (ahead : Nat) :
    subscribeNodes env (e2Node :: rest) filled.length
        (filled ++ List.replicate (ahead + 1) SmAnsXapp.zeroed)
        world =
      (subscribeNodes env rest
          (filled ++ [(nodeFate env world e2Node).slot env world]).length
          (filled ++ [(nodeFate env world e2Node).slot env world] ++
            List.replicate ahead SmAnsXapp.zeroed)
          ((nodeFate env world e2Node).next world)).after
        (nodeEvents env world e2Node) := by
  have turn :=
    subscribeNode_fills proceeds filled
      (List.replicate ahead SmAnsXapp.zeroed)
  rw [subscribeNodes_cons, List.replicate_succ, bind_apply, turn.apply,
    Run.andThen_done, List.length_append, List.length_singleton,
    List.append_assoc, List.singleton_append]

/--
While no check fails, the loop fills the slots behind the ones that are done
and leaves the slots ahead zeroed.
-/
theorem subscribeNodes_returns
    {world : World}
    {e2Nodes : List E2NodeConnectedXapp}
    (completes : Completes env world e2Nodes)
    (filled : List SmAnsXapp)
    (ahead : Nat) :
    Returns
      (subscribeNodes env e2Nodes filled.length
        (filled ++
          List.replicate (e2Nodes.length + ahead) SmAnsXapp.zeroed))
      world
      (nodesEvents env world e2Nodes)
      (worldAfter env world e2Nodes)
      (filled ++ slots env world e2Nodes ++
        List.replicate ahead SmAnsXapp.zeroed) := by
  induction e2Nodes generalizing world filled with
  | nil =>
      simp [subscribeNodes, slots, nodesEvents, worldAfter, Returns]
  | cons e2Node rest inductionHypothesis =>
      obtain ⟨proceeds, later⟩ := completes
      have tail :=
        inductionHypothesis later
          (filled ++ [(nodeFate env world e2Node).slot env world])
      simp only [Returns] at tail ⊢
      rw [List.length_cons, Nat.add_right_comm,
        subscribeNodes_goesOn proceeds, tail]
      simp [slots, nodesEvents, worldAfter]

/-- From a zeroed `hndl` on, it fills every slot. -/
theorem firstLoop_returns
    {world : World}
    {e2Nodes : List E2NodeConnectedXapp}
    (completes : Completes env world e2Nodes) :
    Returns
      (subscribeNodes env e2Nodes 0
        (List.replicate e2Nodes.length SmAnsXapp.zeroed))
      world
      (nodesEvents env world e2Nodes)
      (worldAfter env world e2Nodes)
      (slots env world e2Nodes) := by
  simpa using subscribeNodes_returns completes [] 0

end Loop

/-! ## Whole runs of `start` -/

/-- The removals of the second loop. -/
def removals (hndl : List SmAnsXapp) : List SetupEvent :=
  (hndl.filter (·.success)).map fun slot =>
    .rmReportSmXappApi slot.handle

theorem removed_removals (hndl : List SmAnsXapp) :
    removed (removals hndl) =
      (hndl.filter (·.success)).map (·.handle) := by
  simp [removed, removals]

theorem removals_cons
    (slot : SmAnsXapp)
    (rest : List SmAnsXapp) :
    removals (slot :: rest) = removals [slot] ++ removals rest := by
  simp only [removals]
  rw [← List.map_append, ← List.filter_append]
  rfl

theorem removals_eq_flatMap (hndl : List SmAnsXapp) :
    removals hndl = hndl.flatMap fun slot => removals [slot] := by
  induction hndl with
  | nil =>
      rfl
  | cons slot rest inductionHypothesis =>
      rw [List.flatMap_cons, ← inductionHypothesis, removals_cons]

/-- The second loop removes every handle of a successful slot, in order. -/
theorem removeHandles_returns
    (hndl : List SmAnsXapp)
    (world : World) :
    Returns (forM hndl removeHandle) world (removals hndl) world () := by
  rw [removals_eq_flatMap]
  refine Returns.forM fun slot _ => ?_
  cases success : slot.success <;>
    simp [Returns, removeHandle, removals, success]

/-- Behind the first loop there are only the sleep and the removals. -/
theorem removeHandles_silent
    {Seen : Type}
    {view : SetupEvent → Option Seen}
    (sleep : view (.sleepFor expTime) = none)
    (removal : ∀ handle, view (.rmReportSmXappApi handle) = none)
    (block : List SmAnsXapp)
    (count : Nat) :
    Silent view
      (do
        emit (.sleepFor expTime)
        loop
          (fun i _ => do
            let slot ← cell block i
              fun i => .undefined (.outOfRange "hndl" i)
            removeHandle slot)
          count 0 ()) := by
  refine (Silent.emit sleep).bind fun _ => ?_
  refine Silent.loop (fun i _ => ?_) count 0 ()
  refine (Silent.cell block i _).bind fun slot => ?_
  exact Silent.ite (Silent.emit (removal slot.handle)) (Silent.pure ())

/-- The world in which the first loop begins. -/
def World.afterHndl : World where
  callocs := 1
  reports := 0

section Start

variable
  {env : Environment}
  {e2Nodes : List E2NodeConnectedXapp}

/-- A failing `pthread_mutex_init` ends the run before any subscription. -/
theorem start_stops_of_mutex
    (failure : env.mutexInitRc ≠ 0) :
    Stops (start env e2Nodes) World.fresh
      [.pthreadMutexInit] World.fresh (.failedCheck "rc == 0") := by
  simp [Stops, start, failure]

/-- A refused `hndl` ends the run before any subscription. -/
theorem start_stops_of_hndl
    (initialized : env.mutexInitRc = 0)
    (refused : env.memory 0 = false) :
    Stops (start env e2Nodes) World.fresh
      [.pthreadMutexInit] World.afterHndl
      (.failedCheck "hndl != nullptr") := by
  simp [Stops, start, initialized, calloc, request, refused,
    World.fresh, World.afterHndl]

/-- Past its own two checks, `start` is the two loops. -/
theorem start_eq
    (initialized : env.mutexInitRc = 0)
    (allocated : env.memory 0 = true) :
    start env e2Nodes World.fresh =
      (defer (emit .freeHndl)
        (do
          let block ←
            subscribeNodes env e2Nodes 0
              (List.replicate e2Nodes.length SmAnsXapp.zeroed)
          emit (.sleepFor expTime)
          loop
            (fun i _ => do
              let slot ← cell block i
                fun i => .undefined (.outOfRange "hndl" i)
              removeHandle slot)
            e2Nodes.length 0 ())
        World.afterHndl).after [.pthreadMutexInit] := by
  have firstLoop (block : List SmAnsXapp) :=
    loop_cell e2Nodes
      (fun i => Stop.undefined (.outOfRange "e2Nodes.n" i))
      (fun i e2Node block => subscribeNode env i e2Node block) block
  simp [start, initialized, calloc, request, allocated, firstLoop,
    subscribeNodes, World.fresh, World.afterHndl]

/-- The whole run when no check fails. -/
theorem start_returns
    (initialized : env.mutexInitRc = 0)
    (allocated : env.memory 0 = true)
    (completes : Completes env World.afterHndl e2Nodes) :
    Returns (start env e2Nodes) World.fresh
      ([.pthreadMutexInit] ++
        nodesEvents env World.afterHndl e2Nodes ++
        [.sleepFor expTime] ++
        removals (slots env World.afterHndl e2Nodes) ++
        [.freeHndl])
      (worldAfter env World.afterHndl e2Nodes) () := by
  have subscribes := firstLoop_returns completes
  have secondLoop :=
    loop_cell_unit (slots env World.afterHndl e2Nodes)
      (fun i => Stop.undefined (.outOfRange "hndl" i)) removeHandle
  rw [length_slots] at secondLoop
  have removes :=
    removeHandles_returns (slots env World.afterHndl e2Nodes)
      (worldAfter env World.afterHndl e2Nodes)
  simp only [Returns] at subscribes removes ⊢
  rw [start_eq initialized allocated]
  simp [defer, subscribes, secondLoop, removes]

/-- A run whose first loop stops is over there. -/
theorem start_stops_of_nodes
    (initialized : env.mutexInitRc = 0)
    (allocated : env.memory 0 = true)
    {log : List SetupEvent}
    {final : World}
    {why : Stop}
    (stops :
      Stops
        (subscribeNodes env e2Nodes 0
          (List.replicate e2Nodes.length SmAnsXapp.zeroed))
        World.afterHndl log final why) :
    Stops (start env e2Nodes) World.fresh
      ([.pthreadMutexInit] ++ log) final why := by
  simp only [Stops] at stops ⊢
  rw [start_eq initialized allocated]
  simp [defer, stops]

end Start

/-! ## Small nodes -/

/-- A node identity with all fields zero except the node number. -/
def nodeId (nbId : UInt32) : GlobalE2NodeId where
  nbId := nbId
  plmn := ⟨0, 0, 0⟩
  cuDuId := none

/-- A node whose only RAN function is KPM with one style 4 report. -/
def gnbNode : E2NodeConnectedXapp where
  id := nodeId 1
  rf := [⟨kpmRanFuncId, .kpm (ranFuncWith [style4Item])⟩]
  behindRf := none

/-- A node that reports two measures. -/
def duNode : E2NodeConnectedXapp where
  id := nodeId 6
  rf := [⟨kpmRanFuncId, .kpm (ranFuncWith [twoMeasuresItem])⟩]
  behindRf := none

/-- A node whose KPM function has no REPORT service. -/
def cuCpNode : E2NodeConnectedXapp where
  id := nodeId 2
  rf := [
    ⟨kpmRanFuncId, .kpm {
      ricEventTriggerStyleList := none
      ricReportStyleList := none }⟩]
  behindRf := none

/-- A node without RAN functions, with zeroed memory behind its list. -/
def bareNode : E2NodeConnectedXapp where
  id := nodeId 3
  rf := []
  behindRf := some ⟨0, .other⟩

end IqosXapp.KpmManager
