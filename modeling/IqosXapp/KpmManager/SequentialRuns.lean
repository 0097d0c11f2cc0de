import IqosXapp.KpmManager.IndicationSpec
import IqosXapp.KpmManager.ReportSimulation
import IqosXapp.KpmManager.StartSpec

namespace IqosXapp.KpmManager

open Effect Program Transition Relation

/-!
# Sequential runs among the interleavings

The steps of the threads are those of the sequential functions: when the first
loop of `start` returns, the thread of `start` can run to the same `hndl`, and
when `sm_cb_kpm` returns, an invocation that nobody disturbs prints the same
header and lines and leaves the same `counter`.
-/

/-! ## What a callback prints -/

/-- The event is printed: a header or a line. -/
def ReportEvent.isPrinted : ReportEvent → Bool
  | .header _ _ => true
  | .line _ => true
  | _ => false

/-- The event belongs to the traversal of a message. -/
def ReportEvent.InTraversal : ReportEvent → Prop
  | .handle _ _ _ => True
  | .line _ => True
  | _ => False

theorem recordTrace_inTraversal
    {incompleteFlag : Option EnumValue}
    {measInfo : MeasInfoFormat1Lst}
    {record : MeasRecordLst}
    {event : ReportEvent}
    (logged :
      event ∈ (recordTrace incompleteFlag measInfo record).log) :
    event.InTraversal := by
  rcases Trace.mem_append_log logged with dispatch | flag
  · cases measType : measInfo.measType with
    | id id =>
        simp [measType, measTypeTrace] at dispatch
    | name name =>
        cases record with
        | noValue =>
            simp [measType, measTypeTrace, valueTrace] at dispatch
        | intVal value =>
            simp only [measType, measTypeTrace, valueTrace,
              Trace.logs_log, List.mem_pair] at dispatch
            rcases dispatch with rfl | rfl <;> trivial
        | realVal value =>
            simp only [measType, measTypeTrace, valueTrace,
              Trace.logs_log, List.mem_pair] at dispatch
            rcases dispatch with rfl | rfl <;> trivial
  · simp only [flagTrace] at flag
    split at flag
    · obtain rfl := List.mem_singleton.mp flag
      trivial
    · simp at flag

/-- The ending of the innermost loop logs nothing. -/
theorem overrunTrace_log (infos records : Nat) :
    (overrunTrace infos records).log = [] := by
  simp only [overrunTrace]
  split
  · rfl
  · split <;> rfl

theorem measurementsTrace_inTraversal
    {msg : KpmIndMsgFormat1}
    {event : ReportEvent}
    (logged : event ∈ (measurementsTrace msg).log) :
    event.InTraversal := by
  simp only [measurementsTrace] at logged
  split at logged
  · simp at logged
  · obtain ⟨dataItem, _, item⟩ := Trace.mem_sequence_log logged
    rcases Trace.mem_append_log item with visited | overrun
    · obtain ⟨pair, _, record⟩ := Trace.mem_sequence_log visited
      exact recordTrace_inTraversal record
    · simp [overrunTrace_log] at overrun

/-- The traversal of a message prints no header and leaves `mtx` alone. -/
theorem messageTrace_inTraversal
    {msg : KpmIndMsg}
    {event : ReportEvent}
    (logged : event ∈ (messageTrace msg).log) :
    event.InTraversal := by
  cases msg with
  | frm1 => simp [messageTrace] at logged
  | frm2 => simp [messageTrace] at logged
  | frm3 msg =>
      obtain ⟨report, _, part⟩ := Trace.mem_sequence_log logged
      rcases Trace.mem_append_log part with ueId | measurements
      · obtain ⟨line, _, rfl⟩ := List.mem_map.mp ueId
        trivial
      · exact measurementsTrace_inTraversal measurements

/-- In a traversal, what is printed is the lines. -/
theorem filter_isPrinted
    {log : List ReportEvent}
    (traversal : ∀ event ∈ log, event.InTraversal) :
    log.filter ReportEvent.isPrinted =
      (log.filterMap ReportEvent.line?).map .line := by
  induction log with
  | nil =>
      rfl
  | cons event rest inductionHypothesis =>
      have tail :=
        inductionHypothesis fun later member =>
          traversal later (by simp [member])
      cases event with
      | lock => exact (traversal .lock (by simp)).elim
      | unlock => exact (traversal .unlock (by simp)).elim
      | header number latency =>
          exact (traversal (.header number latency) (by simp)).elim
      | handle handler name record =>
          simp [List.filterMap_cons, ReportEvent.isPrinted,
            ReportEvent.line?, tail]
      | line text =>
          simp [List.filter_cons, ReportEvent.isPrinted,
            ReportEvent.line?, tail]

/-- The lines of a message are those of its trace. -/
theorem messageLines_eq (msg : KpmIndMsg) (counter : Nat) :
    messageLines msg counter =
      (messageTrace msg).log.filterMap ReportEvent.line? := by
  rw [messageLines, (printReports_settles msg).apply]

theorem messageOutcome_eq (msg : KpmIndMsg) (counter : Nat) :
    messageOutcome msg counter = (messageTrace msg).outcome := by
  rw [messageOutcome, (printReports_settles msg).apply]

/-- A callback that returns has printed its header and its lines. -/
theorem printed_of_returns
    {now : UInt64}
    {ind : KpmIndData}
    {counter final : Nat}
    {log : List ReportEvent}
    (returns :
      Returns (smCbKpm now (indicationAnswer ind)) counter log final ()) :
    messageOutcome ind.msg counter = .done () ∧
      counter < intMax ∧
      final = counter + 1 ∧
      log.filter ReportEvent.isPrinted =
        .header counter (now - ind.hdr.collectStartTime) ::
          (messageLines ind.msg counter).map .line := by
  rw [messageOutcome_eq, messageLines_eq]
  have traversal :
      (messageTrace ind.msg).log.filter ReportEvent.isPrinted = _ :=
    filter_isPrinted fun _ => messageTrace_inTraversal
  cases ended : (messageTrace ind.msg).ending with
  | some why =>
      have stops := (smCbKpm_stops now ended).apply.symm.trans returns
      simp at stops
  | none =>
      by_cases room : counter < intMax
      · have same :=
          (smCbKpm_returns now ended room).apply.symm.trans returns
        simp only [Run.mk.injEq, and_true] at same
        obtain ⟨rfl, rfl⟩ := same
        refine ⟨by simp [Trace.outcome, ended], room, rfl, ?_⟩
        simp [blockHead, List.filter_cons, ReportEvent.isPrinted,
          traversal]
      · have overflows :=
          (smCbKpm_overflows now ended room).apply.symm.trans returns
        simp at overflows

/-! ## A callback that nobody disturbs -/

section Alone

variable
  {env : Environment}
  {e2Nodes : List E2NodeConnectedXapp}

/-- The lines of a message are printed one by one. -/
theorem printLines_run
    {process : Process}
    {id : Nat}
    {invocation : Invocation}
    {lines : List Line}
    (running : process.aborted = false)
    (present : process.invocations id = some invocation)
    (phase : invocation.phase = .printing lines) :
    ReflTransGen (ProcessStep env e2Nodes) process
      { process.place id { invocation with phase := .printing [] } with
        output := process.output ++ lines.map .line } := by
  induction lines generalizing process invocation with
  | nil =>
      have unchanged :
          process.place id { invocation with phase := .printing [] } =
            process := by
        rw [← phase]
        exact Process.place_of_present process id invocation present
      rw [unchanged, List.map_nil, List.append_nil]
  | cons line rest inductionHypothesis =>
      have step : ProcessStep env e2Nodes process _ :=
        .printLine running present phase
      refine .head step ?_
      have placed :=
        Process.place_invocations_self process id
          { invocation with phase := .printing rest }
      have rests :=
        @inductionHypothesis
          { process.place id
              { invocation with phase := .printing rest } with
            output := process.output ++ [.line line] }
          _ running placed rfl
      simpa [Process.place] using rests

/-- An invocation begins and reads the time. -/
theorem readTime_run
    {process : Process}
    {node : Nat}
    (id : Nat)
    (ind : KpmIndData)
    (now : UInt64)
    (running : process.aborted = false)
    (subscribed : process.starter.Subscribed node)
    (fresh : process.invocations id = none) :
    ReflTransGen (ProcessStep env e2Nodes) process
      (process.place id
        ⟨node, ind, now - ind.hdr.collectStartTime, .timed⟩) := by
  have invoke : ProcessStep env e2Nodes process _ :=
    .invoke id node ind running subscribed fresh
  have readTime :
      ProcessStep env e2Nodes
        (process.place id ⟨node, ind, 0, .entered⟩) _ :=
    .readTime now running (Process.place_invocations_self ..) rfl
  have run := (ReflTransGen.single invoke).tail readTime
  rwa [Process.place_place] at run

/-- The header is printed right after `mtx` is acquired. -/
theorem header_run
    {process : Process}
    {id : Nat}
    {invocation : Invocation}
    (can : process.CanAcquire id invocation) :
    ReflTransGen (ProcessStep env e2Nodes) process
      { process.place id
          { invocation with
            phase :=
              .printing
                (messageLines invocation.ind.msg process.counter) } with
        holder := some id
        output :=
          process.output ++ [.header process.counter invocation.latency]
        acquisitions :=
          process.acquisitions ++
            [⟨id, invocation.ind, invocation.latency⟩] } := by
  have locked :
      (process.acquire id invocation).invocations id =
        some { invocation with phase := .locked } :=
    Process.place_invocations_self ..
  have header :
      ProcessStep env e2Nodes (process.acquire id invocation) _ :=
    .printHeader can.running locked rfl
  have run := (ReflTransGen.single (.acquire can)).tail header
  simpa [Process.acquire, Process.place] using run

/-- Behind the last line the invocation counts and releases `mtx`. -/
theorem release_run
    {process : Process}
    {id : Nat}
    {invocation : Invocation}
    (running : process.aborted = false)
    (present : process.invocations id = some invocation)
    (phase : invocation.phase = .printing [])
    (traversed :
      messageOutcome invocation.ind.msg process.counter = .done ())
    (room : process.counter < intMax) :
    ReflTransGen (ProcessStep env e2Nodes) process
      { process.place id { invocation with phase := .finished } with
        holder := none
        counter := process.counter + 1 } := by
  have increment : ProcessStep env e2Nodes process _ :=
    .increment running present phase traversed room
  have counted :=
    Process.place_invocations_self process id
      { invocation with phase := .counted }
  have release :
      ProcessStep env e2Nodes
        { process.place id { invocation with phase := .counted } with
          counter := process.counter + 1 } _ :=
    .release running counted rfl
  have run := (ReflTransGen.single increment).tail release
  simpa [Process.place] using run

/-- The process after a callback that nobody disturbed. -/
def Process.report
    (process : Process)
    (id node : Nat)
    (ind : KpmIndData)
    (latency : UInt64) : Process :=
  { process.place id ⟨node, ind, latency, .finished⟩ with
    holder := none
    counter := process.counter + 1
    output :=
      process.output ++
        .header process.counter latency ::
          (messageLines ind.msg process.counter).map .line
    acquisitions := process.acquisitions ++ [⟨id, ind, latency⟩] }

/-- A callback that returns is a run of its invocation on its own. -/
theorem report_run
    {process : Process}
    {id node final : Nat}
    {now : UInt64}
    {ind : KpmIndData}
    {log : List ReportEvent}
    (running : process.aborted = false)
    (free : process.holder = none)
    (subscribed : process.starter.Subscribed node)
    (fresh : process.invocations id = none)
    (returns :
      Returns (smCbKpm now (indicationAnswer ind)) process.counter
        log final ()) :
    let next := process.report id node ind (now - ind.hdr.collectStartTime)
    ReflTransGen (ProcessStep env e2Nodes) process next ∧
      next.output = process.output ++ log.filter ReportEvent.isPrinted ∧
      next.counter = final := by
  obtain ⟨traversed, room, rfl, printed⟩ := printed_of_returns returns
  refine ⟨?_, by rw [printed]; rfl, rfl⟩
  have timed :
      (process.place id
          ⟨node, ind, now - ind.hdr.collectStartTime, .timed⟩).CanAcquire
        id ⟨node, ind, now - ind.hdr.collectStartTime, .timed⟩ :=
    ⟨running, free, Process.place_invocations_self .., rfl⟩
  have entered : ReflTransGen (ProcessStep env e2Nodes) process _ :=
    readTime_run id ind now running subscribed fresh
  have header := entered.trans (header_run timed)
  have lines :=
    header.trans
      (printLines_run running (Process.place_invocations_self ..) rfl)
  have release :=
    lines.trans
      (release_run running (Process.place_invocations_self ..) rfl
        traversed room)
  simpa [Process.report, Process.place] using release

end Alone

/-! ## The thread of `start` -/

section Subscribing

variable
  {env : Environment}
  {e2Nodes : List E2NodeConnectedXapp}
  {process : Process}

/-- The first loop is a run of subscribing steps. -/
theorem subscribeNodes_run
    {rest : List E2NodeConnectedXapp}
    {world after : World}
    {hndl filled : List SmAnsXapp}
    {next : Nat}
    {log : List SetupEvent}
    (remaining : e2Nodes.drop next = rest)
    (returns :
      Returns (subscribeNodes env rest next hndl) world
        log after filled) :
    ReflTransGen (StartStep env e2Nodes)
      (.subscribing world hndl next)
      (.subscribing after filled (next + rest.length)) := by
  induction rest generalizing world hndl next log with
  | nil =>
      obtain ⟨_, rfl, rfl⟩ :
          log = [] ∧ world = after ∧ hndl = filled := by
        simpa [Returns, subscribeNodes, eq_comm] using returns
      exact .refl
  | cons e2Node rest inductionHypothesis =>
      rw [subscribeNodes_cons] at returns
      obtain ⟨_, _, middle, block, head, tail, _⟩ := returns.of_bind
      have listed : e2Nodes[next]? = some e2Node := by
        rw [← List.head?_drop, remaining]
        rfl
      have later : e2Nodes.drop (next + 1) = rest := by
        rw [← List.tail_drop, remaining]
        rfl
      have shape :
          next + (e2Node :: rest).length = next + 1 + rest.length := by
        rw [List.length_cons, Nat.add_right_comm, Nat.add_assoc]
      rw [shape]
      exact .head (.subscribe listed head) (inductionHypothesis later tail)

/-- When the first loop of `start` returns, its thread gets there. -/
theorem start_run
    {after : World}
    {hndl : List SmAnsXapp}
    {log : List SetupEvent}
    (initialized : env.mutexInitRc = 0)
    (allocated : env.memory 0 = true)
    (returns :
      Returns
        (subscribeNodes env e2Nodes 0
          (List.replicate e2Nodes.length SmAnsXapp.zeroed))
        World.afterHndl log after hndl) :
    ReflTransGen (StartStep env e2Nodes) .created
      (.subscribing after hndl e2Nodes.length) := by
  have loop := subscribeNodes_run List.drop_zero returns
  rw [Nat.zero_add] at loop
  exact .head (.initMutex initialized) (.head (.allocHndl allocated) loop)

/-- The callbacks may wait while the thread of `start` runs. -/
theorem starter_run
    {phase : StartPhase}
    (running : process.aborted = false)
    (run : ReflTransGen (StartStep env e2Nodes) process.starter phase) :
    ReflTransGen (ProcessStep env e2Nodes) process
      { process with starter := phase } :=
  run.lift (fun phase => { process with starter := phase })
    fun _ _ step => .start running step

/-- The process in which all nodes are subscribed is reachable. -/
theorem subscribed_reachable
    (initialized : env.mutexInitRc = 0)
    (allocated : env.memory 0 = true)
    (completes : Completes env World.afterHndl e2Nodes) :
    (processes env e2Nodes).Reachable
      { Process.initial with
        starter :=
          .subscribing (worldAfter env World.afterHndl e2Nodes)
            (slots env World.afterHndl e2Nodes) e2Nodes.length } := by
  have loop := firstLoop_returns completes
  exact ⟨Process.initial, rfl,
    starter_run rfl (start_run initialized allocated loop)⟩

end Subscribing

end IqosXapp.KpmManager
