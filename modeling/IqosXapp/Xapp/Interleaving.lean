import IqosXapp.KpmManager.CallbackProgress
import IqosXapp.Transition.Continuation
import IqosXapp.Xapp.Main

namespace IqosXapp.Xapp

open Effect Program KpmManager Transition Relation

/-!
# The whole xApp as interleaved threads

The main thread launches the xApp, runs `start`, polls and returns, and FlexRIC
may run callbacks in threads of their own while it does.  The threads share the
process of `start` and its callbacks: every step of the main thread inside the
first loop of `start` is a step of that process, and so is every step of a
callback.

A step of the main thread is a turn: the launch, one check of `start` with the
call behind it, one node of either loop, one answer of `try_stop_xapp_api`.  The
callbacks take their steps between the turns, not between the calls of one.

A stop of the main thread ends the process, and so does its return: nothing
steps any more.
-/

/-- Where the main thread stands. -/
inductive MainPhase where
  | launched
  | subscribing
  | removing (world : World) (hndl : List SmAnsXapp) (next : Nat)
  | polling (world : World)
  | returned (world : World)
  | stopped (world : World) (why : MainStop)
  deriving Repr, DecidableEq

/-- The process has not ended in this phase. -/
def MainPhase.live : MainPhase → Bool
  | .returned _ => false
  | .stopped _ _ => false
  | _ => true

/--
The xApp: its main thread, the process of `start` and its callbacks, what the
main thread called and which answers of `try_stop_xapp_api` it got.
-/
structure XappState where
  main : MainPhase
  process : Process
  calls : List MainEvent
  answers : List Bool

/-- The xApp before `main` is called. -/
def XappState.initial : XappState where
  main := .launched
  process := Process.initial
  calls := []
  answers := []

/-- The process has not ended. -/
structure XappState.Live (xapp : XappState) : Prop where
  running : xapp.process.aborted = false
  main : xapp.main.live = true

section Steps

variable
  (env : Environment)
  (args : FrArgs)
  (e2Nodes : List E2NodeConnectedXapp)

/-- The first loop of `start`, at index `i`. -/
def subscribeTurn (i : Nat) (block : List SmAnsXapp) :
    Setup (List SmAnsXapp) := do
  let e2Node ← cell e2Nodes i
    fun i => .undefined (.outOfRange "e2Nodes.n" i)
  subscribeNode env i e2Node block

/-- The second loop of `start`, at index `i`. -/
def removeTurn (block : List SmAnsXapp) (i : Nat) (_ : Unit) :
    Setup Unit := do
  let slot ← cell block i fun i => .undefined (.outOfRange "hndl" i)
  removeHandle slot

/-- One step of `start` up to the end of its first loop, with its calls. -/
inductive StartEmits :
    StartPhase → List SetupEvent → StartPhase → Prop where
  | initMutex
      (initialized : env.mutexInitRc = 0) :
      StartEmits .created [.pthreadMutexInit] .initialized
  | allocHndl
      (granted : env.memory 0 = true) :
      StartEmits .initialized []
        (.subscribing ⟨1, 0⟩
          (List.replicate e2Nodes.length SmAnsXapp.zeroed) 0)
  | subscribe
      {world after : World}
      {hndl filled : List SmAnsXapp}
      {next : Nat}
      {e2Node : E2NodeConnectedXapp}
      {log : List SetupEvent}
      (listed : e2Nodes[next]? = some e2Node)
      (returns :
        Returns (subscribeNode env next e2Node hndl) world
          log after filled) :
      StartEmits (.subscribing world hndl next) log
        (.subscribing after filled (next + 1))

/-- The next step of `start` fails a check, behind these calls. -/
inductive StartStops :
    StartPhase → List SetupEvent → World → Stop → Prop where
  | initMutex
      (failed : env.mutexInitRc ≠ 0) :
      StartStops .created [.pthreadMutexInit] World.fresh
        (.failedCheck "rc == 0")
  | allocHndl
      (refused : env.memory 0 = false) :
      StartStops .initialized [] World.afterHndl
        (.failedCheck "hndl != nullptr")
  | subscribe
      {world after : World}
      {hndl : List SmAnsXapp}
      {next : Nat}
      {e2Node : E2NodeConnectedXapp}
      {log : List SetupEvent}
      {why : Stop}
      (listed : e2Nodes[next]? = some e2Node)
      (stops :
        Stops (subscribeNode env next e2Node hndl) world
          log after why) :
      StartStops (.subscribing world hndl next) log after why

/-- A step of the process that no environment and no nodes stand against. -/
def CallbackStep (process next : Process) : Prop :=
  ∀ env e2Nodes, ProcessStep env e2Nodes process next

/-- One turn of the main thread, or one step of a callback. -/
inductive XappStep : XappState → XappState → Prop where
  | launch
      {xapp : XappState}
      (running : xapp.process.aborted = false)
      (phase : xapp.main = .launched)
      (connected : 0 < e2Nodes.length) :
      XappStep xapp
        { xapp with
          main := .subscribing
          calls := xapp.calls ++ launchEvents args }
  | noNodes
      {xapp : XappState}
      (running : xapp.process.aborted = false)
      (phase : xapp.main = .launched)
      (empty : e2Nodes = []) :
      XappStep xapp
        { xapp with
          main := .stopped World.fresh noE2Nodes
          calls := xapp.calls ++ launchEvents args }
  | start
      {xapp : XappState}
      {next : StartPhase}
      {log : List SetupEvent}
      (running : xapp.process.aborted = false)
      (phase : xapp.main = .subscribing)
      (emits : StartEmits env e2Nodes xapp.process.starter log next) :
      XappStep xapp
        { xapp with
          process := { xapp.process with starter := next }
          calls := xapp.calls ++ log.map .kpm }
  | startStops
      {xapp : XappState}
      {world : World}
      {why : Stop}
      {log : List SetupEvent}
      (running : xapp.process.aborted = false)
      (phase : xapp.main = .subscribing)
      (stops :
        StartStops env e2Nodes xapp.process.starter log world why) :
      XappStep xapp
        { xapp with
          main := .stopped world (.stopped why)
          process := { xapp.process with aborted := true }
          calls := xapp.calls ++ log.map .kpm }
  | sleep
      {xapp : XappState}
      {world : World}
      {hndl : List SmAnsXapp}
      {next : Nat}
      (running : xapp.process.aborted = false)
      (phase : xapp.main = .subscribing)
      (starter : xapp.process.starter = .subscribing world hndl next)
      (behind : e2Nodes.length ≤ next) :
      XappStep xapp
        { xapp with
          main := .removing world hndl 0
          calls := xapp.calls ++ [.kpm (.sleepFor expTime)] }
  | remove
      {xapp : XappState}
      {world after : World}
      {hndl : List SmAnsXapp}
      {next : Nat}
      {log : List SetupEvent}
      (running : xapp.process.aborted = false)
      (phase : xapp.main = .removing world hndl next)
      (inside : next < e2Nodes.length)
      (returns : Returns (removeTurn hndl next ()) world log after ()) :
      XappStep xapp
        { xapp with
          main := .removing after hndl (next + 1)
          calls := xapp.calls ++ log.map .kpm }
  | removeStops
      {xapp : XappState}
      {world after : World}
      {hndl : List SmAnsXapp}
      {next : Nat}
      {log : List SetupEvent}
      {why : Stop}
      (running : xapp.process.aborted = false)
      (phase : xapp.main = .removing world hndl next)
      (inside : next < e2Nodes.length)
      (stops : Stops (removeTurn hndl next ()) world log after why) :
      XappStep xapp
        { xapp with
          main := .stopped after (.stopped why)
          calls := xapp.calls ++ log.map .kpm }
  | freeHndl
      {xapp : XappState}
      {world : World}
      {hndl : List SmAnsXapp}
      {next : Nat}
      (running : xapp.process.aborted = false)
      (phase : xapp.main = .removing world hndl next)
      (behind : e2Nodes.length ≤ next) :
      XappStep xapp
        { xapp with
          main := .polling world
          calls := xapp.calls ++ [.kpm .freeHndl] }
  | poll
      {xapp : XappState}
      {world : World}
      (running : xapp.process.aborted = false)
      (phase : xapp.main = .polling world) :
      XappStep xapp
        { xapp with
          calls := xapp.calls ++ pollEvents
          answers := xapp.answers ++ [false] }
  | finish
      {xapp : XappState}
      {world : World}
      (running : xapp.process.aborted = false)
      (phase : xapp.main = .polling world) :
      XappStep xapp
        { xapp with
          main := .returned world
          calls := xapp.calls ++ finishEvents
          answers := xapp.answers ++ [true] }
  | callback
      {xapp : XappState}
      {next : Process}
      (live : xapp.Live)
      (step : CallbackStep xapp.process next) :
      XappStep xapp { xapp with process := next }

/-- All interleavings of `main` and the callbacks. -/
def xapps : System XappState where
  initial xapp := xapp = XappState.initial
  step := XappStep env args e2Nodes

end Steps

/-! ## The process inside the xApp -/

section Process

variable
  {env : Environment}
  {args : FrArgs}
  {e2Nodes : List E2NodeConnectedXapp}

/-- The xApp before `main` has made its first call. -/
theorem initial_reachable :
    (xapps env args e2Nodes).Reachable XappState.initial :=
  .of_initial rfl

theorem StartEmits.step
    {phase next : StartPhase}
    {log : List SetupEvent}
    (emits : StartEmits env e2Nodes phase log next) :
    StartStep env e2Nodes phase next := by
  cases emits with
  | initMutex initialized => exact .initMutex initialized
  | allocHndl granted => exact .allocHndl granted
  | subscribe listed returns => exact .subscribe listed returns

theorem StartStops.aborts
    {phase : StartPhase}
    {log : List SetupEvent}
    {world : World}
    {why : Stop}
    (stops : StartStops env e2Nodes phase log world why) :
    StartAborts env e2Nodes phase := by
  cases stops with
  | initMutex failed => exact .initMutex failed
  | allocHndl refused => exact .allocHndl refused
  | subscribe listed stops => exact .subscribe listed stops

/-- An environment in which `start` fails at once. -/
private def failing : Environment where
  memory _ := false
  reply _ := SmAnsXapp.zeroed
  copyByteArray name := name
  mutexInitRc := 1

private theorem failing_noStep (phase next : StartPhase) :
    ¬StartStep failing [] phase next := by
  intro step
  cases step with
  | initMutex initialized => cases initialized
  | allocHndl granted => cases granted
  | subscribe listed returns => cases listed

/-- A callback leaves the thread of `start` where it is. -/
theorem CallbackStep.starter_eq
    {process next : Process}
    (allowed : CallbackStep process next) :
    next.starter = process.starter := by
  cases allowed failing [] with
  | start running step => exact (failing_noStep _ _ step).elim
  | _ => rfl

/-- A step of the process is one of `start` or one of a callback. -/
theorem processStep_cases
    {process next : Process}
    (step : ProcessStep env e2Nodes process next) :
    (∃ phase,
        StartStep env e2Nodes process.starter phase ∧
          next = { process with starter := phase }) ∨
      (StartAborts env e2Nodes process.starter ∧
        next = { process with aborted := true }) ∨
      CallbackStep process next := by
  cases step with
  | start running step =>
      exact .inl ⟨_, step, rfl⟩
  | startAborts running aborts =>
      exact .inr (.inl ⟨aborts, rfl⟩)
  | invoke id node ind running subscribed fresh =>
      exact .inr (.inr fun _ _ =>
        .invoke id node ind running subscribed fresh)
  | rejectAnswer node rd running subscribed rejected =>
      exact .inr (.inr fun _ _ =>
        .rejectAnswer node rd running subscribed rejected)
  | readTime now running present phase =>
      exact .inr (.inr fun _ _ => .readTime now running present phase)
  | acquire can =>
      exact .inr (.inr fun _ _ => .acquire can)
  | printHeader running present phase =>
      exact .inr (.inr fun _ _ => .printHeader running present phase)
  | printLine running present phase =>
      exact .inr (.inr fun _ _ => .printLine running present phase)
  | increment running present phase traversed room =>
      exact .inr (.inr fun _ _ =>
        .increment running present phase traversed room)
  | overflow running present phase traversed full =>
      exact .inr (.inr fun _ _ =>
        .overflow running present phase traversed full)
  | abortMessage running present phase stopped =>
      exact .inr (.inr fun _ _ =>
        .abortMessage running present phase stopped)
  | release running present phase =>
      exact .inr (.inr fun _ _ => .release running present phase)

/-- Only a process that runs takes steps. -/
theorem running_of_step
    {process next : Process}
    (step : ProcessStep env e2Nodes process next) :
    process.aborted = false := by
  cases step with
  | acquire can => exact can.running
  | _ => assumption

/-- The steps of a run of the callbacks are steps of callbacks. -/
theorem callbackSteps_of_run
    {process next : Process}
    (run : CallbackRun process next)
    (running : next.aborted = false) :
    ReflTransGen CallbackStep process next := by
  have steps := run failing []
  clear run
  induction steps with
  | refl =>
      exact .refl
  | tail before step inductionHypothesis =>
      rcases processStep_cases step with
        ⟨_, started, _⟩ | ⟨_, rfl⟩ | callback
      · exact (failing_noStep _ _ started).elim
      · cases running
      · exact .tail (inductionHypothesis (running_of_step step)) callback

/-- While the main thread is not at its end, the callbacks can run. -/
theorem callbacks_run
    {xapp : XappState}
    {next : Process}
    (live : xapp.main.live = true)
    (run : ReflTransGen CallbackStep xapp.process next) :
    ReflTransGen (XappStep env args e2Nodes) xapp
      { xapp with process := next } := by
  induction run with
  | refl =>
      exact .refl
  | @tail middle next _ step inductionHypothesis =>
      have running : middle.aborted = false :=
        running_of_step (step env e2Nodes)
      exact inductionHypothesis.tail (.callback ⟨running, live⟩ step)

/-- The xApp contains the process of `start` and its callbacks. -/
theorem xapps_simulation :
    (xapps env args e2Nodes).Simulation (processes env e2Nodes)
      fun xapp process => xapp.process = process where
  initially := by
    rintro xapp rfl
    exact ⟨Process.initial, rfl, rfl⟩
  matched := by
    rintro xapp next process rfl step
    cases step with
    | start running phase emits =>
        exact ⟨_, .single (.start running emits.step), rfl⟩
    | startStops running phase stops =>
        exact ⟨_, .single (.startAborts running stops.aborts), rfl⟩
    | callback live step =>
        exact ⟨_, .single (step env e2Nodes), rfl⟩
    | _ => exact ⟨_, .refl, rfl⟩

end Process

end IqosXapp.Xapp
