import IqosXapp.KpmManager.Indication
import IqosXapp.KpmManager.Start
import IqosXapp.Transition.System
import Mathlib.Logic.Function.Basic

namespace IqosXapp.KpmManager

open Effect Program

/-!
# `start` and its callbacks as interleaved threads

The thread of `start` initialises `mtx` and subscribes the nodes one by one.
From then on FlexRIC may run any number of callbacks for the subscribed nodes,
each in a thread of its own.  A step of the system is one step of one thread:
of `start`, or of an invocation, which reads the time, acquires `mtx`, prints
its header, prints its lines one by one, increments `counter` and releases
`mtx` at the end of its scope.

Behind the last node the thread of `start` sleeps and removes its handles,
which no callback sees.

The lines of a message, and whether an assertion or undefined behaviour ends
its traversal, are those of `printReports`.  A failing check ends the process:
nothing steps any more.
-/

/-- The lines of a message, in order. -/
def messageLines (msg : KpmIndMsg) (counter : Nat) : List Line :=
  (printReports msg counter).log.filterMap ReportEvent.line?

/-- How the traversal of a message ends. -/
def messageOutcome (msg : KpmIndMsg) (counter : Nat) :
    Outcome Stop Unit :=
  (printReports msg counter).outcome

/-- Where the thread of `start` stands. -/
inductive StartPhase where
  | created
  | initialized
  | subscribing (world : World) (hndl : List SmAnsXapp) (next : Nat)
  deriving Repr, DecidableEq

/-- `pthread_mutex_init` has returned successfully. -/
def StartPhase.mtxInitialized : StartPhase → Bool
  | .created => false
  | _ => true

/-- The node's slot of `hndl` holds a successful reply. -/
def StartPhase.Subscribed (phase : StartPhase) (node : Nat) : Prop :=
  match phase with
  | .subscribing _ hndl _ =>
      ∃ slot, hndl[node]? = some slot ∧ slot.success = true
  | _ => False

/-- Where an invocation of `sm_cb_kpm` stands. -/
inductive Phase where
  | entered
  | timed
  | locked
  | printing (rest : List Line)
  | counted
  | finished
  deriving Repr, DecidableEq

/-- The invocation is between acquire and release. -/
def Phase.holdsMtx : Phase → Bool
  | .locked => true
  | .printing _ => true
  | .counted => true
  | _ => false

/-- One invocation of `sm_cb_kpm`; the latency is zero until it is computed. -/
structure Invocation where
  node : Nat
  ind : KpmIndData
  latency : UInt64
  phase : Phase
  deriving Repr, DecidableEq

/-- One acquisition of `mtx`: by whom, and what its block will show. -/
structure Acquisition where
  invocation : Nat
  ind : KpmIndData
  latency : UInt64
  deriving Repr, DecidableEq

/--
The process.  `acquisitions` records who acquired `mtx`, in order; no step
reads it.
-/
structure Process where
  starter : StartPhase
  holder : Option Nat
  counter : Nat
  invocations : Nat → Option Invocation
  output : List ReportEvent
  acquisitions : List Acquisition
  aborted : Bool

namespace Process

/-- The process before `start` is called. -/
def initial : Process where
  starter := .created
  holder := none
  counter := 1
  invocations _ := none
  output := []
  acquisitions := []
  aborted := false

/-- Record where an invocation stands. -/
def place (process : Process) (id : Nat) (invocation : Invocation) :
    Process :=
  { process with
    invocations :=
      Function.update process.invocations id (some invocation) }

section Place

variable
  (process : Process)
  (id : Nat)
  (invocation : Invocation)

@[simp] theorem place_starter :
    (process.place id invocation).starter = process.starter :=
  rfl

@[simp] theorem place_holder :
    (process.place id invocation).holder = process.holder :=
  rfl

@[simp] theorem place_counter :
    (process.place id invocation).counter = process.counter :=
  rfl

@[simp] theorem place_output :
    (process.place id invocation).output = process.output :=
  rfl

@[simp] theorem place_acquisitions :
    (process.place id invocation).acquisitions = process.acquisitions :=
  rfl

@[simp] theorem place_aborted :
    (process.place id invocation).aborted = process.aborted :=
  rfl

@[simp] theorem place_invocations_self :
    (process.place id invocation).invocations id = some invocation := by
  simp [place]

theorem place_invocations_of_ne
    {other : Nat}
    (distinct : other ≠ id) :
    (process.place id invocation).invocations other =
      process.invocations other := by
  simp [place, Function.update_of_ne distinct]

@[simp] theorem place_place (later : Invocation) :
    (process.place id invocation).place id later =
      process.place id later := by
  simp [place]

theorem place_of_present
    (present : process.invocations id = some invocation) :
    process.place id invocation = process := by
  rw [place, ← present, Function.update_eq_self]

end Place

/-- The invocation could acquire `mtx` now. -/
structure CanAcquire
    (process : Process)
    (id : Nat)
    (invocation : Invocation) : Prop where
  running : process.aborted = false
  free : process.holder = none
  present : process.invocations id = some invocation
  timed : invocation.phase = .timed

/-- The process after this acquisition. -/
def acquire (process : Process) (id : Nat) (invocation : Invocation) :
    Process :=
  { process.place id { invocation with phase := .locked } with
    holder := some id
    acquisitions :=
      process.acquisitions ++
        [⟨id, invocation.ind, invocation.latency⟩] }

end Process

section Steps

variable
  (env : Environment)
  (e2Nodes : List E2NodeConnectedXapp)

/-- One step of the thread of `start`. -/
inductive StartStep : StartPhase → StartPhase → Prop where
  | initMutex
      (initialized : env.mutexInitRc = 0) :
      StartStep .created .initialized
  | allocHndl
      (granted : env.memory 0 = true) :
      StartStep .initialized
        (.subscribing ⟨1, 0⟩
          (List.replicate e2Nodes.length SmAnsXapp.zeroed) 0)
  | subscribe
      {world after : World}
      {hndl filled : List SmAnsXapp}
      {next : Nat}
      {e2Node : E2NodeConnectedXapp}
      {log : List SetupEvent}
      (listed : e2Nodes[next]? = some e2Node)
      (returns :
        Returns (subscribeNode env next e2Node hndl) world
          log after filled) :
      StartStep (.subscribing world hndl next)
        (.subscribing after filled (next + 1))

/-- The next step of the thread of `start` fails a check. -/
inductive StartAborts : StartPhase → Prop where
  | initMutex
      (failed : env.mutexInitRc ≠ 0) :
      StartAborts .created
  | allocHndl
      (refused : env.memory 0 = false) :
      StartAborts .initialized
  | subscribe
      {world after : World}
      {hndl : List SmAnsXapp}
      {next : Nat}
      {e2Node : E2NodeConnectedXapp}
      {log : List SetupEvent}
      {why : Stop}
      (listed : e2Nodes[next]? = some e2Node)
      (stops :
        Stops (subscribeNode env next e2Node hndl) world
          log after why) :
      StartAborts (.subscribing world hndl next)

/-- One step of one thread. -/
inductive ProcessStep : Process → Process → Prop where
  | start
      {process : Process}
      {phase : StartPhase}
      (running : process.aborted = false)
      (step : StartStep env e2Nodes process.starter phase) :
      ProcessStep process { process with starter := phase }
  | startAborts
      {process : Process}
      (running : process.aborted = false)
      (aborts : StartAborts env e2Nodes process.starter) :
      ProcessStep process { process with aborted := true }
  | invoke
      {process : Process}
      (id node : Nat)
      (ind : KpmIndData)
      (running : process.aborted = false)
      (subscribed : process.starter.Subscribed node)
      (fresh : process.invocations id = none) :
      ProcessStep process (process.place id ⟨node, ind, 0, .entered⟩)
  | rejectAnswer
      {process : Process}
      (node : Nat)
      (rd : Option SmAgIfRd)
      (running : process.aborted = false)
      (subscribed : process.starter.Subscribed node)
      (rejected : ∀ ind, rd ≠ indicationAnswer ind) :
      ProcessStep process { process with aborted := true }
  | readTime
      {process : Process}
      {id : Nat}
      {invocation : Invocation}
      (now : UInt64)
      (running : process.aborted = false)
      (present : process.invocations id = some invocation)
      (phase : invocation.phase = .entered) :
      ProcessStep process
        (process.place id
          { invocation with
            latency := now - invocation.ind.hdr.collectStartTime
            phase := .timed })
  | acquire
      {process : Process}
      {id : Nat}
      {invocation : Invocation}
      (can : process.CanAcquire id invocation) :
      ProcessStep process (process.acquire id invocation)
  | printHeader
      {process : Process}
      {id : Nat}
      {invocation : Invocation}
      (running : process.aborted = false)
      (present : process.invocations id = some invocation)
      (phase : invocation.phase = .locked) :
      ProcessStep process
        { process.place id
            { invocation with
              phase :=
                .printing
                  (messageLines invocation.ind.msg process.counter) } with
          output :=
            process.output ++
              [.header process.counter invocation.latency] }
  | printLine
      {process : Process}
      {id : Nat}
      {invocation : Invocation}
      {line : Line}
      {rest : List Line}
      (running : process.aborted = false)
      (present : process.invocations id = some invocation)
      (phase : invocation.phase = .printing (line :: rest)) :
      ProcessStep process
        { process.place id { invocation with phase := .printing rest } with
          output := process.output ++ [.line line] }
  | increment
      {process : Process}
      {id : Nat}
      {invocation : Invocation}
      (running : process.aborted = false)
      (present : process.invocations id = some invocation)
      (phase : invocation.phase = .printing [])
      (traversed :
        messageOutcome invocation.ind.msg process.counter = .done ())
      (room : process.counter < intMax) :
      ProcessStep process
        { process.place id { invocation with phase := .counted } with
          counter := process.counter + 1 }
  | overflow
      {process : Process}
      {id : Nat}
      {invocation : Invocation}
      (running : process.aborted = false)
      (present : process.invocations id = some invocation)
      (phase : invocation.phase = .printing [])
      (traversed :
        messageOutcome invocation.ind.msg process.counter = .done ())
      (full : ¬process.counter < intMax) :
      ProcessStep process { process with aborted := true }
  | abortMessage
      {process : Process}
      {id : Nat}
      {invocation : Invocation}
      {why : Stop}
      (running : process.aborted = false)
      (present : process.invocations id = some invocation)
      (phase : invocation.phase = .printing [])
      (stopped :
        messageOutcome invocation.ind.msg process.counter = .stop why) :
      ProcessStep process { process with aborted := true }
  | release
      {process : Process}
      {id : Nat}
      {invocation : Invocation}
      (running : process.aborted = false)
      (present : process.invocations id = some invocation)
      (phase : invocation.phase = .counted) :
      ProcessStep process
        { process.place id { invocation with phase := .finished } with
          holder := none }

/-- All interleavings of `start` and its callbacks. -/
def processes : Transition.System Process where
  initial process := process = Process.initial
  step := ProcessStep env e2Nodes

end Steps

end IqosXapp.KpmManager
