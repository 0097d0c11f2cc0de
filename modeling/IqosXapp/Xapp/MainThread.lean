import IqosXapp.Xapp.Interleaving

namespace IqosXapp.Xapp

open Effect Program KpmManager Transition Relation

/-!
# The main thread follows `main`

Whatever the callbacks do in between, the main thread makes the calls of the
sequential `main`.  Wherever it stands, what it has left to do is a run of its
own, and the run of `main` is what it called so far followed by that run.
-/

/-! ## What is left of `start` -/

section Start

variable
  (env : Environment)
  (e2Nodes : List E2NodeConnectedXapp)

/-- The second loop of `start` from an index on, and the end of its scope. -/
def removingLeft (hndl : List SmAnsXapp) (next : Nat) : Setup Unit := do
  loop (removeTurn hndl) (e2Nodes.length - next) next ()
  emit .freeHndl

/-- The first loop of `start` from an index on, and everything behind it. -/
def subscribingLeft (hndl : List SmAnsXapp) (next : Nat) :
    Setup Unit := do
  let block ←
    loop (subscribeTurn env e2Nodes) (e2Nodes.length - next) next hndl
  emit (.sleepFor expTime)
  removingLeft e2Nodes block 0

/-- `start` behind the initialisation of `mtx`. -/
def allocatingLeft : Setup Unit := do
  let hndl ←
    calloc env (List.replicate e2Nodes.length SmAnsXapp.zeroed)
  require hndl.isSome (.failedCheck "hndl != nullptr")
  let block ← deref hndl (.undefined (.nullDereference "hndl"))
  subscribingLeft env e2Nodes block 0

/-- What is left of `start` in each phase of its thread. -/
def startLeft : StartPhase → Run World SetupEvent Stop Unit
  | .created => start env e2Nodes World.fresh
  | .initialized => allocatingLeft env e2Nodes World.fresh
  | .subscribing world hndl next =>
      subscribingLeft env e2Nodes hndl next world

variable {env e2Nodes}

/-- `start` is its first call and what is left behind it. -/
theorem start_eq_left :
    start env e2Nodes =
      (do
        emit .pthreadMutexInit
        require (env.mutexInitRc = 0) (.failedCheck "rc == 0")
        allocatingLeft env e2Nodes) := by
  simp only [start, allocatingLeft, subscribingLeft, removingLeft, defer,
    Nat.sub_zero, bind_assoc]
  rfl

/-- One turn of the first loop. -/
theorem subscribingLeft_turn
    {next : Nat}
    {e2Node : E2NodeConnectedXapp}
    (listed : e2Nodes[next]? = some e2Node)
    (hndl : List SmAnsXapp) :
    subscribingLeft env e2Nodes hndl next =
      (do
        let filled ← subscribeNode env next e2Node hndl
        subscribingLeft env e2Nodes filled (next + 1)) := by
  obtain ⟨inside, _⟩ := List.getElem?_eq_some_iff.mp listed
  have turns :
      e2Nodes.length - next = (e2Nodes.length - (next + 1)) + 1 := by
    omega
  have read :
      subscribeTurn env e2Nodes next hndl =
        subscribeNode env next e2Node hndl := by
    rw [subscribeTurn, cell_of_some listed, pure_bind]
  simp only [subscribingLeft, turns, loop, read, bind_assoc]

/-- Behind the last node there is nothing to subscribe. -/
theorem subscribingLeft_end
    {next : Nat}
    (behind : e2Nodes.length ≤ next)
    (hndl : List SmAnsXapp) :
    subscribingLeft env e2Nodes hndl next =
      (do
        emit (.sleepFor expTime)
        removingLeft e2Nodes hndl 0) := by
  simp only [subscribingLeft, Nat.sub_eq_zero_of_le behind, loop,
    pure_bind]

/-- One turn of the second loop. -/
theorem removingLeft_turn
    {next : Nat}
    (inside : next < e2Nodes.length)
    (hndl : List SmAnsXapp) :
    removingLeft e2Nodes hndl next =
      (do
        removeTurn hndl next ()
        removingLeft e2Nodes hndl (next + 1)) := by
  have turns :
      e2Nodes.length - next = (e2Nodes.length - (next + 1)) + 1 := by
    omega
  simp only [removingLeft, turns, loop, bind_assoc]

theorem removingLeft_end
    {next : Nat}
    (behind : e2Nodes.length ≤ next)
    (hndl : List SmAnsXapp) :
    removingLeft e2Nodes hndl next = emit .freeHndl := by
  simp only [removingLeft, Nat.sub_eq_zero_of_le behind, loop, pure_bind]

/-- A step of `start` moves its calls out of what is left. -/
theorem StartEmits.left
    {phase next : StartPhase}
    {log : List SetupEvent}
    (emits : StartEmits env e2Nodes phase log next) :
    startLeft env e2Nodes phase =
      (startLeft env e2Nodes next).after log := by
  cases emits with
  | initMutex initialized =>
      simp [startLeft, start_eq_left, initialized]
  | allocHndl granted =>
      simp [startLeft, allocatingLeft, calloc, request, granted,
        World.fresh]
  | subscribe listed returns =>
      simp only [startLeft]
      rw [subscribingLeft_turn listed, bind_apply, returns.apply,
        Run.andThen_done]

/-- A failing check ends what is left of `start`. -/
theorem StartStops.left
    {phase : StartPhase}
    {log : List SetupEvent}
    {world : World}
    {why : Stop}
    (stops : StartStops env e2Nodes phase log world why) :
    startLeft env e2Nodes phase = ⟨log, world, .stop why⟩ := by
  cases stops with
  | initMutex failed =>
      simp [startLeft, start_eq_left, failed]
  | allocHndl refused =>
      simp [startLeft, allocatingLeft, calloc, request, refused,
        World.fresh, World.afterHndl]
  | subscribe listed stops =>
      simp only [startLeft]
      rw [subscribingLeft_turn listed, bind_apply, stops.apply,
        Run.andThen_stop]

end Start

/-! ## What is left of `main` -/

/-- A run inside `start`, and `main` behind it. -/
def closing
    (run : Run World SetupEvent Stop Unit)
    (later : List Bool) :
    Run World MainEvent MainStop Nat :=
  (run.embed .kpm .stopped).andThen fun _ => finish later

theorem closing_after
    (log : List SetupEvent)
    (run : Run World SetupEvent Stop Unit)
    (later : List Bool) :
    closing (run.after log) later =
      (closing run later).after (log.map .kpm) := by
  rw [closing, closing, Run.embed_after, Run.after_andThen]

theorem closing_done
    (log : List SetupEvent)
    (world : World)
    (later : List Bool) :
    closing ⟨log, world, .done ()⟩ later =
      (finish later world).after (log.map .kpm) :=
  rfl

theorem closing_stop
    (log : List SetupEvent)
    (world : World)
    (why : Stop)
    (later : List Bool) :
    closing ⟨log, world, .stop why⟩ later =
      ⟨log.map .kpm, world, .stop (.stopped why)⟩ :=
  rfl

section Thread

variable
  (env : Environment)
  (args : FrArgs)
  (e2Nodes : List E2NodeConnectedXapp)

/-- What the main thread has left to do, for the answers still to come. -/
def mainLeft (xapp : XappState) (later : List Bool) :
    Run World MainEvent MainStop Nat :=
  match xapp.main with
  | .launched => main env args e2Nodes later World.fresh
  | .subscribing =>
      closing (startLeft env e2Nodes xapp.process.starter) later
  | .removing world hndl next =>
      closing (removingLeft e2Nodes hndl next world) later
  | .polling world => finish later world
  | .returned world => ⟨[], world, .done exitSuccess⟩
  | .stopped world why => ⟨[], world, .stop why⟩

/-- The main thread as the system shows it. -/
def mainThread :
    Thread XappState Bool World MainEvent MainStop Nat where
  log xapp := xapp.calls
  consumed xapp := xapp.answers
  left := mainLeft env args e2Nodes

variable {env args e2Nodes}

/-- `start` begins behind the launch, before any other step of the process. -/
def Untouched (xapp : XappState) : Prop :=
  xapp.main = .launched → xapp.process.starter = .created

theorem untouched_inductive :
    (xapps env args e2Nodes).Inductive Untouched where
  initially := by
    rintro xapp rfl _
    rfl
  preserved := by
    intro xapp next untouched step
    cases step with
    | launch running phase connected => intro launched; cases launched
    | noNodes running phase empty => intro launched; cases launched
    | start running phase emits =>
        intro launched
        exact absurd (phase.symm.trans launched) (by simp)
    | startStops running phase stops => intro launched; cases launched
    | sleep running phase starter behind => intro launched; cases launched
    | remove running phase inside returns =>
        intro launched
        cases launched
    | removeStops running phase inside stops =>
        intro launched
        cases launched
    | freeHndl running phase behind => intro launched; cases launched
    | poll running phase => exact untouched
    | finish running phase => intro launched; cases launched
    | callback live step =>
        intro launched
        exact step.starter_eq.trans (untouched launched)

/-- Every step moves a first part of what is left into what was called. -/
theorem xappStep_advances
    {xapp next : XappState}
    (untouched : Untouched xapp)
    (step : XappStep env args e2Nodes xapp next) :
    (mainThread env args e2Nodes).Advances xapp next := by
  cases step with
  | launch running phase connected =>
      refine .of_log rfl rfl fun later => ?_
      have created := untouched phase
      simp [mainThread, mainLeft, phase, created, startLeft,
        main_connected connected, closing]
  | noNodes running phase empty =>
      refine .of_log rfl rfl fun later => ?_
      subst empty
      simp [mainThread, mainLeft, phase, main_empty]
  | start running phase emits =>
      refine .of_log rfl rfl fun later => ?_
      simp [mainThread, mainLeft, phase, emits.left, closing_after]
  | startStops running phase stops =>
      refine .of_log rfl rfl fun later => ?_
      simp [mainThread, mainLeft, phase, stops.left, closing_stop]
  | sleep running phase starter behind =>
      refine .of_log rfl rfl fun later => ?_
      simp [mainThread, mainLeft, phase, starter, startLeft,
        subscribingLeft_end behind, closing_after]
  | remove running phase inside returns =>
      refine .of_log rfl rfl fun later => ?_
      simp [mainThread, mainLeft, phase, removingLeft_turn inside,
        returns.apply, closing_after]
  | removeStops running phase inside stops =>
      refine .of_log rfl rfl fun later => ?_
      simp [mainThread, mainLeft, phase, removingLeft_turn inside,
        stops.apply, closing_stop]
  | freeHndl running phase behind =>
      refine .of_log rfl rfl fun later => ?_
      simp [mainThread, mainLeft, phase, removingLeft_end behind,
        closing_done]
  | poll running phase =>
      refine .of_input rfl rfl fun later => ?_
      simp [mainThread, mainLeft, phase, finish_false]
  | finish running phase =>
      refine .of_input rfl rfl fun later => ?_
      simp [mainThread, mainLeft, phase, finish_true]
  | callback live step =>
      refine .of_same rfl rfl ?_
      funext later
      simp [mainThread, mainLeft, step.starter_eq]

theorem mainThread_follows :
    (mainThread env args e2Nodes).Follows (xapps env args e2Nodes) where
  initially := by
    rintro xapp rfl
    exact ⟨rfl, rfl⟩
  advances := by
    intro xapp next reachable step
    exact xappStep_advances (untouched_inductive.holds reachable) step

/--
The run of the sequential `main`, at any moment of any interleaving: what the
main thread called so far, and what it has left.
-/
theorem main_eq_left
    {xapp : XappState}
    (reachable : (xapps env args e2Nodes).Reachable xapp)
    (later : List Bool) :
    main env args e2Nodes (xapp.answers ++ later) World.fresh =
      (mainLeft env args e2Nodes xapp later).after xapp.calls := by
  obtain ⟨_, rfl, sequential⟩ := mainThread_follows.reachable reachable
  exact sequential later

end Thread

end IqosXapp.Xapp
