import IqosXapp.KpmManager.SubscriptionLifecycle
import IqosXapp.Xapp.MainThread

namespace IqosXapp.Xapp

open Effect Program KpmManager Transition Relation

/-!
# How the xApp shuts down

From wherever the main thread stands, it can run to the end that the sequential
`main` has, and the callbacks cannot keep it from that.  When it frees the E2
nodes, every handle that it was granted has been removed.
-/

section Shutdown

variable
  {env : Environment}
  {args : FrArgs}
  {e2Nodes : List E2NodeConnectedXapp}
  {xapp : XappState}

/-! ## Progress of the main thread -/

/-- Only the thread of `start` may have moved in the process. -/
def XappState.SameCallbacks (xapp next : XappState) : Prop :=
  ∃ starter, next.process = { xapp.process with starter := starter }

theorem XappState.SameCallbacks.trans
    {middle next : XappState}
    (first : xapp.SameCallbacks middle)
    (second : middle.SameCallbacks next) :
    xapp.SameCallbacks next := by
  obtain ⟨_, before⟩ := first
  obtain ⟨starter, behind⟩ := second
  exact ⟨starter, by rw [behind, before]⟩

theorem XappState.SameCallbacks.aborted
    {next : XappState}
    (same : xapp.SameCallbacks next) :
    next.process.aborted = xapp.process.aborted := by
  obtain ⟨_, process⟩ := same
  rw [process]

/-- How many steps `start` has left before its sleep. -/
def startSize (nodes : Nat) : StartPhase → Nat
  | .created => nodes + 2
  | .initialized => nodes + 1
  | .subscribing _ _ next => nodes - next

/-- How many steps the main thread has left against these answers. -/
def mainSize (nodes : Nat) (xapp : XappState) (later : List Bool) : Nat :=
  match xapp.main with
  | .launched => 2 * nodes + later.length + 6
  | .subscribing =>
      startSize nodes xapp.process.starter + nodes + later.length + 3
  | .removing _ _ next => nodes - next + later.length + 2
  | .polling _ => later.length + 1
  | .returned _ => later.length
  | .stopped _ _ => later.length

/-- A run inside `start` that lets `main` return has returned itself. -/
theorem closing_returns
    {run : Run World SetupEvent Stop Unit}
    {later : List Bool}
    {log : List MainEvent}
    {final : World}
    {code : Nat}
    (returns : closing run later = ⟨log, final, .done code⟩) :
    ∃ early late middle,
      run = ⟨early, middle, .done ()⟩ ∧
        Returns (finish later) middle late final code ∧
        log = early.map .kpm ++ late := by
  rcases run with ⟨early, middle, outcome⟩
  cases outcome with
  | stop why =>
      rw [closing_stop] at returns
      cases returns
  | done value =>
      rcases tail : finish later middle with ⟨late, last, outcome⟩
      rw [closing_done, tail, Run.after_mk] at returns
      cases returns
      exact ⟨early, late, middle, rfl, tail, rfl⟩

/-- Where `start` returns, its next step is no failing check. -/
theorem startEmits_of_returns
    {phase : StartPhase}
    {log : List SetupEvent}
    {final : World}
    (returns :
      startLeft env e2Nodes phase = ⟨log, final, .done ()⟩) :
    (∃ world hndl next,
        phase = .subscribing world hndl next ∧
          e2Nodes.length ≤ next) ∨
      ∃ early next,
        StartEmits env e2Nodes phase early next ∧
          startSize e2Nodes.length next <
            startSize e2Nodes.length phase := by
  have fails
      {early : List SetupEvent}
      {world : World}
      {why : Stop}
      (stops : StartStops env e2Nodes phase early world why) :
      False := by
    have stopped := stops.left.symm.trans returns
    cases stopped
  cases phase with
  | created =>
      by_cases initialized : env.mutexInitRc = 0
      · exact .inr ⟨_, _, .initMutex initialized, Nat.lt_succ_self _⟩
      · exact (fails (.initMutex initialized)).elim
  | initialized =>
      cases granted : env.memory 0 with
      | false => exact (fails (.allocHndl granted)).elim
      | true => exact .inr ⟨_, _, .allocHndl granted, Nat.lt_succ_self _⟩
  | subscribing world hndl next =>
      by_cases inside : next < e2Nodes.length
      · have listed := List.getElem?_eq_getElem inside
        rcases node :
            subscribeNode env next e2Nodes[next] hndl world with
          ⟨early, after, outcome⟩
        cases outcome with
        | done filled =>
            refine .inr ⟨_, _, .subscribe listed node, ?_⟩
            simp only [startSize]
            omega
        | stop why =>
            exact (fails (.subscribe listed node)).elim
      · exact .inl ⟨world, hndl, next, rfl, Nat.le_of_not_lt inside⟩

/-- Where the second loop returns, its next turn does. -/
theorem removeTurn_of_returns
    {world final : World}
    {hndl : List SmAnsXapp}
    {next : Nat}
    {log : List SetupEvent}
    (inside : next < e2Nodes.length)
    (returns :
      Returns (removingLeft e2Nodes hndl next) world log final ()) :
    ∃ early after,
      Returns (removeTurn hndl next ()) world early after () := by
  rw [removingLeft_turn inside] at returns
  obtain ⟨early, _, middle, _, turn, _, _⟩ := returns.of_bind
  exact ⟨early, middle, turn⟩

variable (env args e2Nodes) in
/-- A step of the main thread that brings it nearer to its end. -/
def StepsNearer (xapp : XappState) (later : List Bool) : Prop :=
  ∃ next used rest,
    XappStep env args e2Nodes xapp next ∧
      xapp.SameCallbacks next ∧
      later = used ++ rest ∧
      next.answers = xapp.answers ++ used ∧
      mainSize e2Nodes.length next rest <
        mainSize e2Nodes.length xapp later

/-- A step without an answer of `try_stop_xapp_api`. -/
theorem StepsNearer.of_step
    {next : XappState}
    {later : List Bool}
    (step : XappStep env args e2Nodes xapp next)
    (same : xapp.SameCallbacks next)
    (answers : next.answers = xapp.answers)
    (lower :
      mainSize e2Nodes.length next later <
        mainSize e2Nodes.length xapp later) :
    StepsNearer env args e2Nodes xapp later :=
  ⟨next, [], later, step, same, rfl,
    by rw [answers, List.append_nil], lower⟩

section StepsNearer

variable
  {later : List Bool}
  {log : List MainEvent}
  {final : World}
  {code : Nat}
  (running : xapp.process.aborted = false)

include running

theorem stepsNearer_launched
    (phase : xapp.main = .launched)
    (untouched : Untouched xapp)
    (returns :
      main env args e2Nodes later World.fresh =
        ⟨log, final, .done code⟩) :
    StepsNearer env args e2Nodes xapp later := by
  rcases Nat.eq_zero_or_pos e2Nodes.length with none | connected
  · obtain rfl := List.eq_nil_of_length_eq_zero none
    rw [main_empty] at returns
    cases returns
  · refine .of_step (.launch running phase connected) ⟨_, rfl⟩ rfl ?_
    simp only [mainSize, phase, untouched phase, startSize]
    omega

theorem stepsNearer_subscribing
    (phase : xapp.main = .subscribing)
    (returns :
      closing (startLeft env e2Nodes xapp.process.starter) later =
        ⟨log, final, .done code⟩) :
    StepsNearer env args e2Nodes xapp later := by
  obtain ⟨_, _, _, started, _, _⟩ := closing_returns returns
  rcases startEmits_of_returns started with
    ⟨world, hndl, next, starter, behind⟩ |
      ⟨early, next, emits, lower⟩
  · refine .of_step (.sleep running phase starter behind) ⟨_, rfl⟩
      rfl ?_
    simp only [mainSize, phase, starter, startSize]
    omega
  · refine .of_step (.start running phase emits) ⟨_, rfl⟩ rfl ?_
    simp only [mainSize, phase]
    omega

theorem stepsNearer_removing
    {world : World}
    {hndl : List SmAnsXapp}
    {next : Nat}
    (phase : xapp.main = .removing world hndl next)
    (returns :
      closing (removingLeft e2Nodes hndl next world) later =
        ⟨log, final, .done code⟩) :
    StepsNearer env args e2Nodes xapp later := by
  obtain ⟨_, _, _, removed, _, _⟩ := closing_returns returns
  by_cases inside : next < e2Nodes.length
  · obtain ⟨early, after, turn⟩ := removeTurn_of_returns inside removed
    refine .of_step (.remove running phase inside turn) ⟨_, rfl⟩ rfl ?_
    simp only [mainSize, phase]
    omega
  · refine .of_step (.freeHndl running phase (Nat.le_of_not_lt inside))
      ⟨_, rfl⟩ rfl ?_
    simp only [mainSize, phase]
    omega

theorem stepsNearer_polling
    {world : World}
    (phase : xapp.main = .polling world)
    (returns : finish later world = ⟨log, final, .done code⟩) :
    StepsNearer env args e2Nodes xapp later := by
  cases later with
  | nil =>
      rw [finish_nil] at returns
      cases returns
  | cons answer rest =>
      cases answer with
      | false =>
          refine ⟨_, [false], rest, .poll running phase, ⟨_, rfl⟩,
            rfl, rfl, ?_⟩
          simp [mainSize, phase]
      | true =>
          refine ⟨_, [true], rest, .finish running phase, ⟨_, rfl⟩,
            rfl, rfl, ?_⟩
          simp only [mainSize, phase, List.length_cons]
          omega

/-- The main thread has a step wherever what it has left returns. -/
theorem mainThread_steps
    (untouched : Untouched xapp)
    (going : xapp.main.live = true)
    (returns :
      mainLeft env args e2Nodes xapp later =
        ⟨log, final, .done code⟩) :
    StepsNearer env args e2Nodes xapp later := by
  simp only [mainLeft] at returns
  cases phase : xapp.main with
  | launched =>
      simp only [phase] at returns
      exact stepsNearer_launched running phase untouched returns
  | subscribing =>
      simp only [phase] at returns
      exact stepsNearer_subscribing running phase returns
  | removing world hndl next =>
      simp only [phase] at returns
      exact stepsNearer_removing running phase returns
  | polling world =>
      simp only [phase] at returns
      exact stepsNearer_polling running phase returns
  | returned world =>
      rw [phase] at going
      cases going
  | stopped world why =>
      rw [phase] at going
      cases going

end StepsNearer

/-- The main thread can run to the end that `main` has, alone. -/
def mainThread_progress (first : XappState) :
    (mainThread env args e2Nodes).Progress (xapps env args e2Nodes)
      (fun xapp =>
        xapp.process.aborted = false ∧ first.SameCallbacks xapp)
      (fun xapp => xapp.main.live = false) where
  measure := mainSize e2Nodes.length
  progress reachable running going returns := by
    obtain ⟨next, used, rest, step, same, split, answers, lower⟩ :=
      mainThread_steps running.1 (untouched_inductive.holds reachable)
        (by simpa using going) returns
    exact ⟨next, used, rest, step,
      ⟨same.aborted.trans running.1, running.2.trans same⟩, split,
      answers, lower⟩

/-- Where `main` returns, the main thread can run to its end alone. -/
theorem mainThread_finishes
    {later : List Bool}
    {log : List MainEvent}
    {final : World}
    {code : Nat}
    (reachable : (xapps env args e2Nodes).Reachable xapp)
    (running : xapp.process.aborted = false)
    (returns :
      mainLeft env args e2Nodes xapp later =
        ⟨log, final, .done code⟩) :
    ∃ next used rest,
      ReflTransGen (XappStep env args e2Nodes) xapp next ∧
        xapp.SameCallbacks next ∧
        next.main = .returned final ∧
        later = used ++ rest ∧
        next.answers = xapp.answers ++ used ∧
        next.calls = xapp.calls ++ log := by
  obtain ⟨next, used, rest, late, left, run, ⟨_, same⟩, finished, split,
      answers, calls, rfl, last⟩ :=
    (mainThread_progress xapp).finishes mainThread_follows reachable
      ⟨running, _, rfl⟩ returns
  simp only [Thread.ReturnsFrom, mainThread, mainLeft] at last
  cases phase : next.main with
  | returned world =>
      simp only [phase, Run.mk.injEq] at last
      obtain ⟨rfl, rfl, _⟩ := last
      exact ⟨next, used, rest, run, same, phase, split, answers,
        by rwa [List.append_nil]⟩
  | stopped world why =>
      simp [phase] at last
  | _ =>
      rw [phase] at finished
      cases finished

/-! ## Both directions -/

/-- What the sequential `main` does is what the main thread does. -/
theorem mainThread_refines :
    (∀ xapp,
        (xapps env args e2Nodes).Reachable xapp →
        (∀ later,
            xapp.calls <+:
              (main env args e2Nodes (xapp.answers ++ later)
                World.fresh).log) ∧
          (∀ final,
            xapp.main = .returned final →
            main env args e2Nodes xapp.answers World.fresh =
              ⟨xapp.calls, final, .done exitSuccess⟩) ∧
          ∀ final why,
            xapp.main = .stopped final why →
            main env args e2Nodes xapp.answers World.fresh =
              ⟨xapp.calls, final, .stop why⟩) ∧
      ∀ answers log final code,
        main env args e2Nodes answers World.fresh =
          ⟨log, final, .done code⟩ →
        ∃ xapp rest,
          (xapps env args e2Nodes).Reachable xapp ∧
            xapp.main = .returned final ∧
            xapp.calls = log ∧
            answers = xapp.answers ++ rest := by
  refine ⟨fun xapp reachable => ⟨fun later => ?_, fun final phase => ?_,
    fun final why phase => ?_⟩, fun answers log final code returns => ?_⟩
  · rw [main_eq_left reachable later]
    exact List.prefix_append _ _
  · have sequential := main_eq_left reachable []
    rw [List.append_nil] at sequential
    simpa [mainLeft, phase] using sequential
  · have sequential := main_eq_left reachable []
    rw [List.append_nil] at sequential
    simpa [mainLeft, phase] using sequential
  · have left :
        mainLeft env args e2Nodes XappState.initial answers =
          ⟨log, final, .done code⟩ :=
      returns
    obtain ⟨next, used, rest, run, _, phase, split, consumed, calls⟩ :=
      mainThread_finishes initial_reachable rfl left
    refine ⟨next, rest, initial_reachable.run run, phase, calls, ?_⟩
    rw [split, consumed]
    rfl

/-- One node, and an answer that lets `main` return. -/
theorem mainThread_refines_gnb :
    ∃ xapp rest,
      (xapps Environment.ideal ⟨"127.0.0.1"⟩ [gnbNode]).Reachable xapp ∧
        xapp.main = .returned ⟨10, 1⟩ ∧
        [false, true, false] = xapp.answers ++ rest := by
  have returns :
      main Environment.ideal ⟨"127.0.0.1"⟩ [gnbNode]
          [false, true, false] World.fresh =
        ⟨_, ⟨10, 1⟩, .done exitSuccess⟩ :=
    rfl
  obtain ⟨xapp, rest, reachable, phase, _, answers⟩ :=
    mainThread_refines.2 _ _ _ _ returns
  exact ⟨xapp, rest, reachable, phase, answers⟩

/-! ## Handles -/

/-- The calls that `start` made. -/
def MainEvent.setup? : MainEvent → Option SetupEvent
  | .kpm event => some event
  | _ => none

/-- The calls of `start` among those of `main`. -/
def setupCalls (calls : List MainEvent) : List SetupEvent :=
  calls.filterMap MainEvent.setup?

@[simp] theorem setupCalls_append (calls later : List MainEvent) :
    setupCalls (calls ++ later) = setupCalls calls ++ setupCalls later :=
  List.filterMap_append

@[simp] theorem setupCalls_kpm (log : List SetupEvent) :
    setupCalls (log.map .kpm) = log := by
  induction log with
  | nil =>
      rfl
  | cons event rest inductionHypothesis =>
      exact congrArg (event :: ·) inductionHypothesis

@[simp] theorem setupCalls_launchEvents :
    setupCalls (launchEvents args) = [] :=
  rfl

/-- Behind `start`, `main` makes no call of `start`. -/
theorem setupCalls_finish (answers : List Bool) (world : World) :
    setupCalls (finish answers world).log = [] := by
  induction answers with
  | nil =>
      rfl
  | cons answer rest inductionHypothesis =>
      cases answer with
      | true =>
          rfl
      | false =>
          rw [finish_false]
          exact inductionHypothesis

/-- The calls of `start` in a run of `main` are those of a run of `start`. -/
theorem setupCalls_main (answers : List Bool) :
    setupCalls (main env args e2Nodes answers World.fresh).log =
      if e2Nodes = [] then [] else (start env e2Nodes World.fresh).log := by
  split
  · rename_i none
    subst none
    rw [main_empty]
    rfl
  · rename_i some
    rw [main_connected (List.length_pos_iff.mpr some)]
    rcases start env e2Nodes World.fresh with ⟨log, world, outcome⟩
    cases outcome with
    | done value =>
        simp [Run.after, setupCalls_finish]
    | stop why =>
        simp [Run.after]

/-- When `main` returns, so did `start`, with the same calls. -/
theorem start_of_main_returns
    {answers : List Bool}
    {log : List MainEvent}
    {final : World}
    {code : Nat}
    (returns :
      main env args e2Nodes answers World.fresh =
        ⟨log, final, .done code⟩) :
    ∃ early middle,
      Returns (start env e2Nodes) World.fresh early middle () ∧
        setupCalls log = early := by
  rcases List.eq_nil_or_concat e2Nodes with rfl | ⟨_, _, connected⟩
  · rw [main_empty] at returns
    cases returns
  · have some : 0 < e2Nodes.length := by
      simp [connected]
    have calls : setupCalls (main env args e2Nodes answers _).log = _ :=
      setupCalls_main answers
    rw [returns, if_neg (List.length_pos_iff.mp some)] at calls
    rw [main_connected some] at returns
    rcases run : start env e2Nodes World.fresh with
      ⟨early, middle, outcome⟩
    cases outcome with
    | done value =>
        rw [run] at calls
        exact ⟨early, middle, run, calls⟩
    | stop why =>
        rw [run] at returns
        cases returns

/-- When `start` returns, no check failed. -/
theorem completes_of_returns
    {log : List SetupEvent}
    {final : World}
    (returns : Returns (start env e2Nodes) World.fresh log final ()) :
    env.mutexInitRc = 0 ∧
      env.memory 0 = true ∧
      Completes env World.afterHndl e2Nodes := by
  by_cases initialized : env.mutexInitRc = 0
  · cases allocated : env.memory 0 with
    | false =>
        cases (start_stops_of_hndl initialized
          allocated).apply.symm.trans returns.apply
    | true =>
        refine ⟨initialized, rfl, ?_⟩
        by_contra fails
        obtain ⟨early, last, why, stops, _⟩ :=
          subscribeNodes_stops fails []
        rw [List.length_nil, List.nil_append] at stops
        cases (start_stops_of_nodes initialized allocated
          stops).apply.symm.trans returns.apply
  · cases (start_stops_of_mutex initialized).apply.symm.trans
      returns.apply

/-- When `start` returns, it removed what it was granted, in order. -/
theorem removed_eq_granted
    {log : List SetupEvent}
    {final : World}
    (returns : Returns (start env e2Nodes) World.fresh log final ()) :
    removed log = granted log := by
  obtain ⟨initialized, allocated, completes⟩ :=
    completes_of_returns returns
  have run := start_returns initialized allocated completes
  obtain ⟨rfl, _⟩ := Run.mk.inj (returns.apply.symm.trans run.apply)
  have noGrant (hndl : List SmAnsXapp) :
      granted (removals hndl) = [] := by
    simp [granted, removals]
  simp only [granted_append, removed_append, noGrant,
    granted_nodesEvents completes, removed_nodesEvents]
  simp [granted, removed]

theorem removed_mono
    {part log : List SetupEvent}
    (first : part <+: log) :
    removed part <+: removed log :=
  first.filterMap _

/-- A log without removals has no removals in a first part. -/
theorem removed_prefix_of_noRemoval
    {part log : List SetupEvent}
    (first : part <+: log)
    (noRemoval : removed log = []) :
    removed part <+: granted part := by
  have fewer := removed_mono first
  rw [noRemoval, List.prefix_nil] at fewer
  rw [fewer]
  exact List.nil_prefix

/-- Behind the subscriptions, handles are removed in order. -/
theorem removed_prefix_of_completes
    {part : List SetupEvent}
    (completes : Completes env World.afterHndl e2Nodes)
    (first :
      part <+:
        (.pthreadMutexInit ::
            nodesEvents env World.afterHndl e2Nodes ++
              [.sleepFor expTime]) ++
          (removals (slots env World.afterHndl e2Nodes) ++
            [.freeHndl])) :
    removed part <+: granted part := by
  have noRemoval :
      removed
          (.pthreadMutexInit ::
            nodesEvents env World.afterHndl e2Nodes ++
              [.sleepFor expTime]) =
        [] := by
    rw [List.cons_append, ← List.singleton_append]
    simp only [removed_append, removed_nodesEvents]
    rfl
  rcases List.prefix_or_prefix_of_prefix first
      (List.prefix_append _ _) with subscribing | removing
  · exact removed_prefix_of_noRemoval subscribing noRemoval
  · obtain ⟨rest, rfl⟩ := removing
    have later := removed_mono ((List.prefix_append_right_inj _).mp first)
    rw [removed_append, ← granted_nodesEvents completes] at later
    rw [removed_append, noRemoval, List.nil_append, granted_append]
    refine (later.trans ?_).trans (List.prefix_append _ _)
    have sleepless (events : List SetupEvent) :
        granted (.pthreadMutexInit :: events ++ [.sleepFor expTime]) =
          granted events := by
      simp [granted]
    rw [sleepless]
    simp [removed]

/--
At every moment of a run of `start`, the handles removed so far are the first
ones that were granted.
-/
theorem removed_prefix_granted
    {part : List SetupEvent}
    (first : part <+: (start env e2Nodes World.fresh).log) :
    removed part <+: granted part := by
  by_cases initialized : env.mutexInitRc = 0
  · cases allocated : env.memory 0 with
    | false =>
        rw [(start_stops_of_hndl initialized allocated).apply] at first
        exact removed_prefix_of_noRemoval first rfl
    | true =>
        by_cases completes : Completes env World.afterHndl e2Nodes
        · rw [(start_returns initialized allocated completes).apply]
            at first
          exact removed_prefix_of_completes completes
            (by simpa using first)
        · obtain ⟨log, last, why, stops, _⟩ :=
            subscribeNodes_stops completes []
          rw [List.length_nil, List.nil_append] at stops
          have noRemoval :
              removed
                  (subscribeNodes env e2Nodes 0
                    (List.replicate e2Nodes.length SmAnsXapp.zeroed)
                    World.afterHndl).log = [] :=
            removed_subscribeNodes ..
          rw [stops.apply] at noRemoval
          rw [(start_stops_of_nodes initialized allocated stops).apply]
            at first
          refine removed_prefix_of_noRemoval first ?_
          rw [removed_append, noRemoval]
          rfl
  · rw [(start_stops_of_mutex initialized).apply] at first
    exact removed_prefix_of_noRemoval first rfl

/-! ## The end of the scope -/

/--
The E2 nodes are freed as the last call of a main thread that returned, behind
the first answer that was `true`.
-/
def Accounted (xapp : XappState) : Prop :=
  match xapp.main with
  | .returned _ =>
      ∃ before polls,
        xapp.calls = before ++ [.freeE2NodeArrXapp] ∧
          .freeE2NodeArrXapp ∉ before ∧
          xapp.answers = List.replicate polls false ++ [true]
  | _ =>
      .freeE2NodeArrXapp ∉ xapp.calls ∧
        ∃ polls, xapp.answers = List.replicate polls false

/-- A main thread that has not returned has not freed the nodes. -/
theorem Accounted.unreturned
    (accounted : Accounted xapp)
    (unreturned : ∀ final, xapp.main ≠ .returned final) :
    .freeE2NodeArrXapp ∉ xapp.calls ∧
      ∃ polls, xapp.answers = List.replicate polls false := by
  cases phase : xapp.main with
  | returned final => exact (unreturned final phase).elim
  | _ => simpa only [Accounted, phase] using accounted

/-- Calls without the last one keep the account of a thread that goes on. -/
theorem Accounted.call
    {next : XappState}
    {late : List MainEvent}
    (accounted : Accounted xapp)
    (before : ∀ final, xapp.main ≠ .returned final)
    (unreturned : ∀ final, next.main ≠ .returned final)
    (calls : next.calls = xapp.calls ++ late)
    (answers : next.answers = xapp.answers)
    (other : .freeE2NodeArrXapp ∉ late) :
    Accounted next := by
  obtain ⟨unfreed, polls, same⟩ := accounted.unreturned before
  have kept :
      .freeE2NodeArrXapp ∉ next.calls ∧
        ∃ polls, next.answers = List.replicate polls false := by
    rw [calls, answers]
    exact ⟨by simp [unfreed, other], polls, same⟩
  cases phase : next.main with
  | returned final => exact (unreturned final phase).elim
  | _ => simpa only [Accounted, phase] using kept

theorem accounted_inductive :
    (xapps env args e2Nodes).Inductive Accounted where
  initially := by
    rintro xapp rfl
    exact ⟨by simp [XappState.initial], 0, rfl⟩
  preserved := by
    intro xapp next accounted step
    cases step with
    | launch running phase connected =>
        exact accounted.call (by simp [phase]) (by simp) rfl rfl
          (by simp [launchEvents])
    | noNodes running phase empty =>
        exact accounted.call (by simp [phase]) (by simp) rfl rfl
          (by simp [launchEvents])
    | start running phase emits =>
        exact accounted.call (by simp [phase]) (by simp [phase]) rfl rfl
          (by simp)
    | startStops running phase stops =>
        exact accounted.call (by simp [phase]) (by simp) rfl rfl (by simp)
    | sleep running phase starter behind =>
        exact accounted.call (by simp [phase]) (by simp) rfl rfl (by simp)
    | remove running phase inside returns =>
        exact accounted.call (by simp [phase]) (by simp) rfl rfl (by simp)
    | removeStops running phase inside stops =>
        exact accounted.call (by simp [phase]) (by simp) rfl rfl (by simp)
    | freeHndl running phase behind =>
        exact accounted.call (by simp [phase]) (by simp) rfl rfl (by simp)
    | poll running phase =>
        obtain ⟨unfreed, polls, same⟩ :=
          accounted.unreturned (by simp [phase])
        simp only [Accounted, phase]
        refine ⟨by simp [unfreed, pollEvents], polls + 1, ?_⟩
        rw [same, List.replicate_succ']
    | finish running phase =>
        obtain ⟨unfreed, polls, same⟩ :=
          accounted.unreturned (by simp [phase])
        refine ⟨xapp.calls ++
          [.tryStopXappApi true, .logInfo "xapp finished!"], polls, ?_,
          by simp [unfreed], by rw [same]⟩
        simp [finishEvents]
    | callback live step =>
        exact accounted

/--
In every reachable state the removed handles are the first ones that were
granted.  Once the E2 nodes are freed, that was the last call and the only one
of its kind, the main thread has returned, the RIC allowed it to stop at its
last answer, and every granted handle has been removed.
-/
theorem freed_accounted
    (reachable : (xapps env args e2Nodes).Reachable xapp) :
    removed (setupCalls xapp.calls) <+: granted (setupCalls xapp.calls) ∧
      (.freeE2NodeArrXapp ∈ xapp.calls →
        (∃ final, xapp.main = .returned final) ∧
          (∃ before,
            xapp.calls = before ++ [.freeE2NodeArrXapp] ∧
              .freeE2NodeArrXapp ∉ before) ∧
          (∃ polls,
            xapp.answers = List.replicate polls false ++ [true]) ∧
          removed (setupCalls xapp.calls) =
            granted (setupCalls xapp.calls)) := by
  have accounted := accounted_inductive.holds reachable
  have sequential := main_eq_left reachable []
  rw [List.append_nil] at sequential
  constructor
  · have calls :
        setupCalls xapp.calls <+:
          setupCalls
            (main env args e2Nodes xapp.answers World.fresh).log := by
      rw [sequential]
      exact (Run.log_prefix_after _ _).filterMap _
    rw [setupCalls_main] at calls
    split at calls
    · rw [List.prefix_nil.mp calls]
      exact List.nil_prefix
    · exact removed_prefix_granted calls
  · intro freed
    cases phase : xapp.main with
    | returned final =>
        simp only [Accounted, phase] at accounted
        obtain ⟨before, polls, calls, once, answers⟩ := accounted
        refine ⟨⟨final, rfl⟩, ⟨before, calls, once⟩, ⟨polls, answers⟩, ?_⟩
        have run :
            main env args e2Nodes xapp.answers World.fresh =
              ⟨xapp.calls, final, .done exitSuccess⟩ := by
          simpa [mainLeft, phase] using sequential
        obtain ⟨early, middle, returns, same⟩ := start_of_main_returns run
        rw [same]
        exact removed_eq_granted returns
    | _ =>
        have unfreed := (accounted.unreturned (by simp [phase])).1
        exact (unfreed freed).elim

/-- An environment that numbers the handles it grants. -/
def numbering : Environment :=
  { Environment.ideal with
    reply := fun index => ⟨true, Int.ofNat (index + 7)⟩ }

/-- The state in which `main` returned, with two subscriptions. -/
theorem freed_accounted_gnbThenDu :
    ∃ xapp,
      (xapps numbering ⟨"127.0.0.1"⟩ [gnbNode, duNode]).Reachable xapp ∧
        .freeE2NodeArrXapp ∈ xapp.calls ∧
        granted (setupCalls xapp.calls) = [7, 8] ∧
        removed (setupCalls xapp.calls) = [7, 8] := by
  have left :
      mainLeft numbering ⟨"127.0.0.1"⟩ [gnbNode, duNode]
          XappState.initial [false, true] =
        ⟨_, ⟨21, 2⟩, .done exitSuccess⟩ :=
    rfl
  obtain ⟨xapp, _, _, run, _, _, _, _, calls⟩ :=
    mainThread_finishes initial_reachable rfl left
  have freed : .freeE2NodeArrXapp ∈ xapp.calls := by
    rw [calls]
    decide
  have handles : granted (setupCalls xapp.calls) = [7, 8] := by
    rw [calls]
    rfl
  have reachable := initial_reachable.run run
  exact ⟨xapp, reachable, freed, handles,
    ((freed_accounted reachable).2 freed).2.2.2.trans handles⟩

/-! ## Shutting down -/

/-- An answer `true` ends the poll loop. -/
theorem finish_returns
    (answers : List Bool)
    (world : World) :
    ∃ log,
      Returns (finish (answers ++ [true])) world log world
        exitSuccess := by
  induction answers with
  | nil =>
      exact ⟨_, finish_true world []⟩
  | cons answer rest inductionHypothesis =>
      obtain ⟨log, later⟩ := inductionHypothesis
      cases answer with
      | true =>
          exact ⟨_, finish_true world (rest ++ [true])⟩
      | false =>
          refine ⟨pollEvents ++ log, ?_⟩
          rw [Returns, List.cons_append, finish_false, later.apply,
            Run.after_mk]

/-- With nodes at which no check fails, an answer `true` lets `main` return. -/
theorem main_returns
    (connected : 0 < e2Nodes.length)
    (initialized : env.mutexInitRc = 0)
    (allocated : env.memory 0 = true)
    (completes : Completes env World.afterHndl e2Nodes)
    (answers : List Bool) :
    ∃ log final,
      main env args e2Nodes (answers ++ [true]) World.fresh =
        ⟨log, final, .done exitSuccess⟩ := by
  obtain ⟨late, closes⟩ :=
    finish_returns answers (worldAfter env World.afterHndl e2Nodes)
  rw [main_connected connected,
    (start_returns initialized allocated completes).apply,
    Run.embed_done, Run.andThen_done, closes.apply]
  exact ⟨_, _, rfl⟩

/-- The main thread closes alone, and leaves the callbacks where they are. -/
theorem mainThread_closes
    (connected : 0 < e2Nodes.length)
    (initialized : env.mutexInitRc = 0)
    (allocated : env.memory 0 = true)
    (completes : Completes env World.afterHndl e2Nodes)
    (reachable : (xapps env args e2Nodes).Reachable xapp)
    (running : xapp.process.aborted = false) :
    ∃ next final,
      ReflTransGen (XappStep env args e2Nodes) xapp next ∧
        xapp.SameCallbacks next ∧
        next.main = .returned final ∧
        .freeE2NodeArrXapp ∈ next.calls := by
  obtain ⟨log, final, returns⟩ :=
    main_returns connected initialized allocated completes xapp.answers
  have sequential := main_eq_left reachable [true]
  rw [returns] at sequential
  rcases left : mainLeft env args e2Nodes xapp [true] with
    ⟨late, last, outcome⟩
  rw [left, Run.after_mk] at sequential
  obtain ⟨_, rfl, rfl⟩ := Run.mk.inj sequential
  obtain ⟨next, _, _, run, same, phase, _, _, _⟩ :=
    mainThread_finishes reachable running left
  have accounted := accounted_inductive.holds (reachable.run run)
  simp only [Accounted, phase] at accounted
  obtain ⟨before, _, calls, _, _⟩ := accounted
  exact ⟨next, final, run, same, phase, by simp [calls]⟩

theorem gnbThenDu_completes :
    Completes Environment.ideal World.afterHndl [gnbNode, duNode] :=
  completes_of_serviceable Environment.ideal_faultless (by
    intro e2Node member
    rcases List.mem_pair.mp member with rfl | rfl
    · exact gnbNode_serviceable
    · exact duNode_serviceable) _

/--
The xApp whose first node is subscribed, while a callback of that node holds
`mtx` and another one waits for it.
-/
theorem interleavedXapp_reachable (args : FrArgs) :
    ∃ calls,
      (xapps Environment.ideal args [gnbNode, duNode]).Reachable
        ⟨.subscribing, interleaved, calls, []⟩ := by
  have first :
      (xapps Environment.ideal args [gnbNode, duNode]).Reachable
        XappState.initial :=
    initial_reachable
  have launched :=
    first.run (.single (.launch rfl rfl (by decide)))
  have prepared :=
    launched.run (.single (.start rfl rfl (.initMutex rfl)))
  have allocated :=
    prepared.run (.single (.start rfl rfl (.allocHndl rfl)))
  have subscribed :=
    allocated.run (.single (.start rfl rfl (.subscribe rfl rfl)))
  exact ⟨_, subscribed.run
    (callbacks_run rfl (callbackSteps_of_run interleaved_run rfl))⟩

end Shutdown

end IqosXapp.Xapp
