import IqosXapp.Effect.Embed
import IqosXapp.KpmManager.SubscriptionLeak

namespace IqosXapp.Xapp

open Effect Program KpmManager

/-!
# `main`

The main thread of the xApp: it configures the logger, connects to the RIC,
fetches the E2 nodes, runs `start` and polls until the xApp API may be stopped.

What `try_stop_xapp_api` answers is not known beforehand, and it may never
answer `true`.  The poll loop is therefore run against the answers that were
given so far: when they are used up, `main` is still polling.
-/

/-- `spdlog::level` -/
inductive LogLevel where
  | trace
  | debug
  | info
  | warn
  | err
  | critical
  | off
  deriving Repr, DecidableEq

/-- `fr_args_t`; `main` touches the address only. -/
structure FrArgs where
  ip : String
  deriving Repr, DecidableEq

/-- The calls of `main` to the outside, with those that `start` makes. -/
inductive MainEvent where
  | configureLogger (xAppName : String) (logLevel : LogLevel)
  | initXappApi (args : FrArgs)
  | sleepForSeconds (seconds : Nat)
  | e2NodesXappApi
  | kpm (event : SetupEvent)
  | tryStopXappApi (answer : Bool)
  | sleepForMicroseconds (microseconds : Nat)
  | logInfo (text : String)
  | freeE2NodeArrXapp
  deriving Repr, DecidableEq

/--
Why a run of `main` is not over with a value: it was stopped, or no further
answer of `try_stop_xapp_api` is known.
-/
inductive MainStop where
  | stopped (why : Stop)
  | stillPolling
  deriving Repr, DecidableEq

/-- A function that runs in the main thread. -/
abbrev MainThread := Program World MainEvent MainStop

/-- The loop around `try_stop_xapp_api`, against the answers given so far. -/
def pollLoop : List Bool → MainThread Unit
  | [] => stop .stillPolling
  | answer :: answers => do
      emit (.tryStopXappApi answer)
      if answer then
        pure ()
      else
        emit (.sleepForMicroseconds 1)
        pollLoop answers

/-- `EXIT_SUCCESS` -/
def exitSuccess : Nat := 0

/-- What `main` does once `start` has returned. -/
def finish (answers : List Bool) : MainThread Nat := do
  pollLoop answers
  emit (.logInfo "xapp finished!")
  -- the deferred call, at the end of the scope of `main`
  emit .freeE2NodeArrXapp
  pure exitSuccess

/-- `main` -/
def main
    (env : Environment)
    (args : FrArgs)
    (e2Nodes : List E2NodeConnectedXapp)
    (answers : List Bool) :
    MainThread Nat := do
  emit (.configureLogger "iqos-xapp" .debug)
  let args := { args with ip := "192.168.100.44" }
  emit (.initXappApi args)
  emit (.sleepForSeconds 1)
  emit .e2NodesXappApi
  require (decide (0 < e2Nodes.length))
    (.stopped (.failedCheck
      "e2Nodes.len > 0 && \"There are no E2 nodes connected!\""))
  (start env e2Nodes).embed .kpm .stopped
  finish answers

/-- What `main` calls before it looks at the nodes. -/
def launchEvents (args : FrArgs) : List MainEvent :=
  [.configureLogger "iqos-xapp" .debug,
    .initXappApi { args with ip := "192.168.100.44" },
    .sleepForSeconds 1,
    .e2NodesXappApi]

/-- The failing check of `main`. -/
def noE2Nodes : MainStop :=
  .stopped (.failedCheck
    "e2Nodes.len > 0 && \"There are no E2 nodes connected!\"")

/-! ## Polling -/

/-- What `main` calls at an answer that lets it go on polling. -/
def pollEvents : List MainEvent :=
  [.tryStopXappApi false, .sleepForMicroseconds 1]

/-- What `main` calls at the answer that ends the loop. -/
def finishEvents : List MainEvent :=
  [.tryStopXappApi true, .logInfo "xapp finished!", .freeE2NodeArrXapp]

section Finish

variable
  (world : World)
  (later : List Bool)

theorem finish_nil :
    finish [] world = ⟨[], world, .stop .stillPolling⟩ :=
  rfl

theorem finish_true :
    finish (true :: later) world =
      ⟨finishEvents, world, .done exitSuccess⟩ :=
  rfl

theorem finish_false :
    finish (false :: later) world =
      (finish later world).after pollEvents := by
  have turn :
      finish (false :: later) =
        (do
          emit (.tryStopXappApi false)
          emit (.sleepForMicroseconds 1)
          finish later) := by
    simp [finish, pollLoop]
  simp [turn, pollEvents, Run.after_after]

end Finish

/-! ## Whole runs -/

section Runs

variable
  {env : Environment}
  {args : FrArgs}
  {e2Nodes : List E2NodeConnectedXapp}
  {answers : List Bool}

/-- Without nodes, `main` ends at its check. -/
theorem main_empty (world : World) :
    main env args [] answers world =
      ⟨launchEvents args, world, .stop noE2Nodes⟩ := by
  rfl

/-- With nodes, `main` runs `start` and finishes. -/
theorem main_connected
    (connected : 0 < e2Nodes.length)
    (world : World) :
    main env args e2Nodes answers world =
      (((start env e2Nodes world).embed .kpm .stopped).andThen
        fun _ => finish answers).after (launchEvents args) := by
  simp [main, connected, launchEvents, Run.after_after]

end Runs

end IqosXapp.Xapp
