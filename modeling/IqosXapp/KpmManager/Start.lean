import IqosXapp.KpmManager.Subscription

namespace IqosXapp.KpmManager

open Effect Program

/-!
# Starting and stopping the subscriptions

`start` and `get_kpm_idx`.  The lookup scans one index more than the RAN
function list has, so it may read the entry behind the list; such a read is
logged and gives whatever the memory holds there.
-/

/-- `rf[i].id == KPM_RAN_FUNC_ID` -/
def SmRanFunction.isKpm (ranFunction : SmRanFunction) : Bool :=
  ranFunction.id = kpmRanFuncId

/-- Read `rf[i]` of a node. -/
def readRf (e2Node : E2NodeConnectedXapp) (i : Nat) :
    Setup SmRanFunction := do
  if e2Node.rf.length ≤ i then
    emit (.strayRead "rf" i)
  cell (e2Node.rf ++ e2Node.behindRf.toList) i
    fun i => .undefined (.outOfRange "rf" i)

/-- The loop of `get_kpm_idx` with `count` turns left, from index `i` on. -/
def getKpmIdxFrom (e2Node : E2NodeConnectedXapp) :
    Nat → Nat → Setup Nat
  | 0, _ =>
      stop (.failedCheck
        "KPM SM ID could not be found in the RAN Function List")
  | count + 1, i => do
      let ranFunction ← readRf e2Node i
      if ranFunction.isKpm then
        pure i
      else
        getKpmIdxFrom e2Node count (i + 1)

/-- `get_kpm_idx`: the loop runs while `i <= rf_size`. -/
def getKpmIdx (e2Node : E2NodeConnectedXapp) (rfSize : Nat) :
    Setup Nat :=
  getKpmIdxFrom e2Node (rfSize + 1) 0

/-- `report_sm_xapp_api`, with `sm_cb_kpm` as the callback. -/
def reportSmXappApi
    (env : Environment)
    (id : GlobalE2NodeId)
    (ranFuncId : UInt16)
    (sub : KpmSubData) :
    Setup SmAnsXapp := do
  let world ← getState
  let reply := env.reply world.reports
  emit (.reportSmXappApi id ranFuncId sub reply)
  setState { world with reports := world.reports + 1 }
  pure reply

/--
What `start` does for node `i` when it has the REPORT service: send the
subscription and keep the answer.
-/
def sendSubscription
    (env : Environment)
    (i : Nat)
    (id : GlobalE2NodeId)
    (kpm : KpmRanFunctionDef)
    (hndl : List SmAnsXapp) :
    Setup (List SmAnsXapp) := do
  let kpmSub ← genKpmSubs env (some kpm)
  let reply ← reportSmXappApi env id kpmRanFuncId kpmSub
  let hndl ← storeCell hndl "hndl" i reply
  let slot ← cell hndl i fun i => .undefined (.outOfRange "hndl" i)
  require slot.success (.failedCheck "hndl[i].success == true")
  emit (.freeKpmSubData kpmSub)
  pure hndl

/-- The body of the first loop of `start`, at node `i`. -/
def subscribeNode
    (env : Environment)
    (i : Nat)
    (e2Node : E2NodeConnectedXapp)
    (hndl : List SmAnsXapp) :
    Setup (List SmAnsXapp) := do
  let kpmIdx ← getKpmIdx e2Node e2Node.rf.length
  let ranFunction ← readRf e2Node kpmIdx
  match ranFunction.defn with
  | .other =>
      stop (.failedCheck "KPM is not the received RAN Function")
  | .kpm kpm =>
      if kpm.ricReportStyleList.isSome then
        sendSubscription env i e2Node.id kpm hndl
      else
        pure hndl

/-- The body of the second loop of `start`, on one slot of `hndl`. -/
def removeHandle (slot : SmAnsXapp) : Setup Unit :=
  if slot.success then
    emit (.rmReportSmXappApi slot.handle)
  else
    pure ()

/-- `start` -/
def start
    (env : Environment)
    (e2Nodes : List E2NodeConnectedXapp) :
    Setup Unit := do
  emit .pthreadMutexInit
  let rc := env.mutexInitRc
  require (rc = 0) (.failedCheck "rc == 0")
  let hndl ←
    calloc env (List.replicate e2Nodes.length SmAnsXapp.zeroed)
  require hndl.isSome (.failedCheck "hndl != nullptr")
  let block ← deref hndl (.undefined (.nullDereference "hndl"))
  defer (emit .freeHndl) do
    let block ←
      loop
        (fun i block => do
          let e2Node ← cell e2Nodes i
            fun i => .undefined (.outOfRange "e2Nodes.n" i)
          subscribeNode env i e2Node block)
        e2Nodes.length 0 block
    emit (.sleepFor expTime)
    loop
      (fun i _ => do
        let slot ← cell block i
          fun i => .undefined (.outOfRange "hndl" i)
        removeHandle slot)
      e2Nodes.length 0 ()

end IqosXapp.KpmManager
