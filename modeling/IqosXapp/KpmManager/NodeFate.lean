import IqosXapp.Effect.Observe
import IqosXapp.KpmManager.Start
import IqosXapp.KpmManager.SubscriptionSpec

namespace IqosXapp.KpmManager

open Effect Program

/-!
# What `start` does with one node

The fate of a node is a function of the node, of the environment and of how
often the environment was asked before: the node is skipped, it is subscribed,
or a check fails at it.  One lemma for each fate gives the run of the loop
body.
-/

/-! ## Looking up the KPM function -/

/-- The lookup of a node's KPM function: `rf[get_kpm_idx(rf, len_rf)]`. -/
def locateKpm (e2Node : E2NodeConnectedXapp) : Setup SmRanFunction := do
  let kpmIdx ← getKpmIdx e2Node e2Node.rf.length
  readRf e2Node kpmIdx

/-- The read of the entry behind the list. -/
def strayRf (e2Node : E2NodeConnectedXapp) : SetupEvent :=
  .strayRead "rf" e2Node.rf.length

/-- The assertion at the end of `get_kpm_idx`. -/
def kpmNotFound : Stop :=
  .failedCheck "KPM SM ID could not be found in the RAN Function List"

/-- What `get_kpm_idx` does once the list has no KPM entry. -/
def lookBehind (e2Node : E2NodeConnectedXapp) : Setup Nat := do
  emit (strayRf e2Node)
  match e2Node.behindRf with
  | none => stop (.undefined (.outOfRange "rf" e2Node.rf.length))
  | some entry =>
      if entry.isKpm then
        pure e2Node.rf.length
      else
        stop kpmNotFound

/-- An entry of the list is read without touching what is behind it. -/
theorem readRf_inside
    {e2Node : E2NodeConnectedXapp}
    {i : Nat}
    {entry : SmRanFunction}
    (listed : e2Node.rf[i]? = some entry) :
    readRf e2Node i = pure entry := by
  obtain ⟨inside, _⟩ := List.getElem?_eq_some_iff.mp listed
  simp only [readRf]
  rw [if_neg (Nat.not_le_of_lt inside)]
  exact cell_of_some
    (by rw [List.getElem?_append_left inside, listed]) _

/-- The entry behind the list is read if it is mapped. -/
theorem readRf_behind (e2Node : E2NodeConnectedXapp) :
    readRf e2Node e2Node.rf.length =
      (do
        emit (strayRf e2Node)
        deref e2Node.behindRf
          (.undefined (.outOfRange "rf" e2Node.rf.length))) := by
  simp only [readRf]
  rw [if_pos (Nat.le_refl _)]
  cases behind : e2Node.behindRf <;>
    simp [cell, strayRf]

/-- The scan over the rest of the list finds its first KPM entry. -/
theorem getKpmIdxFrom_eq
    (e2Node : E2NodeConnectedXapp)
    (earlier rest : List SmRanFunction)
    (shape : e2Node.rf = earlier ++ rest) :
    getKpmIdxFrom e2Node (rest.length + 1) earlier.length =
      match rest.findIdx? (·.isKpm) with
      | some i => pure (earlier.length + i)
      | none => lookBehind e2Node := by
  induction rest generalizing earlier with
  | nil =>
      have atEnd : earlier.length = e2Node.rf.length := by
        simp [shape]
      rw [atEnd, List.length_nil, getKpmIdxFrom, readRf_behind]
      simp only [lookBehind]
      cases e2Node.behindRf with
      | none =>
          rfl
      | some entry =>
          rfl
  | cons entry rest inductionHypothesis =>
      have listed : e2Node.rf[earlier.length]? = some entry := by
        simp [shape]
      rw [getKpmIdxFrom, readRf_inside listed, pure_bind,
        List.findIdx?_cons]
      cases entry.isKpm with
      | true =>
          rfl
      | false =>
          have next :=
            inductionHypothesis (earlier ++ [entry]) (by
              simp [shape])
          rw [List.length_append, List.length_singleton] at next
          rw [if_neg Bool.false_ne_true, List.length_cons, next]
          cases rest.findIdx? (·.isKpm) with
          | none =>
              rfl
          | some i =>
              simp [Nat.add_assoc, Nat.add_comm 1 i]

/-- `get_kpm_idx` gives the first KPM entry, or looks behind the list. -/
theorem getKpmIdx_eq (e2Node : E2NodeConnectedXapp) :
    getKpmIdx e2Node e2Node.rf.length =
      match e2Node.rf.findIdx? (·.isKpm) with
      | some i => pure i
      | none => lookBehind e2Node := by
  have whole := getKpmIdxFrom_eq e2Node [] e2Node.rf rfl
  rw [List.length_nil] at whole
  rw [getKpmIdx, whole]
  cases e2Node.rf.findIdx? (·.isKpm) <;> simp

/-- The entry that the lookup finds, in the list or right behind it. -/
def kpmEntry (e2Node : E2NodeConnectedXapp) : Option SmRanFunction :=
  (e2Node.rf ++ e2Node.behindRf.toList).find? (·.isKpm)

/-- The reads behind the list of a lookup that finds an entry. -/
def lookupEvents (e2Node : E2NodeConnectedXapp) : List SetupEvent :=
  if e2Node.rf.any (·.isKpm) then
    []
  else
    [strayRf e2Node, strayRf e2Node]

/-- What a lookup without a KPM entry stops with. -/
def lookupStop (e2Node : E2NodeConnectedXapp) : Stop :=
  match e2Node.behindRf with
  | none => .undefined (.outOfRange "rf" e2Node.rf.length)
  | some _ => kpmNotFound

/-- A KPM entry in the list is found without reading behind the list. -/
theorem locateKpm_inside
    {e2Node : E2NodeConnectedXapp}
    {entry : SmRanFunction}
    (found : e2Node.rf.find? (·.isKpm) = some entry) :
    locateKpm e2Node = pure entry := by
  rw [List.find?_eq_bind_findIdx?_getElem?, Option.bind_eq_some_iff]
    at found
  obtain ⟨i, atIndex, listed⟩ := found
  rw [locateKpm, getKpmIdx_eq, atIndex, pure_bind,
    readRf_inside listed]

/-- Without a KPM entry in the list the entry behind it decides. -/
theorem locateKpm_behind
    {e2Node : E2NodeConnectedXapp}
    (absent : e2Node.rf.find? (·.isKpm) = none) :
    locateKpm e2Node =
      (do
        let kpmIdx ← lookBehind e2Node
        readRf e2Node kpmIdx) := by
  have noIndex : e2Node.rf.findIdx? (·.isKpm) = none := by
    rw [List.findIdx?_eq_none_iff]
    intro entry member
    simpa using List.find?_eq_none.mp absent entry member
  rw [locateKpm, getKpmIdx_eq, noIndex]

theorem locateKpm_returns
    {e2Node : E2NodeConnectedXapp}
    {entry : SmRanFunction}
    (found : kpmEntry e2Node = some entry)
    (world : World) :
    Returns (locateKpm e2Node) world
      (lookupEvents e2Node) world entry := by
  rw [kpmEntry, List.find?_append] at found
  simp only [lookupEvents]
  cases inside : e2Node.rf.find? (·.isKpm) with
  | some first =>
      have listed : e2Node.rf.any (·.isKpm) = true :=
        List.any_eq_true.mpr
          ⟨first, List.mem_of_find?_eq_some inside,
            List.find?_some inside⟩
      rw [inside, Option.some_or, Option.some.injEq] at found
      rw [if_pos listed, locateKpm_inside inside, found]
      exact Returns.pure
  | none =>
      have unlisted : ¬e2Node.rf.any (·.isKpm) = true := by
        simpa using inside
      rw [inside, Option.none_or] at found
      rw [if_neg unlisted, locateKpm_behind inside]
      cases behind : e2Node.behindRf with
      | none =>
          rw [behind] at found
          cases found
      | some last =>
          rw [behind, Option.toList_some, List.find?_singleton,
            Option.ite_none_right_eq_some, Option.some.injEq] at found
          obtain ⟨isKpm, rfl⟩ := found
          simp [Returns, lookBehind, behind, isKpm, readRf_behind]

theorem locateKpm_stops
    {e2Node : E2NodeConnectedXapp}
    (absent : kpmEntry e2Node = none)
    (world : World) :
    Stops (locateKpm e2Node) world
      [strayRf e2Node] world (lookupStop e2Node) := by
  rw [kpmEntry, List.find?_append, Option.or_eq_none_iff] at absent
  rw [locateKpm_behind absent.1]
  simp only [lookupStop]
  cases behind : e2Node.behindRf with
  | none =>
      simp [Stops, lookBehind, behind]
  | some last =>
      have notKpm : last.isKpm = false := by
        simpa [behind] using absent.2
      simp [Stops, lookBehind, behind, notKpm]

theorem lookupEvents_stray
    {e2Node : E2NodeConnectedXapp} :
    ∀ event ∈ lookupEvents e2Node, event = strayRf e2Node := by
  intro event member
  simp only [lookupEvents] at member
  split at member <;> simp_all

/-- A view that hides a read behind the list shows nothing of such reads. -/
theorem filterMap_strays
    {Seen : Type}
    {view : SetupEvent → Option Seen}
    {e2Node : E2NodeConnectedXapp}
    (hidden : view (strayRf e2Node) = none)
    {log : List SetupEvent}
    (strays : ∀ event ∈ log, event = strayRf e2Node) :
    log.filterMap view = [] := by
  rw [List.filterMap_eq_nil_iff]
  intro event member
  rw [strays event member, hidden]

/-- A lookup shows nothing but reads behind the list. -/
theorem locateKpm_silent
    {Seen : Type}
    {view : SetupEvent → Option Seen}
    {e2Node : E2NodeConnectedXapp}
    (hidden : view (strayRf e2Node) = none) :
    Silent view (locateKpm e2Node) := by
  intro world
  cases entry : kpmEntry e2Node with
  | none =>
      rw [(locateKpm_stops entry world).apply]
      exact filterMap_strays hidden (by simp)
  | some ranFunction =>
      rw [(locateKpm_returns entry world).apply]
      exact filterMap_strays hidden lookupEvents_stray

/-! ## The fate of one node -/

/-- The definition of the entry that the lookup finds, if it is tagged KPM. -/
def kpmDefinition
    (e2Node : E2NodeConnectedXapp) : Option KpmRanFunctionDef :=
  match kpmEntry e2Node with
  | some ⟨_, .kpm kpm⟩ => some kpm
  | _ => none

/-- The report style that `gen_kpm_subs` accepts, if it accepts one. -/
def acceptedItem (kpm : KpmRanFunctionDef) : Option RicReportStyleItem :=
  match eventTriggerStop kpm.ricEventTriggerStyleList,
      kpm.ricReportStyleList with
  | none, some (item :: _) => if IsStyle4 item then some item else none
  | _, _ => none

/-- The blocks of a subscription with this many measures are granted. -/
def blocksGranted
    (env : Environment)
    (world : World)
    (measures : Nat) : Bool :=
  (List.range (7 + 2 * measures)).all fun index =>
    env.memory (world.callocs + index)

/-- What `start` does with a node. -/
inductive NodeFate where
  | stopped
  | skipped
  | subscribed (item : RicReportStyleItem)
  deriving Repr, DecidableEq

/-- The fate of a node that is reached in a given world. -/
def nodeFate
    (env : Environment)
    (world : World)
    (e2Node : E2NodeConnectedXapp) : NodeFate :=
  match kpmDefinition e2Node with
  | none => .stopped
  | some kpm =>
      if kpm.ricReportStyleList.isNone then
        .skipped
      else
        match acceptedItem kpm with
        | none => .stopped
        | some item =>
            if blocksGranted env world item.measInfoForActionLst.length
                && (env.reply world.reports).success then
              .subscribed item
            else
              .stopped

theorem acceptedItem_eq_some_iff
    {kpm : KpmRanFunctionDef}
    {item : RicReportStyleItem} :
    acceptedItem kpm = some item ↔
      EventTriggerAccepted kpm ∧
        ∃ rest,
          kpm.ricReportStyleList = some (item :: rest) ∧
            IsStyle4 item := by
  rw [← eventTriggerStop_eq_none_iff]
  simp only [acceptedItem]
  cases eventTriggerStop kpm.ricEventTriggerStyleList with
  | some why =>
      simp
  | none =>
      rcases kpm.ricReportStyleList with _ | _ | ⟨first, rest⟩
      · simp
      · simp
      · by_cases style4 : IsStyle4 first
        · simp only [style4, ↓reduceIte, Option.some.injEq,
            List.cons.injEq, true_and]
          constructor
          · rintro rfl
            exact ⟨rest, ⟨rfl, rfl⟩, style4⟩
          · rintro ⟨_, ⟨same, _⟩, _⟩
            exact same
        · simp only [style4, ↓reduceIte, reduceCtorEq, Option.some.injEq,
            List.cons.injEq, true_and, false_iff]
          rintro ⟨_, ⟨same, _⟩, isStyle4⟩
          exact style4 (same ▸ isStyle4)

theorem blocksGranted_iff
    (env : Environment)
    (world : World)
    (measures : Nat) :
    blocksGranted env world measures = true ↔
      ∀ index < (genKpmSubsRefusals measures).length,
        env.memory (world.callocs + index) = true := by
  simp [blocksGranted, length_genKpmSubsRefusals]

section Builder

variable
  {env : Environment}
  {world : World}
  {kpm : KpmRanFunctionDef}

/-- An accepted report style with all blocks granted is built. -/
theorem genKpmSubs_returns
    {item : RicReportStyleItem}
    (accepted : acceptedItem kpm = some item)
    (granted :
      blocksGranted env world item.measInfoForActionLst.length = true) :
    Returns (genKpmSubs env (some kpm)) world []
      { world with
        callocs :=
          world.callocs +
            (7 + 2 * item.measInfoForActionLst.length) }
      (kpmSubOf env item) := by
  obtain ⟨trigger, rest, listed, style4⟩ :=
    acceptedItem_eq_some_iff.mp accepted
  have run :=
    (genKpmSubs_allocates env trigger listed style4).granted world
      ((blocksGranted_iff env world _).mp granted)
  rwa [length_genKpmSubsRefusals] at run

/-- A refused block stops the builder. -/
theorem genKpmSubs_stops_of_blocks
    {item : RicReportStyleItem}
    (accepted : acceptedItem kpm = some item)
    (refused :
      blocksGranted env world item.measInfoForActionLst.length = false) :
    ∃ final why,
      Stops (genKpmSubs env (some kpm)) world [] final why := by
  obtain ⟨trigger, rest, listed, style4⟩ :=
    acceptedItem_eq_some_iff.mp accepted
  have allocates := genKpmSubs_allocates env trigger listed style4
  rcases grants_or_firstRefusal
      (fun index => env.memory (world.callocs + index))
      (genKpmSubsRefusals
        item.measInfoForActionLst.length).length with
    allGranted | ⟨index, below, earlier, refusal⟩
  · rw [(blocksGranted_iff env world _).mpr allGranted] at refused
    cases refused
  · exact ⟨_, _, allocates.refused world index _
      (List.getElem?_eq_getElem below) earlier refusal⟩

/-- A definition without an acceptable report style stops the builder. -/
theorem genKpmSubs_stops_of_rejected
    (rejected : acceptedItem kpm = none) :
    ∃ final why,
      Stops (genKpmSubs env (some kpm)) world [] final why := by
  cases trigger : eventTriggerStop kpm.ricEventTriggerStyleList with
  | some why =>
      exact ⟨_, why, genKpmSubs_stops_of_eventTrigger env trigger world⟩
  | none =>
      have accepted := (eventTriggerStop_eq_none_iff kpm).mp trigger
      cases granted : env.memory world.callocs with
      | false =>
          exact ⟨_, _, genKpmSubs_stops_of_refused env accepted granted⟩
      | true =>
          cases style : firstStyleStop kpm.ricReportStyleList with
          | some why =>
              exact ⟨_, why, genKpmSubs_stops_of_firstStyle env accepted
                style granted⟩
          | none =>
              obtain ⟨item, rest, listed, style4⟩ :=
                (firstStyleStop_eq_none_iff kpm).mp style
              have some :=
                acceptedItem_eq_some_iff.mpr
                  ⟨accepted, rest, listed, style4⟩
              rw [rejected] at some
              cases some

/-- The builder calls nothing outside except `calloc`, however it ends. -/
theorem genKpmSubs_log :
    (genKpmSubs env (some kpm) world).log = [] := by
  cases accepted : acceptedItem kpm with
  | none =>
      obtain ⟨final, why, stops⟩ :=
        genKpmSubs_stops_of_rejected accepted
      rw [stops.apply]
  | some item =>
      cases granted :
          blocksGranted env world item.measInfoForActionLst.length with
      | false =>
          obtain ⟨final, why, stops⟩ :=
            genKpmSubs_stops_of_blocks accepted granted
          rw [stops.apply]
      | true =>
          rw [(genKpmSubs_returns accepted granted).apply]

theorem genKpmSubs_silent
    {Seen : Type}
    {view : SetupEvent → Option Seen} :
    Silent view (genKpmSubs env (some kpm)) := by
  intro world
  rw [genKpmSubs_log]
  rfl

end Builder

/-- Writing a cell is no call to the outside. -/
theorem storeCell_silent
    {α Seen : Type}
    {view : SetupEvent → Option Seen}
    {block : List α}
    {name : String}
    {index : Nat}
    {value : α} :
    Silent view (storeCell block name index value) :=
  (Silent.cell block index _).bind fun _ => Silent.pure _

/-! ## The body of the first loop -/

/-- The handles that a log shows as granted. -/
def granted (log : List SetupEvent) : List Int :=
  log.filterMap fun
    | .reportSmXappApi _ _ _ reply =>
        if reply.success then some reply.handle else none
    | _ => none

/-- The handles that a log shows as removed. -/
def removed (log : List SetupEvent) : List Int :=
  log.filterMap fun
    | .rmReportSmXappApi handle => some handle
    | _ => none

@[simp] theorem granted_append (log later : List SetupEvent) :
    granted (log ++ later) = granted log ++ granted later :=
  List.filterMap_append

@[simp] theorem removed_append (log later : List SetupEvent) :
    removed (log ++ later) = removed log ++ removed later :=
  List.filterMap_append

@[simp] theorem granted_lookupEvents (e2Node : E2NodeConnectedXapp) :
    granted (lookupEvents e2Node) = [] :=
  filterMap_strays rfl lookupEvents_stray

@[simp] theorem removed_lookupEvents (e2Node : E2NodeConnectedXapp) :
    removed (lookupEvents e2Node) = [] :=
  filterMap_strays rfl lookupEvents_stray

/-- The world after a node. -/
def NodeFate.next (world : World) : NodeFate → World
  | .subscribed item => {
      callocs :=
        world.callocs + (7 + 2 * item.measInfoForActionLst.length)
      reports := world.reports + 1 }
  | _ => world

/-- What a node's slot of `hndl` holds after the first loop. -/
def NodeFate.slot (env : Environment) (world : World) :
    NodeFate → SmAnsXapp
  | .subscribed _ => env.reply world.reports
  | _ => SmAnsXapp.zeroed

/-- The subscription of a node, sent and freed. -/
def NodeFate.subscription
    (env : Environment)
    (world : World)
    (e2Node : E2NodeConnectedXapp) :
    NodeFate → List SetupEvent
  | .subscribed item =>
      [.reportSmXappApi e2Node.id kpmRanFuncId (kpmSubOf env item)
          (env.reply world.reports),
        .freeKpmSubData (kpmSubOf env item)]
  | _ => []

/-- What the first loop does at a node at which no check fails. -/
def nodeEvents
    (env : Environment)
    (world : World)
    (e2Node : E2NodeConnectedXapp) : List SetupEvent :=
  lookupEvents e2Node ++
    (nodeFate env world e2Node).subscription env world e2Node

section Body

variable
  {env : Environment}
  {world : World}
  {e2Node : E2NodeConnectedXapp}
  {i : Nat}
  {hndl : List SmAnsXapp}

/-- The body is the lookup followed by what the entry asks for. -/
theorem subscribeNode_eq :
    subscribeNode env i e2Node hndl =
      (do
        let ranFunction ← locateKpm e2Node
        match ranFunction.defn with
        | .other =>
            stop (.failedCheck "KPM is not the received RAN Function")
        | .kpm kpm =>
            if kpm.ricReportStyleList.isSome then
              sendSubscription env i e2Node.id kpm hndl
            else
              pure hndl) := by
  simp only [subscribeNode, locateKpm]
  exact (bind_assoc _ _ _).symm

/-- A node with a KPM definition: what is left after the lookup. -/
theorem subscribeNode_of_definition
    {kpm : KpmRanFunctionDef}
    (definition : kpmDefinition e2Node = some kpm) :
    subscribeNode env i e2Node hndl world =
      ((if kpm.ricReportStyleList.isSome then
          sendSubscription env i e2Node.id kpm hndl
        else
          pure hndl) world).after (lookupEvents e2Node) := by
  simp only [kpmDefinition] at definition
  split at definition
  · rename_i id found entry
    cases definition
    rw [subscribeNode_eq, bind_apply,
      (locateKpm_returns entry world).apply, Run.andThen_done]
  · cases definition

/--
Without a KPM definition a check fails, or the scan leaves the list; there is
nothing but reads behind the list before that.
-/
theorem subscribeNode_stops_of_definition
    (noDefinition : kpmDefinition e2Node = none) :
    ∃ log why,
      Stops (subscribeNode env i e2Node hndl) world log world why ∧
        ∀ event ∈ log, event = strayRf e2Node := by
  rw [subscribeNode_eq]
  cases entry : kpmEntry e2Node with
  | none =>
      exact ⟨_, _, (locateKpm_stops entry world).bind _, by simp⟩
  | some ranFunction =>
      rcases ranFunction with ⟨id, defn⟩
      cases defn with
      | kpm kpm =>
          rw [kpmDefinition, entry] at noDefinition
          cases noDefinition
      | other =>
          have found := locateKpm_returns entry world
          refine ⟨lookupEvents e2Node ++ [], _,
            found.bind_stops rfl, ?_⟩
          rw [List.append_nil]
          exact lookupEvents_stray

/-- What is left for a node once its subscription is answered. -/
def keepAnswer
    (i : Nat)
    (kpmSub : KpmSubData)
    (hndl : List SmAnsXapp)
    (reply : SmAnsXapp) :
    Setup (List SmAnsXapp) := do
  let hndl ← storeCell hndl "hndl" i reply
  let slot ← cell hndl i fun i => .undefined (.outOfRange "hndl" i)
  require slot.success (.failedCheck "hndl[i].success == true")
  emit (.freeKpmSubData kpmSub)
  pure hndl

/-- A subscription is built, sent, and its answer kept. -/
theorem sendSubscription_eq
    {id : GlobalE2NodeId}
    {kpm : KpmRanFunctionDef} :
    sendSubscription env i id kpm hndl =
      (do
        let kpmSub ← genKpmSubs env (some kpm)
        let reply ← reportSmXappApi env id kpmRanFuncId kpmSub
        keepAnswer i kpmSub hndl reply) :=
  rfl

/-- Freeing the subscription is the only call behind the answer. -/
theorem keepAnswer_silent
    {Seen : Type}
    {view : SetupEvent → Option Seen}
    {kpmSub : KpmSubData}
    (hidden : view (.freeKpmSubData kpmSub) = none)
    (reply : SmAnsXapp) :
    Silent view (keepAnswer i kpmSub hndl reply) := by
  refine storeCell_silent.bind fun hndl => ?_
  refine (Silent.cell hndl i _).bind fun slot => ?_
  refine (Silent.require _ _).bind fun _ => ?_
  exact (Silent.emit hidden).bind fun _ => Silent.pure hndl

/-- Past the builder there are only the report and the freeing. -/
theorem sendSubscription_silent
    {Seen : Type}
    {view : SetupEvent → Option Seen}
    (report :
      ∀ id ranFuncId sub reply,
        view (.reportSmXappApi id ranFuncId sub reply) = none)
    (free : ∀ sub, view (.freeKpmSubData sub) = none)
    {id : GlobalE2NodeId}
    {kpm : KpmRanFunctionDef} :
    Silent view (sendSubscription env i id kpm hndl) := by
  rw [sendSubscription_eq]
  refine genKpmSubs_silent.bind fun kpmSub => ?_
  refine Silent.bind ?_ (keepAnswer_silent (free kpmSub))
  intro world
  simp [reportSmXappApi, report]

/-- A view that hides the three calls of the body sees nothing of it. -/
theorem subscribeNode_silent
    {Seen : Type}
    {view : SetupEvent → Option Seen}
    (stray : view (strayRf e2Node) = none)
    (report :
      ∀ id ranFuncId sub reply,
        view (.reportSmXappApi id ranFuncId sub reply) = none)
    (free : ∀ sub, view (.freeKpmSubData sub) = none) :
    Silent view (subscribeNode env i e2Node hndl) := by
  rw [subscribeNode_eq]
  refine (locateKpm_silent stray).bind fun ranFunction => ?_
  cases ranFunction.defn with
  | other =>
      exact Silent.stop _
  | kpm kpm =>
      exact Silent.ite (sendSubscription_silent report free)
        (Silent.pure hndl)

/-- A subscription whose reply is a success fills its slot. -/
theorem sendSubscription_returns
    {kpm : KpmRanFunctionDef}
    {item : RicReportStyleItem}
    (accepted : acceptedItem kpm = some item)
    (blocks :
      blocksGranted env world item.measInfoForActionLst.length = true)
    (success : (env.reply world.reports).success = true)
    (inside : i < hndl.length) :
    Returns (sendSubscription env i e2Node.id kpm hndl) world
      ((NodeFate.subscribed item).subscription env world e2Node)
      ((NodeFate.subscribed item).next world)
      (hndl.set i (env.reply world.reports)) := by
  have built := genKpmSubs_returns accepted blocks
  simp only [Returns] at built ⊢
  simp [sendSubscription, built, reportSmXappApi,
    storeCell_of_lt inside, cell, inside, success,
    NodeFate.subscription, NodeFate.next]

/-- A failing reply is not a grant, and nothing after it is run. -/
theorem sendSubscription_stops_of_reply
    {kpm : KpmRanFunctionDef}
    {item : RicReportStyleItem}
    (accepted : acceptedItem kpm = some item)
    (blocks :
      blocksGranted env world item.measInfoForActionLst.length = true)
    (failure : (env.reply world.reports).success = false)
    (inside : i < hndl.length) :
    ∃ log final why,
      Stops (sendSubscription env i e2Node.id kpm hndl) world
          log final why ∧
        granted log = [] := by
  have built := genKpmSubs_returns accepted blocks
  simp only [Returns, Stops] at built ⊢
  refine
    ⟨[.reportSmXappApi e2Node.id kpmRanFuncId (kpmSubOf env item)
        (env.reply world.reports)],
      (NodeFate.subscribed item).next world,
      .failedCheck "hndl[i].success == true", ?_, ?_⟩
  · simp [sendSubscription, built, reportSmXappApi,
      storeCell_of_lt inside, cell, inside, failure, NodeFate.next]
  · simp [granted, failure]

/-- At a node that is not stopped, the body does what the fate says. -/
theorem subscribeNode_returns
    (proceeds : nodeFate env world e2Node ≠ .stopped)
    (inside : i < hndl.length)
    (zeroed : hndl[i]? = some SmAnsXapp.zeroed) :
    Returns (subscribeNode env i e2Node hndl) world
      (nodeEvents env world e2Node)
      ((nodeFate env world e2Node).next world)
      (hndl.set i ((nodeFate env world e2Node).slot env world)) := by
  cases definition : kpmDefinition e2Node with
  | none =>
      simp [nodeFate, definition] at proceeds
  | some kpm =>
      simp only [Returns, nodeEvents]
      rw [subscribeNode_of_definition definition]
      cases styles : kpm.ricReportStyleList with
      | none =>
          -- the slot of a skipped node is not written and stays zeroed
          have unchanged : hndl.set i SmAnsXapp.zeroed = hndl := by
            obtain ⟨_, same⟩ := List.getElem?_eq_some_iff.mp zeroed
            rw [← same, List.set_getElem_self]
          simp [nodeFate, definition, styles, NodeFate.next,
            NodeFate.slot, NodeFate.subscription, unchanged]
      | some items =>
          cases accepted : acceptedItem kpm with
          | none =>
              simp [nodeFate, definition, styles, accepted] at proceeds
          | some item =>
              by_cases answers :
                  blocksGranted env world
                      item.measInfoForActionLst.length = true ∧
                    (env.reply world.reports).success = true
              · obtain ⟨blocks, success⟩ := answers
                have fate :
                    nodeFate env world e2Node = .subscribed item := by
                  simp [nodeFate, definition, styles, accepted, blocks,
                    success]
                have sent :
                    sendSubscription env i e2Node.id kpm hndl world = _ :=
                  (sendSubscription_returns accepted blocks success
                    inside).apply
                rw [fate, Option.isSome_some, if_pos rfl, sent]
                rfl
              · simp [nodeFate, definition, styles, accepted,
                  answers] at proceeds

/-- Behind filled slots, the body fills the first zeroed one. -/
theorem subscribeNode_fills
    (proceeds : nodeFate env world e2Node ≠ .stopped)
    (filled ahead : List SmAnsXapp) :
    Returns
      (subscribeNode env filled.length e2Node
        (filled ++ SmAnsXapp.zeroed :: ahead))
      world
      (nodeEvents env world e2Node)
      ((nodeFate env world e2Node).next world)
      (filled ++ (nodeFate env world e2Node).slot env world ::
        ahead) := by
  have fills :
      Returns
        (subscribeNode env filled.length e2Node
          (filled ++ SmAnsXapp.zeroed :: ahead))
        world _ _ _ :=
    subscribeNode_returns proceeds (by simp) (by simp)
  rwa [List.set_append_right _ _ (Nat.le_refl _), Nat.sub_self,
    List.set_cons_zero] at fills

/-- At a stopped node the body stops, without a grant. -/
theorem subscribeNode_stops
    (stopped : nodeFate env world e2Node = .stopped)
    (inside : i < hndl.length) :
    ∃ log final why,
      Stops (subscribeNode env i e2Node hndl) world log final why ∧
        granted log = [] := by
  cases definition : kpmDefinition e2Node with
  | none =>
      obtain ⟨log, why, stops, strays⟩ :=
        subscribeNode_stops_of_definition definition
      exact ⟨log, world, why, stops, filterMap_strays rfl strays⟩
  | some kpm =>
      cases styles : kpm.ricReportStyleList with
      | none =>
          simp [nodeFate, definition, styles] at stopped
      | some items =>
          have sends :
              ∃ log final why,
                Stops (sendSubscription env i e2Node.id kpm hndl) world
                    log final why ∧
                  granted log = [] := by
            cases accepted : acceptedItem kpm with
            | none =>
                obtain ⟨final, why, rejected⟩ :=
                  genKpmSubs_stops_of_rejected accepted
                exact ⟨_, final, why, rejected.bind _, rfl⟩
            | some item =>
                cases blocks :
                    blocksGranted env world
                      item.measInfoForActionLst.length with
                | false =>
                    obtain ⟨final, why, refused⟩ :=
                      genKpmSubs_stops_of_blocks accepted blocks
                    exact ⟨_, final, why, refused.bind _, rfl⟩
                | true =>
                    have failure :
                        (env.reply world.reports).success = false := by
                      simpa [nodeFate, definition, styles, accepted,
                        blocks] using stopped
                    exact sendSubscription_stops_of_reply accepted
                      blocks failure inside
          obtain ⟨log, final, why, stops, noGrant⟩ := sends
          refine ⟨lookupEvents e2Node ++ log, final, why, ?_, ?_⟩
          · simp only [Stops]
            rw [subscribeNode_of_definition definition, styles,
              Option.isSome_some, if_pos rfl, stops.apply, Run.after_mk]
          · simp [noGrant]

end Body

end IqosXapp.KpmManager
