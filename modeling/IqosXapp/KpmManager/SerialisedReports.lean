import IqosXapp.KpmManager.SequentialRuns

namespace IqosXapp.KpmManager

open Effect Program Transition

/-!
# Serialised reports

In every interleaving of `start` and its callbacks, `mtx` is acquired only
after it is initialised and by one callback at a time, the output is the
blocks of the callbacks in the order in which they acquired `mtx`, and their
headers count from one.
-/

/-! ## What is proved of a process -/

/-- The number and the latency that a header shows. -/
def ReportEvent.header? : ReportEvent → Option (Nat × UInt64)
  | .header counter latency => some (counter, latency)
  | _ => none

/-- The headers of an output, in order. -/
def headers (output : List ReportEvent) : List (Nat × UInt64) :=
  output.filterMap ReportEvent.header?

/-- The headers of these acquisitions, numbered from one. -/
def announced (acquisitions : List Acquisition) : List (Nat × UInt64) :=
  acquisitions.zipIdx.map fun entry => (entry.2 + 1, entry.1.latency)

/-- The invocation has executed `counter++`. -/
def Phase.hasCounted : Phase → Bool
  | .counted => true
  | .finished => true
  | _ => false

/-- The invocation that acquired `mtx` has executed `counter++`. -/
def Process.hasCounted
    (process : Process)
    (acquisition : Acquisition) : Bool :=
  match process.invocations acquisition.invocation with
  | some invocation => invocation.phase.hasCounted
  | none => false

/--
The output is the blocks of who released `mtx`, and what the holder has
printed of its own block so far.
-/
def Process.Serialised (process : Process) : Prop :=
  ∃ released written,
    process.output =
        CriticalSection.blocks block released ++ written ∧
      match process.holder with
      | none => process.acquisitions = released ∧ written = []
      | some id =>
          ∃ holder rest,
            holder.invocation = id ∧
              process.acquisitions = released ++ [holder] ∧
              written ++ rest = block released.length holder

/-- Serialised, gap-free reports. -/
structure Process.SerialisedReports (process : Process) : Prop where
  initialized :
    ∀ id invocation,
      process.CanAcquire id invocation →
      process.starter.mtxInitialized = true
  exclusive :
    ∀ first second one other,
      process.invocations first = some one →
      process.invocations second = some other →
      one.phase.holdsMtx = true →
      other.phase.holdsMtx = true →
      first = second
  serialised : process.Serialised
  recorded :
    ∀ id invocation,
      process.invocations id = some invocation →
      invocation.phase = .entered ∨ invocation.phase = .timed ∨
        ⟨id, invocation.ind, invocation.latency⟩ ∈ process.acquisitions
  acquired :
    ∀ acquisition ∈ process.acquisitions,
      ∃ phase,
        process.StandsAt acquisition phase ∧
          (phase.holdsMtx = true ∨ phase = .finished)
  once : (process.acquisitions.map (·.invocation)).Nodup
  ordered : headers process.output <+: announced process.acquisitions
  numbered :
    (headers process.output).map (·.1) =
      List.range' 1 (headers process.output).length
  counted :
    process.counter =
      process.acquisitions.countP process.hasCounted + 1

/-! ## Headers -/

@[simp] theorem headers_block
    (before : Nat)
    (acquisition : Acquisition) :
    headers (block before acquisition) =
      [(before + 1, acquisition.latency)] := by
  have lines (texts : List Line) :
      (texts.map ReportEvent.line).filterMap ReportEvent.header? = [] := by
    simp [ReportEvent.header?]
  simp [headers, block, ReportEvent.header?, lines]

/-- The headers of whole blocks are numbered from one. -/
theorem headers_blocks (acquisitions : List Acquisition) :
    headers (CriticalSection.blocks block acquisitions) =
      announced acquisitions := by
  have each (entry : Acquisition × Nat) :
      (block entry.2 entry.1).filterMap ReportEvent.header? =
        [(entry.2 + 1, entry.1.latency)] :=
    headers_block entry.2 entry.1
  simp only [headers, CriticalSection.blocks, announced,
    List.filterMap_flatMap, each]
  exact (List.map_eq_flatMap ..).symm

theorem announced_numbers (acquisitions : List Acquisition) :
    (announced acquisitions).map (·.1) =
      List.range' 1 acquisitions.length := by
  have numbers :
      (announced acquisitions).map (·.1) =
        (acquisitions.zipIdx.map Prod.snd).map (· + 1) := by
    simp only [announced, List.map_map]
    rfl
  rw [numbers, List.zipIdx_map_snd, ← List.range'_succ_left]

/-- A first part of the announced headers is numbered without a gap. -/
theorem numbered_of_isPrefix
    {shown : List (Nat × UInt64)}
    {acquisitions : List Acquisition}
    (first : shown <+: announced acquisitions) :
    shown.map (·.1) = List.range' 1 shown.length := by
  have short : shown.length ≤ acquisitions.length := by
    simpa [announced] using first.length_le
  calc shown.map (·.1)
      = ((announced acquisitions).map (·.1)).take shown.length := by
        rw [← List.map_take, ← List.prefix_iff_eq_take.mp first]
    _ = List.range' 1 shown.length := by
        rw [announced_numbers, List.take_range'_of_length_ge short]

/-! ## Invariants beside the simulation -/

section Runs

variable
  {env : Environment}
  {e2Nodes : List E2NodeConnectedXapp}

/-- A step of the thread of `start` leaves `mtx` initialised. -/
theorem StartStep.mtxInitialized
    {phase next : StartPhase}
    (step : StartStep env e2Nodes phase next) :
    next.mtxInitialized = true := by
  cases step <;> rfl

/-- Only the subscribing phase has subscribed nodes. -/
theorem StartPhase.Subscribed.mtxInitialized
    {phase : StartPhase}
    {node : Nat}
    (subscribed : phase.Subscribed node) :
    phase.mtxInitialized = true := by
  cases phase with
  | created => exact subscribed.elim
  | initialized => exact subscribed.elim
  | subscribing world hndl next => rfl

namespace Process

/-- A callback runs only after `mtx` is initialised. -/
def Prepared (process : Process) : Prop :=
  ∀ id invocation,
    process.invocations id = some invocation →
    process.starter.mtxInitialized = true

/-- The invocation has not acquired `mtx`, or its acquisition is listed. -/
def Accounted (process : Process) : Prop :=
  ∀ id invocation,
    process.invocations id = some invocation →
    invocation.phase = .entered ∨ invocation.phase = .timed ∨
      ⟨id, invocation.ind, invocation.latency⟩ ∈ process.acquisitions

variable
  {process : Process}
  {id : Nat}
  {invocation : Invocation}

theorem prepared_place
    (initialized : process.starter.mtxInitialized = true) :
    (process.place id invocation).Prepared :=
  fun _ _ _ => initialized

theorem Accounted.place
    (accounted : process.Accounted)
    (placed :
      invocation.phase = .entered ∨ invocation.phase = .timed ∨
        ⟨id, invocation.ind, invocation.latency⟩ ∈
          process.acquisitions) :
    (process.place id invocation).Accounted := by
  intro other client present
  by_cases same : other = id
  · subst same
    obtain rfl : invocation = client := by
      simpa using present
    exact placed
  · rw [place_invocations_of_ne process id invocation same] at present
    exact accounted other client present

/-- An invocation that has acquired `mtx` may go on. -/
theorem Accounted.go
    (accounted : process.Accounted)
    (present : process.invocations id = some invocation)
    (acquired : invocation.phase ≠ .entered ∧ invocation.phase ≠ .timed)
    (phase : Phase) :
    (process.place id { invocation with phase := phase }).Accounted := by
  refine accounted.place (.inr (.inr ?_))
  rcases accounted id invocation present with entered | timed | listed
  · exact absurd entered acquired.1
  · exact absurd timed acquired.2
  · exact listed

end Process

/-- No callback runs before `mtx` is initialised. -/
theorem prepared_inductive :
    (processes env e2Nodes).Inductive Process.Prepared where
  initially := by
    rintro process rfl id invocation present
    simp [Process.initial] at present
  preserved := by
    intro process next prepared step
    cases step with
    | start running step =>
        exact fun _ _ _ => step.mtxInitialized
    | startAborts running aborts =>
        exact prepared
    | invoke id node ind running subscribed fresh =>
        exact Process.prepared_place subscribed.mtxInitialized
    | rejectAnswer node rd running subscribed rejected =>
        exact prepared
    | readTime now running present phase =>
        exact Process.prepared_place (prepared _ _ present)
    | acquire can =>
        exact Process.prepared_place (prepared _ _ can.present)
    | printHeader running present phase =>
        exact Process.prepared_place (prepared _ _ present)
    | printLine running present phase =>
        exact Process.prepared_place (prepared _ _ present)
    | increment running present phase traversed room =>
        exact Process.prepared_place (prepared _ _ present)
    | overflow running present phase traversed full =>
        exact prepared
    | abortMessage running present phase stopped =>
        exact prepared
    | release running present phase =>
        exact Process.prepared_place (prepared _ _ present)

/-- Every acquisition is listed. -/
theorem accounted_inductive :
    (processes env e2Nodes).Inductive Process.Accounted where
  initially := by
    rintro process rfl id invocation present
    simp [Process.initial] at present
  preserved := by
    intro process next accounted step
    cases step with
    | start running step =>
        exact accounted
    | startAborts running aborts =>
        exact accounted
    | invoke id node ind running subscribed fresh =>
        exact accounted.place (.inl rfl)
    | rejectAnswer node rd running subscribed rejected =>
        exact accounted
    | readTime now running present phase =>
        exact accounted.place (.inr (.inl rfl))
    | @acquire id invocation can =>
        have grown :
            Process.Accounted
              { process with
                acquisitions :=
                  process.acquisitions ++
                    [⟨id, invocation.ind, invocation.latency⟩] } := by
          intro other client present
          rcases accounted other client present with
            entered | timed | listed
          · exact .inl entered
          · exact .inr (.inl timed)
          · exact .inr (.inr (List.mem_append_left _ listed))
        exact grown.place (.inr (.inr (by simp)))
    | printHeader running present phase =>
        exact accounted.go present (by simp [phase]) _
    | printLine running present phase =>
        exact accounted.go present (by simp [phase]) _
    | increment running present phase traversed room =>
        exact accounted.go present (by simp [phase]) _
    | overflow running present phase traversed full =>
        exact accounted
    | abortMessage running present phase stopped =>
        exact accounted
    | release running present phase =>
        exact accounted.go present (by simp [phase]) _

end Runs

/-! ## Reading the simulation -/

/-- `counter` counts who left, and the holder from its increment on. -/
theorem Turn.counter_eq
    {before counter : Nat}
    {acquisition : Acquisition}
    {phase : Phase}
    {rest : List ReportEvent}
    (turn : Turn before acquisition phase rest counter) :
    counter = before + [phase].countP Phase.hasCounted + 1 := by
  cases turn <;> rfl

namespace Simulates

variable
  {process : Process}
  {region : CriticalSection Acquisition ReportEvent}

/-- Two invocations inside the lock are one. -/
theorem exclusive
    {first second : Nat}
    {one other : Invocation}
    (simulates : Simulates process region)
    (firstPresent : process.invocations first = some one)
    (secondPresent : process.invocations second = some other)
    (firstHolds : one.phase.holdsMtx = true)
    (secondHolds : other.phase.holdsMtx = true) :
    first = second := by
  obtain ⟨_, _, firstHolder, _⟩ :=
    simulates.inside firstPresent rfl firstHolds
  obtain ⟨_, _, secondHolder, _⟩ :=
    simulates.inside secondPresent rfl secondHolds
  exact Option.some.inj (firstHolder.symm.trans secondHolder)

/-- The output is whole blocks and a first part of the holder's block. -/
theorem serialised
    {written : List ReportEvent}
    (simulates : Simulates process region)
    (blocks : CriticalSection.Written block region written) :
    process.Serialised := by
  obtain ⟨log, unfinished⟩ := blocks
  have occupied := simulates.occupied
  have acquired := simulates.acquired
  refine ⟨region.released, written,
    simulates.printed.trans log, ?_⟩
  cases current : region.current with
  | none =>
      rw [current] at occupied unfinished
      rw [occupied.1]
      refine ⟨?_, unfinished⟩
      simpa [CriticalSection.entered, current] using acquired
  | some entry =>
      obtain ⟨holder, rest⟩ := entry
      rw [current] at occupied unfinished
      rw [occupied.1]
      refine ⟨holder, rest, rfl, ?_, unfinished⟩
      simpa [CriticalSection.entered, current] using acquired

theorem hasCounted_of_standsAt
    {acquisition : Acquisition}
    {phase : Phase}
    (stands : process.StandsAt acquisition phase) :
    process.hasCounted acquisition = phase.hasCounted := by
  obtain ⟨node, present⟩ := stands
  simp [Process.hasCounted, present]

/-- `counter` is one more than the number of those that counted. -/
theorem counted (simulates : Simulates process region) :
    process.counter =
      process.acquisitions.countP process.hasCounted + 1 := by
  have left :
      region.released.countP process.hasCounted =
        region.released.length := by
    refine List.countP_eq_length.mpr fun acquisition released => ?_
    exact hasCounted_of_standsAt (simulates.left acquisition released)
  have occupied := simulates.occupied
  cases current : region.current with
  | none =>
      rw [current] at occupied
      rw [simulates.acquired, CriticalSection.entered, current,
        occupied.2]
      simp [left]
  | some entry =>
      obtain ⟨holder, rest⟩ := entry
      rw [current] at occupied
      obtain ⟨_, phase, stands, turn⟩ := occupied
      have holderCounted := hasCounted_of_standsAt stands
      rw [simulates.acquired, CriticalSection.entered, current,
        turn.counter_eq]
      simp [left, holderCounted, List.countP_cons, Nat.add_assoc]

end Simulates

/-! ## Every reachable process -/

section Reachable

variable
  {env : Environment}
  {e2Nodes : List E2NodeConnectedXapp}
  {process : Process}

/-- Serialised output is a first part of the blocks of all acquisitions. -/
theorem Process.Serialised.isPrefix
    (serialised : process.Serialised) :
    process.output <+:
      CriticalSection.blocks block process.acquisitions := by
  obtain ⟨released, written, output, unfinished⟩ := serialised
  cases holder : process.holder with
  | none =>
      rw [holder] at unfinished
      obtain ⟨acquired, nothing⟩ := unfinished
      exact ⟨[], by simp [output, acquired, nothing]⟩
  | some id =>
      rw [holder] at unfinished
      obtain ⟨inside, rest, _, acquired, whole⟩ := unfinished
      refine ⟨rest, ?_⟩
      rw [output, acquired, CriticalSection.blocks_append_singleton,
        ← whole, List.append_assoc]

/-- The reports of every reachable process are serialised. -/
theorem serialisedReports_of_reachable
    (reachable : (processes env e2Nodes).Reachable process) :
    process.SerialisedReports := by
  obtain ⟨region, regionReachable, simulates⟩ :=
    (processes_simulation env e2Nodes).reachable reachable
  obtain ⟨written, blocks⟩ :=
    CriticalSection.log_serialised block regionReachable
  have serialised := simulates.serialised blocks
  have ordered :
      headers process.output <+: announced process.acquisitions := by
    rw [← headers_blocks]
    exact serialised.isPrefix.filterMap _
  exact {
    initialized := fun id invocation can =>
      prepared_inductive.holds reachable id invocation can.present
    exclusive := fun _ _ _ _ => simulates.exclusive
    serialised := serialised
    recorded := accounted_inductive.holds reachable
    acquired := fun _ => simulates.standsAt
    once := simulates.once
    ordered := ordered
    numbered := numbered_of_isPrefix ordered
    counted := simulates.counted }

end Reachable

/-! ## Callbacks in the middle of a run -/

/-- Of two nodes, `start` has subscribed the first. -/
def firstSubscribed : Process :=
  { Process.initial with
    starter :=
      .subscribing ⟨10, 1⟩
        [Environment.ideal.reply 0, SmAnsXapp.zeroed] 1 }

/-- An indication with two integers. -/
def twoIntegers : KpmIndData :=
  indicationOf (.frm3 (messageOf namedInfos (integers 2)))

/-- A first callback came and went. -/
def reportedOnce : Process :=
  firstSubscribed.report 0 0 twoIntegers 5

/--
A second callback has acquired `mtx` and printed its header, and a third one
waits for it.
-/
def interleaved : Process :=
  { (reportedOnce.place 1
        ⟨0, twoIntegers, 6, .printing (messageLines twoIntegers.msg 2)⟩).place
      2 ⟨0, twoIntegers, 7, .timed⟩ with
    holder := some 1
    output := reportedOnce.output ++ [.header 2 6]
    acquisitions :=
      reportedOnce.acquisitions ++ [⟨1, twoIntegers, 6⟩] }

theorem firstSubscribed_reachable :
    (processes Environment.ideal [gnbNode, duNode]).Reachable
      firstSubscribed := by
  have subscribes :
      Returns (subscribeNode Environment.ideal 0 gnbNode
          (List.replicate 2 SmAnsXapp.zeroed))
        ⟨1, 0⟩ _ ⟨10, 1⟩ [Environment.ideal.reply 0, SmAnsXapp.zeroed] :=
    rfl
  exact ⟨Process.initial, rfl, starter_run rfl
    (.head (.initMutex rfl)
      (.head (.allocHndl rfl) (.single (.subscribe rfl subscribes))))⟩

theorem firstSubscribed_subscribed :
    firstSubscribed.starter.Subscribed 0 :=
  ⟨Environment.ideal.reply 0, rfl, rfl⟩

/-- The callbacks get there by themselves. -/
theorem interleaved_run
    (env : Environment)
    (e2Nodes : List E2NodeConnectedXapp) :
    Relation.ReflTransGen (ProcessStep env e2Nodes)
      firstSubscribed interleaved := by
  have returns :
      Returns (smCbKpm 5 (indicationAnswer twoIntegers))
        firstSubscribed.counter _ _ () :=
    smCbKpm_returns 5 (by decide) (by decide)
  have first :
      Relation.ReflTransGen (ProcessStep env e2Nodes)
        firstSubscribed reportedOnce :=
    (report_run rfl rfl firstSubscribed_subscribed rfl returns).1
  have second :=
    first.trans
      (readTime_run 1 twoIntegers 6 rfl firstSubscribed_subscribed rfl)
  have holds :=
    second.trans
      (header_run
        ⟨rfl, rfl, Process.place_invocations_self reportedOnce 1
          ⟨0, twoIntegers, 6, .timed⟩, rfl⟩)
  have third :=
    holds.trans
      (readTime_run 2 twoIntegers 7 rfl firstSubscribed_subscribed rfl)
  have counter : reportedOnce.counter = 2 := rfl
  have collectStartTime : twoIntegers.hdr.collectStartTime = 0 := rfl
  simpa [interleaved, Process.place, counter, collectStartTime] using third

theorem interleaved_reachable :
    (processes Environment.ideal [gnbNode, duNode]).Reachable
      interleaved :=
  firstSubscribed_reachable.run (interleaved_run _ _)

/-- Two callbacks at once, behind one that has returned. -/
theorem serialisedReports_interleaved :
    interleaved.holder = some 1 ∧ interleaved.counter = 2 ∧
      interleaved.SerialisedReports :=
  ⟨rfl, rfl, serialisedReports_of_reachable interleaved_reachable⟩

end IqosXapp.KpmManager
