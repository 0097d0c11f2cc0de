import IqosXapp.KpmManager.SerialisedReports

namespace IqosXapp.KpmManager

open Effect Program Transition Relation

/-!
# No callback is stuck

Whoever holds `mtx` can print what is left, count and release, and then every
invocation that waits can have its turn.  What it takes is that the traversal
of each message completes and that `counter` has room for the turns.
-/

/-- The traversal of the message reaches its end. -/
def Traversable (msg : KpmIndMsg) : Prop :=
  ∀ counter, messageOutcome msg counter = .done ()

namespace Process

/-- The invocation has returned. -/
def Finished (process : Process) (id : Nat) : Prop :=
  ∃ invocation,
    process.invocations id = some invocation ∧
      invocation.phase = .finished

/-- Every message that an invocation was called with can be traversed. -/
def AllTraversable (process : Process) : Prop :=
  ∀ id invocation,
    process.invocations id = some invocation →
    Traversable invocation.ind.msg

/--
The invocations of a process go on: none is lost or called with another
indication, and those that returned stay so.  Only the invocations that are
listed move, and the thread of `start` stays where it is.
-/
structure GoesOn
    (process : Process)
    (moved : List Nat)
    (next : Process) : Prop where
  kept :
    ∀ id invocation,
      process.invocations id = some invocation →
      ∃ later,
        next.invocations id = some later ∧ later.ind = invocation.ind
  finished : ∀ id, process.Finished id → next.Finished id
  onlyKept :
    ∀ id later,
      next.invocations id = some later →
      ∃ invocation,
        process.invocations id = some invocation ∧
          later.ind = invocation.ind
  others :
    ∀ id, id ∉ moved → next.invocations id = process.invocations id
  starter : next.starter = process.starter

namespace GoesOn

variable
  {process middle next : Process}
  {moved : List Nat}

theorem refl (process : Process) (moved : List Nat) :
    process.GoesOn moved process where
  kept _ invocation present := ⟨invocation, present, rfl⟩
  finished _ finished := finished
  onlyKept _ later present := ⟨later, present, rfl⟩
  others _ _ := rfl
  starter := rfl

theorem trans
    (first : process.GoesOn moved middle)
    (second : middle.GoesOn moved next) :
    process.GoesOn moved next where
  kept id invocation present := by
    obtain ⟨between, there, same⟩ := first.kept id invocation present
    obtain ⟨later, last, alike⟩ := second.kept id between there
    exact ⟨later, last, alike.trans same⟩
  finished id finished := second.finished id (first.finished id finished)
  onlyKept id later present := by
    obtain ⟨between, there, alike⟩ := second.onlyKept id later present
    obtain ⟨invocation, before, same⟩ := first.onlyKept id between there
    exact ⟨invocation, before, alike.trans same⟩
  others id unmoved :=
    (second.others id unmoved).trans (first.others id unmoved)
  starter := second.starter.trans first.starter

/-- A longer list says less about the others. -/
theorem of_subset
    {more : List Nat}
    (goesOn : process.GoesOn moved next)
    (subset : moved ⊆ more) :
    process.GoesOn more next :=
  { goesOn with
    others := fun id unmoved =>
      goesOn.others id fun member => unmoved (subset member) }

/-- Only one invocation moves, and its indication stays. -/
theorem of_invocations
    {id : Nat}
    {invocation : Invocation}
    (later : Invocation)
    (present : process.invocations id = some invocation)
    (same : later.ind = invocation.ind)
    (done : invocation.phase = .finished → later.phase = .finished)
    (invocations :
      next.invocations = (process.place id later).invocations)
    (starter : next.starter = process.starter) :
    process.GoesOn [id] next where
  kept other client found := by
    by_cases equal : other = id
    · subst equal
      rw [present] at found
      cases found
      exact ⟨later, by simp [invocations], same⟩
    · refine ⟨client, ?_, rfl⟩
      rw [invocations, place_invocations_of_ne process id later equal,
        found]
  finished other finished := by
    obtain ⟨client, found, ended⟩ := finished
    by_cases equal : other = id
    · subst equal
      rw [present] at found
      cases found
      exact ⟨later, by simp [invocations], done ended⟩
    · refine ⟨client, ?_, ended⟩
      rw [invocations, place_invocations_of_ne process id later equal,
        found]
  onlyKept other client found := by
    by_cases equal : other = id
    · subst equal
      obtain rfl : later = client := by
        simpa [invocations] using found
      exact ⟨invocation, present, same⟩
    · refine ⟨client, ?_, rfl⟩
      rwa [invocations, place_invocations_of_ne process id later equal]
        at found
  others other unmoved := by
    rw [invocations, place_invocations_of_ne process id later
      (List.ne_of_not_mem_cons unmoved)]
  starter := starter

theorem allTraversable
    (goesOn : process.GoesOn moved next)
    (traversable : process.AllTraversable) :
    next.AllTraversable := by
  intro id later present
  obtain ⟨invocation, before, same⟩ := goesOn.onlyKept id later present
  rw [same]
  exact traversable id invocation before

end GoesOn

end Process

section Progress

variable
  {env : Environment}
  {e2Nodes : List E2NodeConnectedXapp}
  {process : Process}

/-- A run that no environment and no nodes stand against. -/
def CallbackRun (process next : Process) : Prop :=
  ∀ env e2Nodes, ReflTransGen (ProcessStep env e2Nodes) process next

theorem CallbackRun.trans
    {middle next : Process}
    (first : CallbackRun process middle)
    (second : CallbackRun middle next) :
    CallbackRun process next :=
  fun env e2Nodes => (first env e2Nodes).trans (second env e2Nodes)

/--
A run of the callbacks by which one invocation returns: it leaves `mtx` free,
takes at most one turn and moves no other invocation.
-/
structure TakesTurn
    (process : Process)
    (id : Nat)
    (next : Process) : Prop where
  run : CallbackRun process next
  running : next.aborted = false
  free : next.holder = none
  goesOn : process.GoesOn [id] next
  returned : next.Finished id
  counter : next.counter ≤ process.counter + 1

/-- Steps of the invocation before its turn ends belong to the turn. -/
theorem TakesTurn.behind
    {middle next : Process}
    {id : Nat}
    (turn : TakesTurn middle id next)
    (run : CallbackRun process middle)
    (goesOn : process.GoesOn [id] middle)
    (counter : middle.counter = process.counter) :
    TakesTurn process id next where
  run := run.trans turn.run
  running := turn.running
  free := turn.free
  goesOn := goesOn.trans turn.goesOn
  returned := turn.returned
  counter := counter ▸ turn.counter

/-- Behind `counter++` there is only the release. -/
theorem takesTurn_of_counted
    {id : Nat}
    {invocation : Invocation}
    (running : process.aborted = false)
    (present : process.invocations id = some invocation)
    (phase : invocation.phase = .counted) :
    ∃ next, TakesTurn process id next :=
  ⟨_, {
    run := fun _ _ => .single (.release running present phase)
    running := running
    free := rfl
    goesOn :=
      .of_invocations { invocation with phase := .finished } present rfl
        (fun _ => rfl) rfl rfl
    returned := ⟨_, Process.place_invocations_self .., rfl⟩
    counter := Nat.le_succ _ }⟩

/-- Behind the last line the invocation counts and releases. -/
theorem takesTurn_of_printed
    {id : Nat}
    {invocation : Invocation}
    (running : process.aborted = false)
    (present : process.invocations id = some invocation)
    (phase : invocation.phase = .printing [])
    (traversable : Traversable invocation.ind.msg)
    (room : process.counter < intMax) :
    ∃ next, TakesTurn process id next :=
  ⟨_, {
    run := fun _ _ =>
      release_run running present phase (traversable _) room
    running := running
    free := rfl
    goesOn :=
      .of_invocations { invocation with phase := .finished } present rfl
        (fun _ => rfl) rfl rfl
    returned := ⟨_, Process.place_invocations_self .., rfl⟩
    counter := Nat.le_refl _ }⟩

/-- An invocation among its lines prints the rest of them. -/
theorem takesTurn_of_printing
    {id : Nat}
    {invocation : Invocation}
    {lines : List Line}
    (running : process.aborted = false)
    (present : process.invocations id = some invocation)
    (phase : invocation.phase = .printing lines)
    (traversable : Traversable invocation.ind.msg)
    (room : process.counter < intMax) :
    ∃ next, TakesTurn process id next := by
  have printed :
      CallbackRun process
        { process.place id { invocation with phase := .printing [] } with
          output := process.output ++ lines.map .line } :=
    fun _ _ => printLines_run running present phase
  obtain ⟨next, turn⟩ :
      ∃ next,
        TakesTurn
          { process.place id { invocation with phase := .printing [] } with
            output := process.output ++ lines.map .line } id next :=
    takesTurn_of_printed running (Process.place_invocations_self ..) rfl
      traversable room
  exact ⟨next, turn.behind printed
    (.of_invocations { invocation with phase := .printing [] } present
      rfl (by simp [phase]) rfl rfl) rfl⟩

/-- The invocation that just acquired `mtx` prints its header and its lines. -/
theorem takesTurn_of_locked
    {id : Nat}
    {invocation : Invocation}
    (running : process.aborted = false)
    (present : process.invocations id = some invocation)
    (phase : invocation.phase = .locked)
    (traversable : Traversable invocation.ind.msg)
    (room : process.counter < intMax) :
    ∃ next, TakesTurn process id next := by
  let printing : Invocation :=
    { invocation with
      phase :=
        .printing (messageLines invocation.ind.msg process.counter) }
  let headed : Process :=
    { process.place id printing with
      output :=
        process.output ++
          [.header process.counter invocation.latency] }
  have header : CallbackRun process headed :=
    fun _ _ => .single (.printHeader running present phase)
  obtain ⟨next, turn⟩ : ∃ next, TakesTurn headed id next :=
    takesTurn_of_printing running (Process.place_invocations_self ..) rfl
      traversable room
  exact ⟨next, turn.behind header
    (.of_invocations printing present rfl (by simp [phase]) rfl rfl) rfl⟩

/-- Whoever holds `mtx` gets to its end. -/
theorem takesTurn_of_holdsMtx
    {id : Nat}
    {invocation : Invocation}
    (running : process.aborted = false)
    (present : process.invocations id = some invocation)
    (holds : invocation.phase.holdsMtx = true)
    (traversable : Traversable invocation.ind.msg)
    (room : process.counter < intMax) :
    ∃ next, TakesTurn process id next := by
  cases phase : invocation.phase with
  | locked =>
      exact takesTurn_of_locked running present phase traversable room
  | printing lines =>
      exact takesTurn_of_printing running present phase traversable room
  | counted =>
      exact takesTurn_of_counted running present phase
  | _ =>
      rw [phase] at holds
      cases holds

/-- Who read the time acquires a free `mtx`. -/
theorem takesTurn_of_canAcquire
    {id : Nat}
    {invocation : Invocation}
    (can : process.CanAcquire id invocation)
    (traversable : Traversable invocation.ind.msg)
    (room : process.counter < intMax) :
    ∃ next, TakesTurn process id next := by
  obtain ⟨next, turn⟩ :
      ∃ next,
        TakesTurn (process.acquire id invocation) id next :=
    takesTurn_of_locked can.running (Process.place_invocations_self ..)
      rfl traversable room
  exact ⟨next, turn.behind (fun _ _ => .single (.acquire can))
    (.of_invocations { invocation with phase := .locked } can.present rfl
      (by simp [can.timed]) rfl rfl) rfl⟩

/-- Who was just invoked reads the time, whatever it is, and goes on. -/
theorem takesTurn_of_entered
    {id : Nat}
    {invocation : Invocation}
    (running : process.aborted = false)
    (free : process.holder = none)
    (present : process.invocations id = some invocation)
    (phase : invocation.phase = .entered)
    (traversable : Traversable invocation.ind.msg)
    (room : process.counter < intMax) :
    ∃ next, TakesTurn process id next := by
  let timed : Invocation :=
    { invocation with
      latency := 0 - invocation.ind.hdr.collectStartTime
      phase := .timed }
  have readTime : CallbackRun process (process.place id timed) :=
    fun _ _ => .single (.readTime 0 running present phase)
  obtain ⟨next, turn⟩ :
      ∃ next, TakesTurn (process.place id timed) id next :=
    takesTurn_of_canAcquire
      ⟨running, free, Process.place_invocations_self .., rfl⟩
      traversable room
  exact ⟨next, turn.behind readTime
    (.of_invocations timed present rfl (by simp [phase]) rfl rfl) rfl⟩

/-- With `mtx` free, any invocation can return. -/
theorem takesTurn_of_free
    {id : Nat}
    {invocation : Invocation}
    (reachable : (processes env e2Nodes).Reachable process)
    (running : process.aborted = false)
    (free : process.holder = none)
    (present : process.invocations id = some invocation)
    (traversable : Traversable invocation.ind.msg)
    (room : process.counter < intMax) :
    ∃ next, TakesTurn process id next := by
  obtain ⟨_, _, simulates⟩ :=
    (processes_simulation env e2Nodes).reachable reachable
  have outside :=
    simulates.outside id invocation present (by simp [free])
  cases phase : invocation.phase with
  | entered =>
      exact takesTurn_of_entered running free present phase traversable
        room
  | timed =>
      exact takesTurn_of_canAcquire ⟨running, free, present, phase⟩
        traversable room
  | finished =>
      exact ⟨process, fun _ _ => .refl, running, free, .refl process _,
        ⟨invocation, present, phase⟩, Nat.le_succ _⟩
  | _ =>
      rw [phase] at outside
      cases outside

/-- Whoever is inside can leave, and nobody else moves. -/
theorem frees
    (reachable : (processes env e2Nodes).Reachable process)
    (running : process.aborted = false)
    (traversable : process.AllTraversable)
    (room : process.counter < intMax) :
    ∃ next,
      CallbackRun process next ∧
        next.aborted = false ∧
        next.holder = none ∧
        process.GoesOn process.holder.toList next ∧
        (∀ id ∈ process.holder.toList, next.Finished id) ∧
        next.counter ≤ process.counter + 1 := by
  obtain ⟨region, _, simulates⟩ :=
    (processes_simulation env e2Nodes).reachable reachable
  have occupied := simulates.occupied
  cases current : region.current with
  | none =>
      rw [current] at occupied
      exact ⟨process, fun _ _ => .refl, running, occupied.1,
        .refl process _, by simp [occupied.1], Nat.le_succ _⟩
  | some entry =>
      obtain ⟨acquisition, rest⟩ := entry
      rw [current] at occupied
      obtain ⟨holder, phase, ⟨node, present⟩, turn⟩ := occupied
      obtain ⟨next, takes⟩ :=
        takesTurn_of_holdsMtx running present turn.holdsMtx
          (traversable _ _ present) room
      rw [holder]
      exact ⟨next, takes.run, takes.running, takes.free, takes.goesOn,
        List.forall_mem_singleton.mpr takes.returned, takes.counter⟩

/--
A run of the callbacks by which the invocations of a list return: it leaves
`mtx` free and moves no other invocation.
-/
structure AllReturn
    (process : Process)
    (ids : List Nat)
    (next : Process) : Prop where
  run : CallbackRun process next
  running : next.aborted = false
  free : next.holder = none
  goesOn : process.GoesOn ids next
  returned : ∀ id ∈ ids, next.Finished id

/-- With `mtx` free, the invocations of a list return one after the other. -/
theorem allReturn_of_free
    {ids : List Nat}
    (reachable : (processes env e2Nodes).Reachable process)
    (running : process.aborted = false)
    (free : process.holder = none)
    (traversable : process.AllTraversable)
    (room : process.counter + ids.length ≤ intMax)
    (present : ∀ id ∈ ids, ∃ invocation,
      process.invocations id = some invocation) :
    ∃ next, AllReturn process ids next := by
  induction ids generalizing process with
  | nil =>
      exact ⟨process, fun _ _ => .refl, running, free, .refl process _,
        by simp⟩
  | cons id rest inductionHypothesis =>
      rw [List.length_cons] at room
      obtain ⟨invocation, there⟩ := present id (by simp)
      obtain ⟨middle, turn⟩ :=
        takesTurn_of_free reachable running free there
          (traversable id invocation there) (by omega)
      have counter := turn.counter
      have later :
          ∀ other ∈ rest, ∃ invocation,
            middle.invocations other = some invocation := by
        intro other member
        obtain ⟨client, before⟩ := present other (by simp [member])
        obtain ⟨client, after, _⟩ := turn.goesOn.kept other client before
        exact ⟨client, after⟩
      obtain ⟨next, all⟩ :=
        inductionHypothesis (reachable.run (turn.run env e2Nodes))
          turn.running turn.free
          (turn.goesOn.allTraversable traversable) (by omega) later
      refine ⟨next, turn.run.trans all.run, all.running, all.free, ?_, ?_⟩
      · exact (turn.goesOn.of_subset (by simp)).trans
          (all.goesOn.of_subset (by simp))
      · intro other member
        rcases List.mem_cons.mp member with rfl | behind
        · exact all.goesOn.finished other turn.returned
        · exact all.returned other behind

/-- Whoever is inside returns, and the invocations of a list behind it. -/
theorem allReturn
    {ids : List Nat}
    (reachable : (processes env e2Nodes).Reachable process)
    (running : process.aborted = false)
    (traversable : process.AllTraversable)
    (room : process.counter + ids.length < intMax)
    (present : ∀ id ∈ ids, ∃ invocation,
      process.invocations id = some invocation) :
    ∃ next,
      AllReturn process (process.holder.toList ++ ids) next := by
  obtain ⟨middle, first, runs, isFree, goesOn, left, counter⟩ :=
    frees reachable running traversable (by omega)
  have later :
      ∀ id ∈ ids, ∃ invocation,
        middle.invocations id = some invocation := by
    intro id member
    obtain ⟨invocation, before⟩ := present id member
    obtain ⟨invocation, after, _⟩ := goesOn.kept id invocation before
    exact ⟨invocation, after⟩
  obtain ⟨next, all⟩ :=
    allReturn_of_free (reachable.run (first env e2Nodes)) runs isFree
      (goesOn.allTraversable traversable) (by omega) later
  refine ⟨next, first.trans all.run, all.running, all.free,
    (goesOn.of_subset (by simp)).trans (all.goesOn.of_subset (by simp)),
    fun id member => ?_⟩
  rcases List.mem_append.mp member with inside | listed
  · exact all.goesOn.finished id (left id inside)
  · exact all.returned id listed

/--
From every state that a run reaches, whoever holds `mtx` and the invocations of
a list can all return, and `mtx` is free then: no interleaving leaves a callback
stuck.  Every other invocation and the thread of `start` stay where they are.
-/
theorem callbacks_return
    {ids : List Nat}
    (reachable : (processes env e2Nodes).Reachable process)
    (running : process.aborted = false)
    (traversable : process.AllTraversable)
    (room : process.counter + ids.length < intMax)
    (present : ∀ id ∈ ids, ∃ invocation,
      process.invocations id = some invocation) :
    ∃ next,
      ReflTransGen (ProcessStep env e2Nodes) process next ∧
        next.aborted = false ∧
        next.holder = none ∧
        process.GoesOn (process.holder.toList ++ ids) next ∧
        ∀ id ∈ process.holder.toList ++ ids, next.Finished id := by
  obtain ⟨next, all⟩ :=
    allReturn reachable running traversable room present
  exact ⟨next, all.run env e2Nodes, all.running, all.free, all.goesOn,
    all.returned⟩

end Progress

/-! ## Callbacks in the middle of a run -/

/-- The traversal of a message without an ending is complete. -/
theorem traversable_of_ending
    {msg : KpmIndMsg}
    (completes : (messageTrace msg).ending = none) :
    Traversable msg := by
  intro counter
  rw [messageOutcome_eq, Trace.outcome, completes]

/-- Each callback of the process was invoked with the same indication. -/
theorem interleaved_ind
    {id : Nat}
    {invocation : Invocation}
    (present : interleaved.invocations id = some invocation) :
    invocation.ind = twoIntegers := by
  have placed :
      interleaved.invocations id =
        if id = 2 then some ⟨0, twoIntegers, 7, .timed⟩
        else if id = 1 then
          some ⟨0, twoIntegers, 6,
            .printing (messageLines twoIntegers.msg 2)⟩
        else if id = 0 then some ⟨0, twoIntegers, 5, .finished⟩
        else none := by
    simp [interleaved, reportedOnce, Process.report, Process.place,
      Function.update_apply, firstSubscribed, Process.initial]
  rw [placed] at present
  split_ifs at present <;> cases present <;> rfl

theorem interleaved_traversable : interleaved.AllTraversable := by
  intro id invocation present
  rw [interleaved_ind present]
  exact traversable_of_ending (by decide)

theorem interleaved_present
    {id : Nat}
    (listed : id = 2 ∨ id = 1 ∨ id = 0) :
    ∃ invocation, interleaved.invocations id = some invocation := by
  rcases listed with rfl | rfl | rfl <;> exact ⟨_, rfl⟩

/-- A callback that waits; the one that holds `mtx` returns before it. -/
theorem callbacks_return_interleaved :
    ∃ next,
      ReflTransGen
          (ProcessStep Environment.ideal [gnbNode, duNode])
          interleaved next ∧
        next.Finished 1 ∧ next.Finished 2 ∧
        next.invocations 3 = none ∧
        next.starter = interleaved.starter := by
  obtain ⟨next, run, _, _, goesOn, finished⟩ :=
    @callbacks_return _ _ _ [2, 0] interleaved_reachable rfl
      interleaved_traversable (by decide) fun id listed =>
        interleaved_present (by simp at listed; omega)
  exact ⟨next, run, finished 1 (by decide), finished 2 (by simp),
    goesOn.others 3 (by decide), goesOn.starter⟩

end IqosXapp.KpmManager
