import IqosXapp.KpmManager.Concurrency
import IqosXapp.Transition.CriticalSection

namespace IqosXapp.KpmManager

open Effect Program Transition

/-!
# The callbacks as a critical section

The callbacks of `start` refine the abstract critical section: acquiring `mtx`
enters, each printed event writes, releasing leaves, and everything else is
invisible.  What a client writes is the header with the number of its turn
and the lines of its message.
-/

/-- What the callback with this acquisition prints on its turn. -/
def block (before : Nat) (acquisition : Acquisition) : List ReportEvent :=
  .header (before + 1) acquisition.latency ::
    (messageLines acquisition.ind.msg (before + 1)).map .line

/-- The acquisition of an invocation. -/
def Invocation.acquisition
    (invocation : Invocation)
    (id : Nat) : Acquisition where
  invocation := id
  ind := invocation.ind
  latency := invocation.latency

namespace Process

/-- The invocation that acquired `mtx` is at this phase. -/
def StandsAt
    (process : Process)
    (acquisition : Acquisition)
    (phase : Phase) : Prop :=
  ∃ node,
    process.invocations acquisition.invocation =
      some ⟨node, acquisition.ind, acquisition.latency, phase⟩

/-- Placing an invocation leaves the others where they stand. -/
theorem standsAt_place_of_ne
    {process : Process}
    {acquisition : Acquisition}
    {phase : Phase}
    {id : Nat}
    (invocation : Invocation)
    (other : acquisition.invocation ≠ id)
    (stands : process.StandsAt acquisition phase) :
    (process.place id invocation).StandsAt acquisition phase := by
  obtain ⟨node, present⟩ := stands
  exact ⟨node, by
    rwa [place_invocations_of_ne process id invocation other]⟩

end Process

/-! ## The simulation -/

/--
Where the invocation inside stands, what it has left to print, and `counter`.
-/
inductive Turn (before : Nat) (acquisition : Acquisition) :
    Phase → List ReportEvent → Nat → Prop where
  | locked :
      Turn before acquisition .locked (block before acquisition)
        (before + 1)
  | printing (rest : List Line) :
      Turn before acquisition (.printing rest) (rest.map .line)
        (before + 1)
  | counted :
      Turn before acquisition .counted [] (before + 2)

namespace Turn

variable
  {before counter : Nat}
  {acquisition : Acquisition}
  {rest : List ReportEvent}

/-- Whose turn it is holds `mtx`. -/
theorem holdsMtx
    {phase : Phase}
    (turn : Turn before acquisition phase rest counter) :
    phase.holdsMtx = true := by
  cases turn <;> rfl

theorem of_locked
    (turn : Turn before acquisition .locked rest counter) :
    rest = block before acquisition ∧ counter = before + 1 := by
  cases turn
  exact ⟨rfl, rfl⟩

theorem of_printing
    {lines : List Line}
    (turn : Turn before acquisition (.printing lines) rest counter) :
    rest = lines.map .line ∧ counter = before + 1 := by
  cases turn
  exact ⟨rfl, rfl⟩

theorem of_counted
    (turn : Turn before acquisition .counted rest counter) :
    rest = [] ∧ counter = before + 2 := by
  cases turn
  exact ⟨rfl, rfl⟩

end Turn

/-- Who holds `mtx` and how far it is. -/
def Occupied (process : Process) (before : Nat) :
    Option (Acquisition × List ReportEvent) → Prop
  | none =>
      process.holder = none ∧ process.counter = before + 1
  | some (acquisition, rest) =>
      process.holder = some acquisition.invocation ∧
        ∃ phase,
          process.StandsAt acquisition phase ∧
            Turn before acquisition phase rest process.counter

/-- The process seen as a critical section. -/
structure Simulates
    (process : Process)
    (region : CriticalSection Acquisition ReportEvent) : Prop where
  acquired : process.acquisitions = region.entered
  printed : process.output = region.log
  occupied : Occupied process region.released.length region.current
  left :
    ∀ acquisition ∈ region.released,
      process.StandsAt acquisition .finished
  outside :
    ∀ id invocation,
      process.invocations id = some invocation →
      process.holder ≠ some id →
      invocation.phase.holdsMtx = false
  once : (process.acquisitions.map (·.invocation)).Nodup

namespace Simulates

variable
  {process : Process}
  {region : CriticalSection Acquisition ReportEvent}

/-- An invocation inside the lock is the one in the critical section. -/
theorem inside
    {id : Nat}
    {invocation : Invocation}
    {phase : Phase}
    (simulates : Simulates process region)
    (present : process.invocations id = some invocation)
    (standing : invocation.phase = phase)
    (holds : phase.holdsMtx = true) :
    ∃ rest,
      region.current = some (invocation.acquisition id, rest) ∧
        process.holder = some id ∧
        Turn region.released.length (invocation.acquisition id) phase
          rest process.counter := by
  subst standing
  have held : process.holder = some id := by
    by_contra free
    have := simulates.outside id invocation present free
    simp [holds] at this
  have occupied := simulates.occupied
  cases current : region.current with
  | none =>
      rw [current] at occupied
      simp [Occupied, held] at occupied
  | some entry =>
      obtain ⟨⟨entrant, ind, latency⟩, rest⟩ := entry
      rw [current] at occupied
      obtain ⟨holder, phase, ⟨node, stands⟩, turn⟩ := occupied
      obtain rfl : id = entrant := by
        simpa [held] using holder
      rw [present] at stands
      cases stands
      exact ⟨rest, rfl, held, turn⟩

/-- Who acquired `mtx` is inside or finished. -/
theorem standsAt
    {acquisition : Acquisition}
    (simulates : Simulates process region)
    (listed : acquisition ∈ process.acquisitions) :
    ∃ phase,
      process.StandsAt acquisition phase ∧
        (phase.holdsMtx = true ∨ phase = .finished) := by
  have occupied := simulates.occupied
  rw [simulates.acquired, CriticalSection.entered, List.mem_append]
    at listed
  rcases listed with released | inside
  · exact ⟨.finished, simulates.left acquisition released, .inr rfl⟩
  · cases current : region.current with
    | none =>
        simp [current] at inside
    | some entry =>
        obtain ⟨entrant, rest⟩ := entry
        obtain rfl : acquisition = entrant := by
          simpa [current] using inside
        rw [current] at occupied
        obtain ⟨_, phase, stands, turn⟩ := occupied
        exact ⟨phase, stands, .inl turn.holdsMtx⟩

/-- An invocation that has not acquired `mtx` is in no acquisition. -/
theorem not_acquired
    {id : Nat}
    (simulates : Simulates process region)
    (before :
      ∀ invocation,
        process.invocations id = some invocation →
        invocation.phase = .entered ∨ invocation.phase = .timed)
    {acquisition : Acquisition}
    (listed : acquisition ∈ process.acquisitions) :
    acquisition.invocation ≠ id := by
  rintro rfl
  obtain ⟨phase, ⟨node, present⟩, after⟩ := simulates.standsAt listed
  rcases before _ present with entered | timed
  · obtain rfl : phase = .entered := entered
    simp [Phase.holdsMtx] at after
  · obtain rfl : phase = .timed := timed
    simp [Phase.holdsMtx] at after

/-- Who has left is not the invocation inside. -/
theorem left_ne
    {id : Nat}
    {invocation : Invocation}
    (simulates : Simulates process region)
    (present : process.invocations id = some invocation)
    (holds : invocation.phase.holdsMtx = true)
    {acquisition : Acquisition}
    (released : acquisition ∈ region.released) :
    acquisition.invocation ≠ id := by
  rintro rfl
  obtain ⟨node, finished⟩ := simulates.left acquisition released
  rw [present] at finished
  cases finished
  cases holds

/-- A placed invocation outside the lock leaves everyone else outside. -/
theorem outside_place
    (simulates : Simulates process region)
    {id : Nat}
    {invocation : Invocation}
    {holder : Option Nat}
    (placed :
      holder ≠ some id → invocation.phase.holdsMtx = false)
    (kept :
      ∀ other, other ≠ id → holder ≠ some other →
        process.holder ≠ some other)
    (other : Nat)
    (client : Invocation)
    (present :
      (process.place id invocation).invocations other = some client)
    (free : holder ≠ some other) :
    client.phase.holdsMtx = false := by
  by_cases same : other = id
  · subst same
    obtain rfl : invocation = client := by
      simpa using present
    exact placed free
  · refine simulates.outside other client ?_ (kept other same free)
    rwa [Process.place_invocations_of_ne process id invocation same]
      at present

/-- Steps outside the lock are invisible. -/
theorem place
    {id : Nat}
    {invocation : Invocation}
    (simulates : Simulates process region)
    (before :
      ∀ earlier,
        process.invocations id = some earlier →
        earlier.phase = .entered ∨ earlier.phase = .timed)
    (outside : invocation.phase.holdsMtx = false) :
    Simulates (process.place id invocation) region where
  acquired := simulates.acquired
  printed := simulates.printed
  occupied := by
    have occupied := simulates.occupied
    have acquired := simulates.acquired
    cases current : region.current with
    | none =>
        rw [current] at occupied
        exact occupied
    | some entry =>
        obtain ⟨acquisition, rest⟩ := entry
        rw [current] at occupied
        obtain ⟨holder, phase, stands, turn⟩ := occupied
        have listed : acquisition ∈ process.acquisitions := by
          simp [acquired, CriticalSection.entered, current]
        exact ⟨holder, phase,
          Process.standsAt_place_of_ne invocation
            (simulates.not_acquired before listed) stands, turn⟩
  left acquisition released := by
    have listed : acquisition ∈ process.acquisitions := by
      simp [simulates.acquired, CriticalSection.entered, released]
    exact Process.standsAt_place_of_ne invocation
      (simulates.not_acquired before listed)
      (simulates.left acquisition released)
  outside :=
    simulates.outside_place (fun _ => outside) fun _ _ free => free
  once := simulates.once

/-- Acquiring `mtx` enters. -/
theorem acquire
    {id : Nat}
    {invocation : Invocation}
    (simulates : Simulates process region)
    (can : process.CanAcquire id invocation) :
    region.current = none ∧
      Simulates (process.acquire id invocation)
        { region with
          current :=
            some (invocation.acquisition id,
              block region.released.length
                (invocation.acquisition id)) } := by
  have occupied := simulates.occupied
  have before :
      ∀ earlier,
        process.invocations id = some earlier →
        earlier.phase = .entered ∨ earlier.phase = .timed := by
    intro earlier present
    rw [can.present] at present
    cases present
    exact .inr can.timed
  cases current : region.current with
  | some entry =>
      rw [current] at occupied
      have holder := occupied.1
      simp [can.free] at holder
  | none =>
      rw [current] at occupied
      obtain ⟨_, counter⟩ := occupied
      have entered : process.acquisitions = region.released := by
        simp [simulates.acquired, CriticalSection.entered, current]
      refine ⟨rfl, ?_, simulates.printed, ?_, ?_, ?_, ?_⟩
      · simp [Process.acquire, Invocation.acquisition,
          CriticalSection.entered, entered]
      · have turn :
            Turn region.released.length (invocation.acquisition id)
              .locked
              (block region.released.length (invocation.acquisition id))
              process.counter := by
          rw [counter]
          exact .locked
        exact ⟨rfl, .locked,
          ⟨invocation.node, Process.place_invocations_self ..⟩, turn⟩
      · intro acquisition released
        have listed : acquisition ∈ process.acquisitions := by
          rwa [entered]
        exact Process.standsAt_place_of_ne
          { invocation with phase := .locked }
          (simulates.not_acquired before listed)
          (simulates.left acquisition released)
      · refine simulates.outside_place (fun free => absurd rfl free) ?_
        simp [can.free]
      · simp only [Process.acquire, List.map_append, List.map_cons,
          List.map_nil]
        refine List.nodup_append.mpr
          ⟨simulates.once, by simp, ?_⟩
        simp only [List.mem_map, List.mem_singleton]
        rintro _ ⟨acquisition, listed, rfl⟩ _ rfl
        exact simulates.not_acquired before listed

/-- A step inside the lock, before the release. -/
theorem advance
    {id counter : Nat}
    {invocation : Invocation}
    {earlier phase : Phase}
    {remaining : List ReportEvent}
    (simulates : Simulates process region)
    (present : process.invocations id = some invocation)
    (standing : invocation.phase = earlier)
    (holds : earlier.holdsMtx = true)
    (turn :
      Turn region.released.length (invocation.acquisition id) phase
        remaining counter)
    (printed : List ReportEvent) :
    Simulates
      { process.place id { invocation with phase := phase } with
        counter := counter
        output := process.output ++ printed }
      { region with
        current := some (invocation.acquisition id, remaining)
        log := region.log ++ printed } := by
  obtain ⟨_, current, holder, _⟩ :=
    simulates.inside present standing holds
  subst standing
  constructor
  · simpa [CriticalSection.entered, current] using simulates.acquired
  · exact congrArg (· ++ printed) simulates.printed
  · exact ⟨holder, phase,
      ⟨invocation.node, Process.place_invocations_self ..⟩, turn⟩
  · intro acquisition released
    exact Process.standsAt_place_of_ne { invocation with phase := phase }
      (simulates.left_ne present holds released)
      (simulates.left acquisition released)
  · exact simulates.outside_place
      (fun free => absurd holder free) fun _ _ free => free
  · exact simulates.once

/-- Printing the header writes the first event of the block. -/
theorem printHeader
    {id : Nat}
    {invocation : Invocation}
    (simulates : Simulates process region)
    (present : process.invocations id = some invocation)
    (standing : invocation.phase = .locked) :
    ∃ rest,
      region.current =
          some (invocation.acquisition id,
            .header process.counter invocation.latency :: rest) ∧
        Simulates
          { process.place id
              { invocation with
                phase :=
                  .printing
                    (messageLines invocation.ind.msg
                      process.counter) } with
            output :=
              process.output ++
                [.header process.counter invocation.latency] }
          { region with
            current := some (invocation.acquisition id, rest)
            log :=
              region.log ++
                [.header process.counter invocation.latency] } := by
  obtain ⟨_, current, _, turn⟩ := simulates.inside present standing rfl
  obtain ⟨rfl, counter⟩ := turn.of_locked
  refine ⟨(messageLines invocation.ind.msg process.counter).map .line,
    ?_, simulates.advance present standing rfl ?_ _⟩
  · rw [current, counter]
    rfl
  · rw [Process.place_counter, counter]
    exact .printing _

/-- Printing a line writes the next event of the block. -/
theorem printLine
    {id : Nat}
    {invocation : Invocation}
    {line : Line}
    {lines : List Line}
    (simulates : Simulates process region)
    (present : process.invocations id = some invocation)
    (standing : invocation.phase = .printing (line :: lines)) :
    ∃ rest,
      region.current =
          some (invocation.acquisition id, .line line :: rest) ∧
        Simulates
          { process.place id
              { invocation with phase := .printing lines } with
            output := process.output ++ [.line line] }
          { region with
            current := some (invocation.acquisition id, rest)
            log := region.log ++ [.line line] } := by
  obtain ⟨_, current, _, turn⟩ := simulates.inside present standing rfl
  obtain ⟨rfl, counter⟩ := turn.of_printing
  refine ⟨lines.map .line, current,
    simulates.advance present standing rfl ?_ _⟩
  rw [Process.place_counter, counter]
  exact .printing lines

/-- `counter++` is invisible. -/
theorem increment
    {id : Nat}
    {invocation : Invocation}
    (simulates : Simulates process region)
    (present : process.invocations id = some invocation)
    (standing : invocation.phase = .printing []) :
    Simulates
      { process.place id { invocation with phase := .counted } with
        counter := process.counter + 1 }
      region := by
  obtain ⟨_, current, _, turn⟩ := simulates.inside present standing rfl
  obtain ⟨rfl, counter⟩ := turn.of_printing
  have traversed :
      Turn region.released.length (invocation.acquisition id) .counted
        [] (process.counter + 1) := by
    rw [counter]
    exact .counted
  have advanced := simulates.advance present standing rfl traversed []
  obtain ⟨released, _, log⟩ := region
  obtain rfl := current
  simpa using advanced

/-- Releasing `mtx` leaves. -/
theorem release
    {id : Nat}
    {invocation : Invocation}
    (simulates : Simulates process region)
    (present : process.invocations id = some invocation)
    (standing : invocation.phase = .counted) :
    region.current = some (invocation.acquisition id, []) ∧
      Simulates
        { process.place id { invocation with phase := .finished } with
          holder := none }
        { region with
          released := region.released ++ [invocation.acquisition id]
          current := none } := by
  obtain ⟨_, current, holder, turn⟩ :=
    simulates.inside present standing rfl
  obtain ⟨rfl, counter⟩ := turn.of_counted
  refine ⟨current, ?_⟩
  constructor
  · simpa [CriticalSection.entered, current] using simulates.acquired
  · exact simulates.printed
  · exact ⟨rfl, by simpa using counter⟩
  · intro acquisition released
    rcases List.mem_append.mp released with before | last
    · have holds : invocation.phase.holdsMtx = true := by
        rw [standing]
        rfl
      exact Process.standsAt_place_of_ne
        { invocation with phase := .finished }
        (simulates.left_ne present holds before)
        (simulates.left acquisition before)
    · obtain rfl := List.mem_singleton.mp last
      exact ⟨invocation.node, Process.place_invocations_self ..⟩
  · refine simulates.outside_place (fun _ => rfl) ?_
    intro other different _ held
    rw [holder] at held
    exact different (Option.some.inj held).symm
  · exact simulates.once

end Simulates

section Runs

variable
  (env : Environment)
  (e2Nodes : List E2NodeConnectedXapp)

/-- The callbacks of `start` refine the critical section. -/
theorem processes_simulation :
    (processes env e2Nodes).Simulation
      (CriticalSection.system block) Simulates where
  initially := by
    rintro process rfl
    refine ⟨.idle, rfl, rfl, rfl, ⟨rfl, rfl⟩, ?_, ?_, List.nodup_nil⟩
    · simp [CriticalSection.idle]
    · simp [Process.initial]
  matched := by
    intro process next region simulates step
    have stutter :
        ∀ {after}, Simulates after region →
          ∃ view,
            Relation.ReflTransGen
                (CriticalSection.system block).step region view ∧
              Simulates after view :=
      fun same => ⟨region, .refl, same⟩
    cases step with
    | start running step =>
        exact stutter { simulates with }
    | startAborts running aborts =>
        exact stutter { simulates with }
    | invoke id node ind running subscribed fresh =>
        refine stutter (simulates.place ?_ rfl)
        simp [fresh]
    | rejectAnswer node rd running subscribed rejected =>
        exact stutter { simulates with }
    | readTime now running present phase =>
        refine stutter (simulates.place ?_ rfl)
        intro earlier same
        rw [present] at same
        cases same
        exact .inl phase
    | acquire can =>
        obtain ⟨free, entered⟩ := simulates.acquire can
        exact ⟨_, .single (.enter _ _ free), entered⟩
    | printHeader running present phase =>
        obtain ⟨rest, current, printed⟩ :=
          simulates.printHeader present phase
        exact ⟨_, .single (.write _ _ _ _ current), printed⟩
    | printLine running present phase =>
        obtain ⟨rest, current, printed⟩ :=
          simulates.printLine present phase
        exact ⟨_, .single (.write _ _ _ _ current), printed⟩
    | increment running present phase traversed room =>
        exact stutter (simulates.increment present phase)
    | overflow running present phase traversed full =>
        exact stutter { simulates with }
    | abortMessage running present phase stopped =>
        exact stutter { simulates with }
    | release running present phase =>
        obtain ⟨current, left⟩ := simulates.release present phase
        exact ⟨_, .single (.leave _ _ current), left⟩

end Runs

end IqosXapp.KpmManager
