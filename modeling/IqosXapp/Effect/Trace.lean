import IqosXapp.Effect.Traverse

namespace Effect

/-!
# Traces of programs that leave the state alone

A program without a result that never changes the state is known by one value:
the events it logs and the reason for which it stops, if it stops.  Traces
compose like the programs do, and nothing is appended to a trace that ended.
`Settles` says that a trace is the whole behaviour of a program.
-/

/-- The events of a run, and the reason for which it stopped. -/
@[ext]
structure Trace (Event Why : Type) where
  log : List Event
  ending : Option Why
  deriving Repr, DecidableEq

variable {State Event Why α : Type}

namespace Trace

/-- The trace of a program that does nothing. -/
def nil : Trace Event Why where
  log := []
  ending := none

/-- The trace of a program that logs and goes on. -/
def logs (log : List Event) : Trace Event Why where
  log := log
  ending := none

/-- The trace of a program that stops at once. -/
def stops (why : Why) : Trace Event Why where
  log := []
  ending := some why

/-- One trace followed by another, unless the first one has ended. -/
def append (first second : Trace Event Why) : Trace Event Why :=
  match first.ending with
  | none => ⟨first.log ++ second.log, second.ending⟩
  | some why => ⟨first.log, some why⟩

instance : Append (Trace Event Why) where
  append := append

/-- The traces of all cells of a list, in order. -/
def sequence (trace : α → Trace Event Why) :
    List α → Trace Event Why
  | [] => nil
  | item :: rest => trace item ++ sequence trace rest

/-- How the run of the program ends. -/
def outcome (trace : Trace Event Why) : Outcome Why Unit :=
  match trace.ending with
  | none => .done ()
  | some why => .stop why

@[simp] theorem nil_log : (nil : Trace Event Why).log = [] :=
  rfl

@[simp] theorem nil_ending : (nil : Trace Event Why).ending = none :=
  rfl

@[simp] theorem logs_log (log : List Event) :
    (logs log : Trace Event Why).log = log :=
  rfl

@[simp] theorem logs_ending (log : List Event) :
    (logs log : Trace Event Why).ending = none :=
  rfl

@[simp] theorem stops_log (why : Why) :
    (stops why : Trace Event Why).log = [] :=
  rfl

@[simp] theorem stops_ending (why : Why) :
    (stops why : Trace Event Why).ending = some why :=
  rfl

/-- A trace that goes on is followed by the next one. -/
theorem append_of_none
    {first : Trace Event Why}
    (goesOn : first.ending = none)
    (second : Trace Event Why) :
    first ++ second = ⟨first.log ++ second.log, second.ending⟩ := by
  change append first second = _
  simp [append, goesOn]

/-- Nothing follows a trace that ended. -/
theorem append_of_some
    {first : Trace Event Why}
    {why : Why}
    (ended : first.ending = some why)
    (second : Trace Event Why) :
    first ++ second = first := by
  change append first second = first
  simp [append, ended, Trace.ext_iff]

/-- Two logs in sequence are one log. -/
theorem logs_append_logs (early late : List Event) :
    (logs early ++ logs late : Trace Event Why) =
      logs (early ++ late) :=
  rfl

/-- The first ending counts. -/
@[simp] theorem append_ending (first second : Trace Event Why) :
    (first ++ second).ending = first.ending.or second.ending := by
  cases ended : first.ending with
  | none =>
      simp [append_of_none ended]
  | some why =>
      simp [append_of_some ended, ended]

/-- What two traces in sequence log, one of them logs. -/
theorem mem_append_log
    {first second : Trace Event Why}
    {event : Event}
    (logged : event ∈ (first ++ second).log) :
    event ∈ first.log ∨ event ∈ second.log := by
  cases ended : first.ending with
  | none =>
      simpa [append_of_none ended] using logged
  | some why =>
      rw [append_of_some ended] at logged
      exact .inl logged

@[simp] theorem sequence_nil (trace : α → Trace Event Why) :
    sequence trace [] = nil :=
  rfl

@[simp] theorem sequence_cons
    (trace : α → Trace Event Why)
    (item : α)
    (rest : List α) :
    sequence trace (item :: rest) =
      trace item ++ sequence trace rest :=
  rfl

theorem append_nil (trace : Trace Event Why) :
    trace ++ nil = trace := by
  cases ended : trace.ending with
  | none =>
      simp [append_of_none ended, Trace.ext_iff, ended]
  | some why =>
      exact append_of_some ended nil

/-- What a sequence logs, one of its traces logs. -/
theorem mem_sequence_log
    {trace : α → Trace Event Why}
    {items : List α}
    {event : Event}
    (logged : event ∈ (sequence trace items).log) :
    ∃ item ∈ items, event ∈ (trace item).log := by
  induction items with
  | nil =>
      simp at logged
  | cons item rest inductionHypothesis =>
      rcases mem_append_log logged with head | tail
      · exact ⟨item, by simp, head⟩
      · obtain ⟨later, member, listed⟩ := inductionHypothesis tail
        exact ⟨later, by simp [member], listed⟩

/-- Sequences agree when the traces of all cells do. -/
theorem sequence_congr
    {first second : α → Trace Event Why}
    {items : List α}
    (same : ∀ item ∈ items, first item = second item) :
    sequence first items = sequence second items := by
  induction items with
  | nil =>
      rfl
  | cons item rest inductionHypothesis =>
      have tail :=
        inductionHypothesis fun later member =>
          same later (by simp [member])
      simp only [sequence_cons, same item (by simp), tail]

/-- A sequence ends as its first ended trace does. -/
theorem sequence_ending
    (trace : α → Trace Event Why)
    (items : List α) :
    (sequence trace items).ending =
      items.findSome? fun item => (trace item).ending := by
  induction items with
  | nil =>
      rfl
  | cons item rest inductionHypothesis =>
      cases ended : (trace item).ending <;>
        simp [ended, inductionHypothesis]

/-- A sequence goes on exactly when all of its traces do. -/
theorem sequence_ending_eq_none_iff
    (trace : α → Trace Event Why)
    (items : List α) :
    (sequence trace items).ending = none ↔
      ∀ item ∈ items, (trace item).ending = none := by
  simp [sequence_ending]

/-- A sequence that ended did so at one of its traces. -/
theorem sequence_ending_eq_some
    {trace : α → Trace Event Why}
    {items : List α}
    {why : Why}
    (ended : (sequence trace items).ending = some why) :
    ∃ item ∈ items, (trace item).ending = some why := by
  simp only [sequence_ending] at ended
  exact List.exists_of_findSome?_eq_some ended

/--
When each trace goes on exactly if its cell is good, and otherwise ends badly,
the same holds of the sequence.
-/
theorem sequence_ending_cases
    {trace : α → Trace Event Why}
    {items : List α}
    {good : α → Prop}
    {bad : Option Why → Prop}
    (ends : ¬bad none)
    (each :
      ∀ item ∈ items,
        (good item ∧ (trace item).ending = none) ∨
          (¬good item ∧ bad (trace item).ending)) :
    ((∀ item ∈ items, good item) ∧
        (sequence trace items).ending = none) ∨
      ((¬∀ item ∈ items, good item) ∧
        bad (sequence trace items).ending) := by
  cases ended : (sequence trace items).ending with
  | none =>
      left
      refine ⟨fun item member => ?_, rfl⟩
      have goesOn :=
        (sequence_ending_eq_none_iff _ _).mp ended item member
      rcases each item member with ⟨isGood, _⟩ | ⟨_, isBad⟩
      · exact isGood
      · rw [goesOn] at isBad
        exact (ends isBad).elim
  | some why =>
      right
      obtain ⟨item, member, endedHere⟩ := sequence_ending_eq_some ended
      rcases each item member with ⟨_, goesOn⟩ | ⟨notGood, isBad⟩
      · simp [goesOn] at endedHere
      · rw [endedHere] at isBad
        exact ⟨fun all => notGood (all item member), isBad⟩

/-- Logging cell by cell is one log. -/
theorem sequence_logs
    (events : α → List Event)
    (items : List α) :
    (sequence (fun item => logs (events item)) items :
        Trace Event Why) =
      logs (items.flatMap events) := by
  induction items with
  | nil =>
      rfl
  | cons item rest inductionHypothesis =>
      simp only [sequence_cons, inductionHypothesis,
        logs_append_logs, List.flatMap_cons]

end Trace

namespace Program

/-- The program does what the trace says and leaves every state alone. -/
def Settles
    (program : Program State Event Why Unit)
    (trace : Trace Event Why) : Prop :=
  ∀ state, program state = ⟨trace.log, state, trace.outcome⟩

namespace Settles

theorem apply
    {program : Program State Event Why Unit}
    {trace : Trace Event Why}
    (settles : Settles program trace)
    (state : State) :
    program state = ⟨trace.log, state, trace.outcome⟩ :=
  settles state

theorem pure :
    Settles (Pure.pure () : Program State Event Why Unit) Trace.nil :=
  fun _ => rfl

theorem emit (event : Event) :
    Settles (emit event : Program State Event Why Unit)
      (Trace.logs [event]) :=
  fun _ => rfl

theorem stop (why : Why) :
    Settles (stop why : Program State Event Why Unit)
      (Trace.stops why) :=
  fun _ => rfl

/-- Programs in sequence append their traces. -/
theorem bind
    {first second : Program State Event Why Unit}
    {early late : Trace Event Why}
    (head : Settles first early)
    (tail : Settles second late) :
    Settles (first >>= fun _ => second) (early ++ late) := by
  intro state
  cases ended : early.ending with
  | none =>
      simp [head.apply, tail.apply, Trace.append_of_none ended,
        Trace.outcome, ended]
  | some why =>
      simp [head.apply, Trace.append_of_some ended, Trace.outcome,
        ended]

/-- A traversal runs the traces of its cells in order. -/
theorem forM
    {body : α → Program State Event Why Unit}
    {trace : α → Trace Event Why}
    {cells : List α}
    (steps : ∀ item ∈ cells, Settles (body item) (trace item)) :
    Settles (forM cells body) (Trace.sequence trace cells) := by
  induction cells with
  | nil =>
      exact Settles.pure
  | cons item rest inductionHypothesis =>
      have head := steps item (by simp)
      have tail :=
        inductionHypothesis fun later member =>
          steps later (by simp [member])
      simp only [List.forM_cons, Trace.sequence_cons]
      exact head.bind tail

end Settles

end Program

end Effect
