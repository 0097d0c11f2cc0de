import Mathlib.Data.List.Basic

namespace Effect

/-!
# Programs that log, keep a state and may stop early

A program reads a state and leaves one run behind: the events it logged, the
state it ended in, and either a value or the reason for which it stopped.
Sequencing is deterministic, and nothing that stands after a stop is run.  The
type of stop reasons is a parameter, so a failed assertion and undefined
behaviour can be told apart by the program's own model.

Facts about programs are kept in two forms: `Returns` and `Stops` give the
whole run, and the rules for sequencing compose them without unfolding a
callee.
-/

/-- How one run ends: with a value, or stopped before it for a reason. -/
inductive Outcome (Why α : Type) where
  | done (value : α)
  | stop (why : Why)
  deriving Repr, DecidableEq

/-- Everything that one run leaves behind. -/
@[ext]
structure Run (State Event Why α : Type) where
  log : List Event
  state : State
  outcome : Outcome Why α
  deriving Repr, DecidableEq

/-- A program maps the state it starts in to its run. -/
def Program (State Event Why α : Type) : Type :=
  State → Run State Event Why α

variable {State Event Why α β γ : Type}

namespace Run

/-- Put earlier events in front of the log of a run. -/
def after
    (earlier : List Event)
    (run : Run State Event Why α) :
    Run State Event Why α :=
  { run with log := earlier ++ run.log }

@[simp] theorem after_mk
    (earlier log : List Event)
    (state : State)
    (outcome : Outcome Why α) :
    after earlier ⟨log, state, outcome⟩ =
      ⟨earlier ++ log, state, outcome⟩ :=
  rfl

@[simp] theorem after_nil
    (run : Run State Event Why α) :
    after [] run = run :=
  rfl

theorem after_after
    (first second : List Event)
    (run : Run State Event Why α) :
    after first (after second run) =
      after (first ++ second) run := by
  simp [after, List.append_assoc]

/-- Continue a run that returned; a stopped run stays as it is. -/
def andThen
    (first : Run State Event Why α)
    (next : α → Program State Event Why β) :
    Run State Event Why β :=
  match first with
  | ⟨log, state, .done value⟩ => (next value state).after log
  | ⟨log, state, .stop why⟩ => ⟨log, state, .stop why⟩

@[simp] theorem andThen_done
    (log : List Event)
    (state : State)
    (value : α)
    (next : α → Program State Event Why β) :
    andThen ⟨log, state, .done value⟩ next =
      (next value state).after log :=
  rfl

@[simp] theorem andThen_stop
    (log : List Event)
    (state : State)
    (why : Why)
    (next : α → Program State Event Why β) :
    andThen ⟨log, state, .stop why⟩ next =
      ⟨log, state, .stop why⟩ :=
  rfl

/-- Earlier events commute with continuing a run. -/
theorem after_andThen
    (earlier : List Event)
    (run : Run State Event Why α)
    (next : α → Program State Event Why β) :
    (run.after earlier).andThen next =
      (run.andThen next).after earlier := by
  rcases run with ⟨log, state, outcome⟩
  cases outcome with
  | done value =>
      simp [after_after]
  | stop why =>
      simp

end Run

namespace Program

/-- Return a value and leave the state alone. -/
protected def pure (value : α) : Program State Event Why α :=
  fun state => ⟨[], state, .done value⟩

/-- Run one program, then the next one on its value. -/
protected def bind
    (first : Program State Event Why α)
    (next : α → Program State Event Why β) :
    Program State Event Why β :=
  fun state => (first state).andThen next

instance : Monad (Program State Event Why) where
  pure := Program.pure
  bind := Program.bind

@[simp] theorem pure_apply
    (value : α)
    (state : State) :
    (pure value : Program State Event Why α) state =
      ⟨[], state, .done value⟩ :=
  rfl

@[simp] theorem bind_apply
    (first : Program State Event Why α)
    (next : α → Program State Event Why β)
    (state : State) :
    (first >>= next) state = (first state).andThen next :=
  rfl

instance : LawfulMonad (Program State Event Why) :=
  LawfulMonad.mk' _
    (by
      intro α program
      funext state
      change (program state).andThen Program.pure = program state
      rcases program state with ⟨log, final, outcome⟩
      cases outcome <;> simp [Program.pure])
    (by
      intro α β value next
      rfl)
    (by
      intro α β γ program next last
      funext state
      change
        ((program state).andThen next).andThen last =
          (program state).andThen fun value => next value >>= last
      rcases program state with ⟨log, final, outcome⟩
      cases outcome with
      | done value =>
          simp [Run.after_andThen]
      | stop why =>
          rfl)

@[simp] theorem map_apply
    (finish : α → β)
    (program : Program State Event Why α)
    (state : State) :
    (finish <$> program) state =
      (program state).andThen fun value => pure (finish value) := by
  rw [map_eq_pure_bind]
  rfl

/-- Log one event. -/
def emit (event : Event) : Program State Event Why Unit :=
  fun state => ⟨[event], state, .done ()⟩

/-- Stop for a reason. -/
def stop (why : Why) : Program State Event Why α :=
  fun state => ⟨[], state, .stop why⟩

/-- Read the state. -/
def getState : Program State Event Why State :=
  fun state => ⟨[], state, .done state⟩

/-- Overwrite the state. -/
def setState (next : State) : Program State Event Why Unit :=
  fun _ => ⟨[], next, .done ()⟩

/-- Go on when a condition holds and stop when it does not. -/
def require (condition : Bool) (why : Why) :
    Program State Event Why Unit :=
  if condition then pure () else stop why

/-- Read one cell of an array; an index past its end stops the program. -/
def cell (cells : List α) (index : Nat) (why : Nat → Why) :
    Program State Event Why α :=
  match cells[index]? with
  | some value => pure value
  | none => stop (why index)

/-- Follow a pointer; a null one stops the program. -/
def deref (pointer : Option α) (why : Why) :
    Program State Event Why α :=
  match pointer with
  | some value => pure value
  | none => stop why

@[simp] theorem emit_apply (event : Event) (state : State) :
    (emit event : Program State Event Why Unit) state =
      ⟨[event], state, .done ()⟩ :=
  rfl

@[simp] theorem stop_apply (why : Why) (state : State) :
    (stop why : Program State Event Why α) state =
      ⟨[], state, .stop why⟩ :=
  rfl

@[simp] theorem getState_apply (state : State) :
    (getState : Program State Event Why State) state =
      ⟨[], state, .done state⟩ :=
  rfl

@[simp] theorem setState_apply (next state : State) :
    (setState next : Program State Event Why Unit) state =
      ⟨[], next, .done ()⟩ :=
  rfl

@[simp] theorem require_true (why : Why) :
    (require true why : Program State Event Why Unit) = pure () :=
  rfl

@[simp] theorem require_false (why : Why) :
    (require false why : Program State Event Why Unit) = stop why :=
  rfl

@[simp] theorem deref_some (value : α) (why : Why) :
    (deref (some value) why : Program State Event Why α) = pure value :=
  rfl

@[simp] theorem deref_none (why : Why) :
    (deref none why : Program State Event Why α) = stop why :=
  rfl

/-- A cell that exists is read. -/
theorem cell_of_some
    {cells : List α}
    {index : Nat}
    {value : α}
    (present : cells[index]? = some value)
    (why : Nat → Why) :
    (cell cells index why : Program State Event Why α) = pure value := by
  simp [cell, present]

/-- Nothing after a stop is run. -/
@[simp] theorem stop_bind
    (why : Why)
    (next : α → Program State Event Why β) :
    (stop why >>= next) = stop why :=
  rfl

/-- The whole run of a program that returns a value. -/
def Returns
    (program : Program State Event Why α)
    (state : State)
    (log : List Event)
    (final : State)
    (value : α) : Prop :=
  program state = ⟨log, final, .done value⟩

/-- The whole run of a program that stops. -/
def Stops
    (program : Program State Event Why α)
    (state : State)
    (log : List Event)
    (final : State)
    (why : Why) : Prop :=
  program state = ⟨log, final, .stop why⟩

section Rules

variable
  {program first : Program State Event Why α}
  {next : α → Program State Event Why β}
  {state middle final : State}
  {log early late : List Event}
  {value : α}
  {result : β}
  {why : Why}

theorem Returns.apply
    (returns : Returns program state log final value) :
    program state = ⟨log, final, .done value⟩ :=
  returns

theorem Stops.apply
    (stops : Stops program state log final why) :
    program state = ⟨log, final, .stop why⟩ :=
  stops

/-- Returning a value is a run without events. -/
theorem Returns.pure :
    Returns (Pure.pure value : Program State Event Why α)
      state [] state value :=
  rfl

/-- Two returning programs in sequence return, and their logs append. -/
theorem Returns.bind
    (returns : Returns first state early middle value)
    (later : Returns (next value) middle late final result) :
    Returns (first >>= next) state (early ++ late) final result := by
  simp only [Returns] at *
  simp [returns, later]

/-- A sequence that returns is two programs that return. -/
theorem Returns.of_bind
    (returns : Returns (first >>= next) state log final result) :
    ∃ early late middle value,
      Returns first state early middle value ∧
        Returns (next value) middle late final result ∧
        log = early ++ late := by
  rcases shape : first state with ⟨early, middle, outcome⟩
  cases outcome with
  | done value =>
      rcases tail : next value middle with ⟨late, last, ending⟩
      simp only [Returns, bind_apply, shape, Run.andThen_done, tail,
        Run.after_mk] at returns
      cases returns
      exact ⟨early, late, middle, value, shape, tail, rfl⟩
  | stop why =>
      simp [Returns, shape] at returns

/-- A program that stops after a returning one stops the sequence. -/
theorem Returns.bind_stops
    (returns : Returns first state early middle value)
    (later : Stops (next value) middle late final why) :
    Stops (first >>= next) state (early ++ late) final why := by
  simp only [Returns, Stops] at *
  simp [returns, later]

/-- A stopped program stops the sequence it begins. -/
theorem Stops.bind
    (stops : Stops first state log final why)
    (next : α → Program State Event Why β) :
    Stops (first >>= next) state log final why := by
  simp only [Stops] at *
  simp [stops]

end Rules

end Program

end Effect
