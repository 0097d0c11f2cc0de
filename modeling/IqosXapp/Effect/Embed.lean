import IqosXapp.Effect.Program

namespace Effect

/-!
# Programs inside larger programs

A program becomes a part of a larger one by renaming: its events are tagged and
its stop reasons wrapped, while its state and its value stay the same.  The run
of the part is found again, event by event, in the run of the whole.
-/

variable {State Event Wider Why WiderWhy α : Type}

/-- Rename the stop reason of a run. -/
def Outcome.wrap (wrap : Why → WiderWhy) :
    Outcome Why α → Outcome WiderWhy α
  | .done value => .done value
  | .stop why => .stop (wrap why)

namespace Run

/-- Rename the events and the stop reason of a run. -/
def embed
    (tag : Event → Wider)
    (wrap : Why → WiderWhy)
    (run : Run State Event Why α) :
    Run State Wider WiderWhy α where
  log := run.log.map tag
  state := run.state
  outcome := run.outcome.wrap wrap

section Embed

variable
  (tag : Event → Wider)
  (wrap : Why → WiderWhy)

@[simp] theorem embed_done
    (log : List Event)
    (state : State)
    (value : α) :
    embed tag wrap ⟨log, state, .done value⟩ =
      ⟨log.map tag, state, .done value⟩ :=
  rfl

@[simp] theorem embed_stop
    (log : List Event)
    (state : State)
    (why : Why) :
    embed tag wrap
        (⟨log, state, .stop why⟩ : Run State Event Why α) =
      ⟨log.map tag, state, .stop (wrap why)⟩ :=
  rfl

/-- Earlier events are renamed like the others. -/
theorem embed_after
    (earlier : List Event)
    (run : Run State Event Why α) :
    (run.after earlier).embed tag wrap =
      (run.embed tag wrap).after (earlier.map tag) := by
  simp [embed, after]

end Embed

/-- What was logged earlier is a first part of the whole log. -/
theorem log_prefix_after
    (earlier : List Event)
    (run : Run State Event Why α) :
    earlier <+: (run.after earlier).log :=
  List.prefix_append earlier run.log

end Run

namespace Program

/-- Rename the events and the stop reasons of a program. -/
def embed
    (tag : Event → Wider)
    (wrap : Why → WiderWhy)
    (program : Program State Event Why α) :
    Program State Wider WiderWhy α :=
  fun state => (program state).embed tag wrap

variable
  (tag : Event → Wider)
  (wrap : Why → WiderWhy)

@[simp] theorem embed_apply
    (program : Program State Event Why α)
    (state : State) :
    embed tag wrap program state = (program state).embed tag wrap :=
  rfl

end Program

end Effect
