import IqosXapp.Effect.Request
import IqosXapp.Effect.Traverse

namespace Effect

/-!
# What a view of the log shows

A view keeps some events of a log and forgets the others.  A program is silent
to a view when none of its runs shows anything; silent programs compose, and
whatever stands before one shows the same with it and without it.
-/

namespace Program

variable {State Event Why Seen α β Acc : Type}

/-- No run of the program shows anything to the view. -/
def Silent
    (view : Event → Option Seen)
    (program : Program State Event Why α) : Prop :=
  ∀ state, (program state).log.filterMap view = []

namespace Silent

variable {view : Event → Option Seen}

/-- Silent programs behind a program add nothing to what it shows. -/
theorem log_bind
    {next : α → Program State Event Why β}
    (later : ∀ value, Silent view (next value))
    (first : Program State Event Why α)
    (state : State) :
    ((first >>= next) state).log.filterMap view =
      (first state).log.filterMap view := by
  rw [bind_apply]
  rcases first state with ⟨log, middle, outcome⟩
  cases outcome with
  | done value =>
      simp [Run.after, later value middle]
  | stop why =>
      rfl

theorem pure (value : α) :
    Silent view (Pure.pure value : Program State Event Why α) :=
  fun _ => rfl

theorem emit
    {event : Event}
    (hidden : view event = none) :
    Silent view (emit event : Program State Event Why Unit) := by
  intro state
  simp [hidden]

theorem stop (why : Why) :
    Silent view (stop why : Program State Event Why α) :=
  fun _ => rfl

/-- A choice between silent programs is silent. -/
theorem ite
    {condition : Prop}
    [Decidable condition]
    {yes no : Program State Event Why α}
    (holds : Silent view yes)
    (fails : Silent view no) :
    Silent view (if condition then yes else no) := by
  by_cases decided : condition
  · rw [if_pos decided]
    exact holds
  · rw [if_neg decided]
    exact fails

/-- Silent programs in sequence are silent. -/
theorem bind
    {first : Program State Event Why α}
    {next : α → Program State Event Why β}
    (head : Silent view first)
    (later : ∀ value, Silent view (next value)) :
    Silent view (first >>= next) := by
  intro state
  rw [log_bind later]
  exact head state

theorem require (condition : Bool) (why : Why) :
    Silent view
      (require condition why : Program State Event Why Unit) := by
  cases condition with
  | true => exact pure ()
  | false => exact stop why

theorem deref (pointer : Option α) (why : Why) :
    Silent view (deref pointer why : Program State Event Why α) := by
  cases pointer with
  | some value => exact pure value
  | none => exact stop why

theorem cell (cells : List α) (index : Nat) (why : Nat → Why) :
    Silent view
      (cell cells index why : Program State Event Why α) := by
  simp only [Program.cell]
  cases cells[index]? with
  | some value => exact pure value
  | none => exact stop (why index)

/-- Only the cells that can be read matter for what is done with one. -/
theorem cell_bind
    {cells : List α}
    {next : α → Program State Event Why β}
    (later : ∀ value ∈ cells, Silent view (next value))
    (index : Nat)
    (why : Nat → Why) :
    Silent view (Program.cell cells index why >>= next) := by
  cases listed : cells[index]? with
  | some value =>
      rw [cell_of_some listed, pure_bind]
      exact later value (List.mem_of_getElem? listed)
  | none =>
      simp only [Program.cell, listed]
      exact stop (why index)

/-- Asking for a block shows nothing. -/
theorem request
    (meter : Meter State)
    (grants : Nat → Bool)
    (block : α) :
    Silent view
      (request meter grants block :
        Program State Event Why (Option α)) :=
  fun _ => rfl

/-- A loop whose every turn is silent is silent. -/
theorem loop
    {body : Nat → Acc → Program State Event Why Acc}
    (turns : ∀ index acc, Silent view (body index acc))
    (count index : Nat)
    (acc : Acc) :
    Silent view (loop body count index acc) := by
  induction count generalizing index acc with
  | zero =>
      exact pure acc
  | succ count inductionHypothesis =>
      exact (turns index acc).bind (inductionHypothesis (index + 1))

/-- A fold whose every turn is silent is silent. -/
theorem foldlM
    {body : Acc → α → Program State Event Why Acc}
    (turns : ∀ acc item, Silent view (body acc item))
    (items : List α)
    (acc : Acc) :
    Silent view (items.foldlM body acc) := by
  induction items generalizing acc with
  | nil =>
      exact pure acc
  | cons item rest inductionHypothesis =>
      rw [List.foldlM_cons]
      exact (turns acc item).bind inductionHypothesis

end Silent

end Program

end Effect
