import IqosXapp.Effect.Program
import IqosXapp.Transition.System

namespace Transition

open Effect Relation

/-!
# A thread that follows a sequential program

One thread of a system runs a program that the other threads do not disturb.
The state shows what the thread logged, which inputs it consumed, and what is
left of its program: a run for every list of inputs still to come.  The thread
follows the program when every step of the system, whoever makes it, moves a
first part of what is left into what was logged.  The sequential run is then,
at every moment, what was logged followed by what is left.
-/

variable {State Input Store Event Why α : Type}

/-- What a state shows of a thread. -/
structure Thread (State Input Store Event Why α : Type) where
  log : State → List Event
  consumed : State → List Input
  left : State → List Input → Run Store Event Why α

namespace Thread

variable
  (thread : Thread State Input Store Event Why α)
  (system : System State)

/-- The thread goes from one state to the other by a part of its program. -/
def Advances (state next : State) : Prop :=
  ∃ late used,
    thread.log next = thread.log state ++ late ∧
      thread.consumed next = thread.consumed state ++ used ∧
      ∀ later,
        thread.left state (used ++ later) =
          (thread.left next later).after late

/--
Every step of a run lets the thread advance, and it begins with an empty log.
-/
structure Follows : Prop where
  initially :
    ∀ state,
      system.initial state →
      thread.log state = [] ∧ thread.consumed state = []
  advances :
    ∀ state next,
      system.Reachable state →
      system.step state next →
      thread.Advances state next

variable {thread system}

namespace Advances

variable {state middle next : State}

/-- A thread may stay where it is. -/
theorem refl : thread.Advances state state :=
  ⟨[], [], by simp, by simp, fun _ => rfl⟩

/-- A state that shows the same of the thread is no advance. -/
theorem of_same
    (log : thread.log next = thread.log state)
    (consumed : thread.consumed next = thread.consumed state)
    (left : thread.left next = thread.left state) :
    thread.Advances state next :=
  ⟨[], [], by simp [log], by simp [consumed], by simp [left]⟩

/-- A step that consumes no input. -/
theorem of_log
    {late : List Event}
    (log : thread.log next = thread.log state ++ late)
    (consumed : thread.consumed next = thread.consumed state)
    (left :
      ∀ later,
        thread.left state later = (thread.left next later).after late) :
    thread.Advances state next :=
  ⟨late, [], log, by simp [consumed], left⟩

/-- A step that consumes one input. -/
theorem of_input
    {late : List Event}
    {input : Input}
    (log : thread.log next = thread.log state ++ late)
    (consumed : thread.consumed next = thread.consumed state ++ [input])
    (left :
      ∀ later,
        thread.left state (input :: later) =
          (thread.left next later).after late) :
    thread.Advances state next :=
  ⟨late, [input], log, consumed, left⟩

theorem trans
    (first : thread.Advances state middle)
    (second : thread.Advances middle next) :
    thread.Advances state next := by
  obtain ⟨early, inputs, log, consumed, left⟩ := first
  obtain ⟨late, more, laterLog, laterConsumed, laterLeft⟩ := second
  refine ⟨early ++ late, inputs ++ more, ?_, ?_, fun later => ?_⟩
  · rw [laterLog, log, List.append_assoc]
  · rw [laterConsumed, consumed, List.append_assoc]
  · rw [List.append_assoc, left, laterLeft, Run.after_after]

/-- What is left later is left now, behind what is logged in between. -/
theorem left_eq
    (advances : thread.Advances state next)
    (log : thread.log state = [])
    (consumed : thread.consumed state = [])
    (later : List Input) :
    thread.left state (thread.consumed next ++ later) =
      (thread.left next later).after (thread.log next) := by
  obtain ⟨late, used, lateLog, lateConsumed, left⟩ := advances
  rw [lateConsumed, lateLog, log, consumed, List.nil_append,
    List.nil_append]
  exact left later

end Advances

namespace Follows

variable (follows : thread.Follows system)

include follows

theorem run
    {state next : State}
    (reachable : system.Reachable state)
    (run : ReflTransGen system.step state next) :
    thread.Advances state next := by
  induction run with
  | refl =>
      exact .refl
  | tail before step inductionHypothesis =>
      exact inductionHypothesis.trans
        (follows.advances _ _ (reachable.run before) step)

/--
The sequential run, at any reachable state: what was logged, followed by what
is left.
-/
theorem reachable
    {state : State}
    (reachable : system.Reachable state) :
    ∃ first,
      system.initial first ∧
        ∀ later,
          thread.left first (thread.consumed state ++ later) =
            (thread.left state later).after (thread.log state) := by
  obtain ⟨first, initial, run⟩ := reachable
  obtain ⟨log, consumed⟩ := follows.initially first initial
  have advances := follows.run (.of_initial initial) run
  exact ⟨first, initial, advances.left_eq log consumed⟩

end Follows

/-! ## Threads that can run to their end -/

/-- The thread has this run left, and it returns. -/
def ReturnsFrom
    (thread : Thread State Input Store Event Why α)
    (state : State)
    (later : List Input)
    (log : List Event)
    (final : Store)
    (value : α) : Prop :=
  thread.left state later = ⟨log, final, .done value⟩

/-- What is left behind an advance returns as well. -/
theorem ReturnsFrom.advance
    {state next : State}
    {used rest : List Input}
    {log : List Event}
    {final : Store}
    {value : α}
    (returns : thread.ReturnsFrom state (used ++ rest) log final value)
    (advances : thread.Advances state next)
    (consumed :
      thread.consumed next = thread.consumed state ++ used) :
    ∃ late left,
      thread.log next = thread.log state ++ late ∧
        log = late ++ left ∧
        thread.ReturnsFrom next rest left final value := by
  obtain ⟨late, inputs, lateLog, lateConsumed, lateLeft⟩ := advances
  obtain rfl : inputs = used :=
    List.append_cancel_left (lateConsumed.symm.trans consumed)
  have shape := (lateLeft rest).symm.trans returns
  rcases tail : thread.left next rest with ⟨left, last, outcome⟩
  rw [tail, Run.after_mk] at shape
  obtain ⟨rfl, rfl, rfl⟩ := Run.mk.inj shape
  exact ⟨late, left, lateLog, rfl, tail⟩

/--
Where what is left returns and the thread is not finished, it has a step of its
own, which lowers a measure.
-/
structure Progress
    (thread : Thread State Input Store Event Why α)
    (system : System State)
    (running finished : State → Prop) where
  measure : State → List Input → Nat
  progress :
    ∀ {state later log final value},
      system.Reachable state →
      running state →
      ¬finished state →
      thread.ReturnsFrom state later log final value →
      ∃ next used rest,
        system.step state next ∧
          running next ∧
          later = used ++ rest ∧
          thread.consumed next = thread.consumed state ++ used ∧
          measure next rest < measure state later

/--
Where what is left returns, the thread can run to its end alone, and it logs
what was left.
-/
theorem Progress.finishes
    {running finished : State → Prop}
    (progresses : thread.Progress system running finished)
    (follows : thread.Follows system)
    {state : State}
    {later : List Input}
    {log : List Event}
    {final : Store}
    {value : α}
    (reachable : system.Reachable state)
    (runs : running state)
    (returns : thread.ReturnsFrom state later log final value) :
    ∃ next used rest late left,
      ReflTransGen system.step state next ∧
        running next ∧
        finished next ∧
        later = used ++ rest ∧
        thread.consumed next = thread.consumed state ++ used ∧
        thread.log next = thread.log state ++ late ∧
        log = late ++ left ∧
        thread.ReturnsFrom next rest left final value := by
  induction size : progresses.measure state later
    using Nat.strongRecOn generalizing state later log with
  | _ size inductionHypothesis =>
      by_cases done : finished state
      · exact ⟨state, [], later, [], log, .refl, runs, done, by simp,
          by simp, by simp, by simp, returns⟩
      · obtain ⟨middle, used, rest, step, runsOn, rfl, consumed, lower⟩ :=
          progresses.progress reachable runs done returns
        have advances := follows.advances state middle reachable step
        obtain ⟨early, remaining, earlyLog, rfl, onwards⟩ :=
          returns.advance advances consumed
        obtain ⟨next, more, last, late, left, run, runsLast, ends, rfl,
            lateConsumed, lateLog, rfl, returnsLast⟩ :=
          inductionHypothesis _ (size ▸ lower)
            (reachable.run (.single step)) runsOn onwards rfl
        refine ⟨next, used ++ more, last, early ++ late, left,
          .head step run, runsLast, ends, by simp, ?_, ?_, by simp,
          returnsLast⟩
        · rw [lateConsumed, consumed, List.append_assoc]
        · rw [lateLog, earlyLog, List.append_assoc]

end Thread

end Transition
