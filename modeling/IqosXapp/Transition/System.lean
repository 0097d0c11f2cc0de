import Mathlib.Logic.Relation

namespace Transition

/-!
# Transition systems, invariants and simulations

A system has initial states and a step relation; whatever interleaving a model
allows is in the relation.  A fact about every reachable state is proved by an
inductive invariant, or by a simulation into a more abstract system whose
reachable states are already understood.
-/

/-- Initial states and steps. -/
structure System (State : Type) where
  initial : State → Prop
  step : State → State → Prop

variable {State Abstract : Type}

namespace System

/-- The states of all runs. -/
def Reachable (system : System State) (state : State) : Prop :=
  ∃ first,
    system.initial first ∧
      Relation.ReflTransGen system.step first state

/-- The states before a first step. -/
theorem Reachable.of_initial
    {system : System State}
    {state : State}
    (initial : system.initial state) :
    system.Reachable state :=
  ⟨state, initial, Relation.ReflTransGen.refl⟩

/-- A run from a reachable state stays in the reachable states. -/
theorem Reachable.run
    {system : System State}
    {state next : State}
    (reachable : system.Reachable state)
    (run : Relation.ReflTransGen system.step state next) :
    system.Reachable next := by
  obtain ⟨first, initial, before⟩ := reachable
  exact ⟨first, initial, before.trans run⟩

/-- Holds at first and is kept by every step from a reachable state. -/
structure Inductive
    (system : System State)
    (invariant : State → Prop) : Prop where
  initially :
    ∀ state, system.initial state → invariant state
  preserved :
    ∀ state next,
      invariant state → system.step state next → invariant next

/-- An inductive invariant holds in every reachable state. -/
theorem Inductive.holds
    {system : System State}
    {invariant : State → Prop}
    (kept : system.Inductive invariant)
    {state : State}
    (reachable : system.Reachable state) :
    invariant state := by
  obtain ⟨first, initial, run⟩ := reachable
  induction run with
  | refl =>
      exact kept.initially first initial
  | tail _ step inductionHypothesis =>
      exact kept.preserved _ _ inductionHypothesis step

/--
Every step of the system is matched by a run of the abstract one, which may be
empty.
-/
structure Simulation
    (system : System State)
    (abstraction : System Abstract)
    (related : State → Abstract → Prop) : Prop where
  initially :
    ∀ state,
      system.initial state →
      ∃ view, abstraction.initial view ∧ related state view
  matched :
    ∀ state next view,
      related state view →
      system.step state next →
      ∃ nextView,
        Relation.ReflTransGen abstraction.step view nextView ∧
          related next nextView

/-- A reachable state is related to a reachable abstract state. -/
theorem Simulation.reachable
    {system : System State}
    {abstraction : System Abstract}
    {related : State → Abstract → Prop}
    (simulation : system.Simulation abstraction related)
    {state : State}
    (reachable : system.Reachable state) :
    ∃ view, abstraction.Reachable view ∧ related state view := by
  obtain ⟨first, initial, run⟩ := reachable
  induction run with
  | refl =>
      obtain ⟨view, initialView, same⟩ :=
        simulation.initially first initial
      exact ⟨view, Reachable.of_initial initialView, same⟩
  | tail _ step inductionHypothesis =>
      obtain ⟨view, reachableView, same⟩ := inductionHypothesis
      obtain ⟨nextView, viewRun, nextSame⟩ :=
        simulation.matched _ _ view same step
      exact ⟨nextView, reachableView.run viewRun, nextSame⟩

end System

end Transition
