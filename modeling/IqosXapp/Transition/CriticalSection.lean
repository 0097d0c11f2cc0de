import IqosXapp.Transition.System
import Mathlib.Data.List.Basic

namespace Transition

/-!
# Blocks written inside a critical section

Clients enter a critical section one at a time, and the one inside appends its
block of events to a shared log, event by event, before it leaves.  The block
may depend on how many clients were inside before.  Whatever the interleaving
of entering, writing and leaving, the log is the blocks of the clients that
left, in the order in which they entered, followed by a first part of the block
of the client inside.
-/

/-- Who left, who is inside with what is left to write, and the log. -/
structure CriticalSection (Client Event : Type) where
  released : List Client
  current : Option (Client × List Event)
  log : List Event

namespace CriticalSection

variable
  {Client Event : Type}
  (block : Nat → Client → List Event)

/-- Nobody has entered yet. -/
def idle : CriticalSection Client Event where
  released := []
  current := none
  log := []

/-- One step of some client. -/
inductive Step :
    CriticalSection Client Event →
    CriticalSection Client Event → Prop where
  | enter
      (region : CriticalSection Client Event)
      (client : Client)
      (free : region.current = none) :
      Step region
        { region with
          current :=
            some (client, block region.released.length client) }
  | write
      (region : CriticalSection Client Event)
      (client : Client)
      (event : Event)
      (rest : List Event)
      (inside : region.current = some (client, event :: rest)) :
      Step region
        { region with
          current := some (client, rest)
          log := region.log ++ [event] }
  | leave
      (region : CriticalSection Client Event)
      (client : Client)
      (inside : region.current = some (client, [])) :
      Step region
        { region with
          released := region.released ++ [client]
          current := none }

/-- The system of all interleavings. -/
def system : System (CriticalSection Client Event) where
  initial region := region = idle
  step := Step block

/-- The blocks of clients that entered in this order. -/
def blocks (clients : List Client) : List Event :=
  clients.zipIdx.flatMap fun entry => block entry.2 entry.1

/-- The clients in the order in which they entered. -/
def entered (region : CriticalSection Client Event) : List Client :=
  region.released ++ (region.current.map (·.1)).toList

theorem blocks_append_singleton
    (clients : List Client)
    (client : Client) :
    blocks block (clients ++ [client]) =
      blocks block clients ++ block clients.length client := by
  simp [blocks, List.zipIdx_append]

/--
What was written since the last client left, together with what is left to
write, is the block of the client inside.
-/
def Written
    (region : CriticalSection Client Event)
    (written : List Event) : Prop :=
  region.log = blocks block region.released ++ written ∧
    match region.current with
    | none => written = []
    | some (client, rest) =>
        written ++ rest = block region.released.length client

/-- The log consists of whole blocks and of what was written since. -/
theorem written_inductive :
    (system block).Inductive fun region =>
      ∃ written, Written block region written where
  initially := by
    rintro region rfl
    exact ⟨[], rfl, rfl⟩
  preserved := by
    rintro region next ⟨written, log, current⟩ step
    cases step with
    | enter client free =>
        rw [free] at current
        exact ⟨[], by simpa [current] using log, rfl⟩
    | write client event rest inside =>
        rw [inside] at current
        refine ⟨written ++ [event], ?_, ?_⟩
        · simp [log]
        · simpa using current
    | leave client inside =>
        rw [inside] at current
        refine ⟨[], ?_, rfl⟩
        simp only [List.append_nil] at current ⊢
        rw [log, current, blocks_append_singleton]

/-- Every reachable log is serialised. -/
theorem log_serialised
    {region : CriticalSection Client Event}
    (reachable : (system block).Reachable region) :
    ∃ written, Written block region written :=
  (written_inductive block).holds reachable

end CriticalSection

end Transition
