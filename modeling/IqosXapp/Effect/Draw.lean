import Mathlib.Data.List.Basic

namespace Effect

/-!
# Programs that draw values

A program draws its values from a sequence that nobody chose for it: the values
that `rand` returns, for instance.  What such a program always returns holds for
every sequence, and is found along its structure.
-/

/-- The values that are still to be drawn. -/
abbrev Draws := Nat → Nat

/-- A program that draws values. -/
abbrev Drawing := StateM Draws

variable {α β : Type}

namespace Drawing

/-- Draw one value. -/
def rand : Drawing Nat :=
  fun draws => (draws 0, fun index => draws (index + 1))

/-- Draw values that are not looked at. -/
def skip (count : Nat) : Drawing Unit :=
  fun draws => ((), fun index => draws (index + count))

/-- Fill an array, from an index on. -/
def fillFrom (body : Nat → Drawing α) : Nat → Nat → Drawing (List α)
  | 0, _ => pure []
  | count + 1, index => do
      let first ← body index
      let rest ← fillFrom body count (index + 1)
      pure (first :: rest)

/-- Fill an array with that many elements. -/
def fill (count : Nat) (body : Nat → Drawing α) : Drawing (List α) :=
  fillFrom body count 0

/-- Whatever is drawn, the returned value is good. -/
def Always (program : Drawing α) (good : α → Prop) : Prop :=
  ∀ draws, good (program draws).1

theorem Always.pure {good : α → Prop} {value : α} (here : good value) :
    Always (Pure.pure value) good :=
  fun _ => here

/-- What is drawn first may decide what is drawn next. -/
theorem Always.bind
    {first : Drawing α}
    {next : α → Drawing β}
    {good : α → Prop}
    {better : β → Prop}
    (always : Always first good)
    (later : ∀ value, good value → Always (next value) better) :
    Always (first >>= next) better :=
  fun draws => later (first draws).1 (always draws) (first draws).2

/-- Whatever a part returns, the rest is good. -/
theorem Always.after
    {first : Drawing α}
    {next : α → Drawing β}
    {better : β → Prop}
    (later : ∀ value, Always (next value) better) :
    Always (first >>= next) better :=
  fun draws => later (first draws).1 (first draws).2

/-- A filled array has its length, and its elements are what they always are. -/
theorem Always.fill
    {body : Nat → Drawing α}
    {good : α → Prop}
    (always : ∀ index, Always (body index) good)
    (count : Nat) :
    Always (fill count body) fun elements =>
      elements.length = count ∧ ∀ element ∈ elements, good element := by
  have step (index : Nat) :
      Always (fillFrom body count index) fun elements =>
        elements.length = count ∧ ∀ element ∈ elements, good element := by
    induction count generalizing index with
    | zero =>
        exact Always.pure ⟨rfl, by simp⟩
    | succ count inductionHypothesis =>
        refine (always index).bind fun first here => ?_
        refine (inductionHypothesis (index + 1)).bind fun rest later => ?_
        refine Always.pure ⟨by simp [later.1], fun element member => ?_⟩
        rcases List.mem_cons.mp member with rfl | inRest
        · exact here
        · exact later.2 element inRest
  exact step 0

theorem Always.length_fill
    {body : Nat → Drawing α}
    (count : Nat) :
    Always (Drawing.fill count body) fun elements =>
      elements.length = count := by
  have filled :
      Always (Drawing.fill count body) fun elements =>
        elements.length = count ∧ ∀ element ∈ elements, True :=
    Always.fill (fun _ _ => trivial) count
  exact fun draws => (filled draws).1

end Drawing

end Effect
