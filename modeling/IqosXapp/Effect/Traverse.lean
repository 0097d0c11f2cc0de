import IqosXapp.Effect.Program

namespace Effect

/-!
# Counting loops over arrays

Two counting loops are given: `loop`, whose counter has room for every length,
and `cappedLoop`, whose counter stops the program when it is incremented past
its largest value.  A loop whose body begins by reading the cell at its own
counter is a traversal of the list of cells; the lemmas below say so, and say
what a loop over two arrays does when the array that bounds it is not the one
it reads.
-/

namespace Program

variable {State Event Why Acc α β : Type}

/--
Run `body` at `count` consecutive indices from `index` on, threading an
accumulator.
-/
def loop
    (body : Nat → Acc → Program State Event Why Acc) :
    Nat → Nat → Acc → Program State Event Why Acc
  | 0, _, acc => pure acc
  | count + 1, index, acc => do
      let next ← body index acc
      loop body count (index + 1) next

/--
Run `body` at `count` consecutive indices from `index` on, with a counter
whose largest value is `limit`: incrementing it there stops the program.
-/
def cappedLoop
    (limit : Nat)
    (overflow : Why)
    (body : Nat → Program State Event Why Unit) :
    Nat → Nat → Program State Event Why Unit
  | 0, _ => pure ()
  | count + 1, index => do
      body index
      if index < limit then
        cappedLoop limit overflow body count (index + 1)
      else
        stop overflow

/-- Reading the cell behind a known number of earlier ones. -/
theorem cell_append
    (earlier rest : List α)
    (item : α)
    (why : Nat → Why) :
    (cell (earlier ++ item :: rest) earlier.length why :
        Program State Event Why α) =
      pure item :=
  cell_of_some (by simp) why

/-- A loop that reads the cell at its counter traverses the rest of the list. -/
theorem loop_cell_from
    (earlier rest : List α)
    (why : Nat → Why)
    (body : Nat → α → Acc → Program State Event Why Acc)
    (acc : Acc) :
    loop
        (fun index acc => do
          let item ← cell (earlier ++ rest) index why
          body index item acc)
        rest.length earlier.length acc =
      (rest.zipIdx earlier.length).foldlM
        (fun acc entry => body entry.2 entry.1 acc) acc := by
  induction rest generalizing earlier acc with
  | nil =>
      rfl
  | cons item rest inductionHypothesis =>
      simp only [List.length_cons, loop, cell_append, pure_bind,
        List.zipIdx_cons, List.foldlM_cons]
      congr 1
      funext next
      simpa using inductionHypothesis (earlier ++ [item]) next

/-- A loop over all indices of an array traverses its cells in order. -/
theorem loop_cell
    (cells : List α)
    (why : Nat → Why)
    (body : Nat → α → Acc → Program State Event Why Acc)
    (acc : Acc) :
    loop
        (fun index acc => do
          let item ← cell cells index why
          body index item acc)
        cells.length 0 acc =
      cells.zipIdx.foldlM
        (fun acc entry => body entry.2 entry.1 acc) acc := by
  simpa using loop_cell_from [] cells why body acc

/-- A fold that ignores positions and keeps no accumulator is a traversal. -/
theorem foldlM_zipIdx_unit
    (cells : List α)
    (start : Nat)
    (body : α → Program State Event Why Unit) :
    (cells.zipIdx start).foldlM
        (fun _ entry => body entry.1) () =
      forM cells body := by
  induction cells generalizing start with
  | nil =>
      rfl
  | cons item rest inductionHypothesis =>
      simp only [List.zipIdx_cons, List.foldlM_cons]
      congr 1
      funext _
      exact inductionHypothesis (start + 1)

/-- A loop that only reads its cells visits each of them once, in order. -/
theorem loop_cell_unit
    (cells : List α)
    (why : Nat → Why)
    (body : α → Program State Event Why Unit) :
    loop
        (fun index _ => do
          let item ← cell cells index why
          body item)
        cells.length 0 () =
      forM cells body := by
  rw [loop_cell cells why (fun _ item _ => body item) (),
    foldlM_zipIdx_unit]

section Paired

variable
  (limit : Nat)
  (overflow : Why)
  (whyLeft whyRight : Nat → Why)
  (body : α → β → Program State Event Why Unit)

/--
The body of a loop that reads two arrays at its counter: the left one first,
then the right one, whose length bounds the loop.
-/
def pairedBody (left : List α) (right : List β) (index : Nat) :
    Program State Event Why Unit := do
  let first ← cell left index whyLeft
  let second ← cell right index whyRight
  body first second

/--
What is left to do after the pairs: nothing when the counter and the left
array had room for the whole right array, and a stop otherwise.
-/
def pairedEnd (leftLength rightLength : Nat) :
    Program State Event Why Unit :=
  if rightLength ≤ leftLength ∧ rightLength ≤ limit then
    pure ()
  else if leftLength ≤ limit then
    stop (whyLeft leftLength)
  else
    stop overflow

theorem pairedBody_append
    (leftEarlier leftRest : List α)
    (rightEarlier rightRest : List β)
    (first : α)
    (second : β)
    (aligned : leftEarlier.length = rightEarlier.length) :
    pairedBody whyLeft whyRight body
        (leftEarlier ++ first :: leftRest)
        (rightEarlier ++ second :: rightRest)
        rightEarlier.length =
      body first second := by
  simp only [pairedBody]
  rw [cell_append]
  rw [← aligned, cell_append]
  rfl

/-- Past the end of the left array, the body stops at its first read. -/
theorem pairedBody_overrun
    (left : List α)
    (right : List β)
    (index : Nat)
    (overrun : left.length ≤ index) :
    pairedBody whyLeft whyRight body left right index =
      stop (whyLeft index) := by
  have absent : left[index]? = none :=
    List.getElem?_eq_none overrun
  simp [pairedBody, cell, absent]

theorem cappedLoop_paired_from
    (leftEarlier leftRest : List α)
    (rightEarlier rightRest : List β)
    (aligned : leftEarlier.length = rightEarlier.length)
    (room : rightEarlier.length ≤ limit) :
    cappedLoop limit overflow
        (pairedBody whyLeft whyRight body
          (leftEarlier ++ leftRest) (rightEarlier ++ rightRest))
        rightRest.length rightEarlier.length =
      (do
        forM
          ((leftRest.zip rightRest).take
            (limit + 1 - rightEarlier.length))
          fun pair => body pair.1 pair.2
        pairedEnd limit overflow whyLeft
          (leftEarlier ++ leftRest).length
          (rightEarlier ++ rightRest).length) := by
  induction rightRest generalizing leftEarlier leftRest rightEarlier with
  | nil =>
      have fits :
          (rightEarlier ++ ([] : List β)).length ≤
              (leftEarlier ++ leftRest).length ∧
            (rightEarlier ++ ([] : List β)).length ≤ limit := by
        simp only [List.append_nil, List.length_append]
        omega
      rw [pairedEnd, if_pos fits]
      simp [cappedLoop]
  | cons second rightRest inductionHypothesis =>
      cases leftRest with
      | nil =>
          -- the left array ends here while the right one still has cells
          have overrun :
              ¬((rightEarlier ++ second :: rightRest).length ≤
                  (leftEarlier ++ ([] : List α)).length ∧
                (rightEarlier ++ second :: rightRest).length ≤ limit) := by
            simp only [List.append_nil, List.length_append,
              List.length_cons]
            omega
          have inCounter :
              (leftEarlier ++ ([] : List α)).length ≤ limit := by
            simpa [aligned] using room
          rw [pairedEnd, if_neg overrun, if_pos inCounter,
            List.length_cons, cappedLoop,
            pairedBody_overrun _ _ _ _ _ _ (by simp [aligned])]
          simp [aligned]
      | cons first leftRest =>
          have split :
              limit + 1 - rightEarlier.length =
                limit - rightEarlier.length + 1 := by
            omega
          rw [List.length_cons, cappedLoop,
            pairedBody_append _ _ _ _ _ _ _ _ _ aligned, split,
            List.zip_cons_cons, List.take_succ_cons,
            List.forM_cons, bind_assoc]
          congr 1
          funext _
          by_cases below : rightEarlier.length < limit
          · have next :=
              inductionHypothesis
                (leftEarlier ++ [first]) leftRest
                (rightEarlier ++ [second])
                (by simp [aligned])
                (by simpa using Nat.succ_le_of_lt below)
            simp only [List.append_assoc, List.cons_append,
              List.nil_append, List.length_append,
              List.length_cons, List.length_nil] at next
            rw [if_pos below]
            simpa [Nat.add_assoc, Nat.add_comm 1] using next
          · -- the counter is at its largest value and cannot be incremented
            have full : rightEarlier.length = limit := by
              omega
            have overrun :
                ¬((rightEarlier ++ second :: rightRest).length ≤
                    (leftEarlier ++ first :: leftRest).length ∧
                  (rightEarlier ++ second :: rightRest).length ≤
                    limit) := by
              simp only [List.length_append, List.length_cons]
              omega
            have tooLong :
                ¬(leftEarlier ++ first :: leftRest).length ≤ limit := by
              simp only [List.length_append, List.length_cons]
              omega
            rw [if_neg below, pairedEnd, if_neg overrun,
              if_neg tooLong, full]
            simp

/--
A capped loop over two arrays visits the pairs for which both arrays and the
counter have room, and then ends as `pairedEnd` says.
-/
theorem cappedLoop_paired
    (left : List α)
    (right : List β) :
    cappedLoop limit overflow
        (pairedBody whyLeft whyRight body left right)
        right.length 0 =
      (do
        forM ((left.zip right).take (limit + 1))
          fun pair => body pair.1 pair.2
        pairedEnd limit overflow whyLeft left.length right.length) := by
  simpa using
    cappedLoop_paired_from limit overflow whyLeft whyRight body
      [] left [] right rfl (Nat.zero_le limit)

end Paired

section Traversals

variable
  {body : α → Program State Event Why Unit}
  {events : α → List Event}
  {state : State}

/--
A traversal whose every step returns in the same state returns, and its log
is the logs of the steps in order.
-/
theorem Returns.forM
    {cells : List α}
    (steps :
      ∀ item ∈ cells,
        Returns (body item) state (events item) state ()) :
    Returns (forM cells body) state
      (cells.flatMap events) state () := by
  induction cells with
  | nil =>
      exact Returns.pure
  | cons item rest inductionHypothesis =>
      have head := steps item (by simp)
      have tail :=
        inductionHypothesis fun later member =>
          steps later (by simp [member])
      rw [List.forM_cons, List.flatMap_cons]
      exact head.bind tail

end Traversals

end Program

end Effect
