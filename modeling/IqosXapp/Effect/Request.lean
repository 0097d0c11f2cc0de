import IqosXapp.Effect.Program
import Mathlib.Order.Basic

namespace Effect

/-!
# Requests that may be refused

A program may ask its environment for blocks, and each request is granted or
refused.  The answers are a function of how many requests were made before, so
one environment fixes every answer of a run.

`Requests` is the complete specification of a program that makes a known list
of requests and nothing else that an observer could see: it returns its value
when all of them are granted, and otherwise it stops right after the first
refusal, for the reason that the list gives for that request.  Specifications
of this form compose by appending the lists.
-/

/-- How a state counts the requests made so far. -/
structure Meter (State : Type) where
  count : State → Nat
  spend : State → Nat → State
  count_spend :
    ∀ state more,
      count (spend state more) = count state + more
  spend_zero :
    ∀ state, spend state 0 = state
  spend_spend :
    ∀ state first second,
      spend (spend state first) second =
        spend state (first + second)

/-- A request that is counted from behind earlier ones. -/
theorem Meter.count_spend_add
    {State : Type}
    (meter : Meter State)
    (state : State)
    (earlier index : Nat) :
    meter.count (meter.spend state earlier) + index =
      meter.count state + (earlier + index) := by
  rw [meter.count_spend, Nat.add_assoc]

/--
Below any bound, either every answer is a grant or there is a first refusal.
-/
theorem grants_or_firstRefusal
    (grants : Nat → Bool)
    (bound : Nat) :
    (∀ index < bound, grants index = true) ∨
      ∃ index < bound,
        (∀ earlier < index, grants earlier = true) ∧
          grants index = false := by
  induction bound with
  | zero =>
      exact Or.inl fun index below =>
        absurd below (Nat.not_lt_zero index)
  | succ bound inductionHypothesis =>
      rcases inductionHypothesis with allGranted | refused
      · cases last : grants bound with
        | true =>
            left
            intro index below
            rcases Nat.lt_succ_iff_lt_or_eq.mp below with
                earlier | same
            · exact allGranted index earlier
            · rw [same, last]
        | false =>
            exact Or.inr
              ⟨bound, Nat.lt_succ_self bound, allGranted, last⟩
      · obtain ⟨index, below, first, refusal⟩ := refused
        exact Or.inr
          ⟨index, Nat.lt_succ_of_lt below, first, refusal⟩

namespace Program

variable {State Event Why α β Acc : Type}

/-- Ask for a block: a pointer to it when granted, a null pointer if not. -/
def request
    (meter : Meter State)
    (grants : Nat → Bool)
    (block : α) :
    Program State Event Why (Option α) :=
  fun state =>
    ⟨[], meter.spend state 1,
      .done (if grants (meter.count state) then some block else none)⟩

/--
The program makes exactly `refusals.length` requests, returns `value` without
logging anything when all are granted, and stops at the first refused one for
the reason listed for it.
-/
structure Requests
    (meter : Meter State)
    (grants : Nat → Bool)
    (program : Program State Event Why α)
    (refusals : List Why)
    (value : α) : Prop where
  granted :
    ∀ state,
      (∀ index < refusals.length,
        grants (meter.count state + index) = true) →
      Returns program state []
        (meter.spend state refusals.length) value
  refused :
    ∀ state index why,
      refusals[index]? = some why →
      (∀ earlier < index,
        grants (meter.count state + earlier) = true) →
      grants (meter.count state + index) = false →
      Stops program state [] (meter.spend state (index + 1)) why

namespace Requests

variable
  {meter : Meter State}
  {grants : Nat → Bool}

/-- Returning a value makes no request. -/
theorem pure (value : α) :
    Requests meter grants
      (Pure.pure value : Program State Event Why α) [] value where
  granted := by
    intro state _
    rw [List.length_nil, meter.spend_zero]
    exact Returns.pure
  refused := by
    intro state index why listed
    simp at listed

/--
A request followed by a use of the pointer that stops on null: one request
more, refused for the reason the use stops with.
-/
theorem ask
    {block : α}
    {use : Option α → Program State Event Why β}
    {why : Why}
    {refusals : List Why}
    {value : β}
    (onNull : use none = stop why)
    (onBlock :
      Requests meter grants (use (some block)) refusals value) :
    Requests meter grants (request meter grants block >>= use)
      (why :: refusals) value where
  granted := by
    intro state allGranted
    have first : grants (meter.count state) = true :=
      allGranted 0 (by simp)
    have rest :
        ∀ index < refusals.length,
          grants (meter.count (meter.spend state 1) + index) =
            true := by
      intro index below
      rw [meter.count_spend_add, Nat.add_comm 1]
      exact allGranted (index + 1) (Nat.succ_lt_succ below)
    have later := onBlock.granted (meter.spend state 1) rest
    rw [meter.spend_spend] at later
    rw [List.length_cons, Nat.add_comm]
    simp only [Returns] at later ⊢
    simp [request, first, later]
  refused := by
    intro state index reason listed earlierGranted refusal
    cases index with
    | zero =>
        have sameReason : why = reason := by
          simpa using listed
        have first : grants (meter.count state) = false := by
          simpa using refusal
        simp only [Stops]
        simp [request, first, onNull, sameReason]
    | succ index =>
        have first : grants (meter.count state) = true :=
          earlierGranted 0 (Nat.succ_pos index)
        have later :=
          onBlock.refused (meter.spend state 1) index reason
            (by simpa using listed)
            (by
              intro earlier below
              rw [meter.count_spend_add, Nat.add_comm 1]
              exact earlierGranted (earlier + 1)
                (Nat.succ_lt_succ below))
            (by
              rw [meter.count_spend_add, Nat.add_comm 1]
              exact refusal)
        rw [meter.spend_spend, Nat.add_comm 1] at later
        simp only [Stops] at later ⊢
        simp [request, first, later]

/-- Two request programs in sequence make the requests of both. -/
theorem bind
    {first : Program State Event Why α}
    {next : α → Program State Event Why β}
    {early late : List Why}
    {value : α}
    {result : β}
    (head : Requests meter grants first early value)
    (tail : Requests meter grants (next value) late result) :
    Requests meter grants (first >>= next)
      (early ++ late) result where
  granted := by
    intro state allGranted
    have headRun :=
      head.granted state fun index below =>
        allGranted index (by
          rw [List.length_append]
          omega)
    have tailRun :=
      tail.granted (meter.spend state early.length)
        (by
          intro index below
          rw [meter.count_spend_add]
          exact allGranted (early.length + index) (by
            rw [List.length_append]
            omega))
    rw [meter.spend_spend] at tailRun
    rw [List.length_append]
    simpa using headRun.bind tailRun
  refused := by
    intro state index why listed earlierGranted refusal
    by_cases inHead : index < early.length
    · rw [List.getElem?_append_left inHead] at listed
      exact
        (head.refused state index why listed earlierGranted
          refusal).bind next
    · have behind : early.length ≤ index :=
        Nat.le_of_not_lt inHead
      obtain ⟨offset, rfl⟩ := Nat.exists_eq_add_of_le behind
      rw [List.getElem?_append_right behind,
        Nat.add_sub_cancel_left] at listed
      have headRun :=
        head.granted state fun position below =>
          earlierGranted position (by omega)
      have tailRun :=
        tail.refused (meter.spend state early.length) offset why
          listed
          (by
            intro earlier below
            rw [meter.count_spend_add]
            exact earlierGranted (early.length + earlier) (by omega))
          (by
            rw [meter.count_spend_add]
            exact refusal)
      rw [meter.spend_spend, ← Nat.add_assoc] at tailRun
      simpa using headRun.bind_stops tailRun

/-- A last step that only computes makes no request. -/
theorem bind_pure
    {program : Program State Event Why α}
    {refusals : List Why}
    {value : α}
    (head : Requests meter grants program refusals value)
    (finish : α → β) :
    Requests meter grants
      (program >>= fun result => Pure.pure (finish result))
      refusals (finish value) := by
  have whole :
      Requests meter grants
        (program >>= fun result => Pure.pure (finish result))
        (refusals ++ []) (finish value) :=
    head.bind (Requests.pure (finish value))
  rwa [List.append_nil] at whole

/--
A fold each of whose steps makes the same list of requests makes that list
once for each item.
-/
theorem foldlM
    {body : Acc → α → Program State Event Why Acc}
    {advance : Acc → α → Acc}
    {perStep : List Why}
    (keeps : Acc → Prop)
    {items : List α}
    (steps :
      ∀ acc item,
        keeps acc →
        item ∈ items →
        Requests meter grants (body acc item) perStep
            (advance acc item) ∧
          keeps (advance acc item))
    {acc : Acc}
    (kept : keeps acc) :
    Requests meter grants (items.foldlM body acc)
      (List.replicate items.length perStep).flatten
      (items.foldl advance acc) := by
  induction items generalizing acc with
  | nil =>
      exact Requests.pure acc
  | cons item rest inductionHypothesis =>
      obtain ⟨head, keptNext⟩ := steps acc item kept (by simp)
      have tail :=
        inductionHypothesis
          (fun acc later keptLater member =>
            steps acc later keptLater (by simp [member]))
          keptNext
      rw [List.foldlM_cons, List.length_cons,
        List.replicate_succ, List.flatten_cons, List.foldl_cons]
      exact head.bind tail

end Requests

end Program

end Effect
