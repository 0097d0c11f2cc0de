import IqosXapp.KpmManager.ReportStyle

namespace IqosXapp.KpmManager

open Effect Program

/-!
# Allocation failure in the subscription builder

The builder asks for `7 + 2n` blocks for `n` measures, and the environment may
refuse any of them.  A refusal is contained when the builder stops at an
assertion right after it.  Every allocation is followed by such an assertion
except the one of `fill_kpm_label`, so a refusal is contained exactly when it
does not strike the label of a measure.
-/

/-- No pointer of the condition that the builder fills is null. -/
def TestInfoLst.Filled (info : TestInfoLst) : Prop :=
  info.testCond.isSome ∧
    ∃ value,
      info.testCondValue = some value ∧
        ∃ octets,
          value.pointer = .octetStringValue octets ∧
            octets.buf.isSome

/-- No pointer of the measure that the builder fills is null. -/
def MeasInfoFormat1Lst.Filled (info : MeasInfoFormat1Lst) : Prop :=
  ∃ labels,
    info.labelInfoLst = some labels ∧
      labels.length = info.labelInfoLstLen ∧
      ∀ label ∈ labels, label.noLabel.isSome

/-- No pointer of the action definition that the builder fills is null. -/
def KpmActDef.Filled (actDef : KpmActDef) : Prop :=
  (∃ conditions,
    actDef.frm4.matchingCondLst = some conditions ∧
      conditions.length = actDef.frm4.matchingCondLstLen ∧
      ∀ condition ∈ conditions, condition.testInfoLst.Filled) ∧
    ∃ infos,
      actDef.frm4.actionDefFormat1.measInfoLst = some infos ∧
        infos.length = actDef.frm4.actionDefFormat1.measInfoLstLen ∧
        ∀ info ∈ infos, info.Filled

/-- No pointer of the subscription that the builder fills is null. -/
def KpmSubData.Filled (sub : KpmSubData) : Prop :=
  ∃ actDefs,
    sub.ad = some actDefs ∧
      actDefs.length = sub.szAd ∧
      ∀ actDef ∈ actDefs, actDef.Filled

theorem measInfoOf_filled
    (env : Environment)
    (measure : MeasInfoForActionLst) :
    (measInfoOf env measure).Filled :=
  ⟨[noLabelInfo], rfl, rfl, by simp [noLabelInfo]⟩

/-- The subscription of a style 4 report is complete. -/
theorem kpmSubOf_filled
    (env : Environment)
    (item : RicReportStyleItem) :
    (kpmSubOf env item).Filled := by
  refine ⟨[actDefOf env item], rfl, rfl, ?_⟩
  intro actDef member
  rw [List.mem_singleton] at member
  subst actDef
  constructor
  · refine ⟨_, rfl, rfl, ?_⟩
    intro condition member
    rw [List.mem_singleton] at member
    subst condition
    exact ⟨rfl, _, rfl, _, rfl, rfl⟩
  · refine ⟨_, rfl, List.length_map .., ?_⟩
    intro info member
    obtain ⟨measure, _, rfl⟩ := List.mem_map.mp member
    exact measInfoOf_filled env measure

/-- The `made`-th of the requests from here on is the first refused one. -/
def FirstRefusal
    (env : Environment)
    (world : World)
    (made : Nat) : Prop :=
  (∀ earlier < made, env.memory (world.callocs + earlier) = true) ∧
    env.memory (world.callocs + made) = false

/--
Allocation failure is contained in a run of the builder.  The run makes `made`
allocations, and either it stops at an assertion without going past a refused
one, or all of them are granted and it returns the complete subscription.
-/
def FailureContained
    (env : Environment)
    (world : World)
    (ranFunc : KpmRanFunctionDef)
    (item : RicReportStyleItem) : Prop :=
  ∃ made,
    (genKpmSubs env (some ranFunc) world).state =
        { world with callocs := world.callocs + made } ∧
      ((∃ text,
          (genKpmSubs env (some ranFunc) world).outcome =
              .stop (.failedCheck text) ∧
            (made = 0 ∨
              ∃ last, made = last + 1 ∧ FirstRefusal env world last)) ∨
        ((∀ index < made,
            env.memory (world.callocs + index) = true) ∧
          (genKpmSubs env (some ranFunc) world).outcome =
            .done (kpmSubOf env item) ∧
          (kpmSubOf env item).Filled))

/-- The label of no measure is the first refused allocation. -/
def LabelsGranted
    (env : Environment)
    (world : World)
    (measures : Nat) : Prop :=
  ∀ measure < measures,
    ¬FirstRefusal env world (8 + 2 * measure)

/-- What the `index`-th of the loop's allocations stops with. -/
theorem getElem?_flatten_measItemRefusals
    {measures index : Nat}
    (below : index < 2 * measures) :
    (List.replicate measures measItemRefusals).flatten[index]? =
      some (if index % 2 = 0 then
        memoryExhausted
      else
        .undefined (.nullDereference "noLabel")) := by
  induction measures generalizing index with
  | zero =>
      omega
  | succ measures inductionHypothesis =>
      rw [List.replicate_succ, List.flatten_cons, measItemRefusals,
        List.cons_append, List.cons_append, List.nil_append]
      rcases index with _ | _ | index
      · simp
      · simp
      · rw [List.getElem?_cons_succ, List.getElem?_cons_succ,
          Nat.add_assoc, Nat.add_mod_right]
        exact inductionHypothesis (by omega)

/-- An allocation of the builder either is the label of a measure or checked. -/
theorem getElem?_genKpmSubsRefusals
    {measures index : Nat}
    (below : index < 7 + 2 * measures) :
    (∃ measure < measures,
      index = 8 + 2 * measure ∧
        (genKpmSubsRefusals measures)[index]? =
          some (.undefined (.nullDereference "noLabel"))) ∨
      ((∀ measure, index ≠ 8 + 2 * measure) ∧
        ∃ text,
          (genKpmSubsRefusals measures)[index]? =
            some (.failedCheck text)) := by
  match index with
  | 0 | 1 | 2 | 3 | 4 | 5 | 6 =>
      exact Or.inr ⟨by omega, _, rfl⟩
  | index + 7 =>
      have inLoop :
          (genKpmSubsRefusals measures)[index + 7]? =
            (List.replicate measures
              measItemRefusals).flatten[index]? :=
        rfl
      rw [inLoop,
        getElem?_flatten_measItemRefusals (by omega)]
      rcases Nat.mod_two_eq_zero_or_one index with even | odd
      · rw [if_pos even]
        exact Or.inr ⟨by omega, _, rfl⟩
      · rw [if_neg (by omega)]
        exact Or.inl ⟨index / 2, by omega, by omega, rfl⟩

section Containment

variable
  {env : Environment}
  {world : World}
  {ranFunc : KpmRanFunctionDef}
  {item : RicReportStyleItem}

/-- A first refusal is unique. -/
theorem FirstRefusal.unique
    {first second : Nat}
    (left : FirstRefusal env world first)
    (right : FirstRefusal env world second) :
    first = second := by
  rcases Nat.lt_trichotomy first second with below | same | above
  · have granted := right.1 first below
    rw [left.2] at granted
    cases granted
  · exact same
  · have granted := left.1 second above
    rw [right.2] at granted
    cases granted

/-- A rejected event trigger is contained unless it reads an empty list. -/
theorem failureContained_of_eventTrigger
    {why : Stop}
    (rejected :
      eventTriggerStop ranFunc.ricEventTriggerStyleList = some why) :
    FailureContained env world ranFunc item ↔
      ranFunc.ricEventTriggerStyleList ≠ some [] := by
  have run :=
    (genKpmSubs_stops_of_eventTrigger env rejected world).apply
  simp only [FailureContained]
  rw [run]
  constructor
  · rintro ⟨made, _, ⟨text, stopped, _⟩ | ⟨_, returned, _⟩⟩ empty
    · rw [empty, eventTriggerStop] at rejected
      cases rejected
      cases stopped
    · cases returned
  · intro nonempty
    have checked : ∃ text, why = .failedCheck text := by
      rcases listed : ranFunc.ricEventTriggerStyleList with
          _ | _ | ⟨eventTrigger, rest⟩
      · rw [listed, eventTriggerStop] at rejected
        cases rejected
        exact ⟨_, rfl⟩
      · exact (nonempty listed).elim
      · rw [listed, eventTriggerStop] at rejected
        split at rejected
        · cases rejected
        · cases rejected
          exact ⟨_, rfl⟩
    obtain ⟨text, rfl⟩ := checked
    exact ⟨0, rfl, Or.inl ⟨text, rfl, Or.inl rfl⟩⟩

/-- With an accepted event trigger, only the labels can break containment. -/
theorem failureContained_of_accepted
    (accepted : EventTriggerAccepted ranFunc)
    {rest : List RicReportStyleItem}
    (listed : ranFunc.ricReportStyleList = some (item :: rest))
    (style4 : IsStyle4 item) :
    FailureContained env world ranFunc item ↔
      LabelsGranted env world item.measInfoForActionLst.length := by
  have allocates :=
    genKpmSubs_allocates env accepted listed style4
  have lengthEq :=
    length_genKpmSubsRefusals item.measInfoForActionLst.length
  simp only [FailureContained, LabelsGranted]
  rcases grants_or_firstRefusal
      (fun index => env.memory (world.callocs + index))
      (7 + 2 * item.measInfoForActionLst.length) with
    allGranted | ⟨index, below, earlier, refusal⟩
  · have run :=
      (allocates.granted world (by
        rw [lengthEq]
        exact allGranted)).apply
    rw [run, lengthEq]
    constructor
    · intro _ measure inside first
      have granted := allGranted (8 + 2 * measure) (by omega)
      rw [first.2] at granted
      cases granted
    · intro _
      exact ⟨_, rfl, Or.inr
        ⟨allGranted, rfl, kpmSubOf_filled env item⟩⟩
  · have first : FirstRefusal env world index :=
      ⟨earlier, refusal⟩
    rcases getElem?_genKpmSubsRefusals below with
        ⟨measure, inside, isLabel, why⟩ | ⟨notLabel, text, why⟩
    · -- the refused block is the one that `fill_kpm_label` writes
      have run :=
        (allocates.refused world index _ why earlier refusal).apply
      rw [run]
      constructor
      · rintro ⟨made, _, ⟨text, stopped, _⟩ | ⟨_, returned, _⟩⟩
        · cases stopped
        · cases returned
      · intro labels
        subst isLabel
        exact (labels measure inside first).elim
    · have run :=
        (allocates.refused world index _ why earlier refusal).apply
      rw [run]
      constructor
      · intro _ measure _ atLabel
        exact notLabel measure (first.unique atLabel)
      · intro _
        exact ⟨index + 1, rfl, Or.inl
          ⟨text, rfl, Or.inr ⟨index, rfl, first⟩⟩⟩

/--
For a definition whose first report style is style 4, allocation failure is
contained exactly when the event trigger list has an entry to check, or is
null, and, once that entry is accepted, the first refused allocation is not
the label of a measure.
-/
theorem failureContained_iff
    {rest : List RicReportStyleItem}
    (listed : ranFunc.ricReportStyleList = some (item :: rest))
    (style4 : IsStyle4 item) :
    FailureContained env world ranFunc item ↔
      ranFunc.ricEventTriggerStyleList ≠ some [] ∧
        (EventTriggerAccepted ranFunc →
          LabelsGranted env world
            item.measInfoForActionLst.length) := by
  cases stopped : eventTriggerStop ranFunc.ricEventTriggerStyleList with
  | none =>
      have accepted := (eventTriggerStop_eq_none_iff ranFunc).mp stopped
      have nonempty : ranFunc.ricEventTriggerStyleList ≠ some [] := by
        intro empty
        rw [empty, eventTriggerStop] at stopped
        cases stopped
      rw [failureContained_of_accepted accepted listed style4]
      exact ⟨fun labels => ⟨nonempty, fun _ => labels⟩,
        fun condition => condition.2 accepted⟩
  | some why =>
      have notAccepted : ¬EventTriggerAccepted ranFunc := by
        intro accepted
        rw [(eventTriggerStop_eq_none_iff ranFunc).mpr accepted] at stopped
        cases stopped
      rw [failureContained_of_eventTrigger stopped]
      exact ⟨fun nonempty =>
          ⟨nonempty, fun accepted => (notAccepted accepted).elim⟩,
        fun condition => condition.1⟩

end Containment

/-- An environment that grants every block except one. -/
def Environment.refusing (index : Nat) : Environment :=
  { Environment.ideal with memory := fun asked => asked != index }

/-- Refusing the block of the conditions is contained. -/
theorem failureContained_conditions :
    FailureContained (Environment.refusing 1) World.fresh
      (ranFuncWith [style4Item]) style4Item :=
  (failureContained_iff rfl style4Item_isStyle4).mpr
    ⟨by decide, fun _ measure _ first => by
      have granted := first.1 1 (by omega)
      cases granted⟩

/--
Refusing the ninth block, the label of the only measure, is not contained: the
builder writes through the null pointer.
-/
theorem not_failureContained_label :
    ¬FailureContained (Environment.refusing 8) World.fresh
      (ranFuncWith [style4Item]) style4Item := by
  have run :
      (genKpmSubs (Environment.refusing 8)
          (some (ranFuncWith [style4Item])) World.fresh).outcome =
        .stop (.undefined (.nullDereference "noLabel")) :=
    rfl
  rintro ⟨made, _, ⟨text, stopped, _⟩ | ⟨_, returned, _⟩⟩
  · rw [run] at stopped
    cases stopped
  · rw [run] at returned
    cases returned

end IqosXapp.KpmManager
