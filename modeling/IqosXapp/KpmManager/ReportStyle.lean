import IqosXapp.KpmManager.SubscriptionSpec

namespace IqosXapp.KpmManager

open Effect Program

/-!
# Report style selection

A node advertises any number of report styles in any order, and style 4 is the
only one that the builder can fill.  Selecting a style means to find a style 4
item when the list has one and to reject the definition by a check when it has
none, without leaving the list and without calling an empty table entry.  The
builder takes the first item whatever it is, so it selects in this sense
exactly when the first item exists and has style 4.
-/

/-- The action format that belongs to a report style. -/
def actionFormat : RicServiceReport → FormatActionDef
  | .style1RicServiceReport => .format1ActionDefinition
  | .style2RicServiceReport => .format2ActionDefinition
  | .style3RicServiceReport => .format3ActionDefinition
  | .style4RicServiceReport => .format4ActionDefinition
  | .style5RicServiceReport => .format5ActionDefinition

/-- The builder selects the report style of a definition with these styles. -/
structure SelectsReportStyle
    (ranFunc : KpmRanFunctionDef)
    (items : List RicReportStyleItem) : Prop where
  readsInside :
    ∀ env world array index,
      (genKpmSubs env (some ranFunc) world).outcome ≠
        .stop (.undefined (.outOfRange array index))
  callsEntry :
    ∀ env world table,
      (genKpmSubs env (some ranFunc) world).outcome ≠
        .stop (.undefined (.nullCall table))
  selects :
    ∀ env world,
      env.AllGranted →
      (∃ item ∈ items,
        item.reportStyleType = .style4RicServiceReport) →
      ∃ item ∈ items,
        item.reportStyleType = .style4RicServiceReport ∧
          (genKpmSubs env (some ranFunc) world).outcome =
            .done (kpmSubOf env item)
  rejects :
    ∀ env world,
      env.AllGranted →
      (∀ item ∈ items,
        item.reportStyleType ≠ .style4RicServiceReport) →
      ∃ text,
        (genKpmSubs env (some ranFunc) world).outcome =
          .stop (.failedCheck text)

/-- No allocation of the builder stops by leaving an array or a table. -/
theorem mem_genKpmSubsRefusals
    {measures : Nat}
    {why : Stop}
    (member : why ∈ genKpmSubsRefusals measures) :
    (∃ text, why = .failedCheck text) ∨
      why = .undefined (.nullDereference "noLabel") := by
  simp only [genKpmSubsRefusals, actDefFrm1Refusals, measItemRefusals,
    memoryExhausted, List.mem_cons, List.mem_append,
    List.mem_replicate, List.mem_flatten] at member
  rcases member with same | same | ⟨_, same⟩ | same | inLoop
  · exact Or.inl ⟨_, same⟩
  · exact Or.inl ⟨_, same⟩
  · exact Or.inl ⟨_, same⟩
  · exact Or.inl ⟨_, same⟩
  · obtain ⟨perStep, ⟨_, rfl⟩, listed⟩ := inLoop
    simp only [List.mem_cons, List.not_mem_nil, or_false] at listed
    rcases listed with same | same
    · exact Or.inl ⟨_, same⟩
    · exact Or.inr same

section Selection

variable
  {ranFunc : KpmRanFunctionDef}
  {items : List RicReportStyleItem}

/-- An unusable first style decides the outcome when a block is granted. -/
theorem outcome_of_firstStyle
    (accepted : EventTriggerAccepted ranFunc)
    {why : Stop}
    (rejected : firstStyleStop ranFunc.ricReportStyleList = some why)
    (world : World) :
    (genKpmSubs Environment.ideal (some ranFunc) world).outcome =
      .stop why := by
  rw [(genKpmSubs_stops_of_firstStyle Environment.ideal accepted
    rejected rfl).apply]

/-- A definition whose first report style is style 4 is served. -/
theorem selectsReportStyle_of_first
    (accepted : EventTriggerAccepted ranFunc)
    {item : RicReportStyleItem}
    {rest : List RicReportStyleItem}
    (listed : ranFunc.ricReportStyleList = some (item :: rest))
    (style4 : IsStyle4 item) :
    SelectsReportStyle ranFunc (item :: rest) := by
  have allocates (env : Environment) :=
    genKpmSubs_allocates env accepted listed style4
  have outcomes
      (env : Environment)
      (world : World)
      (cause : Undefined)
      (reached :
        (genKpmSubs env (some ranFunc) world).outcome =
          .stop (.undefined cause)) :
      cause = .nullDereference "noLabel" := by
    rcases outcome_of_allocates (allocates env) world with
        returned | ⟨why, member, stopped⟩
    · rw [returned] at reached
      cases reached
    · rw [stopped] at reached
      cases reached
      rcases mem_genKpmSubsRefusals member with ⟨text, same⟩ | same
      · cases same
      · cases same
        rfl
  refine {
    readsInside := ?_
    callsEntry := ?_
    selects := ?_
    rejects := ?_
  }
  · intro env world array index reached
    cases outcomes env world _ reached
  · intro env world table reached
    cases outcomes env world _ reached
  · intro env world granted _
    exact ⟨item, by simp, style4.style,
      outcome_of_allGranted (allocates env) granted world⟩
  · intro env world _ noStyle4
    exact absurd style4.style (noStyle4 item (by simp))

/--
For a definition whose styles carry their own action formats, the builder
selects the report style exactly when the first item has style 4.
-/
theorem selectsReportStyle_iff
    (accepted : EventTriggerAccepted ranFunc)
    (listed : ranFunc.ricReportStyleList = some items)
    (formats :
      ∀ item ∈ items,
        item.actDefFormatType = actionFormat item.reportStyleType) :
    SelectsReportStyle ranFunc items ↔
      ∃ item rest,
        items = item :: rest ∧
          item.reportStyleType = .style4RicServiceReport := by
  constructor
  · intro selected
    cases items with
    | nil =>
        have rejected :
            firstStyleStop ranFunc.ricReportStyleList =
              some (.undefined
                (.outOfRange "ric_report_style_list" 0)) := by
          rw [listed, firstStyleStop]
        exact
          (selected.readsInside _ World.fresh _ _
            (outcome_of_firstStyle accepted rejected _)).elim
    | cons item rest =>
        by_cases style : item.reportStyleType = .style4RicServiceReport
        · exact ⟨item, rest, rfl, style⟩
        · have rejected :
              firstStyleStop ranFunc.ricReportStyleList =
                some (.undefined (.nullCall "get_kpm_act_def")) := by
            rw [listed, firstStyleStop, if_neg style]
          exact
            (selected.callsEntry _ World.fresh _
              (outcome_of_firstStyle accepted rejected _)).elim
  · rintro ⟨item, rest, rfl, style⟩
    have format : item.actDefFormatType = .format4ActionDefinition := by
      rw [formats item (by simp), style]
      rfl
    exact selectsReportStyle_of_first accepted listed ⟨style, format⟩

end Selection

/-- A style 1 report without measures. -/
def style1Item : RicReportStyleItem where
  reportStyleType := .style1RicServiceReport
  actDefFormatType := .format1ActionDefinition
  measInfoForActionLst := []

/-- The condition is met by a list that begins with style 4. -/
theorem selectsReportStyle_style4First :
    SelectsReportStyle (ranFuncWith [style4Item, style1Item])
      [style4Item, style1Item] :=
  (selectsReportStyle_iff (ranFuncWith_accepted _) rfl
    (by decide)).mpr ⟨_, _, rfl, rfl⟩

/--
A list that begins with style 1 and goes on with style 4: every item has the
action format of its style, and the builder calls the empty entry for style 1.
-/
theorem not_selectsReportStyle_style1First :
    EventTriggerAccepted (ranFuncWith [style1Item, style4Item]) ∧
      (∀ item ∈ [style1Item, style4Item],
        item.actDefFormatType = actionFormat item.reportStyleType) ∧
      ¬SelectsReportStyle (ranFuncWith [style1Item, style4Item])
        [style1Item, style4Item] :=
  ⟨ranFuncWith_accepted _, by decide, fun selected =>
    selected.callsEntry Environment.ideal World.fresh
      "get_kpm_act_def" rfl⟩

end IqosXapp.KpmManager
