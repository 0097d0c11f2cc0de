import IqosXapp.Effect.Observe
import IqosXapp.KpmManager.StartSpec
import Mathlib.Order.Bounds.Defs

namespace IqosXapp.KpmManager

open Effect Program

/-!
# Where the KPM lookup reads

The scan of `get_kpm_idx` has one turn more than the list has entries.  A list
with a KPM entry ends it before that turn, and then nothing behind the list is
read, neither by the lookup nor by `start`.  Without a KPM entry the last turn
reads the entry behind the list, and what that holds decides about the answer.
-/

/-- The array and the index of a read behind an array. -/
def SetupEvent.strayRead? : SetupEvent → Option (String × Nat)
  | .strayRead array index => some (array, index)
  | _ => none

/-- The reads behind an array that a log shows. -/
def strayReads (log : List SetupEvent) : List (String × Nat) :=
  log.filterMap SetupEvent.strayRead?

/-- The indices of the list at which an entry has the KPM id. -/
def kpmIndices (rf : List SmRanFunction) : Set Nat :=
  {i | ∃ ranFunction,
    rf[i]? = some ranFunction ∧ ranFunction.id = kpmRanFuncId}

/-- Some entry of the list has the KPM id. -/
def ListsKpm (rf : List SmRanFunction) : Prop :=
  ∃ ranFunction ∈ rf, ranFunction.id = kpmRanFuncId

/--
The lookup reads the list only, gives its first KPM index or fails its
assertion, and does not depend on the memory behind the list.
-/
structure LookupStaysInside
    (e2Node : E2NodeConnectedXapp) : Prop where
  readsInside :
    ∀ world,
      strayReads (getKpmIdx e2Node e2Node.rf.length world).log = []
  answersInside :
    ∀ i world,
      (getKpmIdx e2Node e2Node.rf.length world).outcome = .done i →
        i < e2Node.rf.length
  findsFirst :
    ∀ i world,
      IsLeast (kpmIndices e2Node.rf) i →
        (getKpmIdx e2Node e2Node.rf.length world).outcome = .done i
  fails :
    ∀ world,
      ¬ListsKpm e2Node.rf →
        (getKpmIdx e2Node e2Node.rf.length world).outcome =
          .stop kpmNotFound
  unaffected :
    ∀ behindRf world,
      (getKpmIdx { e2Node with behindRf := behindRf }
          e2Node.rf.length world).outcome =
        (getKpmIdx e2Node e2Node.rf.length world).outcome

/--
The lookup stays inside the list of each node, and no run of `start` over the
nodes reads behind a list.
-/
structure LookupsStayInside
    (e2Nodes : List E2NodeConnectedXapp) : Prop where
  lookups : ∀ e2Node ∈ e2Nodes, LookupStaysInside e2Node
  runs :
    ∀ env, strayReads (start env e2Nodes World.fresh).log = []

/-! ## The lookup -/

theorem SmRanFunction.isKpm_iff (ranFunction : SmRanFunction) :
    ranFunction.isKpm = true ↔ ranFunction.id = kpmRanFuncId :=
  decide_eq_true_iff

/-- The first KPM index is the one at which the scan ends. -/
theorem isLeast_kpmIndices_iff
    {rf : List SmRanFunction}
    {i : Nat} :
    IsLeast (kpmIndices rf) i ↔ rf.findIdx? (·.isKpm) = some i := by
  rw [List.findIdx?_eq_some_iff_getElem]
  constructor
  · rintro ⟨⟨ranFunction, listed, isKpm⟩, least⟩
    obtain ⟨inside, rfl⟩ := List.getElem?_eq_some_iff.mp listed
    refine ⟨inside, (SmRanFunction.isKpm_iff _).mpr isKpm, ?_⟩
    intro j earlier earlierKpm
    have bounded : i ≤ j :=
      least ⟨rf[j], List.getElem?_eq_getElem _,
        (SmRanFunction.isKpm_iff _).mp earlierKpm⟩
    exact Nat.not_lt_of_le bounded earlier
  · rintro ⟨inside, isKpm, noEarlier⟩
    refine ⟨⟨rf[i], List.getElem?_eq_getElem inside,
      (SmRanFunction.isKpm_iff _).mp isKpm⟩, ?_⟩
    rintro j ⟨ranFunction, listed, otherKpm⟩
    obtain ⟨_, rfl⟩ := List.getElem?_eq_some_iff.mp listed
    by_contra above
    exact noEarlier j (Nat.lt_of_not_le above)
      ((SmRanFunction.isKpm_iff _).mpr otherKpm)

theorem ListsKpm.findIdx?
    {rf : List SmRanFunction}
    (listed : ListsKpm rf) :
    ∃ i, rf.findIdx? (·.isKpm) = some i := by
  obtain ⟨ranFunction, member, isKpm⟩ := listed
  exact ⟨_, List.findIdx?_eq_some_of_exists
    ⟨ranFunction, member, (SmRanFunction.isKpm_iff _).mpr isKpm⟩⟩

theorem findIdx?_of_not_listsKpm
    {rf : List SmRanFunction}
    (unlisted : ¬ListsKpm rf) :
    rf.findIdx? (·.isKpm) = none := by
  rw [List.findIdx?_eq_none_iff]
  intro ranFunction member
  rw [Bool.eq_false_iff]
  intro isKpm
  exact unlisted
    ⟨ranFunction, member, (SmRanFunction.isKpm_iff _).mp isKpm⟩

section Lookup

variable {e2Node : E2NodeConnectedXapp}

/-- With a KPM entry in the list, the scan ends at the first one. -/
theorem getKpmIdx_of_findIdx?
    {i : Nat}
    (found : e2Node.rf.findIdx? (·.isKpm) = some i) :
    getKpmIdx e2Node e2Node.rf.length = pure i := by
  rw [getKpmIdx_eq, found]

/-- Without a KPM entry, the last turn of the scan leaves the list. -/
theorem strayReads_of_not_listsKpm
    (unlisted : ¬ListsKpm e2Node.rf)
    (world : World) :
    strayReads (getKpmIdx e2Node e2Node.rf.length world).log =
      [("rf", e2Node.rf.length)] := by
  rw [getKpmIdx_eq, findIdx?_of_not_listsKpm unlisted]
  simp only [lookBehind, strayReads]
  rw [Silent.log_bind]
  · rfl
  · intro _
    cases e2Node.behindRf with
    | none =>
        exact Silent.stop _
    | some entry =>
        exact Silent.ite (Silent.pure _) (Silent.stop _)

/-- A list with a KPM entry is all that its lookup reads. -/
theorem lookupStaysInside_of_listsKpm
    (listed : ListsKpm e2Node.rf) :
    LookupStaysInside e2Node := by
  obtain ⟨first, found⟩ := listed.findIdx?
  have lookup := getKpmIdx_of_findIdx? found
  exact {
    readsInside := by
      intro world
      rw [lookup]
      rfl
    answersInside := by
      rintro i world answer
      rw [lookup] at answer
      cases answer
      obtain ⟨inside, _⟩ :=
        List.findIdx?_eq_some_iff_getElem.mp found
      exact inside
    findsFirst := by
      intro i world least
      rw [isLeast_kpmIndices_iff, found] at least
      cases least
      rw [lookup]
      rfl
    fails := by
      intro world unlisted
      exact (unlisted listed).elim
    unaffected := by
      intro behindRf world
      have sameFound :
          getKpmIdx { e2Node with behindRf := behindRf }
              e2Node.rf.length =
            pure first :=
        getKpmIdx_of_findIdx? found
      rw [lookup, sameFound] }

end Lookup

/-! ## Runs of `start` -/

section Runs

variable {env : Environment}

/-- The body of the first loop uses an index inside the list. -/
theorem subscribeNode_readsInside
    {e2Node : E2NodeConnectedXapp}
    (listed : ListsKpm e2Node.rf)
    (i : Nat)
    (hndl : List SmAnsXapp) :
    Silent SetupEvent.strayRead?
      (subscribeNode env i e2Node hndl) := by
  obtain ⟨first, found⟩ := listed.findIdx?
  obtain ⟨inside, _⟩ :=
    List.findIdx?_eq_some_iff_getElem.mp found
  simp only [subscribeNode]
  rw [getKpmIdx_of_findIdx? found, pure_bind,
    readRf_inside (List.getElem?_eq_getElem inside), pure_bind]
  cases e2Node.rf[first].defn with
  | other =>
      exact Silent.stop _
  | kpm kpm =>
      exact Silent.ite
        (sendSubscription_silent (fun _ _ _ _ => rfl) fun _ => rfl)
        (Silent.pure hndl)

/-- No run over nodes with a KPM entry reads behind a list. -/
theorem start_readsInside
    {e2Nodes : List E2NodeConnectedXapp}
    (listed : ∀ e2Node ∈ e2Nodes, ListsKpm e2Node.rf) :
    Silent SetupEvent.strayRead? (start env e2Nodes) := by
  refine (Silent.emit rfl).bind fun _ => ?_
  refine (Silent.require _ _).bind fun _ => ?_
  refine (Silent.request _ _ _).bind fun hndl => ?_
  refine (Silent.require _ _).bind fun _ => ?_
  refine (Silent.deref _ _).bind fun block => ?_
  have firstLoop :
      Silent SetupEvent.strayRead?
        (loop
          (fun i block => do
            let e2Node ← cell e2Nodes i
              fun i => .undefined (.outOfRange "e2Nodes.n" i)
            subscribeNode env i e2Node block)
          e2Nodes.length 0 block) :=
    Silent.loop
      (fun i block =>
        Silent.cell_bind
          (fun e2Node member =>
            subscribeNode_readsInside (listed e2Node member) i block)
          i _)
      _ _ _
  refine (firstLoop.bind fun block => ?_).bind fun _ => ?_
  · exact removeHandles_silent rfl (fun _ => rfl) block e2Nodes.length
  · exact (Silent.emit rfl).bind fun _ => Silent.pure ()

end Runs

/--
The lookups over some nodes stay inside their lists exactly when every list
has an entry with the KPM id.
-/
theorem lookupsStayInside_iff
    (e2Nodes : List E2NodeConnectedXapp) :
    LookupsStayInside e2Nodes ↔
      ∀ e2Node ∈ e2Nodes,
        ∃ ranFunction ∈ e2Node.rf,
          ranFunction.id = kpmRanFuncId := by
  constructor
  · intro inside e2Node member
    by_contra unlisted
    have readsInside :=
      (inside.lookups e2Node member).readsInside World.fresh
    rw [strayReads_of_not_listsKpm unlisted] at readsInside
    cases readsInside
  · intro listed
    exact {
      lookups := fun e2Node member =>
        lookupStaysInside_of_listsKpm (listed e2Node member)
      runs := fun env => start_readsInside listed World.fresh }

/--
A node without a KPM function, in front of memory that reads as one with a
style 4 report.
-/
def rcNode : E2NodeConnectedXapp where
  id := nodeId 5
  rf := [⟨3, .other⟩]
  behindRf := some ⟨kpmRanFuncId, .kpm (ranFuncWith [style4Item])⟩

/-- The length of the list comes back as an index into it. -/
theorem not_lookupsStayInside_rcNode :
    ¬LookupsStayInside [rcNode] := by
  intro inside
  have lookup := inside.lookups rcNode (by simp)
  exact absurd
    (lookup.answersInside 1 World.fresh (by decide))
    (by decide)

end IqosXapp.KpmManager
