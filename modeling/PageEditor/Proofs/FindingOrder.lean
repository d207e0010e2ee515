import PageEditor.Proofs.RepeatedIds
import PageEditor.Proofs.StateNames

/-!
The order of the findings. States are looked at for the roots alone and before any event, and each of the two lists of
findings follows the walk. Put one behind the other they follow it only as long as no state is found fault with
behind a component whose events are.
-/

namespace PageEditor.Generate

/-- Where the walk first meets an id. -/
def walkPosition (forest : Forest) (id : ComponentId) : Nat := (Forest.ids forest).idxOf id

/-- No finding is about a component that stands before that of an earlier finding. -/
def FollowsWalk (forest : Forest) (list : List Finding) : Prop :=
  list.Pairwise fun earlier later => walkPosition forest earlier.component ≤ walkPosition forest later.component

instance (forest : Forest) (list : List Finding) : Decidable (FollowsWalk forest list) :=
  inferInstanceAs (Decidable (List.Pairwise _ _))

section Parts

variable (options : Options) (forest : Forest)

/-- Repeated ids and states give no findings about events, and events no others. -/
theorem filter_isAboutEvent :
    (findings options forest).filter (fun finding => finding.issue.isAboutEvent) = eventFindings options forest := by
  rw [filter_findings options forest fun _ about => about, eventFindings]
  apply List.flatMap_congr
  intro component _
  exact List.filter_eq_self.mpr fun finding member => (eventFinding_of_mem options forest member).isAboutEvent

theorem mem_stateFindings_iff {finding : Finding} :
    finding ∈ stateFindings forest ↔ finding ∈ findings options forest ∧ finding.issue.isAboutState = true := by
  rw [← filter_isAboutState options forest, List.mem_filter]

theorem mem_eventFindings_iff {finding : Finding} :
    finding ∈ eventFindings options forest ↔ finding ∈ findings options forest ∧ finding.issue.isAboutEvent = true := by
  rw [← filter_isAboutEvent options forest, List.mem_filter]

theorem component_of_stateFinding? {component : Component} {finding : Finding}
    (found : stateFinding? component = some finding) : finding.component = component.id := by
  rw [← stateFinding?_eq] at found
  obtain ⟨issue, _, rfl⟩ := Option.map_eq_some_iff.mp found
  rfl

theorem mem_ids_of_mem_findings {finding : Finding} (member : finding ∈ findings options forest) :
    finding.component ∈ Forest.ids forest := by
  rw [findings, List.mem_append, List.mem_append] at member
  rcases member with (duplicate | state) | event
  · obtain ⟨id, reported, rfl⟩ := List.mem_map.mp duplicate
    have repeated := Forest.mem_repeatedIds_iff.mp reported
    exact List.count_pos_iff.mp (Nat.lt_of_lt_of_le Nat.zero_lt_two repeated)
  · obtain ⟨component, stateful, found⟩ := List.mem_filterMap.mp state
    rw [component_of_stateFinding? found]
    exact (Forest.roots_sublist_ids forest).subset (List.mem_map_of_mem (List.mem_of_mem_filter stateful))
  · obtain ⟨component, met, found⟩ := List.mem_flatMap.mp event
    rw [(eventFinding_of_mem options forest found).component_eq]
    exact List.mem_map_of_mem met

end Parts

section Distinct

variable {forest : Forest} (distinct : (Forest.ids forest).Nodup)

include distinct

theorem pairwise_walkPosition :
    (Forest.ids forest).Pairwise fun id other => walkPosition forest id ≤ walkPosition forest other := by
  rw [List.pairwise_iff_getElem]
  intro i j first second less
  rw [walkPosition, walkPosition, distinct.idxOf_getElem, distinct.idxOf_getElem]
  exact Nat.le_of_lt less

theorem followsWalk_stateFindings : FollowsWalk forest (stateFindings forest) := by
  have roots := (pairwise_walkPosition distinct).sublist (Forest.roots_sublist_ids forest)
  rw [List.pairwise_map] at roots
  rw [FollowsWalk, stateFindings, List.pairwise_filterMap]
  apply (roots.filter _).imp
  intro component other ordered first found second found'
  rw [component_of_stateFinding? found, component_of_stateFinding? found']
  exact ordered

theorem followsWalk_eventFindings (options : Options) : FollowsWalk forest (eventFindings options forest) := by
  have nodes := pairwise_walkPosition distinct
  rw [Forest.ids, List.pairwise_map] at nodes
  have owner {component : Component} {finding : Finding} (found : finding ∈ componentFindings options forest component) :
      finding.component = component.id := (eventFinding_of_mem options forest found).component_eq
  rw [FollowsWalk, eventFindings, List.pairwise_flatMap]
  constructor
  · intro component _
    apply List.pairwise_of_forall_mem_list
    intro first found second found'
    exact Nat.le_of_eq (by rw [owner found, owner found'])
  · apply nodes.imp
    intro component other ordered first found second found'
    rw [owner found, owner found']
    exact ordered

theorem findings_of_distinct (options : Options) :
    findings options forest = stateFindings forest ++ eventFindings options forest := by
  rw [findings, duplicateFindings, Forest.repeatedIds_eq_nil_iff.mpr distinct, List.map_nil, List.nil_append]

theorem isAboutEvent_eq_not {options : Options} {finding : Finding} (member : finding ∈ findings options forest) :
    finding.issue.isAboutEvent = !finding.issue.isAboutState := by
  rw [findings_of_distinct distinct, List.mem_append, mem_stateFindings_iff options, mem_eventFindings_iff] at member
  rcases member with ⟨_, state⟩ | ⟨_, event⟩
  · rw [state]
    exact Bool.eq_false_iff.mpr fun event => by simp [Issue.isAboutState_eq_false event] at state
  · rw [event, Issue.isAboutState_eq_false event]
    rfl

/-- The two lists follow the walk, so it depends on how they meet. -/
theorem followsWalk_iff (options : Options) :
    FollowsWalk forest (findings options forest) ↔
      ∀ state ∈ stateFindings forest, ∀ event ∈ eventFindings options forest,
        walkPosition forest state.component ≤ walkPosition forest event.component := by
  rw [findings_of_distinct distinct, FollowsWalk, List.pairwise_append]
  constructor
  · intro ordered
    exact ordered.2.2
  · intro ordered
    exact ⟨followsWalk_stateFindings distinct, followsWalk_eventFindings distinct options, ordered⟩

end Distinct

/-- Where ids are distinct every finding is about a state or about an event. The findings of either kind follow the
walk; all of them together do iff none about a state is about a component behind one with a finding about an
event. -/
theorem followsWalk_findings_iff (options : Options) {forest : Forest} (distinct : (Forest.ids forest).Nodup) :
    (∀ finding ∈ findings options forest, finding.component ∈ Forest.ids forest ∧
        finding.issue.isAboutEvent = !finding.issue.isAboutState) ∧
      FollowsWalk forest ((findings options forest).filter fun finding => finding.issue.isAboutState) ∧
      FollowsWalk forest ((findings options forest).filter fun finding => finding.issue.isAboutEvent) ∧
      (FollowsWalk forest (findings options forest) ↔
        ∀ state ∈ findings options forest, state.issue.isAboutState = true →
          ∀ event ∈ findings options forest, event.issue.isAboutEvent = true →
            walkPosition forest state.component ≤ walkPosition forest event.component) := by
  refine ⟨?_, ?_, ?_, ?_⟩
  · intro finding member
    exact ⟨mem_ids_of_mem_findings options forest member, isAboutEvent_eq_not distinct member⟩
  · rw [filter_isAboutState]
    exact followsWalk_stateFindings distinct
  · rw [filter_isAboutEvent]
    exact followsWalk_eventFindings distinct options
  · rw [followsWalk_iff distinct options]
    simp only [mem_stateFindings_iff options, mem_eventFindings_iff, and_imp]

/-- A button with an event that cannot be handled. -/
def faultyButton (id : ComponentId) : Component :=
  (Component.new id "Button").setProp "onClick" (.unsupported (.bool true))

/-- An input whose state has no name. -/
def namelessInput (id : ComponentId) : Component :=
  (Component.new id "Input").setProp "value" (.literal (.string ""))

theorem followsWalk_findings_inputFirst :
    let page : Forest := [namelessInput 1, { Component.new 2 "Form" with children := some [faultyButton 3] }]
    (Forest.ids page).Nodup ∧
      (findings .standard page).map Finding.component = [1, 3] ∧
      (∀ state ∈ findings .standard page, state.issue.isAboutState = true →
        ∀ event ∈ findings .standard page, event.issue.isAboutEvent = true →
          walkPosition page state.component ≤ walkPosition page event.component) ∧
      FollowsWalk page (findings .standard page) := by
  intro page
  have distinct : (Forest.ids page).Nodup := by decide +kernel
  have found : (findings .standard page).map Finding.component = [1, 3] := by decide +kernel
  have ordered : FollowsWalk page (findings .standard page) := by decide +kernel
  obtain ⟨_, _, _, order_iff⟩ := followsWalk_findings_iff .standard distinct
  exact ⟨distinct, found, order_iff.mp ordered, ordered⟩

/-- The state of an input is reported before the event of a button in front of it. -/
theorem findings_leave_walk :
    ¬ ∀ (options : Options) (forest : Forest), (Forest.ids forest).Nodup →
      FollowsWalk forest (findings options forest) := by
  intro always
  have distinct : (Forest.ids [faultyButton 1, namelessInput 2]).Nodup := by decide +kernel
  have ordered := always .standard [faultyButton 1, namelessInput 2] distinct
  revert ordered
  decide +kernel

end PageEditor.Generate
