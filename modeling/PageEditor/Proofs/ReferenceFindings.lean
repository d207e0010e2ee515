import PageEditor.Generate.Finding
import PageEditor.Proofs.EventWiring

/-!
The references that handlers use, and the findings about them. What the findings call missing is exactly
what is not declared, whether references are declared for all components or for the roots only.
-/

namespace PageEditor.Generate

/-- An action of an event that reaches for a component. -/
structure Request where
  component : ComponentId
  event : String
  target : ComponentId

def Event.requests (event : Event) : List Request :=
  (event.list.filterMap Action.target?).map (Request.mk event.component.id event.key)

/-- The requests of a page, in the order of its events and of the actions in them. -/
def requests (options : Options) (forest : Forest) : List Request := (events options forest).flatMap Event.requests

def referenceNames (options : Options) (forest : Forest) : List String :=
  (references options forest).map Reference.name

/-- The finding that is due if the reference of a request is not declared. -/
def Request.finding (forest : Forest) (request : Request) : Finding :=
  if request.target ∈ Forest.ids forest then
    ⟨.warning, request.component, .undeclaredReference request.event request.target⟩
  else ⟨.error, request.component, .unresolvedTarget request.event request.target⟩

def Issue.isAboutTarget : Issue → Bool
  | .unresolvedTarget .. | .undeclaredReference .. => true
  | .missingStateName | .invalidStateName _ | .duplicateId | .unsupportedAction .. | .unsupportedEventValue _ => false

def Issue.isAboutEvent : Issue → Bool
  | .unresolvedTarget .. | .undeclaredReference .. | .unsupportedAction .. | .unsupportedEventValue _ => true
  | .missingStateName | .invalidStateName _ | .duplicateId => false

def Issue.isAboutState : Issue → Bool
  | .missingStateName | .invalidStateName _ => true
  | .unresolvedTarget .. | .undeclaredReference .. | .duplicateId | .unsupportedAction .. | .unsupportedEventValue _ =>
    false

theorem Issue.isAboutEvent_of_isAboutTarget {issue : Issue} (target : issue.isAboutTarget = true) :
    issue.isAboutEvent = true := by
  cases issue with
  | unresolvedTarget | undeclaredReference => rfl
  | _ => cases target

theorem Issue.isAboutState_eq_false {issue : Issue} (event : issue.isAboutEvent = true) :
    issue.isAboutState = false := by
  cases issue with
  | missingStateName | invalidStateName => cases event
  | _ => rfl

def targetFindings (options : Options) (forest : Forest) : List Finding :=
  (findings options forest).filter fun finding => finding.issue.isAboutTarget

variable (options : Options) (forest : Forest)

theorem isRoot_iff (target : ComponentId) : Forest.isRoot forest target = true ↔ target ∈ forest.map Component.id := by
  simp [Forest.isRoot]

theorem mem_referenceNames_iff (target : ComponentId) :
    referenceName target ∈ referenceNames options forest ↔
      target ∈ if options.nestedRefs then Forest.ids forest else forest.map Component.id := by
  have names : referenceNames options forest =
      (if options.nestedRefs then Forest.ids forest else forest.map Component.id).map referenceName := by
    unfold referenceNames references
    split <;> simp [Forest.ids, reference, Function.comp_def]
  rw [names]
  constructor
  · intro member
    obtain ⟨id, declared, same⟩ := List.mem_map.mp member
    rwa [← referenceName_injective same]
  · exact List.mem_map_of_mem

/-- The checks on a target amount to a look at the declarations. -/
theorem targetFinding?_eq (owner : ComponentId) (event : String) (target : ComponentId) :
    targetFinding? options forest owner event target =
      if referenceName target ∈ referenceNames options forest then none
      else some (Request.finding forest ⟨owner, event, target⟩) := by
  have roots : target ∈ forest.map Component.id → target ∈ Forest.ids forest :=
    fun member => (Forest.roots_sublist_ids forest).subset member
  have root := isRoot_iff forest target
  simp only [targetFinding?, Option.isNone_iff_eq_none, Forest.find?_eq_none_iff, mem_referenceNames_iff,
    Request.finding]
  cases nested : options.nestedRefs
  · by_cases declared : target ∈ forest.map Component.id
    · simp [declared, roots declared, root.mpr declared]
    · have absent : Forest.isRoot forest target = false := Bool.eq_false_iff.mpr (mt root.mp declared)
      by_cases known : target ∈ Forest.ids forest <;> simp [declared, known, absent]
  · by_cases known : target ∈ Forest.ids forest <;> simp [known]

def Event.targetFindings (event : Event) : List Finding :=
  (event.list.filterMap Action.target?).filterMap (targetFinding? options forest event.component.id event.key)

theorem propFindings_actions (event : Event) :
    propFindings options forest event.component.id event.key (.actions event.list) =
      droppedFindings event.component.id event.key event.list ++ event.targetFindings options forest := rfl

/-- The findings about the targets of one event, against its requests. -/
theorem Event.targetFindings_eq (event : Event) :
    event.targetFindings options forest =
      (event.requests.filter fun request => referenceName request.target ∉ referenceNames options forest).map
        (Request.finding forest) := by
  rw [Event.targetFindings, Event.requests]
  induction event.list.filterMap Action.target? with
  | nil => rfl
  | cons target targets ih =>
    by_cases declared : referenceName target ∈ referenceNames options forest
    · simpa [targetFinding?_eq, declared] using ih
    · simpa [targetFinding?_eq, declared] using ih

theorem of_mem_droppedFindings {owner : ComponentId} {event : String} {list : List Action} {finding : Finding}
    (member : finding ∈ droppedFindings owner event list) :
    ∃ index, finding = ⟨.warning, owner, .unsupportedAction event index⟩ := by
  obtain ⟨⟨action, index⟩, _, found⟩ := List.mem_filterMap.mp member
  change (if action.isUnsupported then some (Finding.mk .warning owner (.unsupportedAction event index)) else none) =
    some finding at found
  split at found <;> cases found
  exact ⟨index, rfl⟩

theorem Event.of_mem_targetFindings {event : Event} {finding : Finding}
    (member : finding ∈ event.targetFindings options forest) :
    ∃ request ∈ event.requests, finding = request.finding forest := by
  rw [Event.targetFindings_eq] at member
  obtain ⟨request, asked, rfl⟩ := List.mem_map.mp member
  exact ⟨request, List.mem_of_mem_filter asked, rfl⟩

theorem isAboutTarget_finding (request : Request) : (request.finding forest).issue.isAboutTarget = true := by
  rw [Request.finding]
  split <;> rfl

theorem filter_droppedFindings (owner : ComponentId) (event : String) (list : List Action) :
    (droppedFindings owner event list).filter (fun finding => finding.issue.isAboutTarget) = [] := by
  rw [List.filter_eq_nil_iff]
  intro finding member
  obtain ⟨index, rfl⟩ := of_mem_droppedFindings member
  simp [Issue.isAboutTarget]

theorem Event.filter_targetFindings (event : Event) :
    (event.targetFindings options forest).filter (fun finding => finding.issue.isAboutTarget) =
      event.targetFindings options forest := by
  rw [List.filter_eq_self]
  intro finding member
  obtain ⟨request, _, rfl⟩ := Event.of_mem_targetFindings options forest member
  exact isAboutTarget_finding forest request

/-- What a prop is found to have wrong about targets is what its event has, if it is one. -/
theorem filter_propFindings (component : Component) (entry : String × PropValue) :
    (if options.isEventKey entry.1 then propFindings options forest component.id entry.1 entry.2 else []).filter
        (fun finding => finding.issue.isAboutTarget) =
      (Event.ofEntry? options component entry).toList.flatMap (Event.targetFindings options forest) := by
  obtain ⟨key, value⟩ := entry
  by_cases own : options.isEventKey key
  · cases value with
    | actions list =>
      have parts := propFindings_actions options forest ⟨component, key, list⟩
      simp [Event.ofEntry?, own, parts, filter_droppedFindings, Event.filter_targetFindings]
    | literal | bound | unsupported => simp [Event.ofEntry?, own, propFindings, Issue.isAboutTarget]
  · cases value <;> simp [Event.ofEntry?, own]

theorem filter_componentFindings (component : Component) :
    (componentFindings options forest component).filter (fun finding => finding.issue.isAboutTarget) =
      (componentEvents options component).flatMap (Event.targetFindings options forest) := by
  rw [componentFindings, componentEvents, List.filter_flatMap, List.filterMap_eq_flatMap_toList, List.flatMap_assoc]
  exact congrArg component.props.entries.flatMap (funext (filter_propFindings options forest component))

/-- What can be found wrong with the events of a component. -/
inductive EventFinding (forest : Forest) (owner : ComponentId) : Finding → Prop where
  | value (event : String) : EventFinding forest owner ⟨.warning, owner, .unsupportedEventValue event⟩
  | action (event : String) (index : Nat) : EventFinding forest owner ⟨.warning, owner, .unsupportedAction event index⟩
  | target (event : String) (target : ComponentId) :
    EventFinding forest owner (Request.finding forest ⟨owner, event, target⟩)

theorem eventFinding_of_mem {component : Component} {finding : Finding}
    (member : finding ∈ componentFindings options forest component) : EventFinding forest component.id finding := by
  obtain ⟨⟨key, value⟩, _, listed⟩ := List.mem_flatMap.mp member
  change finding ∈ if options.isEventKey key then propFindings options forest component.id key value else [] at listed
  split at listed
  · cases value with
    | actions list =>
      rw [propFindings_actions options forest ⟨component, key, list⟩] at listed
      rcases List.mem_append.mp listed with dropped | aimed
      · obtain ⟨index, rfl⟩ := of_mem_droppedFindings dropped
        exact .action key index
      · obtain ⟨request, asked, rfl⟩ := Event.of_mem_targetFindings options forest aimed
        obtain ⟨target, _, rfl⟩ := List.mem_map.mp asked
        exact .target key target
    | unsupported =>
      rw [List.mem_singleton.mp listed]
      exact .value key
    | literal | bound => cases listed
  · cases listed

section EventFinding

variable {forest : Forest} {owner : ComponentId} {finding : Finding} (found : EventFinding forest owner finding)

include found

theorem EventFinding.component_eq : finding.component = owner := by
  cases found with
  | value | action => rfl
  | target =>
    rw [Request.finding]
    split <;> rfl

theorem EventFinding.isAboutEvent : finding.issue.isAboutEvent = true := by
  cases found with
  | value | action => rfl
  | target => exact Issue.isAboutEvent_of_isAboutTarget (isAboutTarget_finding forest _)

theorem EventFinding.isAboutTarget (error : finding.isError = true) : finding.issue.isAboutTarget = true := by
  cases found with
  | value | action => cases error
  | target => exact isAboutTarget_finding forest _

end EventFinding

theorem of_mem_stateFindings {finding : Finding} (member : finding ∈ stateFindings forest) :
    finding.issue.isAboutState = true ∧ finding.severity = .warning := by
  obtain ⟨component, _, found⟩ := List.mem_filterMap.mp member
  unfold stateFinding? at found
  split at found
  · cases found
    exact ⟨rfl, rfl⟩
  · split at found <;> cases found
    exact ⟨rfl, rfl⟩

/-- Repeated ids and states are no findings about events, so a choice among those is made component by component. -/
theorem filter_findings {keep : Issue → Bool} (chosen : ∀ issue, keep issue = true → issue.isAboutEvent = true) :
    (findings options forest).filter (fun finding => keep finding.issue) =
      (Forest.nodes forest).flatMap fun component =>
        (componentFindings options forest component).filter fun finding => keep finding.issue := by
  have duplicates : (duplicateFindings forest).filter (fun finding => keep finding.issue) = [] := by
    rw [List.filter_eq_nil_iff]
    intro finding member kept
    obtain ⟨id, _, rfl⟩ := List.mem_map.mp member
    cases chosen _ kept
  have states : (stateFindings forest).filter (fun finding => keep finding.issue) = [] := by
    rw [List.filter_eq_nil_iff]
    intro finding member kept
    have event := Issue.isAboutState_eq_false (chosen finding.issue kept)
    rw [(of_mem_stateFindings forest member).1] at event
    cases event
  rw [findings, List.filter_append, List.filter_append, duplicates, states, List.append_nil, List.nil_append,
    eventFindings, List.filter_flatMap]

/-- The findings about targets are those due for the requests whose reference is not declared, in order. -/
theorem targetFindings_eq :
    targetFindings options forest =
      ((requests options forest).filter fun request => referenceName request.target ∉ referenceNames options forest).map
        (Request.finding forest) := by
  have chosen : ∀ issue : Issue, issue.isAboutTarget = true → issue.isAboutEvent = true :=
    fun _ => Issue.isAboutEvent_of_isAboutTarget
  rw [targetFindings, filter_findings options forest chosen, requests, events, List.flatMap_assoc,
    List.filter_flatMap, List.map_flatMap]
  apply congrArg (Forest.nodes forest).flatMap
  funext component
  rw [filter_componentFindings, List.filter_flatMap, List.map_flatMap]
  exact congrArg (componentEvents options component).flatMap (funext (Event.targetFindings_eq options forest))

/-- A statement that starts with the use of a reference was made from an action with that target. -/
theorem target?_of_statement? {action : Action} {statement : String} (made : statement? options action = some statement)
    {id : ComponentId} (uses : (referenceName id ++ ".current?.").toList <+: statement.toList) :
    action.target? = some id := by
  obtain ⟨more, whole⟩ := uses
  rw [String.toList_append, referenceName_toList, List.append_assoc, List.append_assoc] at whole
  cases action with
  | callMethod target method =>
    cases made
    simp only [String.toList_append, referenceName_toList, List.append_assoc] at whole
    rw [(idText_append_inj rfl rfl whole).1]
    rfl
  | domOperation target operation =>
    cases made
    simp only [String.toList_append, referenceName_toList, List.append_assoc] at whole
    rw [(idText_append_inj rfl rfl whole).1]
    rfl
  | showMessage kind text =>
    cases made
    obtain ⟨c, rest, written, digit⟩ := idText_cons id
    have letter : c = 'm' := by
      have first := congrArg List.head? whole
      simpa [written] using first
    rw [letter] at digit
    cases digit
  | unsupported => cases made

/-- Every reference that a handler of the page uses is declared. -/
def ReferencesDeclared (indent : Nat) : Prop :=
  ∀ handler ∈ (forestMarkup options indent forest).handlers, ∀ statement ∈ handler.statements, ∀ id,
    (referenceName id ++ ".current?.").toList <+: statement.toList → referenceName id ∈ referenceNames options forest

theorem referencesDeclared_of_targetFindings (indent : Nat) (clean : targetFindings options forest = []) :
    ReferencesDeclared options forest indent := by
  intro own member statement stated id uses
  rw [handlers_forestMarkup_eq_map] at member
  obtain ⟨event, present, rfl⟩ := List.mem_map.mp member
  obtain ⟨action, listed, made⟩ := List.mem_filterMap.mp stated
  have reached : id ∈ event.list.filterMap Action.target? :=
    List.mem_filterMap.mpr ⟨action, listed, target?_of_statement? options made uses⟩
  have requested : Request.mk event.component.id event.key id ∈ requests options forest :=
    List.mem_flatMap.mpr ⟨event, present, List.mem_map_of_mem reached⟩
  rw [targetFindings_eq, List.map_eq_nil_iff, List.filter_eq_nil_iff] at clean
  simpa using clean _ requested

theorem severity_finding (request : Request) :
    (request.finding forest).severity = if request.target ∈ Forest.ids forest then .warning else .error := by
  rw [Request.finding]
  split <;> rfl

/-- With references for all components an undeclared one belongs to no component at all. -/
theorem targetFindings_of_noErrors (nested : options.nestedRefs = true)
    (clean : ∀ finding ∈ findings options forest, finding.isError = false) : targetFindings options forest = [] := by
  rw [List.eq_nil_iff_forall_not_mem]
  intro finding member
  have harmless := clean finding (List.mem_of_mem_filter member)
  rw [targetFindings_eq] at member
  obtain ⟨request, undeclared, rfl⟩ := List.mem_map.mp member
  have absent : request.target ∉ Forest.ids forest := by
    simpa [mem_referenceNames_iff, nested] using (List.mem_filter.mp undeclared).2
  simp [Finding.isError, severity_finding, absent] at harmless

/-- The findings about targets are those of the requests whose reference is not declared, errors where the page
has no such component and warnings otherwise. Without them every reference that a handler uses is declared, and
with references for all components it is enough that there is no error. -/
theorem references_checked (options : Options) (forest : Forest) :
    targetFindings options forest =
        ((requests options forest).filter fun request =>
          referenceName request.target ∉ (references options forest).map Reference.name).map (Request.finding forest) ∧
      (∀ request : Request, (request.finding forest).severity =
        if request.target ∈ Forest.ids forest then .warning else .error) ∧
      (∀ indent, targetFindings options forest = [] → ReferencesDeclared options forest indent) ∧
      (∀ indent, options.nestedRefs = true → (∀ finding ∈ findings options forest, finding.isError = false) →
        ReferencesDeclared options forest indent) := by
  refine ⟨targetFindings_eq options forest, severity_finding forest, ?_, ?_⟩
  · intro indent clean
    exact referencesDeclared_of_targetFindings options forest indent clean
  · intro indent nested clean
    have none := targetFindings_of_noErrors options forest nested clean
    exact referencesDeclared_of_targetFindings options forest indent none

/-- A row with an event, around an input. -/
def reachingPage (list : List Action) : Forest :=
  [⟨1, "Row", ⟨[("onClick", .actions list)], by simp [Entries.keys]⟩, none, "",
    some [⟨2, "Input", .empty, none, "", none, some 1⟩], none⟩]

def nestedOptions : Options := { Options.standard with nestedRefs := true }

theorem references_checked_reaching :
    targetFindings .standard
          (reachingPage [.callMethod 2 "focus", .callMethod 1 "open", .domOperation 9 "remove()"]) =
        [⟨.warning, 1, .undeclaredReference "onClick" 2⟩, ⟨.error, 1, .unresolvedTarget "onClick" 9⟩] ∧
      targetFindings .standard (reachingPage [.callMethod 1 "open"]) = [] ∧
      ReferencesDeclared .standard (reachingPage [.callMethod 1 "open"]) 6 ∧
      nestedOptions.nestedRefs = true ∧
      (∀ finding ∈ findings nestedOptions (reachingPage [.callMethod 2 "focus"]), finding.isError = false) ∧
      ReferencesDeclared nestedOptions (reachingPage [.callMethod 2 "focus"]) 6 := by
  obtain ⟨found, _⟩ := references_checked .standard
    (reachingPage [.callMethod 2 "focus", .callMethod 1 "open", .domOperation 9 "remove()"])
  obtain ⟨ofRoot, _, declared, _⟩ := references_checked .standard (reachingPage [.callMethod 1 "open"])
  obtain ⟨_, _, _, nested⟩ := references_checked nestedOptions (reachingPage [.callMethod 2 "focus"])
  have none : targetFindings .standard (reachingPage [.callMethod 1 "open"]) = [] := by
    rw [ofRoot]
    decide +kernel
  have clean : ∀ finding ∈ findings nestedOptions (reachingPage [.callMethod 2 "focus"]), finding.isError = false := by
    decide +kernel
  refine ⟨?_, none, declared 6 none, rfl, clean, nested 6 rfl clean⟩
  rw [found]
  decide +kernel

end PageEditor.Generate
