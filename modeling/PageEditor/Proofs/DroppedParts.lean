import Mathlib.Data.List.Forall2
import PageEditor.Proofs.StrictGeneration

/-!
What generation leaves out of events, and the findings about it. The markup leaves out an event whose
value has no form in it, and a handler leaves out the actions that are not understood. Markup, handlers
and findings each look at the values on their own; here they are found to agree, part by part and in order.
-/

namespace PageEditor.Generate

/-- Whether something is written for the prop with the key. -/
def Source.isFor (key : String) : Source → Bool
  | .prop other _ => other == key
  | .styles | .id => false

def hasAttribute (options : Options) (component : Component) (key : String) : Bool :=
  (sourcedAttributes options component).any fun written => written.1.isFor key

/-- The event keys of a component for which its tag has no attribute. -/
def omittedEvents (options : Options) (component : Component) : List String :=
  (Entries.keys component.props.entries).filter fun key =>
    options.isEventKey key && !hasAttribute options component key

/-- What a handler has for the action at an index. -/
def statementAt? (options : Options) (list : List Action) (index : Nat) : Option String :=
  list[index]?.bind (statement? options)

def keptAt (options : Options) (list : List Action) : List Nat :=
  (List.range list.length).filter fun index => (statementAt? options list index).isSome

def droppedAt (options : Options) (list : List Action) : List Nat :=
  (List.range list.length).filter fun index => (statementAt? options list index).isNone

def Issue.isUnsupportedValue : Issue → Bool
  | .unsupportedEventValue _ => true
  | .unresolvedTarget .. | .undeclaredReference .. | .missingStateName | .invalidStateName _ | .duplicateId
  | .unsupportedAction .. => false

def Issue.isUnsupportedAction : Issue → Bool
  | .unsupportedAction .. => true
  | .unresolvedTarget .. | .undeclaredReference .. | .missingStateName | .invalidStateName _ | .duplicateId
  | .unsupportedEventValue _ => false

section Attributes

variable {options : Options} {component : Component}

theorem mem_sourcedAttributes_iff {key : String} {value : PropValue} {written : Attribute} :
    (.prop key value, written) ∈ sourcedAttributes options component ↔
      (key, value) ∈ component.props.entries ∧ propAttribute? options component.id key value = some written := by
  simp only [sourcedAttributes, List.mem_append, List.mem_filterMap, Option.map_eq_some_iff, Option.mem_toList,
    List.mem_singleton, Prod.mk.injEq, Source.prop.injEq, reduceCtorEq, false_and, and_false, exists_false, or_false]
  constructor
  · rintro ⟨⟨_, _⟩, member, _, made, ⟨rfl, rfl⟩, rfl⟩
    exact ⟨member, made⟩
  · rintro ⟨member, made⟩
    exact ⟨(key, value), member, written, made, ⟨rfl, rfl⟩, rfl⟩

/-- The keys of the props are distinct, so that an attribute for a key is one for the prop itself. -/
theorem hasAttribute_eq {key : String} {value : PropValue} (member : (key, value) ∈ component.props.entries) :
    hasAttribute options component key = (propAttribute? options component.id key value).isSome := by
  rw [Bool.eq_iff_iff, hasAttribute, List.any_eq_true, Option.isSome_iff_exists]
  constructor
  · rintro ⟨⟨source, written⟩, present, own⟩
    cases source with
    | styles | id => cases own
    | prop other current =>
      obtain ⟨otherMember, made⟩ := mem_sourcedAttributes_iff.mp present
      have same : other = key := by simpa [Source.isFor] using own
      obtain ⟨rfl, rfl⟩ := Prod.mk.inj (List.inj_on_of_nodup_map component.props.distinct otherMember member same)
      exact ⟨written, made⟩
  · rintro ⟨written, made⟩
    exact ⟨(.prop key value, written), mem_sourcedAttributes_iff.mpr ⟨member, made⟩, by simp [Source.isFor]⟩

end Attributes

section Actions

variable (options : Options)

theorem statementAt?_zero (action : Action) (list : List Action) :
    statementAt? options (action :: list) 0 = statement? options action := rfl

theorem isNone_statement? (action : Action) : (statement? options action).isNone = action.isUnsupported := by
  cases action <;> rfl

theorem droppedAt_cons (action : Action) (list : List Action) :
    droppedAt options (action :: list) =
      (if action.isUnsupported then [0] else []) ++ (droppedAt options list).map Nat.succ := by
  rw [droppedAt, List.length_cons, List.range_succ_eq_map, List.filter_cons, statementAt?_zero, isNone_statement?,
    List.filter_map]
  have shifted : (fun index => (statementAt? options (action :: list) index).isNone) ∘ Nat.succ =
      fun index => (statementAt? options list index).isNone := rfl
  rw [shifted, ← droppedAt]
  split <;> rfl

theorem keptAt_cons (action : Action) (list : List Action) :
    keptAt options (action :: list) =
      (if action.isUnsupported then [] else [0]) ++ (keptAt options list).map Nat.succ := by
  have kept : (statement? options action).isSome = !action.isUnsupported := by
    rw [← isNone_statement? options, Option.not_isNone]
  rw [keptAt, List.length_cons, List.range_succ_eq_map, List.filter_cons, statementAt?_zero, kept, List.filter_map]
  have shifted : (fun index => (statementAt? options (action :: list) index).isSome) ∘ Nat.succ =
      fun index => (statementAt? options list index).isSome := rfl
  rw [shifted, ← keptAt]
  cases action.isUnsupported <;> rfl

/-- The findings count the actions of an event as its handler does. -/
theorem droppedFindings_eq (owner : ComponentId) (event : String) (list : List Action) :
    droppedFindings owner event list =
      (droppedAt options list).map fun index => ⟨.warning, owner, .unsupportedAction event index⟩ := by
  have counted : ∀ start, (list.zipIdx start).filterMap (fun entry =>
      if entry.1.isUnsupported then some (Finding.mk .warning owner (.unsupportedAction event entry.2)) else none) =
        (droppedAt options list).map fun index => ⟨.warning, owner, .unsupportedAction event (index + start)⟩ := by
    induction list with
    | nil =>
      intro start
      rfl
    | cons action list ih =>
      intro start
      rw [List.zipIdx_cons, List.filterMap_cons, ih, droppedAt_cons, List.map_append, List.map_map]
      have shifted : (fun index => Finding.mk .warning owner (.unsupportedAction event (index + start))) ∘ Nat.succ =
          fun index => ⟨.warning, owner, .unsupportedAction event (index + (start + 1))⟩ := by
        funext index
        simp only [Function.comp_apply, Nat.succ_eq_add_one, Nat.add_assoc, Nat.add_comm 1]
      rw [shifted]
      cases action.isUnsupported <;> simp
  exact counted 0

/-- The statements of a handler are those of the actions that are kept, one after the other. -/
theorem map_statements (list : List Action) :
    (list.filterMap (statement? options)).map some = (keptAt options list).map (statementAt? options list) := by
  induction list with
  | nil => rfl
  | cons action list ih =>
    have shifted : statementAt? options (action :: list) ∘ Nat.succ = statementAt? options list := rfl
    rw [keptAt_cons, List.map_append, List.map_map, shifted, ← ih]
    cases action <;> rfl

theorem length_keptAt_add (list : List Action) :
    (keptAt options list).length + (droppedAt options list).length = list.length := by
  have split := List.length_eq_length_filter_add (l := List.range list.length) fun index =>
    (statementAt? options list index).isSome
  simp only [Option.not_isSome, List.length_range] at split
  exact split.symm

theorem length_statements_add (list : List Action) :
    (list.filterMap (statement? options)).length + (droppedAt options list).length = list.length := by
  have same := congrArg List.length (map_statements options list)
  rw [List.length_map, List.length_map] at same
  rw [same]
  exact length_keptAt_add options list

end Actions

section Findings

variable (options : Options) (forest : Forest)

theorem filter_unsupportedValue_actions (event : Event) :
    (propFindings options forest event.component.id event.key (.actions event.list)).filter
      (fun finding => finding.issue.isUnsupportedValue) = [] := by
  rw [propFindings_actions, List.filter_eq_nil_iff]
  intro finding member value
  rcases List.mem_append.mp member with dropped | aimed
  · obtain ⟨index, rfl⟩ := of_mem_droppedFindings dropped
    cases value
  · obtain ⟨request, _, rfl⟩ := Event.of_mem_targetFindings options forest aimed
    rw [Request.finding] at value
    split at value <;> cases value

theorem filter_unsupportedAction_actions (event : Event) :
    (propFindings options forest event.component.id event.key (.actions event.list)).filter
        (fun finding => finding.issue.isUnsupportedAction) =
      droppedFindings event.component.id event.key event.list := by
  have targets : (event.targetFindings options forest).filter (fun finding => finding.issue.isUnsupportedAction) = [] := by
    rw [List.filter_eq_nil_iff]
    intro finding member action
    obtain ⟨request, _, rfl⟩ := Event.of_mem_targetFindings options forest member
    rw [Request.finding] at action
    split at action <;> cases action
  rw [propFindings_actions, List.filter_append, targets, List.append_nil, List.filter_eq_self]
  intro finding member
  obtain ⟨index, rfl⟩ := of_mem_droppedFindings member
  rfl

/-- The value of an event is found unsupported iff the tag of its component has no attribute for it. -/
theorem filter_unsupportedValue (component : Component) {entry : String × PropValue}
    (member : entry ∈ component.props.entries) :
    (if options.isEventKey entry.1 then propFindings options forest component.id entry.1 entry.2 else []).filter
        (fun finding => finding.issue.isUnsupportedValue) =
      if options.isEventKey entry.1 && !hasAttribute options component entry.1 then
        [⟨.warning, component.id, .unsupportedEventValue entry.1⟩]
      else [] := by
  obtain ⟨key, value⟩ := entry
  rw [hasAttribute_eq member]
  by_cases own : options.isEventKey key
  · cases value with
    | actions list =>
      have none := filter_unsupportedValue_actions options forest ⟨component, key, list⟩
      simpa [own, propAttribute?] using none
    | literal | bound | unsupported => simp [own, propFindings, propAttribute?, Issue.isUnsupportedValue]
  · simp [own]

theorem filter_unsupportedAction (component : Component) (entry : String × PropValue) :
    (if options.isEventKey entry.1 then propFindings options forest component.id entry.1 entry.2 else []).filter
        (fun finding => finding.issue.isUnsupportedAction) =
      (Event.ofEntry? options component entry).toList.flatMap fun event =>
        droppedFindings event.component.id event.key event.list := by
  obtain ⟨key, value⟩ := entry
  by_cases own : options.isEventKey key
  · cases value with
    | actions list =>
      have all := filter_unsupportedAction_actions options forest ⟨component, key, list⟩
      simpa [own, Event.ofEntry?] using all
    | literal | bound | unsupported => simp [own, propFindings, Event.ofEntry?, Issue.isUnsupportedAction]
  · cases value <;> simp [own, Event.ofEntry?]

theorem unsupportedValues_eq (component : Component) :
    (componentFindings options forest component).filter (fun finding => finding.issue.isUnsupportedValue) =
      (omittedEvents options component).map fun key => ⟨.warning, component.id, .unsupportedEventValue key⟩ := by
  have chosen : ∀ entries : List (String × PropValue), ∀ keep : String → Bool,
      (entries.flatMap fun entry =>
        if keep entry.1 then [Finding.mk .warning component.id (.unsupportedEventValue entry.1)] else []) =
        ((entries.map Prod.fst).filter keep).map fun key => ⟨.warning, component.id, .unsupportedEventValue key⟩ := by
    intro entries keep
    induction entries with
    | nil => rfl
    | cons entry entries ih =>
      rw [List.flatMap_cons, ih, List.map_cons, List.filter_cons]
      cases keep entry.1 <;> rfl
  rw [componentFindings, List.filter_flatMap, omittedEvents, Entries.keys, ← chosen]
  apply List.flatMap_congr
  intro entry member
  exact filter_unsupportedValue options forest component member

theorem unsupportedActions_eq (component : Component) :
    (componentFindings options forest component).filter (fun finding => finding.issue.isUnsupportedAction) =
      (componentEvents options component).flatMap fun event =>
        (droppedAt options event.list).map fun index =>
          ⟨.warning, event.component.id, .unsupportedAction event.key index⟩ := by
  rw [componentFindings, componentEvents, List.filter_flatMap, List.filterMap_eq_flatMap_toList, List.flatMap_assoc]
  simp only [← droppedFindings_eq]
  exact congrArg component.props.entries.flatMap (funext (filter_unsupportedAction options forest component))

end Findings

def valueFindings (options : Options) (forest : Forest) : List Finding :=
  (findings options forest).filter fun finding => finding.issue.isUnsupportedValue

def actionFindings (options : Options) (forest : Forest) : List Finding :=
  (findings options forest).filter fun finding => finding.issue.isUnsupportedAction

/-- One finding for each event that the tag of its component has no attribute for. -/
theorem valueFindings_eq (options : Options) (forest : Forest) :
    valueFindings options forest = (Forest.nodes forest).flatMap fun component =>
      (omittedEvents options component).map fun key => ⟨.warning, component.id, .unsupportedEventValue key⟩ := by
  have chosen : ∀ issue : Issue, issue.isUnsupportedValue = true → issue.isAboutEvent = true := by
    intro issue value
    cases issue with
    | unsupportedEventValue => rfl
    | _ => cases value
  rw [valueFindings, filter_findings options forest chosen]
  exact congrArg (Forest.nodes forest).flatMap (funext (unsupportedValues_eq options forest))

/-- One finding for the index of each action that the handler of its event has no statement for. -/
theorem actionFindings_eq (options : Options) (forest : Forest) :
    actionFindings options forest = (events options forest).flatMap fun event =>
      (droppedAt options event.list).map fun index =>
        ⟨.warning, event.component.id, .unsupportedAction event.key index⟩ := by
  have chosen : ∀ issue : Issue, issue.isUnsupportedAction = true → issue.isAboutEvent = true := by
    intro issue action
    cases issue with
    | unsupportedAction => rfl
    | _ => cases action
  rw [actionFindings, filter_findings options forest chosen, events, List.flatMap_assoc]
  exact congrArg (Forest.nodes forest).flatMap (funext (unsupportedActions_eq options forest))

/-- What a handler has of an event: a statement for each action that is kept, in the order of the actions. -/
structure Keeps (options : Options) (event : Event) (own : Handler) : Prop where
  component : own.component = event.component.id
  key : own.event = event.key
  statements : own.statements.map some = (keptAt options event.list).map (statementAt? options event.list)
  count : own.statements.length + (droppedAt options event.list).length = event.list.length

theorem keeps_handler (options : Options) (event : Event) : Keeps options event (event.handler options) where
  component := rfl
  key := rfl
  statements := map_statements options event.list
  count := length_statements_add options event.list

/-- What is left out of the events of a page is what the findings tell of it, component by component and prop by
prop. An event is found to have an unsupported value iff the tag of its component has no attribute for it. In a
list of actions those are found unsupported for which the handler of the event has no statement; the statements it
has are those of the other actions, in their order. All of these findings are warnings. -/
theorem drops_reported (options : Options) (indent : Nat) (forest : Forest) :
    (∀ component, (sourcedAttributes options component).map Prod.snd = attributes options component) ∧
      valueFindings options forest = (Forest.nodes forest).flatMap (fun component =>
        (omittedEvents options component).map fun key => ⟨.warning, component.id, .unsupportedEventValue key⟩) ∧
      actionFindings options forest = (events options forest).flatMap (fun event =>
        (droppedAt options event.list).map fun index =>
          ⟨.warning, event.component.id, .unsupportedAction event.key index⟩) ∧
      List.Forall₂ (Keeps options) (events options forest) (forestMarkup options indent forest).handlers ∧
      ∀ finding ∈ valueFindings options forest ++ actionFindings options forest, finding.severity = .warning := by
  refine ⟨map_sourcedAttributes options, valueFindings_eq options forest, actionFindings_eq options forest, ?_, ?_⟩
  · rw [handlers_forestMarkup_eq_map, List.forall₂_map_right_iff, List.forall₂_same]
    exact fun event _ => keeps_handler options event
  · intro finding member
    rcases List.mem_append.mp member with value | action
    · rw [valueFindings_eq] at value
      obtain ⟨component, _, member⟩ := List.mem_flatMap.mp value
      obtain ⟨key, _, rfl⟩ := List.mem_map.mp member
      rfl
    · rw [actionFindings_eq] at action
      obtain ⟨event, _, member⟩ := List.mem_flatMap.mp action
      obtain ⟨index, _, rfl⟩ := List.mem_map.mp member
      rfl

/-- A row with a value and a list of actions that are not fully understood, around a button whose event is bound. -/
def patchyPage : Forest :=
  [⟨1, "Row", ⟨[("onClick", .actions [.unsupported .null, .showMessage .success "Saved", .unsupported (.bool true)]),
      ("title", .unsupported .null), ("onOpen", .unsupported (.bool true))], by decide⟩, none, "",
    some [⟨2, "Button", ⟨[("onHover", .bound ⟨"expression", .string "hover"⟩)], by decide⟩, none, "", none, some 1⟩],
    none⟩]

theorem drops_reported_patchyPage :
    valueFindings .standard patchyPage = [⟨.warning, 1, .unsupportedEventValue "onOpen"⟩] ∧
      actionFindings .standard patchyPage =
        [⟨.warning, 1, .unsupportedAction "onClick" 0⟩, ⟨.warning, 1, .unsupportedAction "onClick" 2⟩] ∧
      (events .standard patchyPage).length = (forestMarkup .standard 6 patchyPage).handlers.length ∧
      (⟨.warning, 1, .unsupportedAction "onClick" 2⟩ : Finding) ∈
        valueFindings .standard patchyPage ++ actionFindings .standard patchyPage ∧
      (⟨.warning, 1, .unsupportedAction "onClick" 2⟩ : Finding).severity = .warning := by
  obtain ⟨_, values, actions, kept, warnings⟩ := drops_reported .standard 6 patchyPage
  have omitted : valueFindings .standard patchyPage = [⟨.warning, 1, .unsupportedEventValue "onOpen"⟩] := by
    rw [values]
    decide +kernel
  have dropped : actionFindings .standard patchyPage =
      [⟨.warning, 1, .unsupportedAction "onClick" 0⟩, ⟨.warning, 1, .unsupportedAction "onClick" 2⟩] := by
    rw [actions]
    decide +kernel
  have member : (⟨.warning, 1, .unsupportedAction "onClick" 2⟩ : Finding) ∈
      valueFindings .standard patchyPage ++ actionFindings .standard patchyPage := by
    rw [omitted, dropped]
    decide
  exact ⟨omitted, dropped, kept.length_eq, member, warnings _ member⟩

end PageEditor.Generate
