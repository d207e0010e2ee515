import PageEditor.Proofs.ReferenceFindings

/-!
The states of a page and the findings about their names. Declarations and findings look at the same roots, each
on its own; a root with a value has one state, and one finding unless its name is an identifier. Then the setter
is an identifier too, and another one.
-/

namespace PageEditor.Generate

section Setters

theorem setterOf_toList {name : String} {c : Char} {rest : List Char} (spelled : name.toList = c :: rest)
    (starts : Text.startsIdentifier c = true) :
    (setterOf name).toList = 's' :: 'e' :: 't' :: c.toUpper :: rest := by
  rw [setterOf, Text.capitalize, spelled]
  simp [(upper_of_startsIdentifier starts).1]

theorem isIdentifier_setterOf {name : String} (identifier : Text.isIdentifier name = true) :
    Text.isIdentifier (setterOf name) = true := by
  obtain ⟨c, rest, spelled, starts, continues⟩ := Text.isIdentifier_eq_true_iff.mp identifier
  have capital := Text.continuesIdentifier_of_startsIdentifier (upper_of_startsIdentifier starts).2
  apply Text.isIdentifier_eq_true_iff.mpr
  refine ⟨'s', _, setterOf_toList spelled starts, rfl, ?_⟩
  simp only [List.forall_mem_cons]
  exact ⟨by decide, by decide, capital, continues⟩

/-- The setter is three characters longer. -/
theorem setterOf_ne {name : String} (identifier : Text.isIdentifier name = true) : setterOf name ≠ name := by
  intro same
  obtain ⟨c, rest, spelled, starts, _⟩ := Text.isIdentifier_eq_true_iff.mp identifier
  have setter := setterOf_toList spelled starts
  rw [same, spelled] at setter
  have length := congrArg List.length setter
  simp only [List.length_cons] at length
  omega

end Setters

/-- How the state of a component is named, and what is found wrong with the name. -/
inductive StateNamed (component : Component) : StateVariable → Option Issue → Prop where
  | missing {initial : String} (nameless : ∀ name, component.prop? "name" ≠ some (.literal name)) :
      StateNamed component ⟨component.id, "undefined", "set", initial⟩ (some .missingStateName)
  | invalid {name : Literal} {initial : String} (named : component.prop? "name" = some (.literal name))
      (unusable : Text.isIdentifier name.text = false) :
      StateNamed component ⟨component.id, name.text, setterOf name.text, initial⟩
        (some (.invalidStateName name.text))
  | valid {state : StateVariable} {name : Literal} (named : component.prop? "name" = some (.literal name))
      (owner : state.component = component.id) (own : state.getter = name.text)
      (getter : Text.isIdentifier state.getter = true) (setter : Text.isIdentifier state.setter = true)
      (apart : state.getter ≠ state.setter) : StateNamed component state none

/-- A root with the state declared for it and what is found wrong with the name of that. -/
structure CheckedState where
  component : Component
  state : StateVariable
  issue : Option Issue

def CheckedState.finding? (checked : CheckedState) : Option Finding :=
  checked.issue.map (Finding.mk .warning checked.component.id)

def checkedState? (options : Options) (component : Component) : Option CheckedState :=
  (stateVariable? options component).map fun state => ⟨component, state, (stateFinding? component).map Finding.issue⟩

variable (options : Options) (forest : Forest)

theorem stateName?_eq_some_iff {component : Component} {text : String} :
    stateName? component = some text ↔ ∃ name, component.prop? "name" = some (.literal name) ∧ name.text = text := by
  cases found : component.prop? "name" with
  | none => simp [stateName?, found]
  | some value => cases value <;> simp [stateName?, found, PropValue.literal?]

theorem stateNamed_of_stateVariable? {component : Component} {state : StateVariable}
    (declared : stateVariable? options component = some state) :
    StateNamed component state ((stateFinding? component).map Finding.issue) := by
  obtain ⟨value, _, rfl⟩ := Option.map_eq_some_iff.mp declared
  cases found : stateName? component with
  | none =>
    simp only [stateNames, stateFinding?, found]
    apply StateNamed.missing
    intro name named
    have known := stateName?_eq_some_iff.mpr ⟨name, named, rfl⟩
    rw [found] at known
    cases known
  | some text =>
    obtain ⟨name, named, rfl⟩ := stateName?_eq_some_iff.mp found
    simp only [stateNames, stateFinding?, found]
    cases identifier : Text.isIdentifier name.text with
    | false => exact .invalid named identifier
    | true => exact .valid named rfl rfl identifier (isIdentifier_setterOf identifier) (setterOf_ne identifier).symm

theorem stateFinding?_eq (component : Component) :
    ((stateFinding? component).map Finding.issue).map (Finding.mk .warning component.id) = stateFinding? component := by
  rw [stateFinding?]
  split
  · rfl
  · split <;> rfl

/-- Repeated ids and events give no findings about states, and states no others. -/
theorem filter_isAboutState :
    (findings options forest).filter (fun finding => finding.issue.isAboutState) = stateFindings forest := by
  have duplicates : (duplicateFindings forest).filter (fun finding => finding.issue.isAboutState) = [] := by
    rw [List.filter_eq_nil_iff]
    intro finding member about
    obtain ⟨id, _, rfl⟩ := List.mem_map.mp member
    cases about
  have states : (stateFindings forest).filter (fun finding => finding.issue.isAboutState) = stateFindings forest := by
    rw [List.filter_eq_self]
    exact fun finding member => (of_mem_stateFindings forest member).1
  have events : (eventFindings options forest).filter (fun finding => finding.issue.isAboutState) = [] := by
    rw [List.filter_eq_nil_iff]
    intro finding member about
    obtain ⟨component, _, listed⟩ := List.mem_flatMap.mp member
    rw [Issue.isAboutState_eq_false (eventFinding_of_mem options forest listed).isAboutEvent] at about
    cases about
  rw [findings, List.filter_append, List.filter_append, duplicates, states, events, List.append_nil, List.nil_append]

theorem hasProp_value_eq (component : Component) :
    component.hasProp "value" = (checkedState? options component).isSome := by
  rw [checkedState?, stateVariable?, Option.isSome_map, Option.isSome_map]
  rfl

theorem map_component_checkedStates :
    (forest.filterMap (checkedState? options)).map CheckedState.component =
      forest.filter fun component => component.hasProp "value" := by
  rw [← List.filterMap_some (l := forest.filter _), List.filterMap_filter, List.map_filterMap]
  apply List.filterMap_congr
  intro component _
  rw [hasProp_value_eq options]
  cases declared : stateVariable? options component <;> simp [checkedState?, declared]

/-- Declarations and findings about states match root by root. There is one state for each root with a value, in
the order of the roots and for no other component. -/
theorem states_checked (options : Options) (forest : Forest) :
    ∃ checked : List CheckedState,
      checked.map CheckedState.component = forest.filter (fun component => component.hasProp "value") ∧
      checked.map CheckedState.state = stateVariables options forest ∧
      checked.filterMap CheckedState.finding? =
        (findings options forest).filter (fun finding => finding.issue.isAboutState) ∧
      ∀ own ∈ checked, StateNamed own.component own.state own.issue := by
  refine ⟨forest.filterMap (checkedState? options), map_component_checkedStates options forest, ?_, ?_, ?_⟩
  · rw [List.map_filterMap, stateVariables]
    apply List.filterMap_congr
    intro component _
    simp [checkedState?, Function.comp_def]
  · rw [filter_isAboutState, stateFindings, List.filterMap_filterMap, List.filterMap_filter]
    apply List.filterMap_congr
    intro component _
    rw [hasProp_value_eq options]
    cases declared : stateVariable? options component <;>
      simp [checkedState?, declared, CheckedState.finding?, stateFinding?_eq, -Option.map_map]
  · intro own member
    obtain ⟨component, _, found⟩ := List.mem_filterMap.mp member
    obtain ⟨state, declared, rfl⟩ := Option.map_eq_some_iff.mp found
    exact stateNamed_of_stateVariable? options declared

/-- Inputs with a name for their state, with one that is no identifier, and with none. -/
def signupPage : Forest := [
  ⟨1, "Input", ⟨[("name", .literal (.string "email")), ("value", .literal (.string ""))], by decide⟩, none, "", none,
    none⟩,
  ⟨2, "Input", ⟨[("value", .bound ⟨"js", .string "today"⟩), ("name", .literal (.string "birth date"))], by decide⟩, none,
    "", none, none⟩,
  ⟨3, "Input", ⟨[("value", .literal (.string "0"))], by decide⟩, none, "", none, none⟩]

theorem states_checked_signup :
    ∃ checked : List CheckedState,
      checked.map CheckedState.component = signupPage ∧
      checked.map CheckedState.state =
        [⟨1, "email", "setEmail", "''"⟩, ⟨2, "birth date", "setBirth date", "today"⟩, ⟨3, "undefined", "set", "'0'"⟩] ∧
      checked.filterMap CheckedState.finding? =
        [⟨.warning, 2, .invalidStateName "birth date"⟩, ⟨.warning, 3, .missingStateName⟩] ∧
      ∀ own ∈ checked, StateNamed own.component own.state own.issue := by
  obtain ⟨checked, components, states, found, named⟩ := states_checked .standard signupPage
  refine ⟨checked, components.trans ?_, states.trans ?_, found.trans ?_, named⟩
  all_goals decide +kernel

end PageEditor.Generate
