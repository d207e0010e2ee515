import Mathlib.Data.List.Basic
import PageEditor.Proofs.MarkupLines

/-!
The events of a page: the props for which a handler is generated. Handlers and the attributes that name
them are made apart from one another; here both are found to follow the events, in the order of the walk.
-/

namespace PageEditor.Generate

structure Event where
  component : Component
  key : String
  list : List Action

namespace Event

def ofEntry? (options : Options) (component : Component) : String × PropValue → Option Event
  | (key, .actions list) => if options.isEventKey key then some ⟨component, key, list⟩ else none
  | (_, .literal _) | (_, .bound _) | (_, .unsupported _) => none

def handler (options : Options) (event : Event) : Handler :=
  Generate.handler options event.component.id event.key event.list

end Event

def componentEvents (options : Options) (component : Component) : List Event :=
  component.props.entries.filterMap (Event.ofEntry? options component)

def events (options : Options) (forest : Forest) : List Event :=
  (Forest.nodes forest).flatMap (componentEvents options)

/-- What an attribute is written for. -/
inductive Source where
  | prop (key : String) (value : PropValue)
  | styles
  | id

def sourcedAttributes (options : Options) (component : Component) : List (Source × Attribute) :=
  component.props.entries.filterMap
      (fun entry => (propAttribute? options component.id entry.1 entry.2).map (.prop entry.1 entry.2, ·))
    ++ (component.styles.map fun styles => (Source.styles, styleAttribute styles)).toList
    ++ [(.id, referenceAttribute component.id)]

/-- The attribute, if it is written for an event. -/
def eventAttribute? (options : Options) : Source × Attribute → Option Attribute
  | (.prop key (.actions _), written) => if options.isEventKey key then some written else none
  | _ => none

/-- The attributes written for events in the lines of a page. -/
def eventAttributes (options : Options) (lines : List Line) : List Attribute :=
  (lines.filterMap Line.started?).flatMap fun component =>
    (sourcedAttributes options component).filterMap (eventAttribute? options)

/-- The attribute by which a line names a handler. -/
def Handler.attribute (handler : Handler) : Attribute := ⟨handler.event, .expression handler.name⟩

section Members

variable {options : Options}

theorem ofEntry?_eq_some {component : Component} {entry : String × PropValue} {event : Event}
    (found : Event.ofEntry? options component entry = some event) :
    event.component = component ∧ event.key = entry.1 ∧ options.isEventKey event.key = true := by
  obtain ⟨key, value⟩ := entry
  cases value with
  | actions list =>
    by_cases own : options.isEventKey key
    · simp only [Event.ofEntry?, own, ite_true, Option.some.injEq] at found
      obtain rfl := found
      exact ⟨rfl, rfl, own⟩
    · simp [Event.ofEntry?, own] at found
  | literal | bound | unsupported => cases found

theorem of_mem_componentEvents {component : Component} {event : Event}
    (member : event ∈ componentEvents options component) :
    event.component = component ∧ options.isEventKey event.key = true := by
  obtain ⟨entry, _, found⟩ := List.mem_filterMap.mp member
  exact ⟨(ofEntry?_eq_some found).1, (ofEntry?_eq_some found).2.2⟩

theorem isEventKey_of_mem_events {event : Event} (member : event ∈ events options forest) :
    options.isEventKey event.key = true := by
  obtain ⟨component, _, own⟩ := List.mem_flatMap.mp member
  exact (of_mem_componentEvents own).2

end Members

variable (options : Options)

theorem map_sourcedAttributes (component : Component) :
    (sourcedAttributes options component).map Prod.snd = attributes options component := by
  have props : (fun entry : String × PropValue =>
      ((propAttribute? options component.id entry.1 entry.2).map (Source.prop entry.1 entry.2, ·)).map Prod.snd) =
      fun entry => propAttribute? options component.id entry.1 entry.2 := by
    funext entry
    simp [Function.comp_def]
  simp only [sourcedAttributes, attributes, List.map_append, List.map_filterMap, props]
  cases component.styles <;> rfl

theorem handlers_eq_map (component : Component) :
    handlers options component = (componentEvents options component).map (Event.handler options) := by
  rw [handlers, componentEvents, List.map_filterMap]
  apply List.filterMap_congr
  rintro ⟨key, value⟩ _
  cases value with
  | actions list =>
    by_cases event : options.isEventKey key <;> simp [propHandler?, Event.ofEntry?, Event.handler, event]
  | literal | bound | unsupported => simp [propHandler?, Event.ofEntry?]

theorem eventAttributes_eq_map (component : Component) :
    (sourcedAttributes options component).filterMap (eventAttribute? options) =
      (componentEvents options component).map fun event => (event.handler options).attribute := by
  have props : ∀ entry : String × PropValue,
      ((propAttribute? options component.id entry.1 entry.2).map (Source.prop entry.1 entry.2, ·)).bind
          (eventAttribute? options) =
        (Event.ofEntry? options component entry).map fun event => (event.handler options).attribute := by
    rintro ⟨key, value⟩
    cases value with
    | actions list =>
      by_cases event : options.isEventKey key <;>
        simp [propAttribute?, eventAttribute?, Event.ofEntry?, Event.handler, Handler.attribute, handler, event]
    | literal | bound | unsupported => rfl
  have others : ((component.styles.map fun styles => (Source.styles, styleAttribute styles)).toList ++
      [(Source.id, referenceAttribute component.id)]).filterMap (eventAttribute? options) = [] := by
    cases component.styles <;> rfl
  rw [sourcedAttributes, List.append_assoc, List.filterMap_append, others, List.append_nil, List.filterMap_filterMap,
    componentEvents, List.map_filterMap]
  exact List.filterMap_congr fun entry _ => props entry

theorem handlers_forestMarkup_eq_map (indent : Nat) (forest : Forest) :
    (forestMarkup options indent forest).handlers = (events options forest).map (Event.handler options) := by
  rw [handlers_forestMarkup, events, List.map_flatMap]
  exact congrArg (Forest.nodes forest).flatMap (funext (handlers_eq_map options))

theorem eventAttributes_forestLines (depth : Nat) (forest : Forest) :
    eventAttributes options (forestLines depth forest) =
      (events options forest).map fun event => (event.handler options).attribute := by
  rw [eventAttributes, started_forestLines, events, List.map_flatMap]
  exact congrArg (Forest.nodes forest).flatMap (funext (eventAttributes_eq_map options))

end PageEditor.Generate
