import PageEditor.Generate.Declaration
import PageEditor.Text.Identifier

/-!
Findings: what is wrong with a page before it is generated. Only an action that reaches for a component
the page does not have is an error.
-/

namespace PageEditor.Generate

inductive Severity where
  | warning
  | error
deriving DecidableEq

def Severity.text : Severity → String
  | .warning => "warning"
  | .error => "error"

inductive Issue where
  | unresolvedTarget (event : String) (target : ComponentId)
  | undeclaredReference (event : String) (target : ComponentId)
  | missingStateName
  | invalidStateName (name : String)
  | duplicateId
  | unsupportedAction (event : String) (index : Nat)
  | unsupportedEventValue (event : String)
deriving DecidableEq

namespace Issue

def text : Issue → String
  | .unresolvedTarget event target =>
    event ++ " targets component " ++ idText target ++ " which does not exist"
  | .undeclaredReference event target =>
    event ++ " targets nested component " ++ idText target ++ " which has no ref declaration"
  | .missingStateName => "has a value but no name; state is declared as `" ++ PageEditor.Generate.missingStateName ++ "`"
  | .invalidStateName name => "state name `" ++ name ++ "` is not a valid identifier"
  | .duplicateId => "id is used by more than one component"
  | .unsupportedAction event index =>
    event ++ " action " ++ toString index ++ " has an unsupported shape and is dropped"
  | .unsupportedEventValue event => event ++ " holds an unsupported value and is omitted"

end Issue

structure Finding where
  severity : Severity
  component : ComponentId
  issue : Issue
deriving DecidableEq

namespace Finding

def isError (finding : Finding) : Bool := finding.severity = .error

def text (finding : Finding) : String :=
  finding.severity.text ++ " on component " ++ idText finding.component ++ ": " ++ finding.issue.text

end Finding

def duplicateFindings (forest : Forest) : List Finding :=
  (Forest.repeatedIds forest).map fun id => ⟨.warning, id, .duplicateId⟩

def stateFinding? (component : Component) : Option Finding :=
  match stateName? component with
  | none => some ⟨.warning, component.id, .missingStateName⟩
  | some name =>
    if Text.isIdentifier name then none else some ⟨.warning, component.id, .invalidStateName name⟩

def stateFindings (forest : Forest) : List Finding :=
  (forest.filter fun component => component.hasProp "value").filterMap stateFinding?

def droppedFindings (owner : ComponentId) (event : String) (list : List Action) : List Finding :=
  list.zipIdx.filterMap fun (action, index) =>
    if action.isUnsupported then some ⟨.warning, owner, .unsupportedAction event index⟩ else none

def targetFinding? (options : Options) (forest : Forest) (owner : ComponentId) (event : String)
    (target : ComponentId) : Option Finding :=
  if (Forest.find? forest target).isNone then some ⟨.error, owner, .unresolvedTarget event target⟩
  else if !options.nestedRefs && !Forest.isRoot forest target then
    some ⟨.warning, owner, .undeclaredReference event target⟩
  else none

def propFindings (options : Options) (forest : Forest) (owner : ComponentId) (event : String) :
    PropValue → List Finding
  | .actions list =>
    droppedFindings owner event list
      ++ (list.filterMap Action.target?).filterMap (targetFinding? options forest owner event)
  | .unsupported _ => [⟨.warning, owner, .unsupportedEventValue event⟩]
  | .literal _ | .bound _ => []

def componentFindings (options : Options) (forest : Forest) (component : Component) : List Finding :=
  component.props.entries.flatMap fun (key, value) =>
    if options.isEventKey key then propFindings options forest component.id key value else []

def eventFindings (options : Options) (forest : Forest) : List Finding :=
  (Forest.nodes forest).flatMap (componentFindings options forest)

/-- All findings: repeated ids, then the states of the roots, then the events of all components. -/
def findings (options : Options) (forest : Forest) : List Finding :=
  duplicateFindings forest ++ stateFindings forest ++ eventFindings options forest

end PageEditor.Generate
