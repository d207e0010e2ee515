import PageEditor.Forest
import PageEditor.Generate.Name
import PageEditor.Options
import PageEditor.Text.Escape

/-!
Declarations at the top of a generated component: a state for every root with a value, and a reference
for every root or, if the options say so, for every component.
-/

namespace PageEditor.Generate

structure StateVariable where
  component : ComponentId
  getter : String
  setter : String
  initial : String
deriving DecidableEq

structure Reference where
  component : ComponentId
  name : String
  type : String
deriving DecidableEq

def StateVariable.line (state : StateVariable) : String :=
  "const [" ++ state.getter ++ ", " ++ state.setter ++ "] = useState(" ++ state.initial ++ ");"

def Reference.line (ref : Reference) : String :=
  "const " ++ ref.name ++ " = useRef<" ++ ref.type ++ ">(null);"

/-- The getter of a state whose component has no name. -/
def missingStateName : String := "undefined"

def stateName? (component : Component) : Option String :=
  (component.prop? "name").bind fun value => value.literal?.map Literal.text

def scriptString (options : Options) (text : String) : String :=
  "'" ++ (if options.escapeLiterals then Text.escapeScript text else text) ++ "'"

def initialValue (options : Options) : PropValue → String
  | .literal value => scriptString options value.text
  | .bound value => value.expression
  | .actions list => (PropValue.actionsToJson list).compact
  | .unsupported value => value.compact

def stateNames (component : Component) : String × String :=
  match stateName? component with
  | some name => (name, setterOf name)
  | none => (missingStateName, "set")

def stateVariable? (options : Options) (component : Component) : Option StateVariable :=
  (component.prop? "value").map fun value =>
    let (getter, setter) := stateNames component
    ⟨component.id, getter, setter, initialValue options value⟩

def stateVariables (options : Options) (forest : Forest) : List StateVariable :=
  forest.filterMap (stateVariable? options)

def reference (component : Component) : Reference :=
  ⟨component.id, referenceName component.id, component.name⟩

def references (options : Options) (forest : Forest) : List Reference :=
  (if options.nestedRefs then Forest.nodes forest else forest).map reference

end PageEditor.Generate
