import PageEditor.Generate.Declaration

/-!
Event handlers: one function for each event with a list of actions, with one statement for each action
that is understood.
-/

namespace PageEditor.Generate

structure Handler where
  name : String
  component : ComponentId
  event : String
  statements : List String
deriving DecidableEq

def Handler.lines (handler : Handler) : List String :=
  ["  const " ++ handler.name ++ " = () => \x7b"]
    ++ handler.statements.map (fun statement => "    " ++ statement)
    ++ ["  \x7d;"]

def Handler.text (handler : Handler) : String := "\n".intercalate handler.lines

def statement? (options : Options) : Action → Option String
  | .callMethod target method => some (referenceName target ++ ".current?." ++ method ++ "();")
  | .domOperation target operation => some (referenceName target ++ ".current?." ++ operation ++ ";")
  | .showMessage kind text => some ("message." ++ kind.name ++ "(" ++ scriptString options text ++ ");")
  | .unsupported _ => none

def handler (options : Options) (id : ComponentId) (event : String) (actions : List Action) : Handler :=
  ⟨handlerName id event, id, event, actions.filterMap (statement? options)⟩

def handler? (options : Options) (component : Component) (event : String) : Option Handler := do
  return handler options component.id event (← (← component.prop? event).actions?)

end PageEditor.Generate
