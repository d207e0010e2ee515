import PageEditor.Action

/-!
Values of component props: literals, expressions bound to the value, and lists of actions. Whatever
else the editor wrote is kept untouched.
-/

namespace PageEditor

inductive Literal where
  | string (text : String)
  | number (value : Json.Number)
deriving DecidableEq

def Literal.text : Literal → String
  | .string text => text
  | .number value => value.text

/-- A live expression, with the tag it was bound under. -/
structure Binding where
  kind : String
  value : Json
deriving DecidableEq

/-- A string stands for its own text, any other value for how it is written. -/
def exprText : Json → String
  | .string text => text
  | value => value.compact

def Binding.expression (bound : Binding) : String := exprText bound.value

inductive PropValue where
  | literal (value : Literal)
  | bound (value : Binding)
  | actions (list : List Action)
  | unsupported (value : Json)
deriving DecidableEq

namespace PropValue

def literal? : PropValue → Option Literal
  | .literal value => some value
  | _ => none

def actions? : PropValue → Option (List Action)
  | .actions list => some list
  | _ => none

/-- An object is a list of actions if it has one, else an expression if it has a type and a value. -/
def ofMembers (members : List (String × Json)) : PropValue :=
  match members.lookup "actions" with
  | some (.array items) => .actions (items.map Action.ofJson)
  | _ =>
    match members.lookup "type", members.lookup "value" with
    | some kind, some value => .bound ⟨exprText kind, value⟩
    | _, _ => .unsupported (.object members)

def ofJson : Json → PropValue
  | .string text => .literal (.string text)
  | .number value => .literal (.number value)
  | .object members => ofMembers members
  | value => .unsupported value

def actionsToJson (list : List Action) : Json := .object [("actions", .array (list.map Action.toJson))]

def toJson : PropValue → Json
  | .literal (.string text) => .string text
  | .literal (.number value) => .number value
  | .bound value => .object [("type", .string value.kind), ("value", value.value)]
  | .actions list => actionsToJson list
  | .unsupported value => value

end PropValue

end PageEditor
