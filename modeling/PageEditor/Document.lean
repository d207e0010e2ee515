import PageEditor.Component.Json
import PageEditor.Json.Typed

/-!
Documents: the text in which a page is saved, a JSON list of components.
-/

namespace PageEditor.Document

inductive Problem where
  | unreadable (problem : Json.ReadError)
  | notAList (found : Json.Found)

def describe : Json.Found → String
  | .null => "null"
  | .boolean _ => "a boolean"
  | .number _ => "a number"
  | .string _ => "a string"
  | .sequence => "an array"
  | .map => "an object"

def Problem.message : Problem → String
  | .unreadable problem => "Invalid component data: " ++ problem.message
  | .notAList found => "Component data must be a JSON array of components, found " ++ describe found

theorem mapError_ok {ε ε' α : Type} (translate : ε → ε') (value : α) :
    (Except.ok value : Except ε α).mapError translate = .ok value := rfl

theorem mapError_error {ε ε' α : Type} (translate : ε → ε') (error : ε) :
    (Except.error error : Except ε α).mapError translate = .error (translate error) := rfl

def forestOfJson : Json → Except Problem Forest
  | .array items => (Component.forestOfItems items).mapError fun mismatch => .unreadable (.mismatched mismatch none)
  | value => .error (.notAList (.ofJson value))

def parse (text : String) : Except Problem Forest := do
  forestOfJson (← (Json.parse text).mapError .unreadable)

/-- A single component, such as one about to be added. -/
def parseComponent (text : String) : Except Json.ReadError Component := do
  (Component.ofJson (← Json.parse text)).mapError fun mismatch => .mismatched mismatch none

def parseProps (text : String) : Except Json.ReadError (Dict PropValue) := do
  return Component.propsOfMembers (← Json.readAll Json.readMap text)

def parseStyles (text : String) : Except Json.ReadError (Dict Json) := do
  return .ofEntries (← Json.readAll Json.readMap text)

def forestToJson (forest : Forest) : Json := .array (Component.itemsOfForest forest)

def render (forest : Forest) : String := (forestToJson forest).pretty

/-- Saving and loading again gives back the same page. -/
def isStable (forest : Forest) : Bool :=
  match parse (render forest) with
  | .ok again => again = forest
  | .error _ => false

end PageEditor.Document
