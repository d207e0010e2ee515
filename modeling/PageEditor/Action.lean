import PageEditor.MessageKind

/-!
Declarative actions. The editor attaches a list of them to an event. An action is decoded only if every
field it is known by has the right type; otherwise it is kept as it was written.
-/

namespace PageEditor

abbrev ComponentId := UInt64

def idText (id : ComponentId) : String := String.ofList (Nat.toDigits 10 id.toNat)

inductive Action where
  | callMethod (target : ComponentId) (method : String)
  | domOperation (target : ComponentId) (operation : String)
  | showMessage (kind : MessageKind) (text : String)
  | unsupported (value : Json)
deriving DecidableEq

namespace Action

def target? : Action → Option ComponentId
  | .callMethod target _ | .domOperation target _ => some target
  | .showMessage .. | .unsupported _ => none

def isUnsupported : Action → Bool
  | .unsupported _ => true
  | _ => false

/-- A field that may be absent or null. -/
def optional? {α : Type} (decode : Json → Option α) : Option Json → Option (Option α)
  | none | some .null => some none
  | some value => (decode value).map some

def methodConfig? : Json → Option (ComponentId × String)
  | .object members => do
    return (← (← members.lookup "componentId").id?, ← (← members.lookup "method").string?)
  | .array [target, method] => do return (← target.id?, ← method.string?)
  | _ => none

def messageConfig? : Json → Option (MessageKind × String)
  | .object members => do
    let kind ← MessageKind.ofName? (← (← members.lookup "type").string?)
    let text ← match members.lookup "text" with
      | some value => value.string?
      | none => some ""
    return (kind, text)
  | .array [kind] => do return (← MessageKind.ofName? (← kind.string?), "")
  | .array [kind, text] => do return (← MessageKind.ofName? (← kind.string?), ← text.string?)
  | _ => none

def domConfig? : Option Json → Option (Option ComponentId × Option String)
  | none | some .null => some (none, none)
  | some (.object members) => do
    return (← optional? Json.id? (members.lookup "componentId"), ← optional? Json.string? (members.lookup "operation"))
  | some (.array [target, operation]) => do
    return (← optional? Json.id? (some target), ← optional? Json.string? (some operation))
  | some _ => none

/-- The fields of a DOM operation stand at the top or in its configuration; the top is asked first. -/
def domOperation? (members : List (String × Json)) : Option Action := do
  let target ← optional? Json.id? (members.lookup "targetComponentId")
  let operation ← optional? Json.string? (members.lookup "operation")
  let (configTarget, configOperation) ← domConfig? (members.lookup "config")
  return .domOperation (← target.or configTarget) (← operation.or configOperation)

def decode? : Json → Option Action
  | .object members =>
    match members.lookup "type" with
    | some (.string kind) =>
      if kind = "componentMethod" then do
        let (target, method) ← methodConfig? (← members.lookup "config")
        return .callMethod target method
      else if kind = "domOperation" then domOperation? members
      else if kind = "showMessage" then do
        let (kind, text) ← messageConfig? (← members.lookup "config")
        return .showMessage kind text
      else none
    | _ => none
  | _ => none

def ofJson (value : Json) : Action := (decode? value).getD (.unsupported value)

def toJson : Action → Json
  | .callMethod target method => .object [
      ("type", .string "componentMethod"),
      ("config", .object [("componentId", .number (.ofId target)), ("method", .string method)])]
  | .domOperation target operation => .object [
      ("type", .string "domOperation"),
      ("targetComponentId", .number (.ofId target)),
      ("operation", .string operation)]
  | .showMessage kind text => .object [
      ("type", .string "showMessage"),
      ("config", .object [("type", .string kind.name), ("text", .string text)])]
  | .unsupported value => value

end Action

end PageEditor
