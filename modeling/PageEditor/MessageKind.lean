import PageEditor.Json.Typed
import PageEditor.Text.Identifier

/-!
The flavours of a notification. Five names are known to the editor; any other identifier stands for
itself.
-/

namespace PageEditor

inductive MessageKind where
  | success
  | error
  | info
  | warning
  | loading
  | other (name : String)
deriving DecidableEq

namespace MessageKind

def name : MessageKind → String
  | .success => "success"
  | .error => "error"
  | .info => "info"
  | .warning => "warning"
  | .loading => "loading"
  | .other name => name

def ofName? (name : String) : Option MessageKind :=
  if name = "success" then some .success
  else if name = "error" then some .error
  else if name = "info" then some .info
  else if name = "warning" then some .warning
  else if name = "loading" then some .loading
  else if Text.isIdentifier name then some (.other name)
  else none

inductive ParseError where
  | unreadable (problem : Json.ReadError)
  | unknown (name : String)

def ParseError.message : ParseError → String
  | .unreadable problem => problem.message
  | .unknown name => "`" ++ name ++ "` is not a valid message kind"

/-- Reads the quoted name of a kind. The name is judged before what follows it. -/
def parse (text : String) : Except ParseError MessageKind := do
  let unreadable {α : Type} (result : Except Json.Stop α) : Except ParseError α :=
    result.mapError fun stop => .unreadable (stop.toError text)
  let (name, rest) ← unreadable (Json.readString text.toList)
  match ofName? name with
  | some kind => do
    unreadable (Json.finish rest)
    return kind
  | none => throw (.unknown name)

end MessageKind

end PageEditor
