import PageEditor.Json.Quoted
import PageEditor.Text.Pascal

/-!
Text templates. Between doubled braces stands the path of a value in the data, or `pascal_case` with the
value it is applied to; everything else is copied. Values are inserted as they are and are not read as
templates again.
-/

namespace PageEditor.Template

inductive Argument where
  | path (names : List String)
  | text (value : String)
deriving DecidableEq

inductive Piece where
  | text (value : String)
  | value (path : List String)
  /-- Without an argument it is empty. -/
  | pascal (argument : Option Argument)
deriving DecidableEq

inductive Problem where
  | malformed
  | unknownHelper (name : String)
  /-- A step into a list that is no number. -/
  | invalidIndex (name : String)
deriving DecidableEq

def Problem.message : Problem → String
  | .malformed => "malformed expression"
  | .unknownHelper name => "unknown helper `" ++ name ++ "`"
  | .invalidIndex name => "`" ++ name ++ "` is no index into a list"

def isBlank (c : Char) : Bool := c == ' ' || c == '\t' || c == '\n' || c == '\r'

def isPathChar (c : Char) : Bool := c.isAlphanum || c == '_' || c == '-' || c == '$' || c == '.' || 0x80 ≤ c.toNat

def splitPath : List Char → List (List Char)
  | [] => [[]]
  | '.' :: rest => [] :: splitPath rest
  | c :: rest =>
    match splitPath rest with
    | name :: names => (c :: name) :: names
    | [] => [[c]]

def takePath (text : List Char) : Except Problem (List String × List Char) :=
  let names := splitPath (text.takeWhile isPathChar)
  if names.any List.isEmpty then .error .malformed
  else .ok (names.map String.ofList, text.dropWhile isPathChar)

/-- The arguments of a helper up to its closing braces; `fuel` bounds their number. -/
def takeArguments (closing : List Char) : Nat → List Char → Except Problem (List Argument × List Char)
  | 0, _ => .error .malformed
  | fuel + 1, text => do
    let text := text.dropWhile isBlank
    if closing.isPrefixOf text then return ([], text.drop closing.length)
    let (argument, rest) ← match text with
      | '"' :: rest =>
        match Json.readQuoted rest with
        | .ok (value, rest) => .ok (Argument.text (String.ofList value), rest)
        | .error _ => .error Problem.malformed
      | text => do
        let (names, rest) ← takePath text
        .ok (Argument.path names, rest)
    let (arguments, rest) ← takeArguments closing fuel rest
    return (argument :: arguments, rest)

def takeExpression (closing : List Char) (text : List Char) : Except Problem (Piece × List Char) := do
  let (names, rest) ← takePath (text.dropWhile isBlank)
  let (arguments, rest) ← takeArguments closing (rest.length + 1) rest
  if names = ["pascal_case"] then return (.pascal arguments.head?, rest)
  else if arguments.isEmpty then return (.value names, rest)
  else throw (.unknownHelper (".".intercalate names))

def putChar (c : Char) : List Piece → List Piece
  | .text value :: pieces => .text (String.ofList (c :: value.toList)) :: pieces
  | pieces => .text (String.ofList [c]) :: pieces

def parseChars : Nat → List Char → Except Problem (List Piece)
  | 0, _ => .ok []
  | _, [] => .ok []
  | fuel + 1, '{' :: '{' :: '{' :: rest => do
    let (piece, rest) ← takeExpression ['}', '}', '}'] rest
    return piece :: (← parseChars fuel rest)
  | fuel + 1, '{' :: '{' :: rest => do
    let (piece, rest) ← takeExpression ['}', '}'] rest
    return piece :: (← parseChars fuel rest)
  | fuel + 1, c :: rest => do return putChar c (← parseChars fuel rest)

def parse (text : String) : Except Problem (List Piece) := parseChars (text.length + 1) text.toList

def textOfNumber (name : String) : Option Nat :=
  if name.toList.all Char.isDigit && !name.isEmpty then
    some (name.toList.foldl (fun number c => number * 10 + (c.toNat - '0'.toNat)) 0)
  else none

/-- Where a path leads from a value; a scalar leads nowhere. -/
def follow : Json → List String → Except Problem (Option Json)
  | value, [] => .ok (some value)
  | .object members, name :: names =>
    match members.lookup name with
    | some value => follow value names
    | none => .ok none
  | .array items, name :: names =>
    match textOfNumber name with
    | none => .error (.invalidIndex name)
    | some index =>
      match items[index]? with
      | some value => follow value names
      | none => .ok none
  | _, _ :: _ => .ok none

mutual

def valueText : Json → String
  | .null => ""
  | .bool true => "true"
  | .bool false => "false"
  | .number value => value.text
  | .string text => text
  | .array items => "[" ++ itemsText items ++ "]"
  | .object _ => "[object]"

def itemsText : List Json → String
  | [] => ""
  | [item] => valueText item
  | item :: rest => valueText item ++ ", " ++ itemsText rest

end

def argumentText (data : Json) : Argument → Except Problem String
  | .text value => .ok value
  | .path names => do return ((← follow data names).bind Json.string?).getD ""

def renderPiece (data : Json) : Piece → Except Problem String
  | .text value => .ok value
  | .value path => do return ((← follow data path).map valueText).getD ""
  | .pascal none => .ok ""
  | .pascal (some argument) => do return Text.pascalCase (← argumentText data argument)

def render (data : Json) : List Piece → Except Problem String
  | [] => .ok ""
  | piece :: pieces => do return (← renderPiece data piece) ++ (← render data pieces)

def fill (template : String) (data : Json) : Except Problem String := do
  render data (← parse template)

end PageEditor.Template
