import PageEditor.Json.Reader

/-!
Reading a value of a wanted type directly from the text. A scalar of another type is read before it is
refused; a container is refused at its bracket.
-/

namespace PageEditor.Json

def refuse (wanted : Wanted) (text : List Char) : Stop :=
  match text with
  | '[' :: _ => .mismatched (.invalidType .sequence wanted) text
  | '{' :: _ => .mismatched (.invalidType .map wanted) text
  | _ =>
    match readScalar text with
    | .ok (value, rest) => .mismatched (.unexpected value wanted) rest
    | .error stop => stop

def readString (text : List Char) : Except Stop (String × List Char) :=
  match skipBlanks text with
  | '"' :: rest => do
    let (text, rest) ← readQuoted rest
    return (String.ofList text, rest)
  | text => .error (refuse .string text)

def readBool (text : List Char) : Except Stop (Bool × List Char) :=
  match skipBlanks text with
  | 't' :: rest => do return (true, ← readWord ['r', 'u', 'e'] rest)
  | 'f' :: rest => do return (false, ← readWord ['a', 'l', 's', 'e'] rest)
  | text => .error (refuse .boolean text)

def readStrings (text : List Char) : Except Stop (List String × List Char) :=
  match skipBlanks text with
  | '[' :: rest => readItems readString (rest.length + 1) true rest
  | text => .error (refuse .sequence text)

def readMap (text : List Char) : Except Stop (List (String × Json) × List Char) :=
  match skipBlanks text with
  | '{' :: rest => do
    let size := rest.length + 1
    let (members, rest) ← readMembers (readValue size (depthLimit - 1)) size true rest
    return (Entries.setAll [] members, rest)
  | text => .error (refuse .map text)

end PageEditor.Json
