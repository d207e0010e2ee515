import PageEditor.Json.Numeral
import PageEditor.Json.Quoted

/-!
Reading JSON values. Containers may be nested 127 deep. Of a repeated key the first place and the last
value are kept. The loops over the parts of a container are bounded by the length of the text, which
they never exhaust because every part takes at least one character.
-/

namespace PageEditor.Json

def isBlank (c : Char) : Bool := c == ' ' || c == '\t' || c == '\n' || c == '\r'

def skipBlanks (text : List Char) : List Char := text.dropWhile isBlank

def readWord : List Char → List Char → Except Stop (List Char)
  | [], rest => .ok rest
  | _, [] => .error (.before .endInValue [])
  | letter :: letters, c :: rest =>
    if c = letter then readWord letters rest else .error (.within .expectedWord (c :: rest))

/-- A value that is no container; blanks before it have been skipped. -/
def readScalar : List Char → Except Stop (Json × List Char)
  | [] => .error (.before .endInValue [])
  | 'n' :: rest => do return (.null, ← readWord ['u', 'l', 'l'] rest)
  | 't' :: rest => do return (.bool true, ← readWord ['r', 'u', 'e'] rest)
  | 'f' :: rest => do return (.bool false, ← readWord ['a', 'l', 's', 'e'] rest)
  | '"' :: rest => do
    let (text, rest) ← readQuoted rest
    return (.string (String.ofList text), rest)
  | '-' :: rest => do
    let (value, rest) ← readNumeral true rest
    return (.number value, rest)
  | text =>
    if startsWithDigit text then do
      let (value, rest) ← readNumeral false text
      return (.number value, rest)
    else .error (.within .expectedValue text)

/-- Where a container goes on: after its closing bracket, or at its next part. -/
inductive Next where
  | closed (rest : List Char)
  | part (text : List Char)

/-- The step to the next item of a list; `first` if none has been read. -/
def nextItem (first : Bool) (text : List Char) : Except Stop Next :=
  match skipBlanks text with
  | [] => .error (.before .endInList [])
  | ']' :: rest => .ok (.closed rest)
  | text =>
    if first then .ok (.part text)
    else match text with
      | ',' :: rest =>
        match skipBlanks rest with
        | [] => .error (.before .endInValue [])
        | ']' :: rest => .error (.within .trailingComma (']' :: rest))
        | text => .ok (.part text)
      | text => .error (.within .expectedListSeparator text)

/-- The step to the next member of an object, which starts after the quote that opens its key. -/
def nextMember (first : Bool) (text : List Char) : Except Stop Next :=
  match skipBlanks text with
  | [] => .error (.before .endInObject [])
  | '}' :: rest => .ok (.closed rest)
  | text =>
    if first then
      match text with
      | '"' :: rest => .ok (.part rest)
      | text => .error (.within .keyNotString text)
    else match text with
      | ',' :: rest =>
        match skipBlanks rest with
        | [] => .error (.before .endInValue [])
        | '"' :: rest => .ok (.part rest)
        | '}' :: rest => .error (.within .trailingComma ('}' :: rest))
        | text => .error (.within .keyNotString text)
      | text => .error (.within .expectedObjectSeparator text)

def readColon (text : List Char) : Except Stop (List Char) :=
  match skipBlanks text with
  | [] => .error (.before .endInObject [])
  | ':' :: rest => .ok rest
  | text => .error (.within .expectedColon text)

section

variable {α : Type} (read : List Char → Except Stop (α × List Char))

def readItems : Nat → Bool → List Char → Except Stop (List α × List Char)
  | 0, _, text => .error (.before .endInList text)
  | fuel + 1, first, text => do
    match ← nextItem first text with
    | .closed rest => return ([], rest)
    | .part text =>
      let (item, rest) ← read text
      let (items, rest) ← readItems fuel false rest
      return (item :: items, rest)

def readMembers : Nat → Bool → List Char → Except Stop (List (String × α) × List Char)
  | 0, _, text => .error (.before .endInObject text)
  | fuel + 1, first, text => do
    match ← nextMember first text with
    | .closed rest => return ([], rest)
    | .part text =>
      let (key, rest) ← readQuoted text
      let (value, rest) ← read (← readColon rest)
      let (members, rest) ← readMembers fuel false rest
      return ((String.ofList key, value) :: members, rest)

end

/-- A value with at most `depth` containers inside one another and fewer than `size` parts in each. -/
def readValue (size depth : Nat) (text : List Char) : Except Stop (Json × List Char) :=
  match skipBlanks text with
  | '[' :: rest =>
    match depth with
    | 0 => .error (.within .nestingTooDeep ('[' :: rest))
    | depth + 1 => do
      let (items, rest) ← readItems (readValue size depth) size true rest
      return (.array items, rest)
  | '{' :: rest =>
    match depth with
    | 0 => .error (.within .nestingTooDeep ('{' :: rest))
    | depth + 1 => do
      let (members, rest) ← readMembers (readValue size depth) size true rest
      return (.object (Entries.setAll [] members), rest)
  | text => readScalar text

def depthLimit : Nat := 127

/-- A value of any size: no container has as many parts as the text has characters. -/
def readJson (text : List Char) : Except Stop (Json × List Char) := readValue text.length depthLimit text

/-- Nothing but blanks may follow a value. -/
def finish (rest : List Char) : Except Stop Unit :=
  match skipBlanks rest with
  | [] => .ok ()
  | rest => .error (.within .trailingCharacters rest)

def readAll {α : Type} (read : List Char → Except Stop (α × List Char)) (text : String) : Except ReadError α :=
  let result := do
    let (value, rest) ← read text.toList
    finish rest
    return value
  result.mapError (Stop.toError text)

def parse (text : String) : Except ReadError Json := readAll readJson text

end PageEditor.Json
