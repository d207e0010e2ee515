import PageEditor.Json.Skipped
import PageEditor.Json.Typed
import PageEditor.Options

/-!
Reading options. They are given as a JSON object with any of the known members, or as a list of their
values in a fixed order; what is not given keeps its default. The text is decoded while it is read, so
that an error has a position and members nobody knows are only passed over.
-/

namespace PageEditor.Options

open Json

def readField (options : Options) (field : Field) (text : List Char) : Except Stop (Options × List Char) := do
  match field with
  | .componentName => do
    let (value, rest) ← readString text
    return ({ options with componentName := value }, rest)
  | .libraryModule => do
    let (value, rest) ← readString text
    return ({ options with libraryModule := value }, rest)
  | .libraryComponents => do
    let (value, rest) ← readStrings text
    return ({ options with libraryComponents := value }, rest)
  | .localImportPath => do
    let (value, rest) ← readString text
    return ({ options with localImportPath := value }, rest)
  | .eventPrefix => do
    let (value, rest) ← readString text
    return ({ options with eventPrefix := value }, rest)
  | .escapeLiterals => do
    let (value, rest) ← readBool text
    return ({ options with escapeLiterals := value }, rest)
  | .nestedRefs => do
    let (value, rest) ← readBool text
    return ({ options with nestedRefs := value }, rest)
  | .strict => do
    let (value, rest) ← readBool text
    return ({ options with strict := value }, rest)

/-- Where a repeated field is reported: after its key, and after the end of the object if that follows
at once. -/
def repeatedField (field : Field) (rest : List Char) : Stop :=
  match skipBlanks rest with
  | '}' :: rest => .mismatched (.duplicateField field.key) rest
  | rest => .mismatched (.duplicateField field.key) rest

/-- The members of an object from the next one on; `seen` are the fields already given. -/
def readObject (options : Options) (seen : List Field) :
    Nat → Bool → List Char → Except Stop (Options × List Char)
  | 0, _, text => .error (.before .endInObject text)
  | fuel + 1, first, text => do
    match ← nextMember first text with
    | .closed rest => return (options, rest)
    | .part text =>
      let (key, rest) ← readQuoted text
      match Field.ofKey? (String.ofList key) with
      | some field =>
        if field ∈ seen then throw (repeatedField field rest)
        let (options, rest) ← readField options field (← readColon rest)
        readObject options (field :: seen) fuel false rest
      | none => readObject options seen fuel false (← skip (← readColon rest))

/-- The end of a list that holds a value for every field. -/
def closeList (text : List Char) : Except Stop (List Char) :=
  match skipBlanks text with
  | [] => .error (.before .endInList [])
  | ']' :: rest => .ok rest
  | ',' :: rest =>
    match skipBlanks rest with
    | ']' :: rest => .error (.within .trailingComma (']' :: rest))
    | rest => .error (.within .trailingCharacters rest)
  | rest => .error (.within .trailingCharacters rest)

/-- The values of a list, one for each field as long as there are any. -/
def readList (options : Options) : List Field → Bool → List Char → Except Stop (Options × List Char)
  | [], _, text => do return (options, ← closeList text)
  | field :: fields, first, text => do
    match ← nextItem first text with
    | .closed rest => return (options, rest)
    | .part text =>
      let (options, rest) ← readField options field text
      readList options fields false rest

def read (text : List Char) : Except Stop (Options × List Char) :=
  match skipBlanks text with
  | '{' :: rest => readObject standard [] (rest.length + 1) true rest
  | '[' :: rest => readList standard Field.all true rest
  | text => .error (refuse .options text)

def parse (text : String) : Except ReadError Options := readAll read text

def problemText (problem : ReadError) : String := "JSON error: " ++ problem.message

end PageEditor.Options
