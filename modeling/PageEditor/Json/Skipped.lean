import PageEditor.Json.Reader

/-!
Passing over a value that nobody asked for. Only its grammar is checked: numbers may be of any size,
surrogates need no partner, and there is no limit to the nesting.
-/

namespace PageEditor.Json

def skipQuoted : List Char → Except Stop (List Char)
  | [] => .error (.before .endInString [])
  | '"' :: rest => .ok rest
  | '\\' :: 'u' :: a :: b :: c :: d :: rest =>
    if (hexUnit? a b c d).isSome then skipQuoted rest else .error (.badHex (a :: b :: c :: d :: rest))
  | '\\' :: c :: rest =>
    if (simpleEscape? c).isSome then skipQuoted rest else .error (.badEscape (c :: rest))
  | ['\\'] => .error (.badEscape [])
  | c :: rest => if c < ' ' then .error (.before .controlCharacter (c :: rest)) else skipQuoted rest

def skipExponent (rest : List Char) : Except Stop (List Char) :=
  let rest := match rest with
    | '+' :: rest | '-' :: rest => rest
    | rest => rest
  if startsWithDigit rest then .ok (dropDigits rest).2 else .error (.within .invalidNumber rest)

def skipNumeral (text : List Char) : Except Stop (List Char) := do
  if !startsWithDigit text then throw (.within .invalidNumber text)
  if text.head? = some '0' ∧ startsWithDigit text.tail then throw (.within .invalidNumber text.tail)
  match (dropDigits text).2 with
  | '.' :: rest =>
    if !startsWithDigit rest then throw (.within .invalidNumber rest)
    match (dropDigits rest).2 with
    | 'e' :: rest | 'E' :: rest => skipExponent rest
    | rest => return rest
  | 'e' :: rest | 'E' :: rest => skipExponent rest
  | rest => return rest

def skipScalar : List Char → Except Stop (List Char)
  | [] => .error (.before .endInValue [])
  | 'n' :: rest => readWord ['u', 'l', 'l'] rest
  | 't' :: rest => readWord ['r', 'u', 'e'] rest
  | 'f' :: rest => readWord ['a', 'l', 's', 'e'] rest
  | '"' :: rest => skipQuoted rest
  | '-' :: rest => skipNumeral rest
  | text => if startsWithDigit text then skipNumeral text else .error (.within .expectedValue text)

mutual

/-- A value; every call takes a character or, once, hands the text on. -/
def skipValue : Nat → List Char → Except Stop (List Char)
  | 0, text => .error (.before .endInValue text)
  | fuel + 1, text =>
    match skipBlanks text with
    | '[' :: rest =>
      match skipBlanks rest with
      | [] => .error (.before .endInList [])
      | ']' :: rest => .ok rest
      | rest => skipItems fuel rest
    | '{' :: rest =>
      match skipBlanks rest with
      | [] => .error (.before .endInObject [])
      | '}' :: rest => .ok rest
      | rest => skipMembers fuel rest
    | text => skipScalar text

def skipItems : Nat → List Char → Except Stop (List Char)
  | 0, text => .error (.before .endInList text)
  | fuel + 1, text => do
    let rest ← skipValue fuel text
    match skipBlanks rest with
    | [] => .error (.before .endInList [])
    | ']' :: rest => .ok rest
    | ',' :: rest => skipItems fuel rest
    | rest => .error (.within .expectedListSeparator rest)

def skipMembers : Nat → List Char → Except Stop (List Char)
  | 0, text => .error (.before .endInObject text)
  | fuel + 1, text => do
    match skipBlanks text with
    | [] => .error (.before .endInObject [])
    | '"' :: rest =>
      let rest ← skipValue fuel (← readColon (← skipQuoted rest))
      match skipBlanks rest with
      | [] => .error (.before .endInObject [])
      | '}' :: rest => .ok rest
      | ',' :: rest => skipMembers fuel rest
      | rest => .error (.within .expectedObjectSeparator rest)
    | rest => .error (.within .keyNotString rest)

end

/-- Twice the length is enough for one call at each character and one that hands the text on. -/
def skip (text : List Char) : Except Stop (List Char) := skipValue (2 * text.length + 1) text

end PageEditor.Json
