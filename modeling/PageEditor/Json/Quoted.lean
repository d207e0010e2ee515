import PageEditor.Json.ReadError

/-!
Reading string literals. A character beyond the basic plane is escaped as a pair of surrogates, and a
surrogate without its partner is refused.
-/

namespace PageEditor.Json

def hexValue? (c : Char) : Option Nat :=
  if '0' ≤ c ∧ c ≤ '9' then some (c.toNat - '0'.toNat)
  else if 'a' ≤ c ∧ c ≤ 'f' then some (c.toNat - 'a'.toNat + 10)
  else if 'A' ≤ c ∧ c ≤ 'F' then some (c.toNat - 'A'.toNat + 10)
  else none

def hexUnit? (a b c d : Char) : Option Nat := do
  return (((← hexValue? a) * 16 + (← hexValue? b)) * 16 + (← hexValue? c)) * 16 + (← hexValue? d)

def simpleEscape? (c : Char) : Option Char :=
  if c = '"' then some '"'
  else if c = '\\' then some '\\'
  else if c = '/' then some '/'
  else if c = 'b' then some '\x08'
  else if c = 'f' then some '\x0c'
  else if c = 'n' then some '\n'
  else if c = 'r' then some '\r'
  else if c = 't' then some '\t'
  else none

def isHighSurrogate (unit : Nat) : Bool := 0xD800 ≤ unit && unit ≤ 0xDBFF

def isLowSurrogate (unit : Nat) : Bool := 0xDC00 ≤ unit && unit ≤ 0xDFFF

def joinSurrogates (high low : Nat) : Char := Char.ofNat (0x10000 + (high - 0xD800) * 0x400 + (low - 0xDC00))

namespace Stop

def badHex (rest : List Char) : Stop :=
  if byteCount rest < 4 then past .endInString rest 4 else past .invalidEscape rest 4

def badEscape : List Char → Stop
  | [] => before .endInString []
  | 'u' :: rest => badHex rest
  | rest => within .invalidEscape rest

def badPair : List Char → Stop
  | [] | ['\\'] => before .endInString []
  | '\\' :: 'u' :: rest => badHex rest
  | '\\' :: rest => within .unfinishedSurrogatePair rest
  | rest => within .unfinishedSurrogatePair rest

end Stop

def readQuoted : List Char → Except Stop (List Char × List Char)
  | [] => .error (.before .endInString [])
  | '"' :: rest => .ok ([], rest)
  | '\\' :: 'u' :: a :: b :: c :: d :: rest =>
    match hexUnit? a b c d with
    | none => .error (.badHex (a :: b :: c :: d :: rest))
    | some unit =>
      if isLowSurrogate unit then .error (.before .loneSurrogate rest)
      else if isHighSurrogate unit then
        match rest with
        | '\\' :: 'u' :: e :: f :: g :: h :: rest =>
          match hexUnit? e f g h with
          | none => .error (.badHex (e :: f :: g :: h :: rest))
          | some low =>
            if isLowSurrogate low then do
              let (text, rest) ← readQuoted rest
              return (joinSurrogates unit low :: text, rest)
            else .error (.before .loneSurrogate rest)
        | rest => .error (.badPair rest)
      else do
        let (text, rest) ← readQuoted rest
        return (Char.ofNat unit :: text, rest)
  | '\\' :: c :: rest =>
    match simpleEscape? c with
    | some plain => do
      let (text, rest) ← readQuoted rest
      return (plain :: text, rest)
    | none => .error (.badEscape (c :: rest))
  | ['\\'] => .error (.badEscape [])
  | c :: rest =>
    if c < ' ' then .error (.before .controlCharacter rest)
    else do
      let (text, rest) ← readQuoted rest
      return (c :: text, rest)

end PageEditor.Json
