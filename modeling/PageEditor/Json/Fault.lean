/-!
Faults of a text that is not JSON, their wording, and where in the text they are. Positions count
bytes, and a column counts from the last line feed before it.
-/

namespace PageEditor.Json

inductive Fault where
  | endInValue
  | endInList
  | endInObject
  | endInString
  | expectedWord
  | expectedValue
  | expectedColon
  | expectedListSeparator
  | expectedObjectSeparator
  | trailingComma
  | trailingCharacters
  | keyNotString
  | controlCharacter
  | invalidEscape
  | loneSurrogate
  | unfinishedSurrogatePair
  | invalidNumber
  | numberOutOfRange
  | nestingTooDeep
deriving DecidableEq

def Fault.message : Fault → String
  | .endInValue => "EOF while parsing a value"
  | .endInList => "EOF while parsing a list"
  | .endInObject => "EOF while parsing an object"
  | .endInString => "EOF while parsing a string"
  | .expectedWord => "expected ident"
  | .expectedValue => "expected value"
  | .expectedColon => "expected `:`"
  | .expectedListSeparator => "expected `,` or `]`"
  | .expectedObjectSeparator => "expected `,` or `\x7d`"
  | .trailingComma => "trailing comma"
  | .trailingCharacters => "trailing characters"
  | .keyNotString => "key must be a string"
  | .controlCharacter => "control character (\\u0000-\\u001F) found while parsing a string"
  | .invalidEscape => "invalid escape"
  | .loneSurrogate => "lone leading surrogate in hex escape"
  | .unfinishedSurrogatePair => "unexpected end of hex escape"
  | .invalidNumber => "invalid number"
  | .numberOutOfRange => "number out of range"
  | .nestingTooDeep => "recursion limit exceeded"

structure Position where
  line : Nat
  column : Nat
deriving DecidableEq

namespace Position

def ofOffset (text : String) (offset : Nat) : Position :=
  let before := text.toUTF8.toList.take offset
  ⟨1 + before.count 10, (before.reverse.takeWhile (· != 10)).length⟩

def suffix (position : Position) : String :=
  " at line " ++ toString position.line ++ " column " ++ toString position.column

end Position

end PageEditor.Json
