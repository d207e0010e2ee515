import PageEditor.Json.Shortest
import PageEditor.Json.Value

/-!
Writing JSON. One writer serves both layouts: they differ only in what separates the parts of a
container. Strings are escaped as little as the grammar allows, and a double is written with the
fewest digits that read back, positionally as long as its exponent is moderate.
-/

namespace PageEditor.Json

def Number.digits (value : Nat) : List Char := Nat.toDigits 10 value

/-- Positional notation from `10 ^ -5` up to but not including `10 ^ 16`. -/
def Binary64.magnitude (value : Binary64) : List Char :=
  if value.significand = 0 then ['0', '.', '0']
  else
    let decimal := value.shortest
    let all := Number.digits decimal.significand
    let exponent := decimal.exponent + all.length - 1
    let digits := (all.reverse.dropWhile (· == '0')).reverse
    let fraction (rest : List Char) : List Char := if rest.isEmpty then ['0'] else rest
    if exponent < -5 ∨ 16 ≤ exponent then
      let tail := digits.drop 1
      digits.take 1 ++ (if tail.isEmpty then [] else '.' :: tail)
        ++ ['e', if exponent < 0 then '-' else '+'] ++ Number.digits exponent.natAbs
    else if exponent < 0 then
      ['0', '.'] ++ List.replicate (exponent.natAbs - 1) '0' ++ digits
    else
      let whole := exponent.toNat + 1
      digits.take whole ++ List.replicate (whole - digits.length) '0' ++ '.' :: fraction (digits.drop whole)

def Binary64.chars (value : Binary64) : List Char :=
  if value.negative then '-' :: value.magnitude else value.magnitude

def Number.chars : Number → List Char
  | .integer value _ => if value < 0 then '-' :: digits value.natAbs else digits value.natAbs
  | .real value => value.chars

def Number.text (number : Number) : String := String.ofList number.chars

/-- Only the quote, the backslash and the control characters below the blank are escaped. -/
def escaped (c : Char) : List Char :=
  if c = '"' then ['\\', '"']
  else if c = '\\' then ['\\', '\\']
  else if c = '\x08' then ['\\', 'b']
  else if c = '\x0c' then ['\\', 'f']
  else if c = '\n' then ['\\', 'n']
  else if c = '\r' then ['\\', 'r']
  else if c = '\t' then ['\\', 't']
  else if c < ' ' then ['\\', 'u', '0', '0', Nat.digitChar (c.toNat / 16), Nat.digitChar (c.toNat % 16)]
  else [c]

def quoted (text : String) : List Char := '"' :: text.toList.flatMap escaped ++ ['"']

/-- What stands between the parts of a container: `newline` before an item at a depth and before the
closing bracket, `colon` between a key and its value. -/
structure Layout where
  newline : Nat → List Char
  colon : List Char

def Layout.compact : Layout := ⟨fun _ => [], [':']⟩

/-- A line for each part, indented by two blanks a level. -/
def Layout.pretty : Layout := ⟨fun depth => '\n' :: List.replicate (2 * depth) ' ', [':', ' ']⟩

namespace Layout

mutual

def write (layout : Layout) (depth : Nat) : Json → List Char
  | .null => ['n', 'u', 'l', 'l']
  | .bool true => ['t', 'r', 'u', 'e']
  | .bool false => ['f', 'a', 'l', 's', 'e']
  | .number value => value.chars
  | .string text => quoted text
  | .array [] => ['[', ']']
  | .array (item :: items) =>
    '[' :: layout.newline (depth + 1) ++ layout.write (depth + 1) item ++ layout.writeItems (depth + 1) items
      ++ layout.newline depth ++ [']']
  | .object [] => ['{', '}']
  | .object ((key, value) :: members) =>
    '{' :: layout.newline (depth + 1) ++ quoted key ++ layout.colon ++ layout.write (depth + 1) value
      ++ layout.writeMembers (depth + 1) members ++ layout.newline depth ++ ['}']

def writeItems (layout : Layout) (depth : Nat) : List Json → List Char
  | [] => []
  | item :: items => ',' :: layout.newline depth ++ layout.write depth item ++ layout.writeItems depth items

def writeMembers (layout : Layout) (depth : Nat) : List (String × Json) → List Char
  | [] => []
  | (key, value) :: members =>
    ',' :: layout.newline depth ++ quoted key ++ layout.colon ++ layout.write depth value
      ++ layout.writeMembers depth members

end

end Layout

def compact (value : Json) : String := String.ofList (Layout.compact.write 0 value)

def pretty (value : Json) : String := String.ofList (Layout.pretty.write 0 value)

end PageEditor.Json
