import PageEditor.Json.ReadError

/-!
Reading numbers. Digits are collected into a significand of 64 bits with a decimal exponent. Integer
digits that no longer fit are dropped and counted in the exponent, fraction digits that no longer fit
are dropped altogether.
-/

namespace PageEditor.Json

def digit? (c : Char) : Option Nat := if c.isDigit then some (c.toNat - '0'.toNat) else none

def startsWithDigit : List Char → Bool
  | [] => false
  | c :: _ => c.isDigit

def wordLimit : Nat := 0x10000000000000000

/-- Appends digits to the significand as long as 64 bits hold it. Answers the significand, the number of
digits taken and what is left. -/
def takeDigits (significand : Nat) : List Char → Nat × Nat × List Char
  | [] => (significand, 0, [])
  | c :: rest =>
    match digit? c with
    | some digit =>
      if significand * 10 + digit < wordLimit then
        let (significand, count, rest) := takeDigits (significand * 10 + digit) rest
        (significand, count + 1, rest)
      else (significand, 0, c :: rest)
    | none => (significand, 0, c :: rest)

def dropDigits : List Char → Nat × List Char
  | [] => (0, [])
  | c :: rest =>
    if c.isDigit then
      let (count, rest) := dropDigits rest
      (count + 1, rest)
    else (0, c :: rest)

def exponentLimit : Nat := 2147483647

/-- The digits of an exponent; without a value, and right after the digit that goes too far, if they
exceed the limit. -/
def takeExponent (exponent : Nat) : List Char → Option Nat × List Char
  | [] => (some exponent, [])
  | c :: rest =>
    match digit? c with
    | some digit =>
      if exponent * 10 + digit ≤ exponentLimit then takeExponent (exponent * 10 + digit) rest
      else (none, rest)
    | none => (some exponent, c :: rest)

def readFraction (significand : Nat) (rest : List Char) : Except Stop (Nat × Nat × List Char) :=
  let (significand, count, left) := takeDigits significand rest
  let (dropped, left) := dropDigits left
  if count + dropped = 0 then
    .error (match rest with
      | [] => .before .endInValue []
      | rest => .within .invalidNumber rest)
  else .ok (significand, count, left)

def realOf (negative : Bool) (significand : Nat) (exponent : Int) (rest : List Char) :
    Except Stop (Number × List Char) :=
  match Binary64.ofDecimal? negative significand exponent with
  | some value => .ok (.real value, rest)
  | none => .error (.before .numberOutOfRange rest)

/-- An exponent, after its letter, and with it the whole number. -/
def readExponent (negative : Bool) (significand : Nat) (exponent : Int) (rest : List Char) :
    Except Stop (Number × List Char) :=
  let (falling, rest) := match rest with
    | '+' :: rest => (false, rest)
    | '-' :: rest => (true, rest)
    | rest => (false, rest)
  if rest.isEmpty then .error (.before .endInValue [])
  else if !startsWithDigit rest then .error (.within .invalidNumber rest)
  else match takeExponent 0 rest with
    | (some shift, rest) => realOf negative significand (if falling then exponent - shift else exponent + shift) rest
    | (none, rest) =>
      if significand ≠ 0 ∧ falling = false then .error (.before .numberOutOfRange rest)
      else .ok (.real (.zero negative), (dropDigits rest).2)

/-- A number, after its sign. -/
def readNumeral (negative : Bool) (text : List Char) : Except Stop (Number × List Char) := do
  if text.isEmpty then throw (.before .endInValue [])
  if !startsWithDigit text then throw (.within .invalidNumber text)
  if text.head? = some '0' ∧ startsWithDigit text.tail then throw (.within .invalidNumber text.tail)
  let (significand, _, rest) := takeDigits 0 text
  let (dropped, rest) := dropDigits rest
  match rest with
  | '.' :: rest =>
    let (significand, count, rest) ← readFraction significand rest
    let exponent : Int := dropped - count
    match rest with
    | 'e' :: rest | 'E' :: rest => readExponent negative significand exponent rest
    | rest => realOf negative significand exponent rest
  | 'e' :: rest | 'E' :: rest => readExponent negative significand dropped rest
  | rest =>
    if dropped = 0 then return (Number.ofSigned negative significand, rest)
    else realOf negative significand dropped rest

end PageEditor.Json
