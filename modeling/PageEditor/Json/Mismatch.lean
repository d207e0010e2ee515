import PageEditor.Json.Writer
import PageEditor.Text.Printable

/-!
Mismatches: well-formed values of another shape than the one wanted.
-/

namespace PageEditor.Json

inductive Wanted where
  | unsigned
  | string
  | boolean
  | map
  | sequence
  | component
  | options
deriving DecidableEq

def Wanted.text : Wanted → String
  | .unsigned => "u64"
  | .string => "a string"
  | .boolean => "a boolean"
  | .map => "a map"
  | .sequence => "a sequence"
  | .component => "struct ComponentNode"
  | .options => "struct GeneratorOptions"

inductive Found where
  | null
  | boolean (value : Bool)
  | number (value : Number)
  | string (text : String)
  | sequence
  | map
deriving DecidableEq

namespace Found

def ofJson : Json → Found
  | .null => .null
  | .bool value => .boolean value
  | .number value => .number value
  | .string text => .string text
  | .array _ => .sequence
  | .object _ => .map

def text : Found → String
  | .null => "null"
  | .boolean value => "boolean `" ++ toString value ++ "`"
  | .number (.integer value fits) => "integer `" ++ (Number.integer value fits).text ++ "`"
  | .number (.real value) => "floating point `" ++ (Number.real value).text ++ "`"
  | .string text => "string " ++ Text.quotedForMessage text
  | .sequence => "sequence"
  | .map => "map"

end Found

inductive Mismatch where
  | invalidType (found : Found) (wanted : Wanted)
  /-- Of the wanted type, but out of its range. -/
  | invalidValue (found : Found) (wanted : Wanted)
  | missingField (name : String)
  | duplicateField (name : String)
  /-- A list of fields that lacks a mandatory one. -/
  | tooFewFields (count : Nat) (wanted : Wanted) (fields : Nat)
  | tooManyFields (count : Nat)
deriving DecidableEq

namespace Mismatch

def message : Mismatch → String
  | .invalidType found wanted => "invalid type: " ++ found.text ++ ", expected " ++ wanted.text
  | .invalidValue found wanted => "invalid value: " ++ found.text ++ ", expected " ++ wanted.text
  | .missingField name => "missing field `" ++ name ++ "`"
  | .duplicateField name => "duplicate field `" ++ name ++ "`"
  | .tooFewFields count wanted fields =>
    "invalid length " ++ toString count ++ ", expected " ++ wanted.text ++ " with " ++ toString fields ++ " elements"
  | .tooManyFields count => "invalid length " ++ toString count ++ ", expected fewer elements in array"

def unexpected (value : Json) (wanted : Wanted) : Mismatch := .invalidType (Found.ofJson value) wanted

end Mismatch

end PageEditor.Json
