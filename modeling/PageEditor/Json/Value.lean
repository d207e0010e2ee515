import PageEditor.Dict
import PageEditor.Json.Number

/-!
JSON values. The members of an object keep the order in which they were written. Equality is decided
by walking two values side by side.
-/

namespace PageEditor

inductive Json where
  | null
  | bool (value : Bool)
  | number (value : Json.Number)
  | string (text : String)
  | array (items : List Json)
  | object (members : List (String × Json))

namespace Json

mutual

def same : Json → Json → Bool
  | .null, .null => true
  | .bool left, .bool right => left == right
  | .number left, .number right => left == right
  | .string left, .string right => left == right
  | .array left, .array right => sameItems left right
  | .object left, .object right => sameMembers left right
  | _, _ => false

def sameItems : List Json → List Json → Bool
  | [], [] => true
  | left :: lefts, right :: rights => same left right && sameItems lefts rights
  | _, _ => false

def sameMembers : List (String × Json) → List (String × Json) → Bool
  | [], [] => true
  | (key, left) :: lefts, (other, right) :: rights =>
    key == other && same left right && sameMembers lefts rights
  | _, _ => false

end

mutual

theorem same_iff : ∀ left right : Json, same left right = true ↔ left = right
  | .null, right => by cases right <;> simp [same]
  | .bool _, right => by cases right <;> simp [same]
  | .number _, right => by cases right <;> simp [same]
  | .string _, right => by cases right <;> simp [same]
  | .array left, right => by cases right <;> simp [same, sameItems_iff left]
  | .object left, right => by cases right <;> simp [same, sameMembers_iff left]

theorem sameItems_iff : ∀ left right : List Json, sameItems left right = true ↔ left = right
  | [], right => by cases right <;> simp [sameItems]
  | first :: rest, right => by cases right <;> simp [sameItems, same_iff first, sameItems_iff rest]

theorem sameMembers_iff : ∀ left right : List (String × Json), sameMembers left right = true ↔ left = right
  | [], right => by cases right <;> simp [sameMembers]
  | (key, value) :: rest, right => by
    cases right <;> simp [sameMembers, same_iff value, sameMembers_iff rest, Prod.ext_iff, and_assoc]

end

instance : DecidableEq Json := fun left right => decidable_of_iff _ (same_iff left right)

def string? : Json → Option String
  | .string text => some text
  | _ => none

def id? : Json → Option UInt64
  | .number (.integer value _) => if value < 0 then none else some (UInt64.ofNat value.toNat)
  | _ => none

end Json

end PageEditor
