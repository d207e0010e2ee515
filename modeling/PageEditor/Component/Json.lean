import PageEditor.Component

/-!
The JSON form of components. A component is an object, or a list of its fields in a fixed order; of the
fields only `id` and `name` are mandatory. Members the editor does not know are passed over.
-/

namespace PageEditor.Component

inductive Field where
  | id
  | name
  | props
  | styles
  | desc
  | children
  | parent
deriving DecidableEq

namespace Field

def key : Field → String
  | .id => "id"
  | .name => "name"
  | .props => "props"
  | .styles => "styles"
  | .desc => "desc"
  | .children => "children"
  | .parent => "parentId"

/-- The order in which fields are written. -/
def all : List Field := [.id, .name, .props, .styles, .desc, .children, .parent]

def ofKey? (key : String) : Option Field := all.find? fun field => field.key = key

end Field

structure Draft where
  id : Option ComponentId
  name : Option String
  props : Dict PropValue
  styles : Option (Dict Json)
  desc : String
  children : Option Forest
  parent : Option ComponentId

namespace Draft

def blank : Draft := ⟨none, none, .empty, none, "", none, none⟩

def complete (draft : Draft) (id : ComponentId) (name : String) : Component :=
  ⟨id, name, draft.props, draft.styles, draft.desc, draft.children, draft.parent⟩

def finish (draft : Draft) : Except Json.Mismatch Component :=
  match draft.id, draft.name with
  | none, _ => .error (.missingField Field.id.key)
  | some _, none => .error (.missingField Field.name.key)
  | some id, some name => .ok (draft.complete id name)

/-- For a list of fields, where a missing one shows in the length. -/
def finishList (draft : Draft) (count : Nat) : Except Json.Mismatch Component :=
  if Field.all.length < count then .error (.tooManyFields count)
  else match draft.id, draft.name with
    | some id, some name => .ok (draft.complete id name)
    | _, _ => .error (.tooFewFields count .component Field.all.length)

end Draft

def idOfJson : Json → Except Json.Mismatch ComponentId
  | .number (.integer value fits) =>
    if value < 0 then .error (.invalidValue (.number (.integer value fits)) .unsigned)
    else .ok (UInt64.ofNat value.toNat)
  | value => .error (.unexpected value .unsigned)

def stringOfJson : Json → Except Json.Mismatch String
  | .string text => .ok text
  | value => .error (.unexpected value .string)

def membersOfJson : Json → Except Json.Mismatch (List (String × Json))
  | .object members => .ok members
  | value => .error (.unexpected value .map)

/-- Null stands for an absent field. -/
def nullable {α : Type} (decode : Json → Except Json.Mismatch α) : Json → Except Json.Mismatch (Option α)
  | .null => .ok none
  | value => some <$> decode value

def propsOfMembers (members : List (String × Json)) : Dict PropValue :=
  .ofEntries (members.map fun member => (member.1, PropValue.ofJson member.2))

/-- Sets any field but a list of children. -/
def Draft.setPlain (draft : Draft) (field : Field) (value : Json) : Except Json.Mismatch Draft :=
  match field with
  | .id => do return { draft with id := some (← idOfJson value) }
  | .name => do return { draft with name := some (← stringOfJson value) }
  | .props => do
    let members ← nullable membersOfJson value
    return { draft with props := propsOfMembers (members.getD []) }
  | .styles => do
    let members ← nullable membersOfJson value
    return { draft with styles := members.map Dict.ofEntries }
  | .desc => do return { draft with desc := (← nullable stringOfJson value).getD "" }
  | .children =>
    match value with
    | .null => .ok { draft with children := none }
    | value => .error (.unexpected value .sequence)
  | .parent => do return { draft with parent := ← nullable idOfJson value }

mutual

def ofJson : Json → Except Json.Mismatch Component
  | .object members => do (← setMembers .blank members).finish
  | .array items => do (← setFields Field.all .blank items).finishList items.length
  | value => .error (.unexpected value .component)

def setField (field : Field) (draft : Draft) : Json → Except Json.Mismatch Draft
  | .array items =>
    match field with
    | .children => do return { draft with children := some (← forestOfItems items) }
    | field => draft.setPlain field (.array items)
  | value => draft.setPlain field value

def setMembers (draft : Draft) : List (String × Json) → Except Json.Mismatch Draft
  | [] => .ok draft
  | (key, value) :: members =>
    match Field.ofKey? key with
    | some field => do setMembers (← setField field draft value) members
    | none => setMembers draft members

/-- Items beyond the last field are not looked at. -/
def setFields (fields : List Field) (draft : Draft) : List Json → Except Json.Mismatch Draft
  | [] => .ok draft
  | item :: items =>
    match fields with
    | [] => .ok draft
    | field :: fields => do setFields fields (← setField field draft item) items

def forestOfItems : List Json → Except Json.Mismatch Forest
  | [] => .ok []
  | item :: items => do return (← ofJson item) :: (← forestOfItems items)

end

def idToJson (id : ComponentId) : Json := .number (.ofId id)

def propsToJson (props : Dict PropValue) : Json :=
  .object (props.entries.map fun entry => (entry.1, entry.2.toJson))

def stylesToJson (styles : Dict Json) : Json := .object styles.entries

def membersWith (children : Option Json) (component : Component) : List (String × Json) :=
  [(Field.id.key, idToJson component.id), (Field.name.key, .string component.name),
    (Field.props.key, propsToJson component.props)]
    ++ (component.styles.map fun styles => (Field.styles.key, stylesToJson styles)).toList
    ++ (if component.desc.isEmpty then [] else [(Field.desc.key, .string component.desc)])
    ++ (children.map fun children => (Field.children.key, children)).toList
    ++ (component.parent.map fun parent => (Field.parent.key, idToJson parent)).toList

mutual

def toJson : Component → Json
  | ⟨id, name, props, styles, desc, some children, parent⟩ =>
    .object (membersWith (some (.array (itemsOfForest children))) ⟨id, name, props, styles, desc, none, parent⟩)
  | ⟨id, name, props, styles, desc, none, parent⟩ =>
    .object (membersWith none ⟨id, name, props, styles, desc, none, parent⟩)

def itemsOfForest : Forest → List Json
  | [] => []
  | component :: rest => component.toJson :: itemsOfForest rest

end

end PageEditor.Component
