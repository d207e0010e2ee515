import Mathlib.Data.List.Forall2
import PageEditor.Proofs.ActionShapes
import PageEditor.Proofs.FieldReading
import PageEditor.Proofs.SavedPages

/-!
The values that are read as components: those that give for each field something of its kind, children that are again
such values among them. A component that is written as a list of its fields can as well be written as an object; it is
the same component, and it makes no difference to the page it is in.
-/

namespace PageEditor

namespace Json

/-- No object inside the value repeats a key. -/
inductive WellFormed : Json → Prop where
  | null : WellFormed .null
  | bool (value : Bool) : WellFormed (.bool value)
  | number (value : Number) : WellFormed (.number value)
  | string (text : String) : WellFormed (.string text)
  | array {items : List Json} (each : ∀ item ∈ items, WellFormed item) : WellFormed (.array items)
  | object {members : List (String × Json)} (distinct : (Entries.keys members).Nodup)
      (each : ∀ member ∈ members, WellFormed member.2) : WellFormed (.object members)

end Json

namespace Component

open Json (Optional ofId)

/-- A component and how it is written: an id and a name, and the other fields, which may be missing or null. -/
inductive Describes : Json → Component → Prop where
  | node {value : Json} {component : Component} {members : Option (List (String × Json))} {text : Option String}
      {items : Option (List Json)} (form : Form value)
      (id : given? .id value = some (ofId component.id))
      (name : given? .name value = some (.string component.name))
      (givesProps : Optional .object (given? .props value) members)
      (props : component.props.entries = (members.getD []).map fun member => (member.1, PropValue.ofJson member.2))
      (styles : Optional .object (given? .styles value) (component.styles.map Dict.entries))
      (givesDesc : Optional .string (given? .desc value) text)
      (desc : component.desc = text.getD "")
      (givesChildren : Optional .array (given? .children value) items)
      (children : Option.Rel (List.Forall₂ Describes) items component.children)
      (parent : Optional ofId (given? .parent value) component.parent) : Describes value component

theorem idOfJson_eq_ok_iff {value : Json} {id : ComponentId} : idOfJson value = .ok id ↔ value = ofId id := by
  rw [← Json.id?_eq_some_iff]
  unfold idOfJson
  split
  next => simp [Json.id?]; split <;> simp_all
  next => cases value <;> simp_all [Json.id?]

theorem stringOfJson_eq_ok_iff {value : Json} {text : String} : stringOfJson value = .ok text ↔ value = .string text := by
  cases value <;> simp [stringOfJson]

theorem membersOfJson_eq_ok_iff {value : Json} {members : List (String × Json)} :
    membersOfJson value = .ok members ↔ value = .object members := by
  cases value <;> simp [membersOfJson]

section Nullable

variable {α : Type} {decode : Json → Except Json.Mismatch α} {write : α → Json}
  (exact : ∀ value content, decode value = .ok content ↔ value = write content) (solid : ∀ content, write content ≠ .null)

include exact solid

theorem nullable_eq_ok_iff {value : Json} {content : Option α} :
    nullable decode value = .ok content ↔ Optional write (some value) content := by
  constructor
  · intro decoded
    unfold nullable at decoded
    split at decoded
    next =>
      cases decoded
      exact .null
    next =>
      obtain ⟨own, read, rfl⟩ := map_eq_ok.mp decoded
      rw [(exact _ own).mp read]
      exact .given own
  · intro given
    cases given with
    | null => rfl
    | given own =>
      unfold nullable
      split
      next isNull => exact absurd isNull (solid own)
      next => exact map_eq_ok.mpr ⟨own, (exact _ own).mpr rfl, rfl⟩

/-- A field that may be missing or null is made of what is given, if anything is. -/
theorem Field.holds_iff (field : Field) (fill : Option α → field.Content)
    (reads : ∀ value, field.read value = fill <$> nullable decode value) {content : field.Content}
    {given : Option Json} :
    field.Holds content (fill none) given ↔ ∃ source, Optional write given source ∧ content = fill source := by
  cases given with
  | none =>
    constructor
    · intro same
      exact ⟨none, .missing, same⟩
    · rintro ⟨_, ⟨⟩, same⟩
      exact same
  | some value =>
    rw [Field.Holds, reads, map_eq_ok]
    simp only [nullable_eq_ok_iff exact solid, eq_comm]

end Nullable

section Fields

variable {given : Option Json}

theorem Field.holds_id_iff {id : ComponentId} :
    Field.Holds .id (some id) (Draft.blank.get .id) given ↔ given = some (ofId id) := by
  cases given with
  | none => simp [Field.Holds, Draft.get, Draft.blank]
  | some value =>
    change some <$> idOfJson value = .ok (some id) ↔ _
    simp [map_eq_ok, idOfJson_eq_ok_iff]

theorem Field.holds_name_iff {name : String} :
    Field.Holds .name (some name) (Draft.blank.get .name) given ↔ given = some (.string name) := by
  cases given with
  | none => simp [Field.Holds, Draft.get, Draft.blank]
  | some value =>
    change some <$> stringOfJson value = .ok (some name) ↔ _
    simp [map_eq_ok, stringOfJson_eq_ok_iff]

theorem Field.holds_props_iff {props : Dict PropValue} (sound : ∀ value, given = some value → value.WellFormed) :
    Field.Holds .props props (Draft.blank.get .props) given ↔
      ∃ members, Optional .object given members ∧
        props.entries = (members.getD []).map fun member => (member.1, PropValue.ofJson member.2) := by
  have filled : Field.Holds .props props (Draft.blank.get .props) given ↔
      ∃ members, Optional .object given members ∧ props = propsOfMembers (members.getD []) :=
    Field.holds_iff (fun _ _ => membersOfJson_eq_ok_iff) (fun _ => by simp) .props
      (fun members => propsOfMembers (members.getD [])) fun _ => rfl
  refine filled.trans (exists_congr fun members => and_congr_right fun gives => Dict.eq_ofEntries_iff ?_)
  rw [Entries.keys, List.map_map]
  cases gives with
  | missing | null => exact List.nodup_nil
  | given members =>
    cases sound _ rfl with
    | object distinct each => exact distinct

theorem Field.holds_styles_iff {styles : Option (Dict Json)} (sound : ∀ value, given = some value → value.WellFormed) :
    Field.Holds .styles styles (Draft.blank.get .styles) given ↔ Optional .object given (styles.map Dict.entries) := by
  have filled : Field.Holds .styles styles (Draft.blank.get .styles) given ↔
      ∃ members, Optional .object given members ∧ styles = members.map Dict.ofEntries :=
    Field.holds_iff (fun _ _ => membersOfJson_eq_ok_iff) (fun _ => by simp) .styles (Option.map Dict.ofEntries)
      fun _ => rfl
  refine filled.trans ⟨?_, fun gives => ⟨_, gives, ?_⟩⟩
  · rintro ⟨members, gives, rfl⟩
    cases gives with
    | missing => exact .missing
    | null => exact .null
    | given members =>
      cases sound _ rfl with
      | object distinct each =>
        rw [Option.map_some, Option.map_some, Dict.entries_ofEntries distinct]
        exact .given members
  · cases styles with
    | none => rfl
    | some own => exact congrArg some (Dict.ofEntries_entries own).symm

theorem Field.holds_desc_iff {desc : String} :
    Field.Holds .desc desc (Draft.blank.get .desc) given ↔
      ∃ text, Optional .string given text ∧ desc = text.getD "" :=
  Field.holds_iff (fun _ _ => stringOfJson_eq_ok_iff) (fun _ => by simp) .desc (·.getD "") fun _ => rfl

theorem Field.holds_parent_iff {parent : Option ComponentId} :
    Field.Holds .parent parent (Draft.blank.get .parent) given ↔ Optional ofId given parent := by
  cases given with
  | none =>
    constructor
    · rintro ⟨⟩
      exact .missing
    · rintro ⟨⟩
      rfl
  | some value => exact nullable_eq_ok_iff (fun _ _ => idOfJson_eq_ok_iff) fun _ => by simp [ofId]

/-- The children are what the list is read as, be it empty or not. -/
theorem Field.holds_children_iff {children : Option Forest}
    (exact : ∀ items, given = some (.array items) →
      ∀ page, forestOfItems items = .ok page ↔ List.Forall₂ Describes items page) :
    Field.Holds .children children (Draft.blank.get .children) given ↔
      ∃ items, Optional .array given items ∧ Option.Rel (List.Forall₂ Describes) items children := by
  constructor
  · intro held
    cases given with
    | none =>
      obtain rfl : children = none := held
      exact ⟨none, .missing, .none⟩
    | some value =>
      have read : readChildren value = .ok children := held
      cases value with
      | null =>
        cases read
        exact ⟨none, .null, .none⟩
      | array items =>
        obtain ⟨page, listed, rfl⟩ := map_eq_ok.mp read
        exact ⟨some items, .given items, .some ((exact items rfl page).mp listed)⟩
      | bool | number | string | object => cases read
  · rintro ⟨items, gives, related⟩
    cases gives with
    | missing | null =>
      cases related
      rfl
    | given items =>
      cases related with
      | some described => exact map_eq_ok.mpr ⟨_, (exact items rfl _).mpr described, rfl⟩

end Fields

theorem wellFormed_of_given {value own : Json} (sound : value.WellFormed) {field : Field}
    (gives : given? field value = some own) : own.WellFormed := by
  cases sound with
  | array each => exact each own (List.mem_of_getElem? gives)
  | object distinct each => exact each (field.key, own) (Entries.mem_of_lookup gives)
  | null | bool | number | string => cases gives

theorem ofJson_eq_ok_iff_describes {value : Json} (sound : value.WellFormed)
    (below : ∀ items, given? .children value = some (.array items) →
      ∀ page, forestOfItems items = .ok page ↔ List.Forall₂ Describes items page) {component : Component} :
    ofJson value = .ok component ↔ Describes value component := by
  have distinct : ∀ members, value = .object members → (Entries.keys members).Nodup := by
    rintro members rfl
    cases sound with
    | object distinct each => exact distinct
  have solid (field : Field) : ∀ own, given? field value = some own → own.WellFormed :=
    fun _ gives => wellFormed_of_given sound gives
  rw [ofJson_eq_ok_iff distinct]
  constructor
  · rintro ⟨form, held⟩
    obtain ⟨members, givesProps, props⟩ := (Field.holds_props_iff (solid .props)).mp (held .props)
    obtain ⟨text, givesDesc, desc⟩ := Field.holds_desc_iff.mp (held .desc)
    obtain ⟨items, givesChildren, children⟩ := (Field.holds_children_iff below).mp (held .children)
    exact .node form (Field.holds_id_iff.mp (held .id)) (Field.holds_name_iff.mp (held .name)) givesProps props
      ((Field.holds_styles_iff (solid .styles)).mp (held .styles)) givesDesc desc givesChildren children
      (Field.holds_parent_iff.mp (held .parent))
  · rintro ⟨form, id, name, givesProps, props, styles, givesDesc, desc, givesChildren, children, parent⟩
    refine ⟨form, fun field => ?_⟩
    cases field with
    | id => exact Field.holds_id_iff.mpr id
    | name => exact Field.holds_name_iff.mpr name
    | props => exact (Field.holds_props_iff (solid .props)).mpr ⟨_, givesProps, props⟩
    | styles => exact (Field.holds_styles_iff (solid .styles)).mpr styles
    | desc => exact Field.holds_desc_iff.mpr ⟨_, givesDesc, desc⟩
    | children => exact (Field.holds_children_iff below).mpr ⟨_, givesChildren, children⟩
    | parent => exact Field.holds_parent_iff.mpr parent

theorem forestOfItems_eq_ok_iff_of_each {items : List Json}
    (each : ∀ item ∈ items, ∀ component, ofJson item = .ok component ↔ Describes item component) {page : Forest} :
    forestOfItems items = .ok page ↔ List.Forall₂ Describes items page := by
  induction items generalizing page with
  | nil => simp [forestOfItems, eq_comm]
  | cons item items ih =>
    obtain ⟨own, others⟩ := List.forall_mem_cons.mp each
    simp only [forestOfItems, bind_eq_ok, own, ih others, List.forall₂_cons_left_iff]
    constructor
    · rintro ⟨component, described, rest, later, ⟨⟩⟩
      exact ⟨component, rest, described, later, rfl⟩
    · rintro ⟨component, rest, described, later, rfl⟩
      exact ⟨component, described, rest, later, rfl⟩

/-- The induction is on the value, since a component is described by what its children are described by. -/
theorem ofJson_exact_of_wellFormed {value : Json} (sound : value.WellFormed) :
    (∀ component, ofJson value = .ok component ↔ Describes value component) ∧
      ∀ items, value = .array items → ∀ page, forestOfItems items = .ok page ↔ List.Forall₂ Describes items page := by
  induction sound with
  | null | bool | number | string =>
    refine ⟨fun component => ofJson_eq_ok_iff_describes (by constructor) ?_, ?_⟩
    · rintro items ⟨⟩
    · rintro items ⟨⟩
  | array each ih =>
    refine ⟨fun component => ofJson_eq_ok_iff_describes (.array each) fun items gives => ?_, ?_⟩
    · exact (ih _ (List.mem_of_getElem? gives)).2 items rfl
    · rintro items ⟨⟩ page
      exact forestOfItems_eq_ok_iff_of_each fun item member => (ih item member).1
  | object distinct each ih =>
    refine ⟨fun component => ofJson_eq_ok_iff_describes (.object distinct each) fun items gives => ?_, ?_⟩
    · exact (ih _ (Entries.mem_of_lookup gives)).2 items rfl
    · rintro items ⟨⟩

theorem forestOfItems_eq_ok_iff {items : List Json} (sound : (Json.array items).WellFormed) {page : Forest} :
    forestOfItems items = .ok page ↔ List.Forall₂ Describes items page :=
  (ofJson_exact_of_wellFormed sound).2 items rfl page

/-- What is given for a field if it is not null. -/
def filled? (field : Field) (value : Json) : Option Json := (given? field value).filter (· ≠ .null)

/-- Another way to write a value in which one component, at whatever depth, is given as an object instead of a list of
its fields. -/
inductive Respelled : Json → Json → Prop where
  | fields {items : List Json} {members : List (String × Json)} {component : Component}
      (listed : (Json.array items).WellFormed) (described : Describes (.array items) component)
      (keyed : (Json.object members).WellFormed)
      (same : ∀ field, filled? field (.object members) = filled? field (.array items)) :
      Respelled (.array items) (.object members)
  | inList {front before after behind : List Json} {item other : Json} (place : front.length = Field.children.place)
      (inner : Respelled item other) :
      Respelled (.array (front ++ .array (before ++ item :: after) :: behind))
        (.array (front ++ .array (before ++ other :: after) :: behind))
  | inObject {front behind : List (String × Json)} {before after : List Json} {item other : Json}
      (inner : Respelled item other) :
      Respelled (.object (front ++ (Field.children.key, .array (before ++ item :: after)) :: behind))
        (.object (front ++ (Field.children.key, .array (before ++ other :: after)) :: behind))

theorem optional_iff_filter {α : Type} {write : α → Json} (solid : ∀ content, write content ≠ .null)
    {given : Option Json} {content : Option α} :
    Optional write given content ↔ given.filter (· ≠ .null) = content.map write := by
  constructor
  · rintro (_ | _ | own)
    · rfl
    · rfl
    · simp [solid own]
  · intro same
    cases content with
    | some own =>
      obtain ⟨rfl, _⟩ := Option.filter_eq_some_iff.mp same
      exact .given own
    | none =>
      cases given with
      | none => exact .missing
      | some value =>
        obtain rfl : value = .null := by simpa using same
        exact .null

/-- A component is told by what is given for its fields, where null is as good as nothing. -/
theorem Describes.of_filled {value other : Json} {component : Component} (described : Describes value component)
    (form : Form other) (same : ∀ field, filled? field other = filled? field value) : Describes other component := by
  have optional {α : Type} {write : α → Json} (solid : ∀ content, write content ≠ .null) {field : Field}
      {content : Option α} (gives : Optional write (given? field value) content) :
      Optional write (given? field other) content :=
    (optional_iff_filter solid).mpr ((same field).trans ((optional_iff_filter solid).mp gives))
  have mandatory {field : Field} {own : Json} (solid : own ≠ .null) (gives : given? field value = some own) :
      given? field other = some own := by
    have filled : filled? field value = some own := by simp [filled?, gives, solid]
    exact (Option.filter_eq_some_iff.mp ((same field).trans filled)).1
  obtain ⟨_, id, name, givesProps, props, styles, givesDesc, desc, givesChildren, children, parent⟩ := described
  exact .node form (mandatory (by simp [ofId]) id) (mandatory (by simp) name) (optional (by simp) givesProps) props
    (optional (by simp) styles) (optional (by simp) givesDesc) desc (optional (by simp) givesChildren) children
    (optional (by simp [ofId]) parent)

theorem assign_congr {field : Field} {value other : Json} (same : field.read value = field.read other)
    (start : Draft) (front behind : List (Field × Json)) :
    assign start (front ++ (field, value) :: behind) = assign start (front ++ (field, other) :: behind) := by
  induction front generalizing start with
  | nil => simp only [List.nil_append, assign, setField_eq, same]
  | cons pair front ih =>
    rw [List.cons_append, List.cons_append, assign, assign]
    exact bind_congr fun next => ih next

theorem forestOfItems_congr {item other : Json} (same : ofJson item = ofJson other) (before after : List Json) :
    forestOfItems (before ++ item :: after) = forestOfItems (before ++ other :: after) := by
  induction before with
  | nil => simp only [List.nil_append, forestOfItems, same]
  | cons first before ih => simp only [List.cons_append, forestOfItems, ih]

theorem read_children_congr {item other : Json} (same : ofJson item = ofJson other) (before after : List Json) :
    Field.read .children (.array (before ++ item :: after)) = Field.read .children (.array (before ++ other :: after)) :=
  congrArg (some <$> ·) (forestOfItems_congr same before after)

/-- A component that is given as an object is read as the same one, wherever it stands, and what is wrong elsewhere is
as wrong as before. -/
theorem ofJson_respelled {item other : Json} (respelled : Respelled item other) : ofJson item = ofJson other := by
  induction respelled with
  | @fields items members component listed described keyed same =>
    have first := ((ofJson_exact_of_wellFormed listed).1 component).mpr described
    have second := ((ofJson_exact_of_wellFormed keyed).1 component).mpr (described.of_filled (.object members) same)
    exact first.trans second.symm
  | @inList front before after behind item other place _ ih =>
    -- Five fields stand before the children, whatever is given for them.
    have spread (children : Json) : Field.all.zip (front ++ children :: behind) =
        [Field.id, .name, .props, .styles, .desc].zip front ++ (.children, children) :: [Field.parent].zip behind := by
      have split : Field.all = [.id, .name, .props, .styles, .desc] ++ [.children, .parent] := rfl
      have even : [Field.id, .name, .props, .styles, .desc].length = front.length := place.symm
      rw [split, List.zip_append even]
      rfl
    have same := assign_congr (read_children_congr ih before after) .blank
    simp only [ofJson, setFields_eq_assign, spread, same, List.length_append, List.length_cons]
  | @inObject front behind before after item other _ ih =>
    have spread (children : Json) : fieldMembers (front ++ (Field.children.key, children) :: behind) =
        fieldMembers front ++ (.children, children) :: fieldMembers behind := by
      simp [fieldMembers, Field.ofKey?_key]
    have same := assign_congr (read_children_congr ih before after) .blank
    simp only [ofJson, setMembers_eq_assign, spread, same]

end Component

namespace Json

theorem wellFormed_of_parse {text : String} {value : Json} (parsed : parse text = .ok value) : value.WellFormed := by
  obtain ⟨rest, taken, _⟩ := readAll_eq_ok.mp parsed
  refine readValue_induct (motive := fun _ value => value.WellFormed) ?_ .array .object taken
  intro _ value scalar
  cases value with
  | null => exact .null
  | bool value => exact .bool value
  | number value => exact .number value
  | string text => exact .string text
  | array | object => exact scalar.elim

end Json

namespace Document

/-- A list is read as a page exactly if each of its items describes a component, and the page then has these components
in their order. To give one of them as an object, at whatever depth, instead of a list of its fields changes nothing. -/
theorem forestOfJson_exact :
    (∀ items, (Json.array items).WellFormed →
      ∀ page, forestOfJson (.array items) = .ok page ↔ List.Forall₂ Component.Describes items page) ∧
      (∀ before item other after, Component.Respelled item other →
        forestOfJson (.array (before ++ item :: after)) = forestOfJson (.array (before ++ other :: after))) ∧
      ∀ text items, Json.parse text = .ok (.array items) →
        ∀ page, parse text = .ok page ↔ List.Forall₂ Component.Describes items page := by
  have exact : ∀ items, (Json.array items).WellFormed →
      ∀ page, forestOfJson (.array items) = .ok page ↔ List.Forall₂ Component.Describes items page := by
    intro items sound page
    rw [← Component.forestOfItems_eq_ok_iff sound, forestOfJson_array_eq_ok_iff]
  refine ⟨exact, ?_, ?_⟩
  · intro before item other after respelled
    rw [forestOfJson, forestOfJson, Component.forestOfItems_congr (Component.ofJson_respelled respelled)]
  · intro text items parsed page
    rw [parse_of_json parsed]
    exact exact items (Json.wellFormed_of_parse parsed) page

def labelFields : Json := .array [Json.ofId 8, .string "Label", .null, .object []]

def labelMembers : Json := .object [("styles", .object []), ("name", .string "Label"), ("kept", .null), ("id", Json.ofId 8)]

/-- A row with a label in it that is written in one way or another. -/
def rowAround (label : Json) : Json :=
  .array [Json.ofId 7, .string "Row", .object [("gap", .string "S")], .null, .string "top", .array [label]]

def labelPage : Forest :=
  [⟨7, "Row", ⟨[("gap", .literal (.string "S"))], by decide⟩, none, "top",
    some [⟨8, "Label", .empty, some .empty, "", none, none⟩], none⟩]

def labelText : String :=
  "[[7, \"Row\", \x7b\"gap\": \"S\"\x7d, null, \"top\", [\x7b\"styles\": \x7b\x7d, \"name\": \"Label\", \"kept\": null, \"id\": 8\x7d]]]"

theorem forestOfJson_exact_row :
    (Json.array [rowAround labelFields]).WellFormed ∧
      forestOfJson (.array [rowAround labelFields]) = .ok labelPage ∧
      List.Forall₂ Component.Describes [rowAround labelFields] labelPage ∧
      Component.Respelled (rowAround labelFields) (rowAround labelMembers) ∧
      forestOfJson (.array [rowAround labelFields]) = forestOfJson (.array [rowAround labelMembers]) ∧
      Json.parse labelText = .ok (.array [rowAround labelMembers]) ∧ parse labelText = .ok labelPage := by
  have listed : labelFields.WellFormed := by
    refine .array ?_
    simp only [List.forall_mem_cons]
    exact ⟨.number _, .string _, .null, .object List.nodup_nil (List.forall_mem_nil _), List.forall_mem_nil _⟩
  have keyed : labelMembers.WellFormed := by
    refine .object (by decide) ?_
    simp only [List.forall_mem_cons]
    exact ⟨.object List.nodup_nil (List.forall_mem_nil _), .string _, .null, .number _, List.forall_mem_nil _⟩
  have around {label : Json} (sound : label.WellFormed) : (Json.array [rowAround label]).WellFormed := by
    refine .array (List.forall_mem_singleton.mpr (.array ?_))
    simp only [List.forall_mem_cons]
    exact ⟨.number _, .string _, .object (by decide) (List.forall_mem_singleton.mpr (.string _)), .null, .string _,
      .array (List.forall_mem_singleton.mpr sound), List.forall_mem_nil _⟩
  have described : List.Forall₂ Component.Describes [labelFields] [⟨8, "Label", .empty, some .empty, "", none, none⟩] :=
    (forestOfJson_exact.1 [labelFields] (.array (List.forall_mem_singleton.mpr listed)) _).mp rfl
  have respelled : Component.Respelled (rowAround labelFields) (rowAround labelMembers) := by
    obtain ⟨own, -⟩ := List.forall₂_cons.mp described
    refine @Component.Respelled.inList [_, _, _, _, _] [] [] [] _ _ rfl (.fields listed own keyed fun field => ?_)
    cases field <;> rfl
  have read : forestOfJson (.array [rowAround labelFields]) = .ok labelPage := rfl
  have same : forestOfJson (.array [rowAround labelFields]) = forestOfJson (.array [rowAround labelMembers]) :=
    forestOfJson_exact.2.1 [] _ _ [] respelled
  have parsed : Json.parse labelText = .ok (.array [rowAround labelMembers]) := eq_ok_of_toOption (by decide +kernel)
  refine ⟨around listed, read, (forestOfJson_exact.1 _ (around listed) _).mp read, respelled, same, parsed, ?_⟩
  have keyedRow := (forestOfJson_exact.1 _ (around keyed) labelPage).mp (same.symm.trans read)
  exact (forestOfJson_exact.2.2 labelText _ parsed labelPage).mpr keyedRow

end Document

end PageEditor
