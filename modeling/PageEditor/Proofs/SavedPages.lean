import PageEditor.Proofs.OverlaidEntries
import PageEditor.Proofs.ReadNesting

/-!
A page that was read from a text is read again, and is the same page, from the text it is saved as. What
is saved may hold more than what was read, since a component is always written with its props, be there
any or not. It is still never nested too deep: a component takes two levels, its own and that of the list
it stands in, and the limit leaves one more level below the deepest component that can be read.
-/

namespace PageEditor

namespace Json

variable {depth : Nat}

theorem Plain.items {items : List Json} (plain : Plain depth (.array items)) :
    ∃ below, depth = below + 1 ∧ ∀ item ∈ items, Plain below item := by
  cases plain with
  | array each => exact ⟨_, rfl, each⟩

theorem Plain.members {members : List (String × Json)} (plain : Plain depth (.object members)) :
    ∃ below, depth = below + 1 ∧ ∀ member ∈ members, Plain below member.2 := by
  cases plain with
  | object _ each => exact ⟨_, rfl, each⟩

/-- A value that a decoder of containers takes has a level of its own. -/
theorem Plain.deeper {α : Type} {decode : Json → Option α} {value : Json} {result : α} (plain : Plain depth value)
    (decoded : decode value = some result) (null : decode .null = none) (bool : ∀ flag, decode (.bool flag) = none)
    (number : ∀ own, decode (.number own) = none) (string : ∀ text, decode (.string text) = none) :
    ∃ below, depth = below + 1 := by
  cases plain with
  | array | object => exact ⟨_, rfl⟩
  | null => cases null.symm.trans decoded
  | bool flag => cases (bool flag).symm.trans decoded
  | integer own fits => cases (number _).symm.trans decoded
  | string text => cases (string text).symm.trans decoded

theorem plain_of_lookup {members : List (String × Json)} (each : ∀ member ∈ members, Plain depth member.2)
    {key : String} {value : Json} (found : members.lookup key = some value) : Plain depth value :=
  each (key, value) (Entries.mem_of_lookup found)

end Json

open Json (Plain)

namespace Action

variable {depth : Nat}

theorem plain_configured (below : Nat) {first second : String × Json} (distinct : first.1 ≠ second.1)
    (plainFirst : Plain below first.2) (plainSecond : Plain below second.2) (kind : String) :
    Plain (below + 2) (.object [("type", .string kind), ("config", .object [first, second])]) := by
  refine .object (by simp [Entries.keys]) (List.forall_mem_cons.mpr ⟨.string kind, List.forall_mem_singleton.mpr ?_⟩)
  refine .object (by simpa [Entries.keys] using distinct) ?_
  exact List.forall_mem_cons.mpr ⟨plainFirst, List.forall_mem_singleton.mpr plainSecond⟩

/-- An action that was understood is written no deeper than it was read. -/
theorem plain_of_decode? {members : List (String × Json)} {action : Action}
    (decoded : decode? (.object members) = some action) (each : ∀ member ∈ members, Plain depth member.2) :
    Plain (depth + 1) action.toJson := by
  simp only [decode?] at decoded
  split at decoded
  next kind _ =>
    simp only [Option.bind_eq_bind] at decoded
    split at decoded
    · simp only [Option.bind_eq_some_iff] at decoded
      obtain ⟨config, found, ⟨target, method⟩, configured, answered⟩ := decoded
      cases answered
      have plain := Json.plain_of_lookup each found
      obtain ⟨below, rfl⟩ := plain.deeper configured rfl (fun _ => rfl) (fun _ => rfl) fun _ => rfl
      exact plain_configured below (by simp) (.integer ..) (.string method) "componentMethod"
    · split at decoded
      · simp only [domOperation?, Option.bind_eq_bind, Option.bind_eq_some_iff] at decoded
        obtain ⟨_, _, _, _, ⟨_, _⟩, _, target, _, operation, _, answered⟩ := decoded
        cases answered
        refine .object (by simp [Entries.keys]) ?_
        simp only [List.forall_mem_cons]
        exact ⟨.string _, .integer .., .string _, List.forall_mem_nil _⟩
      · split at decoded
        · simp only [Option.bind_eq_some_iff] at decoded
          obtain ⟨config, found, ⟨known, text⟩, configured, answered⟩ := decoded
          cases answered
          have plain := Json.plain_of_lookup each found
          obtain ⟨below, rfl⟩ := plain.deeper configured rfl (fun _ => rfl) (fun _ => rfl) fun _ => rfl
          exact plain_configured below (by simp) (.string known.name) (.string text) "showMessage"
        · cases decoded
  next => cases decoded

theorem plain_toJson {value : Json} (plain : Plain depth value) : Plain depth (ofJson value).toJson := by
  cases decoded : decode? value with
  | none => simpa [ofJson, decoded, toJson] using plain
  | some action =>
    have read : ofJson value = action := by simp [ofJson, decoded]
    rw [read]
    cases value with
    | object members =>
      obtain ⟨below, rfl, each⟩ := plain.members
      exact plain_of_decode? decoded each
    | null | bool | number | string | array => cases decoded

end Action

namespace PropValue

variable {depth : Nat}

theorem plain_toJson {value : Json} (plain : Plain depth value) : Plain depth (ofJson value).toJson := by
  cases value with
  | null | bool | number | string | array => exact plain
  | object members =>
    obtain ⟨below, rfl, each⟩ := plain.members
    rw [ofJson]
    unfold ofMembers
    split
    next items found =>
      obtain ⟨deeper, rfl, plainItems⟩ := (Json.plain_of_lookup each found).items
      refine .object (by simp [Entries.keys]) (List.forall_mem_singleton.mpr (.array ?_))
      intro written member
      simp only [List.map_map, List.mem_map] at member
      obtain ⟨item, present, rfl⟩ := member
      exact Action.plain_toJson (plainItems item present)
    next =>
      split
      next kind bound _ found =>
        refine .object (by simp [Entries.keys]) ?_
        exact List.forall_mem_cons.mpr ⟨.string _, List.forall_mem_singleton.mpr (Json.plain_of_lookup each found)⟩
      next => exact plain

end PropValue

namespace Component

/-- What stands below a component that is written, each of them two levels further in. -/
structure Draft.Fits (depth : Nat) (draft : Draft) : Prop where
  props : ∀ entry ∈ draft.props.entries, Plain depth entry.2.toJson
  styles : ∀ styles ∈ draft.styles, ∀ entry ∈ styles.entries, Plain depth entry.2
  children : ∀ children ∈ draft.children, ∀ item ∈ itemsOfForest children, Plain depth item

variable {depth : Nat}

theorem nodup_keys_membersWith (children : Option Json) (component : Component) :
    (Entries.keys (membersWith children component)).Nodup := by
  have optional : ∀ {α : Type} (field : Field) (encode : α → Json) (value : Option α),
      (Entries.keys (value.map fun content => (field.key, encode content)).toList).Sublist [field.key] := by
    intro α field encode value
    cases value with
    | none => exact List.nil_sublist _
    | some content => exact List.Sublist.refl _
  have described :
      (Entries.keys (if component.desc.isEmpty then [] else [(Field.desc.key, Json.string component.desc)])).Sublist
        [Field.desc.key] := by
    split
    next => exact List.nil_sublist _
    next => exact List.Sublist.refl _
  have written : (Entries.keys (membersWith children component)).Sublist (Field.all.map Field.key) := by
    simp only [membersWith, Entries.keys, List.map_append]
    exact ((((List.Sublist.refl [Field.id.key, Field.name.key, Field.props.key]).append
      (optional .styles stylesToJson component.styles)).append described).append
      (optional .children (fun children => children) children)).append (optional .parent idToJson component.parent)
  exact written.nodup (by decide)

theorem plain_toJson {component : Component} (fits : component.draft.Fits depth) :
    Plain (depth + 2) component.toJson := by
  rw [toJson_eq]
  refine .object (nodup_keys_membersWith ..) ?_
  intro member present
  simp only [membersWith, List.mem_append, List.mem_cons, List.not_mem_nil, or_false, Option.mem_toList,
    Option.map_eq_some_iff] at present
  rcases present with (((((rfl | rfl | rfl) | ⟨styles, styled, rfl⟩) | described) | ⟨_, ⟨children, nested, rfl⟩, rfl⟩) |
    ⟨parent, _, rfl⟩)
  · exact .integer ..
  · exact .string component.name
  · refine .object ?_ ?_
    · rw [Entries.keys, List.map_map]
      exact component.props.distinct
    · intro member present
      obtain ⟨entry, own, rfl⟩ := List.mem_map.mp present
      exact fits.props entry own
  · exact .object styles.distinct (fits.styles styles styled)
  · split at described
    next => cases described
    next =>
      obtain rfl := List.mem_singleton.mp described
      exact .string component.desc
  · exact .array (fits.children children nested)
  · exact .integer ..

theorem Draft.fits_blank : Draft.blank.Fits depth where
  props := List.forall_mem_nil _
  styles := nofun
  children := nofun

theorem Draft.Fits.complete {draft : Draft} (fits : draft.Fits depth) (id : ComponentId) (name : String) :
    Plain (depth + 2) (draft.complete id name).toJson := by
  apply plain_toJson
  exact ⟨fits.props, fits.styles, fits.children⟩

theorem plain_of_nullable {value : Json} (plain : Plain (depth + 1) value) {members : List (String × Json)}
    (read : nullable membersOfJson value = .ok (some members)) : ∀ member ∈ members, Plain depth member.2 := by
  cases value with
  | object own =>
    cases read
    obtain ⟨below, same, each⟩ := plain.members
    obtain rfl := Nat.succ.inj same
    exact each
  | null | bool | number | string | array => cases read

theorem Draft.Fits.setPlain {draft next : Draft} (fits : draft.Fits depth) {field : Field} {value : Json}
    (plain : Plain (depth + 1) value) (set : draft.setPlain field value = .ok next) : next.Fits depth := by
  cases field with
  | children =>
    cases value <;> cases set
    refine ⟨fits.props, fits.styles, ?_⟩
    intro page present
    cases present
  | props =>
    obtain ⟨members, read, answered⟩ := bind_eq_ok.mp set
    cases answered
    refine ⟨?_, fits.styles, fits.children⟩
    intro entry member
    obtain ⟨source, present, rfl⟩ := List.mem_map.mp (Dict.mem_of_mem_ofEntries member)
    cases members with
    | none => cases present
    | some members => exact PropValue.plain_toJson (plain_of_nullable plain read source present)
  | styles =>
    obtain ⟨members, read, answered⟩ := bind_eq_ok.mp set
    cases answered
    refine ⟨fits.props, ?_, fits.children⟩
    intro styles styled entry member
    obtain ⟨source, rfl, rfl⟩ := Option.map_eq_some_iff.mp styled
    exact plain_of_nullable plain read entry (Dict.mem_of_mem_ofEntries member)
  | id | name | desc | parent =>
    obtain ⟨_, _, answered⟩ := bind_eq_ok.mp set
    cases answered
    exact ⟨fits.props, fits.styles, fits.children⟩

-- Two levels are one component: what it was read from may be a list of fields, and is written as an object.

mutual

theorem plain_of_ofJson : ∀ {value : Json} {component : Component} {level : Nat}, ofJson value = .ok component →
    Plain (2 * level) value → Plain (2 * level) component.toJson
  | .object members, component, level, read, plain => by
    obtain ⟨below, deeper, each⟩ := plain.members
    obtain ⟨level, rfl⟩ := Nat.exists_eq_succ_of_ne_zero (n := level) (by omega)
    obtain rfl : below = 2 * level + 1 := by omega
    rw [ofJson, bind_eq_ok] at read
    obtain ⟨draft, set, finished⟩ := read
    obtain ⟨id, name, rfl⟩ := draft.eq_of_finish finished
    exact (fits_of_setMembers Draft.fits_blank set each).complete id name
  | .array items, component, level, read, plain => by
    obtain ⟨below, deeper, each⟩ := plain.items
    obtain ⟨level, rfl⟩ := Nat.exists_eq_succ_of_ne_zero (n := level) (by omega)
    obtain rfl : below = 2 * level + 1 := by omega
    rw [ofJson, bind_eq_ok] at read
    obtain ⟨draft, set, finished⟩ := read
    obtain ⟨id, name, rfl⟩ := draft.eq_of_finishList finished
    exact (fits_of_setFields Draft.fits_blank set each).complete id name
  | .null, _, _, read, _ | .bool _, _, _, read, _ | .number _, _, _, read, _ | .string _, _, _, read, _ => by
    simp [ofJson] at read

theorem fits_of_setField : ∀ {value : Json} {field : Field} {draft next : Draft} {level : Nat},
    draft.Fits (2 * level) → setField field draft value = .ok next → Plain (2 * level + 1) value → next.Fits (2 * level)
  | .array items, field, draft, next, level, fits, set, plain => by
    by_cases nested : field = .children
    · rw [nested, setField, bind_eq_ok] at set
      obtain ⟨children, read, answered⟩ := set
      cases answered
      obtain ⟨below, same, each⟩ := plain.items
      obtain rfl := Nat.succ.inj same
      refine ⟨fits.props, fits.styles, ?_⟩
      intro page present
      cases present
      exact plain_of_forestOfItems read each
    · rw [setField_of_ne draft (.array items) nested] at set
      exact fits.setPlain plain set
  | .null, _, _, _, _, fits, set, plain | .bool _, _, _, _, _, fits, set, plain
  | .number _, _, _, _, _, fits, set, plain | .string _, _, _, _, _, fits, set, plain
  | .object _, _, _, _, _, fits, set, plain => fits.setPlain plain set

theorem fits_of_setMembers : ∀ {members : List (String × Json)} {draft next : Draft} {level : Nat},
    draft.Fits (2 * level) → setMembers draft members = .ok next →
      (∀ member ∈ members, Plain (2 * level + 1) member.2) → next.Fits (2 * level)
  | [], _, _, _, fits, set, _ => by
    cases set
    exact fits
  | (key, value) :: members, draft, next, level, fits, set, each => by
    obtain ⟨plain, others⟩ := List.forall_mem_cons.mp each
    unfold setMembers at set
    split at set
    next field _ =>
      obtain ⟨middle, first, later⟩ := bind_eq_ok.mp set
      exact fits_of_setMembers (fits_of_setField fits first plain) later others
    next => exact fits_of_setMembers fits set others

theorem fits_of_setFields : ∀ {items : List Json} {fields : List Field} {draft next : Draft} {level : Nat},
    draft.Fits (2 * level) → setFields fields draft items = .ok next →
      (∀ item ∈ items, Plain (2 * level + 1) item) → next.Fits (2 * level)
  | [], _, _, _, _, fits, set, _ => by
    rw [setFields] at set
    cases set
    exact fits
  | item :: items, [], _, _, _, fits, set, _ => by
    rw [setFields] at set
    cases set
    exact fits
  | item :: items, field :: fields, draft, next, level, fits, set, each => by
    obtain ⟨plain, others⟩ := List.forall_mem_cons.mp each
    rw [setFields, bind_eq_ok] at set
    obtain ⟨middle, first, later⟩ := set
    exact fits_of_setFields (fits_of_setField fits first plain) later others

theorem plain_of_forestOfItems : ∀ {items : List Json} {page : Forest} {level : Nat}, forestOfItems items = .ok page →
    (∀ item ∈ items, Plain (2 * level) item) → ∀ item ∈ itemsOfForest page, Plain (2 * level) item
  | [], _, _, read, _ => by
    rw [forestOfItems] at read
    cases read
    rw [itemsOfForest]
    exact List.forall_mem_nil _
  | item :: items, page, level, read, each => by
    obtain ⟨plain, others⟩ := List.forall_mem_cons.mp each
    rw [forestOfItems, bind_eq_ok] at read
    obtain ⟨component, first, read⟩ := read
    obtain ⟨rest, later, answered⟩ := bind_eq_ok.mp read
    cases answered
    rw [itemsOfForest]
    exact List.forall_mem_cons.mpr ⟨plain_of_ofJson first plain, plain_of_forestOfItems later others⟩

end

end Component

namespace Document

theorem forestOfJson_array_eq_ok_iff {items : List Json} {page : Forest} :
    forestOfJson (.array items) = .ok page ↔ Component.forestOfItems items = .ok page := by
  rw [forestOfJson]
  cases Component.forestOfItems items <;> simp [mapError_ok, mapError_error]

theorem forestOfJson_eq_ok {value : Json} {page : Forest} (read : forestOfJson value = .ok page) :
    ∃ items, value = .array items ∧ Component.forestOfItems items = .ok page := by
  cases value with
  | array items => exact ⟨items, rfl, forestOfJson_array_eq_ok_iff.mp read⟩
  | null | bool | number | string | object => cases read

theorem forestOfJson_forestToJson {page : Forest} (stable : Component.StablePage page) :
    forestOfJson (forestToJson page) = .ok page := by
  rw [forestToJson, forestOfJson, Component.forestOfItems_itemsOfForest stable]
  rfl

theorem parse_of_json {text : String} {value : Json} (parsed : Json.parse text = .ok value) :
    parse text = forestOfJson value := by
  rw [parse, parsed]
  rfl

/-- Whatever text a page was read from, with every number in it whole, the text that the page is saved as
is read as the same page. -/
theorem parse_render_of_parse {text : String} {source : Json} {page : Forest} (parsed : Json.parse text = .ok source)
    (whole : source.Whole) (read : parse text = .ok page) : parse (render page) = .ok page := by
  rw [parse_of_json parsed] at read
  obtain ⟨items, rfl, decoded⟩ := forestOfJson_eq_ok read
  obtain ⟨below, deeper, each⟩ := (Json.plain_of_parse parsed whole).items
  -- Of the 127 levels the list of components takes one, and 63 components fit into the others.
  have shallow : ∀ item ∈ items, Plain (2 * 63) item := by
    obtain rfl : below = 2 * 63 := (Nat.succ.inj deeper).symm
    exact each
  have written : Plain Json.depthLimit (forestToJson page) := .array (Component.plain_of_forestOfItems decoded shallow)
  rw [render, parse_of_json (Json.parse_pretty written)]
  exact forestOfJson_forestToJson (Component.stable_of_forestOfItems decoded)

/-- The fields of a row in a list, with a child given as an object in which a key is repeated. -/
def savedRowText : String :=
  "[[7,\"R\\u00e9\\\\\",null,\x7b\x7d,null, [\x7b\"name\":\"\", \"id\":8, \"name\":\"\\t\\\"\",\n\"children\":[]\x7d]]]"

def savedRowSource : Json :=
  .array [.array [.number (.ofId 7), .string "Ré\\", .null, .object [], .null,
    .array [.object [("name", .string "\t\""), ("id", .number (.ofId 8)), ("children", .array [])]]]]

def savedRow : Forest :=
  [⟨7, "Ré\\", .empty, some .empty, "", some [⟨8, "\t\"", .empty, none, "", some [], none⟩], none⟩]

theorem parse_render_savedRow :
    Json.parse savedRowText = .ok savedRowSource ∧ savedRowSource.Whole ∧ parse savedRowText = .ok savedRow ∧
      parse (render savedRow) = .ok savedRow := by
  have parsed : Json.parse savedRowText = .ok savedRowSource := eq_ok_of_toOption (by decide +kernel)
  have whole : savedRowSource.Whole := by
    refine .array (List.forall_mem_singleton.mpr (.array ?_))
    simp only [List.forall_mem_cons]
    refine ⟨.integer .., .string _, .null, .object (List.forall_mem_nil _), .null, .array ?_, List.forall_mem_nil _⟩
    refine List.forall_mem_singleton.mpr (.object ?_)
    simp only [List.forall_mem_cons]
    exact ⟨.string _, .integer .., .array (List.forall_mem_nil _), List.forall_mem_nil _⟩
  have read : parse savedRowText = .ok savedRow := (parse_of_json parsed).trans rfl
  exact ⟨parsed, whole, read, parse_render_of_parse parsed whole read⟩

end Document

end PageEditor
