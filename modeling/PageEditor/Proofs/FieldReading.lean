import Mathlib.Data.List.Nodup
import PageEditor.Proofs.OverlaidEntries
import PageEditor.Proofs.StableDecoding

/-!
Reading a component field by field. What is written for a field says by itself what the component has there, whatever
the other fields are, in whichever order they come and whether the component is written as an object or as a list.
-/

namespace PageEditor

namespace Component

/-- The place of a field in a component that is written as a list. -/
def Field.place (field : Field) : Nat := Field.all.idxOf field

theorem Field.mem_all (field : Field) : field ∈ Field.all := by cases field <;> decide

/-- What a value gives for a field. -/
def given? (field : Field) : Json → Option Json
  | .object members => members.lookup field.key
  | .array items => items[field.place]?
  | _ => none

/-- An object, or a list that goes on to the name and not beyond the last field. -/
inductive Form : Json → Prop where
  | object (members : List (String × Json)) : Form (.object members)
  | list {items : List Json} (few : 2 ≤ items.length) (many : items.length ≤ 7) : Form (.array items)

namespace Field

def Content : Field → Type
  | .id | .parent => Option ComponentId
  | .name => Option String
  | .props => Dict PropValue
  | .styles => Option (Dict Json)
  | .desc => String
  | .children => Option Forest

def readChildren : Json → Except Json.Mismatch (Option Forest)
  | .null => .ok none
  | .array items => some <$> forestOfItems items
  | value => .error (.unexpected value .sequence)

/-- What is made of the value that is written for a field. -/
def read : (field : Field) → Json → Except Json.Mismatch field.Content
  | .id => fun value => some <$> idOfJson value
  | .name => fun value => some <$> stringOfJson value
  | .props => fun value => (fun members => propsOfMembers (members.getD [])) <$> nullable membersOfJson value
  | .styles => fun value => Option.map Dict.ofEntries <$> nullable membersOfJson value
  | .desc => fun value => (·.getD "") <$> nullable stringOfJson value
  | .children => readChildren
  | .parent => nullable idOfJson

end Field

namespace Draft

def get (draft : Draft) : (field : Field) → field.Content
  | .id => draft.id
  | .name => draft.name
  | .props => draft.props
  | .styles => draft.styles
  | .desc => draft.desc
  | .children => draft.children
  | .parent => draft.parent

def put (draft : Draft) : (field : Field) → field.Content → Draft
  | .id => fun id => { draft with id }
  | .name => fun name => { draft with name }
  | .props => fun props => { draft with props }
  | .styles => fun styles => { draft with styles }
  | .desc => fun desc => { draft with desc }
  | .children => fun children => { draft with children }
  | .parent => fun parent => { draft with parent }

@[simp] theorem get_put (draft : Draft) (field : Field) (content : field.Content) :
    (draft.put field content).get field = content := by
  cases field <;> rfl

theorem get_put_of_ne (draft : Draft) {field other : Field} (different : other ≠ field) (content : field.Content) :
    (draft.put field content).get other = draft.get other := by
  cases field <;> cases other <;> first | rfl | exact absurd rfl different

theorem ext_get {first second : Draft} (same : ∀ field, first.get field = second.get field) : first = second := by
  obtain ⟨id, name, props, styles, desc, children, parent⟩ := first
  obtain rfl : id = second.id := same .id
  obtain rfl : name = second.name := same .name
  obtain rfl : props = second.props := same .props
  obtain rfl : styles = second.styles := same .styles
  obtain rfl : desc = second.desc := same .desc
  obtain rfl : children = second.children := same .children
  obtain rfl : parent = second.parent := same .parent
  rfl

end Draft

/-- A field is read on its own, whatever the draft it is put into. -/
theorem setField_eq (field : Field) (draft : Draft) (value : Json) :
    setField field draft value = draft.put field <$> field.read value := by
  by_cases nested : field = .children
  · subst nested
    cases value with
    | array items =>
      rw [setField, Field.read, Field.readChildren]
      cases forestOfItems items <;> rfl
    | null | bool | number | string | object => rfl
  · rw [setField_of_ne draft value nested]
    cases field with
    | children => exact absurd rfl nested
    | id =>
      simp only [Draft.setPlain, Field.read]
      cases idOfJson value <;> rfl
    | name =>
      simp only [Draft.setPlain, Field.read]
      cases stringOfJson value <;> rfl
    | props | styles =>
      simp only [Draft.setPlain, Field.read]
      cases nullable membersOfJson value <;> rfl
    | desc =>
      simp only [Draft.setPlain, Field.read]
      cases nullable stringOfJson value <;> rfl
    | parent =>
      simp only [Draft.setPlain, Field.read]
      cases nullable idOfJson value <;> rfl

theorem setField_eq_ok {field : Field} {draft next : Draft} {value : Json} :
    setField field draft value = .ok next ↔ ∃ content, field.read value = .ok content ∧ draft.put field content = next := by
  rw [setField_eq, map_eq_ok]

/-- Sets fields one after the other. -/
def assign (draft : Draft) : List (Field × Json) → Except Json.Mismatch Draft
  | [] => .ok draft
  | (field, value) :: pairs => do assign (← setField field draft value) pairs

/-- The members whose keys are those of fields. -/
def fieldMembers (members : List (String × Json)) : List (Field × Json) :=
  members.filterMap fun member => (Field.ofKey? member.1).map fun field => (field, member.2)

theorem setMembers_eq_assign (draft : Draft) (members : List (String × Json)) :
    setMembers draft members = assign draft (fieldMembers members) := by
  induction members generalizing draft with
  | nil => rfl
  | cons member rest ih =>
    obtain ⟨key, value⟩ := member
    rw [setMembers, fieldMembers, List.filterMap_cons]
    cases Field.ofKey? key with
    | none => exact ih draft
    | some field =>
      simp only [Option.map_some]
      rw [assign]
      exact bind_congr fun next => ih next

theorem setFields_eq_assign (fields : List Field) (draft : Draft) (items : List Json) :
    setFields fields draft items = assign draft (fields.zip items) := by
  induction items generalizing fields draft with
  | nil => cases fields <;> rw [setFields, List.zip_nil_right, assign]
  | cons item rest ih =>
    cases fields with
    | nil => rw [setFields, List.zip_nil_left, assign]
    | cons field fields =>
      rw [setFields, List.zip_cons_cons, assign]
      exact bind_congr fun next => ih fields next

/-- What a field holds for which something is given or not. -/
def Field.Holds (field : Field) (content default : field.Content) : Option Json → Prop
  | none => content = default
  | some value => field.read value = .ok content

/-- If every field is set at most once, each one ends up as what is given for it. -/
theorem assign_eq_ok_iff {pairs : List (Field × Json)} (distinct : (pairs.map Prod.fst).Nodup) {start final : Draft} :
    assign start pairs = .ok final ↔
      ∀ field : Field, field.Holds (final.get field) (start.get field) (pairs.lookup field) := by
  induction pairs generalizing start with
  | nil =>
    rw [assign]
    constructor
    · rintro ⟨⟩ field
      rfl
    · intro same
      rw [Draft.ext_get fun field => (same field).symm]
  | cons pair rest ih =>
    obtain ⟨field, value⟩ := pair
    obtain ⟨fresh, later⟩ := List.nodup_cons.mp distinct
    -- The field set first is not set again, so for the rest its content is the default.
    have absent : rest.lookup field = none := Entries.lookup_eq_none fresh
    have own : ((field, value) :: rest).lookup field = some value := List.lookup_cons_self
    simp only [assign, bind_eq_ok, setField_eq_ok]
    constructor
    · rintro ⟨_, ⟨content, read, rfl⟩, onward⟩ other
      have held := (ih later).mp onward other
      by_cases same : other = field
      · subst same
        rw [absent, Draft.get_put] at held
        obtain rfl : final.get other = content := held
        rw [own]
        exact read
      · rw [Draft.get_put_of_ne _ same] at held
        rwa [Entries.lookup_cons_of_ne same]
    · intro held
      have read := held field
      rw [own] at read
      refine ⟨_, ⟨final.get field, read, rfl⟩, (ih later).mpr fun other => ?_⟩
      by_cases same : other = field
      · subst same
        rw [absent, Draft.get_put]
        rfl
      · rw [Draft.get_put_of_ne _ same]
        have kept := held other
        rwa [Entries.lookup_cons_of_ne same] at kept

theorem Field.ofKey?_eq_some_iff {key : String} {field : Field} : Field.ofKey? key = some field ↔ key = field.key := by
  constructor
  · intro found
    have matched := List.find?_some (found : Field.all.find? _ = some field)
    exact (of_decide_eq_true matched).symm
  · rintro rfl
    exact Field.ofKey?_key field

theorem lookup_fieldMembers (field : Field) (members : List (String × Json)) :
    (fieldMembers members).lookup field = members.lookup field.key := by
  induction members with
  | nil => rfl
  | cons member rest ih =>
    obtain ⟨key, value⟩ := member
    rw [fieldMembers, List.filterMap_cons]
    cases known : Field.ofKey? key with
    | none =>
      have different : field.key ≠ key := by
        rintro rfl
        rw [Field.ofKey?_key] at known
        cases known
      rw [Entries.lookup_cons_of_ne different]
      exact ih
    | some other =>
      obtain rfl := Field.ofKey?_eq_some_iff.mp known
      by_cases same : field = other
      · subst same
        simp
      · have different : field.key ≠ other.key := by
          intro equal
          rw [← equal, Field.ofKey?_key] at known
          exact same (Option.some.inj known)
        rw [Entries.lookup_cons_of_ne different, Option.map_some]
        exact (Entries.lookup_cons_of_ne same).trans ih

theorem nodup_fieldMembers {members : List (String × Json)} (distinct : (Entries.keys members).Nodup) :
    ((fieldMembers members).map Prod.fst).Nodup := by
  have same : (fieldMembers members).map Prod.fst = (Entries.keys members).filterMap Field.ofKey? := by
    simp only [fieldMembers, Entries.keys, List.map_filterMap, List.filterMap_map]
    congr 1
    funext member
    simp only [Option.map_map, Function.comp_def, Option.map_id']
  rw [same]
  refine distinct.filterMap fun first second field own other => ?_
  rw [Option.mem_def, Field.ofKey?_eq_some_iff] at own other
  exact own.trans other.symm

theorem lookup_zip {field : Field} {fields : List Field} (member : field ∈ fields) (items : List Json) :
    (fields.zip items).lookup field = items[fields.idxOf field]? := by
  induction fields generalizing items with
  | nil => cases member
  | cons other fields ih =>
    cases items with
    | nil => simp
    | cons item items =>
      by_cases same : field = other
      · subst same
        simp
      · have different : other ≠ field := fun equal => same equal.symm
        have later : field ∈ fields := (List.mem_cons.mp member).resolve_left same
        rw [List.zip_cons_cons, Entries.lookup_cons_of_ne same, List.idxOf_cons_ne _ different, List.getElem?_cons_succ]
        exact ih later items

theorem fields_of_zip_sublist (fields : List Field) (items : List Json) :
    ((fields.zip items).map Prod.fst).Sublist fields := by
  induction fields generalizing items with
  | nil => exact .slnil
  | cons field fields ih =>
    cases items with
    | nil => exact List.nil_sublist _
    | cons item items => exact (ih items).cons_cons field

theorem Draft.finish_eq_ok_iff {draft : Draft} {component : Component} :
    draft.finish = .ok component ↔ draft = component.draft := by
  constructor
  · intro finished
    unfold Draft.finish at finished
    split at finished
    next => cases finished
    next => cases finished
    next id name givesId givesName =>
      obtain ⟨_, _, _, _, _, _, _⟩ := draft
      cases givesId
      cases givesName
      cases finished
      rfl
  · rintro rfl
    exact finish_draft component

theorem Draft.finishList_eq_ok_iff {draft : Draft} {count : Nat} {component : Component} :
    draft.finishList count = .ok component ↔ count ≤ 7 ∧ draft = component.draft := by
  unfold Draft.finishList
  by_cases many : Field.all.length < count
  · rw [if_pos many]
    have : ¬ count ≤ 7 := Nat.not_le_of_lt many
    simp [this]
  · have few : count ≤ 7 := Nat.le_of_not_lt many
    rw [if_neg many, ← Draft.finish_eq_ok_iff, and_iff_right few, Draft.finish]
    cases draft.id <;> cases draft.name <;> simp

/-- What a value gives for a field says by itself what the component has there. -/
theorem ofJson_eq_ok_iff {value : Json} (distinct : ∀ members, value = .object members → (Entries.keys members).Nodup)
    {component : Component} :
    ofJson value = .ok component ↔
      Form value ∧
        ∀ field : Field, field.Holds (component.draft.get field) (Draft.blank.get field) (given? field value) := by
  cases value with
  | object members =>
    have each : ∀ draft, setMembers .blank members = .ok draft ↔ ∀ field : Field,
        field.Holds (draft.get field) (Draft.blank.get field) (given? field (.object members)) := by
      intro draft
      rw [setMembers_eq_assign, assign_eq_ok_iff (nodup_fieldMembers (distinct members rfl))]
      simp only [lookup_fieldMembers, given?]
    simp only [ofJson, bind_eq_ok, Draft.finish_eq_ok_iff, exists_eq_right, each]
    exact (and_iff_right (.object members)).symm
  | array items =>
    have each : ∀ draft, setFields Field.all .blank items = .ok draft ↔ ∀ field : Field,
        field.Holds (draft.get field) (Draft.blank.get field) (given? field (.array items)) := by
      intro draft
      have once : Field.all.Nodup := by decide
      rw [setFields_eq_assign, assign_eq_ok_iff (once.sublist (fields_of_zip_sublist _ items))]
      refine forall_congr' fun field => ?_
      rw [lookup_zip (field.mem_all) items]
      rfl
    simp only [ofJson, bind_eq_ok, Draft.finishList_eq_ok_iff, each]
    constructor
    · rintro ⟨_, held, many, rfl⟩
      have few : 2 ≤ items.length := by
        have named := held .name
        by_contra short
        have missing : items[1]? = none := List.getElem?_eq_none (by omega)
        rw [show given? .name (.array items) = items[1]? from rfl, missing] at named
        cases named
      exact ⟨.list few many, held⟩
    · rintro ⟨form, held⟩
      cases form with
      | list few many => exact ⟨_, held, many, rfl⟩
  | null | bool | number | string =>
    refine iff_of_false (by simp [ofJson]) ?_
    rintro ⟨form, _⟩
    cases form

end Component

end PageEditor
