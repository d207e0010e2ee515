import PageEditor.Document
import PageEditor.Proofs.ForestInduction
import PageEditor.Proofs.StableValues

/-!
A page that was read is read again from what is written for it. Components can be written in two ways
and with fields left out, so there is no going back to the text that was read; but the components are
the same, with their props, styles, children and actions in order.
-/

namespace PageEditor

theorem bind_eq_ok {ε α β : Type} {first : Except ε α} {next : α → Except ε β} {result : β} :
    first >>= next = .ok result ↔ ∃ value, first = .ok value ∧ next value = .ok result := by
  cases first <;> simp [bind, Except.bind]

theorem map_eq_ok {ε α β : Type} {change : α → β} {value : Except ε α} {result : β} :
    change <$> value = .ok result ↔ ∃ content, value = .ok content ∧ change content = result := by
  cases value <;> simp [Functor.map, Except.map]

theorem eq_ok_of_toOption {ε α : Type} {value : Except ε α} {result : α} (taken : value.toOption = some result) :
    value = .ok result := by
  cases value with
  | error => cases taken
  | ok found => rw [Option.some.inj taken]

namespace Component

/-- Prop values that are read again as what they are. -/
def Stable (props : Dict PropValue) : Prop := ∀ entry ∈ props.entries, PropValue.ofJson entry.2.toJson = entry.2

theorem stable_propsOfMembers (members : List (String × Json)) : Stable (propsOfMembers members) := by
  intro entry member
  obtain ⟨source, _, rfl⟩ := List.mem_map.mp (Dict.mem_of_mem_ofEntries member)
  exact PropValue.ofJson_toJson_ofJson source.2

theorem propsOfMembers_of_stable {props : Dict PropValue} (stable : Stable props) :
    propsOfMembers (props.entries.map fun entry => (entry.1, entry.2.toJson)) = props := by
  have same : props.entries.map (fun entry => (entry.1, PropValue.ofJson entry.2.toJson)) = props.entries := by
    have kept : ∀ entry ∈ props.entries, (entry.1, PropValue.ofJson entry.2.toJson) = entry := by
      intro entry member
      rw [stable entry member]
    rw [List.map_congr_left kept, List.map_id']
  rw [propsOfMembers, List.map_map]
  exact (congrArg Dict.ofEntries same).trans (Dict.ofEntries_entries props)

def StablePage (page : Forest) : Prop := ∀ component ∈ Forest.preorder page, Stable component.props

theorem stablePage_nil : StablePage [] := by simp [StablePage]

@[simp] theorem stablePage_cons {component : Component} {rest : Forest} :
    StablePage (component :: rest) ↔ Stable component.props ∧ StablePage component.childList ∧ StablePage rest := by
  simp [StablePage, or_imp, forall_and]

theorem Field.ofKey?_key (field : Field) : Field.ofKey? field.key = some field := by cases field <;> rfl

theorem idOfJson_idToJson (id : ComponentId) : idOfJson (idToJson id) = .ok id := by
  simp [idToJson, idOfJson, Json.Number.ofId]

def draft (component : Component) : Draft :=
  ⟨some component.id, some component.name, component.props, component.styles, component.desc, component.children,
    component.parent⟩

theorem finish_draft (component : Component) : component.draft.finish = .ok component := by
  cases component
  rfl

section Members

variable {start : Draft}

theorem setMembers_cons {middle finished : Draft} {field : Field} {value : Json} {members : List (String × Json)}
    (set : setField field start value = .ok middle) (onward : setMembers middle members = .ok finished) :
    setMembers start ((field.key, value) :: members) = .ok finished := by
  rw [setMembers, Field.ofKey?_key]
  exact bind_eq_ok.mpr ⟨middle, set, onward⟩

/-- Members are read from left to right, each on top of those before it. -/
theorem setMembers_append {middle finished : Draft} {first second : List (String × Json)}
    (read : setMembers start first = .ok middle) (onward : setMembers middle second = .ok finished) :
    setMembers start (first ++ second) = .ok finished := by
  induction first generalizing start with
  | nil =>
    cases read
    exact onward
  | cons member rest ih =>
    obtain ⟨key, value⟩ := member
    rw [List.cons_append]
    unfold setMembers at read ⊢
    cases known : Field.ofKey? key with
    | none =>
      simp only [known] at read ⊢
      exact ih read
    | some field =>
      simp only [known, bind_eq_ok] at read ⊢
      obtain ⟨next, set, later⟩ := read
      exact ⟨next, set, ih later⟩

/-- A field that is written only where there is something to write. -/
theorem setMembers_optional {α : Type} {field : Field} {encode : α → Json} (written : Option α → Draft)
    (value : Option α) (absent : written none = start)
    (present : ∀ content, value = some content → setField field start (encode content) = .ok (written (some content))) :
    setMembers start (value.map fun content => (field.key, encode content)).toList = .ok (written value) := by
  cases value with
  | none => rw [absent]; rfl
  | some content => exact setMembers_cons (present content rfl) rfl

end Members

section Fields

variable (start : Draft)

theorem setField_of_ne (value : Json) {field : Field} (plain : field ≠ .children) :
    setField field start value = start.setPlain field value := by
  cases value with
  | array items => cases field <;> first | rfl | exact absurd rfl plain
  | null | bool | number | string | object => rfl

theorem setField_id (id : ComponentId) : setField .id start (idToJson id) = .ok { start with id := some id } := by
  rw [setField_of_ne _ _ (by decide), Draft.setPlain, idOfJson_idToJson]
  rfl

theorem setField_parent (parent : ComponentId) :
    setField .parent start (idToJson parent) = .ok { start with parent := some parent } := by
  change (do return { start with parent := ← some <$> idOfJson (idToJson parent) }) = _
  rw [idOfJson_idToJson]
  rfl

theorem setField_props {props : Dict PropValue} (stable : Stable props) :
    setField .props start (propsToJson props) = .ok { start with props := props } := by
  change Except.ok { start with props := propsOfMembers _ } = _
  rw [Option.getD_some, propsOfMembers_of_stable stable]

theorem setField_styles (styles : Dict Json) :
    setField .styles start (stylesToJson styles) = .ok { start with styles := some styles } := by
  change Except.ok { start with styles := some (Dict.ofEntries styles.entries) } = _
  rw [Dict.ofEntries_entries]

theorem setField_children {children : Forest} (again : forestOfItems (itemsOfForest children) = .ok children) :
    setField .children start (.array (itemsOfForest children)) = .ok { start with children := some children } := by
  rw [setField, again]
  rfl

end Fields

theorem setMembers_membersWith {component : Component} (stable : Stable component.props)
    (again : ∀ children, component.children = some children → forestOfItems (itemsOfForest children) = .ok children) :
    setMembers .blank (membersWith (component.children.map fun children => .array (itemsOfForest children)) component) =
      .ok component.draft := by
  obtain ⟨id, name, props, styles, desc, children, parent⟩ := component
  have mandatory : setMembers .blank
      [(Field.id.key, idToJson id), (Field.name.key, .string name), (Field.props.key, propsToJson props)] =
      .ok ⟨some id, some name, props, none, "", none, none⟩ :=
    setMembers_cons (setField_id _ id) (setMembers_cons rfl (setMembers_cons (setField_props _ stable) rfl))
  have styled := setMembers_optional (fun styles => ⟨some id, some name, props, styles, "", none, none⟩) styles rfl
    fun styles _ => setField_styles _ styles
  have described : setMembers ⟨some id, some name, props, styles, "", none, none⟩
      (if desc.isEmpty then [] else [(Field.desc.key, .string desc)]) =
      .ok ⟨some id, some name, props, styles, desc, none, none⟩ := by
    split
    next empty =>
      rw [String.isEmpty_iff.mp empty]
      rfl
    next => rfl
  have nested := setMembers_optional (fun children => ⟨some id, some name, props, styles, desc, children, none⟩) children
    rfl fun children present => setField_children _ (again children present)
  have placed := setMembers_optional (fun parent => ⟨some id, some name, props, styles, desc, children, parent⟩) parent rfl
    fun parent _ => setField_parent _ parent
  simp only [membersWith, Option.map_map]
  exact setMembers_append (setMembers_append (setMembers_append (setMembers_append mandatory styled) described) nested)
    placed

theorem toJson_eq (component : Component) :
    component.toJson =
      .object (membersWith (component.children.map fun children => .array (itemsOfForest children)) component) := by
  obtain ⟨id, name, props, styles, desc, children, parent⟩ := component
  cases children <;> simp [toJson, membersWith]

theorem ofJson_toJson_of_children {component : Component} (stable : Stable component.props)
    (again : ∀ children, component.children = some children → forestOfItems (itemsOfForest children) = .ok children) :
    ofJson component.toJson = .ok component := by
  rw [toJson_eq, ofJson, setMembers_membersWith stable again]
  exact finish_draft component

theorem forestOfItems_itemsOfForest {page : Forest} (stable : StablePage page) :
    forestOfItems (itemsOfForest page) = .ok page := by
  induction page using Forest.induct with
  | nil => rw [itemsOfForest, forestOfItems]
  | cons component rest below beside =>
    obtain ⟨own, deeper, later⟩ := stablePage_cons.mp stable
    have first : ofJson component.toJson = .ok component := by
      refine ofJson_toJson_of_children own fun children present => ?_
      have same : component.childList = children := by simp [childList, present]
      rw [same] at below deeper
      exact below deeper
    rw [itemsOfForest, forestOfItems, first, beside later]
    rfl

def Draft.Sound (draft : Draft) : Prop := Stable draft.props ∧ StablePage (draft.children.getD [])

theorem Draft.sound_blank : Draft.blank.Sound := by
  refine ⟨?_, stablePage_nil⟩
  intro entry member
  cases member

theorem stable_complete {draft : Draft} (sound : draft.Sound) (id : ComponentId) (name : String) :
    StablePage [draft.complete id name] := stablePage_cons.mpr ⟨sound.1, sound.2, stablePage_nil⟩

theorem Draft.eq_of_finish {draft : Draft} {component : Component} (finished : draft.finish = .ok component) :
    ∃ id name, component = draft.complete id name := by
  unfold Draft.finish at finished
  split at finished
  next => cases finished
  next => cases finished
  next id name _ _ => exact ⟨id, name, (Except.ok.inj finished).symm⟩

theorem Draft.eq_of_finishList {draft : Draft} {count : Nat} {component : Component}
    (finished : draft.finishList count = .ok component) : ∃ id name, component = draft.complete id name := by
  unfold Draft.finishList at finished
  split at finished
  next => cases finished
  next =>
    split at finished
    next id name _ _ => exact ⟨id, name, (Except.ok.inj finished).symm⟩
    next => cases finished

theorem sound_of_setPlain {draft next : Draft} (sound : draft.Sound) {field : Field} {value : Json}
    (set : draft.setPlain field value = .ok next) : next.Sound := by
  cases field with
  | children =>
    cases value <;> cases set
    exact ⟨sound.1, stablePage_nil⟩
  | props =>
    obtain ⟨members, _, answered⟩ := bind_eq_ok.mp set
    cases answered
    exact ⟨stable_propsOfMembers _, sound.2⟩
  | id | name | styles | desc | parent =>
    obtain ⟨_, _, answered⟩ := bind_eq_ok.mp set
    cases answered
    exact sound

mutual

theorem stable_of_ofJson : ∀ {value : Json} {component : Component}, ofJson value = .ok component → StablePage [component]
  | .object members, component, read => by
    rw [ofJson, bind_eq_ok] at read
    obtain ⟨draft, set, finished⟩ := read
    obtain ⟨id, name, rfl⟩ := draft.eq_of_finish finished
    exact stable_complete (sound_of_setMembers Draft.sound_blank set) id name
  | .array items, component, read => by
    rw [ofJson, bind_eq_ok] at read
    obtain ⟨draft, set, finished⟩ := read
    obtain ⟨id, name, rfl⟩ := draft.eq_of_finishList finished
    exact stable_complete (sound_of_setFields Draft.sound_blank set) id name
  | .null, _, read | .bool _, _, read | .number _, _, read | .string _, _, read => by simp [ofJson] at read

theorem sound_of_setField : ∀ {value : Json} {field : Field} {draft next : Draft}, draft.Sound →
    setField field draft value = .ok next → next.Sound
  | .array items, field, draft, next, sound, set => by
    by_cases nested : field = .children
    · rw [nested, setField, bind_eq_ok] at set
      obtain ⟨children, read, answered⟩ := set
      cases answered
      exact ⟨sound.1, stable_of_forestOfItems read⟩
    · rw [setField_of_ne draft (.array items) nested] at set
      exact sound_of_setPlain sound set
  | .null, _, _, _, sound, set | .bool _, _, _, _, sound, set | .number _, _, _, _, sound, set
  | .string _, _, _, _, sound, set | .object _, _, _, _, sound, set => sound_of_setPlain sound set

theorem sound_of_setMembers : ∀ {members : List (String × Json)} {draft next : Draft}, draft.Sound →
    setMembers draft members = .ok next → next.Sound
  | [], _, _, sound, set => by
    cases set
    exact sound
  | (key, value) :: members, draft, next, sound, set => by
    unfold setMembers at set
    split at set
    next field _ =>
      obtain ⟨middle, first, later⟩ := bind_eq_ok.mp set
      exact sound_of_setMembers (sound_of_setField sound first) later
    next => exact sound_of_setMembers sound set

theorem sound_of_setFields : ∀ {items : List Json} {fields : List Field} {draft next : Draft}, draft.Sound →
    setFields fields draft items = .ok next → next.Sound
  | [], _, _, _, sound, set => by
    rw [setFields] at set
    cases set
    exact sound
  | item :: items, [], _, _, sound, set => by
    rw [setFields] at set
    cases set
    exact sound
  | item :: items, field :: fields, draft, next, sound, set => by
    rw [setFields, bind_eq_ok] at set
    obtain ⟨middle, first, later⟩ := set
    exact sound_of_setFields (sound_of_setField sound first) later

theorem stable_of_forestOfItems : ∀ {items : List Json} {page : Forest}, forestOfItems items = .ok page → StablePage page
  | [], _, read => by
    rw [forestOfItems] at read
    cases read
    exact stablePage_nil
  | item :: items, page, read => by
    rw [forestOfItems, bind_eq_ok] at read
    obtain ⟨component, first, read⟩ := read
    obtain ⟨rest, others, answered⟩ := bind_eq_ok.mp read
    cases answered
    obtain ⟨own, deeper, _⟩ := stablePage_cons.mp (stable_of_ofJson first)
    exact stablePage_cons.mpr ⟨own, deeper, stable_of_forestOfItems others⟩

end

end Component

namespace Document

/-- Whatever page a value is read as, the value written for that page is read as the same page, and so
it is with prop values and with actions; those the editor could make nothing of are written as they stood. -/
theorem decode_encode_stable :
    (∀ value page, forestOfJson value = .ok page → forestOfJson (forestToJson page) = .ok page) ∧
      (∀ value, PropValue.ofJson (PropValue.ofJson value).toJson = PropValue.ofJson value) ∧
      (∀ value, Action.ofJson (Action.ofJson value).toJson = Action.ofJson value) ∧
      (∀ value kept, PropValue.ofJson value = .unsupported kept → (PropValue.ofJson value).toJson = value) ∧
      ∀ value kept, Action.ofJson value = .unsupported kept → (Action.ofJson value).toJson = value := by
  refine ⟨?_, PropValue.ofJson_toJson_ofJson, Action.ofJson_toJson_ofJson, fun _ _ => PropValue.toJson_of_unsupported,
    fun _ _ => Action.toJson_of_unsupported⟩
  intro value page read
  cases value with
  | array items =>
    cases decoded : Component.forestOfItems items with
    | error => simp [forestOfJson, decoded, mapError_error] at read
    | ok forest =>
      have same : forest = page := by simpa [forestOfJson, decoded, mapError_ok] using read
      have stable := Component.stable_of_forestOfItems decoded
      rw [← same, forestToJson, forestOfJson, Component.forestOfItems_itemsOfForest stable]
      rfl
  | null | bool | number | string | object => cases read

/-- A call that is spelled as a list, next to something that is no action. -/
def savedActions : Json :=
  .object [("actions", .array [
    .object [("config", .array [.number (.ofId 7), .string "open"]), ("type", .string "componentMethod")], .null])]

/-- A row given as a list of its fields, with a child given as an object. -/
def rowFields : Json :=
  .array [.array [.number (.ofId 7), .string "Row", .object [("gap", .string "S"), ("span", .number (.ofId 2))], .null,
    .null, .array [.object [
      ("parentId", .number (.ofId 7)), ("name", .string "Button"), ("id", .number (.ofId 8)),
      ("props", .object [("onClick", savedActions), ("gap", .object []),
        ("text", .object [("value", .string "label"), ("type", .bool true), ("kept", .null)])])]]]]

def rowPage : Forest :=
  [⟨7, "Row", ⟨[("gap", .literal (.string "S")), ("span", .literal (.number (.ofId 2)))], by decide⟩, none, "",
    some [⟨8, "Button",
      ⟨[("onClick", .actions [.callMethod 7 "open", .unsupported .null]), ("gap", .unsupported (.object [])),
        ("text", .bound ⟨"true", .string "label"⟩)], by decide⟩,
      none, "", none, some 7⟩], none⟩]

theorem decode_encode_stable_row :
    forestOfJson rowFields = .ok rowPage ∧ forestOfJson (forestToJson rowPage) = .ok rowPage ∧
      forestToJson rowPage ≠ rowFields ∧
      (PropValue.ofJson (.object [])).toJson = .object [] ∧ (Action.ofJson .null).toJson = .null := by
  have read : forestOfJson rowFields = .ok rowPage := by rfl
  obtain ⟨pages, _, _, props, actions⟩ := decode_encode_stable
  refine ⟨read, pages rowFields rowPage read, ?_, props (.object []) (.object []) rfl, actions .null .null rfl⟩
  decide +kernel

end Document

end PageEditor
