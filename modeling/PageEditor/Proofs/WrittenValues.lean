import PageEditor.Proofs.ContainerSteps

/-!
Values that can be read back from what is written for them: their numbers are whole, the keys of each
object are distinct, and no more containers stand inside one another than the reader allows. The layout
does not matter as long as it adds nothing but blanks.
-/

namespace PageEditor.Json

/-- No number in the value was read as a double. -/
inductive Whole : Json → Prop where
  | null : Whole .null
  | bool (value : Bool) : Whole (.bool value)
  | integer (value : Int) (fits : FitsWord value) : Whole (.number (.integer value fits))
  | string (text : String) : Whole (.string text)
  | array {items : List Json} (each : ∀ item ∈ items, Whole item) : Whole (.array items)
  | object {members : List (String × Json)} (each : ∀ member ∈ members, Whole member.2) : Whole (.object members)

/-- A value to be read back with at most `depth` containers inside one another. -/
inductive Plain : Nat → Json → Prop where
  | null {depth : Nat} : Plain depth .null
  | bool {depth : Nat} (value : Bool) : Plain depth (.bool value)
  | integer {depth : Nat} (value : Int) (fits : FitsWord value) : Plain depth (.number (.integer value fits))
  | string {depth : Nat} (text : String) : Plain depth (.string text)
  | array {depth : Nat} {items : List Json} (each : ∀ item ∈ items, Plain depth item) :
      Plain (depth + 1) (.array items)
  | object {depth : Nat} {members : List (String × Json)} (distinct : (Entries.keys members).Nodup)
      (each : ∀ member ∈ members, Plain depth member.2) : Plain (depth + 1) (.object members)

/-- A layout that adds nothing but blanks. -/
structure Layout.Blank (layout : Layout) : Prop where
  newline : ∀ level, Blanks (layout.newline level)
  colon : ∃ blanks, layout.colon = ':' :: blanks ∧ Blanks blanks

theorem Layout.blank_compact : Layout.compact.Blank where
  newline _ := blanks_nil
  colon := ⟨[], rfl, blanks_nil⟩

theorem Layout.blank_pretty : Layout.pretty.Blank where
  newline := by
    intro level c member
    rcases List.mem_cons.mp member with rfl | later
    · rfl
    · obtain rfl := List.eq_of_mem_replicate later
      rfl
  colon := ⟨[' '], rfl, by simp [Blanks, isBlank]⟩

theorem opens_integer {value : Int} (fits : FitsWord value) : Opens (Number.integer value fits).chars := by
  by_cases negative : value < 0
  · exact ⟨'-', Number.digits value.natAbs, by simp [Number.chars, negative], rfl, by decide⟩
  · cases written : Number.digits value.natAbs with
    | nil => exact absurd written Nat.toDigits_ne_nil
    | cons c digits =>
      have member : c ∈ Number.digits value.natAbs := by simp [written]
      rw [Number.chars, if_neg negative, written]
      exact opens_digit (isDigit_of_mem_digits member) digits

namespace Layout.Blank

variable {layout : Layout} (blank : layout.Blank) (level : Nat)

/-- An item as a layout writes it. -/
def item (value : List Char) : WrittenItem where
  before := layout.newline level
  value := value
  after := []
  blankBefore := blank.newline level
  blankAfter := blanks_nil

theorem blanks_tail_colon (blank : layout.Blank) : Blanks layout.colon.tail := by
  obtain ⟨blanks, colon, spaced⟩ := blank.colon
  rwa [colon]

def member (key : String) (value : List Char) : WrittenMember where
  before := layout.newline level
  key := key.toList.flatMap escaped
  gap := []
  item := ⟨layout.colon.tail, value, [], blank.blanks_tail_colon, blanks_nil⟩
  blankBefore := blank.newline level
  keyBody := (spells_flatMap_escaped key.toList).stringBody
  blankGap := blanks_nil

/-- The items of a list, as a layout writes them. -/
def items (items : List Json) : List WrittenItem := items.map fun item => blank.item level (layout.write level item)

def members (members : List (String × Json)) : List WrittenMember :=
  members.map fun member => blank.member level member.1 (layout.write level member.2)

theorem text_item (value : List Char) : (blank.item level value).text = layout.newline level ++ value := by
  simp [WrittenItem.text, item]

theorem text_member (key : String) (value : List Char) :
    (blank.member level key value).text = layout.newline level ++ (quoted key ++ (layout.colon ++ value)) := by
  obtain ⟨blanks, colon, _⟩ := blank.colon
  simp [WrittenMember.text, WrittenItem.text, member, quoted, colon]

theorem items_cons (item : Json) (items : List Json) :
    blank.items level (item :: items) = blank.item level (layout.write level item) :: blank.items level items := rfl

theorem members_cons (member : String × Json) (members : List (String × Json)) :
    blank.members level (member :: members) =
      blank.member level member.1 (layout.write level member.2) :: blank.members level members := rfl

end Layout.Blank

section Layout

variable {layout : Layout} (blank : layout.Blank) (level : Nat)

theorem writeItems_eq (items : List Json) :
    layout.writeItems level items = ((blank.items level items).map WrittenItem.text).flatMap (',' :: ·) := by
  induction items with
  | nil => rw [Layout.writeItems]; rfl
  | cons item items ih =>
    rw [Layout.writeItems, ih, blank.items_cons, List.map_cons, List.flatMap_cons, blank.text_item, List.cons_append]

theorem writeMembers_eq (members : List (String × Json)) :
    layout.writeMembers level members = ((blank.members level members).map WrittenMember.text).flatMap (',' :: ·) := by
  induction members with
  | nil => rw [Layout.writeMembers]; rfl
  | cons member members ih =>
    rw [Layout.writeMembers, ih, blank.members_cons, List.map_cons, List.flatMap_cons, blank.text_member]
    simp only [List.cons_append, List.append_assoc]

theorem write_array_eq (items : List Json) :
    ∃ gap, Blanks gap ∧ layout.write level (.array items) = listText (blank.items (level + 1) items) gap := by
  cases items with
  | nil => exact ⟨[], blanks_nil, by rw [Layout.write]; rfl⟩
  | cons item items =>
    refine ⟨layout.newline level, blank.newline level, ?_⟩
    rw [Layout.write, writeItems_eq blank, listText, blank.items_cons, List.map_cons, bracketed_cons, blank.text_item,
      onward]
    simp only [List.cons_append, List.append_assoc]

theorem write_object_eq (members : List (String × Json)) :
    ∃ gap, Blanks gap ∧ layout.write level (.object members) = objectText (blank.members (level + 1) members) gap := by
  cases members with
  | nil => exact ⟨[], blanks_nil, by rw [Layout.write]; rfl⟩
  | cons member members =>
    refine ⟨layout.newline level, blank.newline level, ?_⟩
    rw [Layout.write, writeMembers_eq blank, objectText, blank.members_cons, List.map_cons, bracketed_cons,
      blank.text_member, onward]
    simp only [List.cons_append, List.append_assoc]

theorem Plain.opens_write (blank : layout.Blank) {depth : Nat} {value : Json} (plain : Plain depth value) :
    Opens (layout.write level value) := by
  cases plain with
  | null => exact ⟨'n', _, by rw [Layout.write], rfl, by decide⟩
  | bool value => cases value <;> exact ⟨_, _, by rw [Layout.write], rfl, by decide⟩
  | integer value fits =>
    rw [Layout.write]
    exact opens_integer fits
  | string text => exact ⟨'"', _, by rw [Layout.write, quoted, List.cons_append], rfl, by decide⟩
  | array _ =>
    obtain ⟨gap, _, written⟩ := write_array_eq blank level _
    exact ⟨'[', _, written, rfl, by decide⟩
  | object _ _ =>
    obtain ⟨gap, _, written⟩ := write_object_eq blank level _
    exact ⟨'{', _, written, rfl, by decide⟩

end Layout

theorem readValue_of_scalar {blanks text rest : List Char} {value : Json} (blank : Blanks blanks) (opens : Opens text)
    (scalar : readScalar text = .ok (value, rest)) (size depth : Nat) :
    readValue size depth (blanks ++ text) = .ok (value, rest) := by
  have start : skipBlanks (blanks ++ text) = text := (skipBlanks_append blank text).trans opens.skipBlanks
  unfold readValue
  rw [start]
  split
  next => cases scalar
  next => cases scalar
  next => exact scalar

theorem readValue_list {blanks rest : List Char} (blank : Blanks blanks) (size depth : Nat) :
    readValue size (depth + 1) (blanks ++ '[' :: rest) = (do
      let (items, rest) ← readItems (readValue size depth) size true rest
      return (.array items, rest)) := by
  rw [readValue, skipBlanks_append blank, skipBlanks_cons (c := '[') rfl]
  rfl

theorem readValue_object {blanks rest : List Char} (blank : Blanks blanks) (size depth : Nat) :
    readValue size (depth + 1) (blanks ++ '{' :: rest) = (do
      let (members, rest) ← readMembers (readValue size depth) size true rest
      return (.object (Entries.setAll [] members), rest)) := by
  rw [readValue, skipBlanks_append blank, skipBlanks_cons (c := '{') rfl]
  rfl

theorem readsBack_list {items : List WrittenItem} {values : List Json} {gap : List Char} {size depth : Nat}
    (blank : Blanks gap) (opens : ∀ item ∈ items, Opens item.value)
    (each : List.Forall₂ (fun item value => ReadsBack (readValue size depth) item.value value) items values)
    (enough : items.length < size) : ReadsBack (readValue size (depth + 1)) (listText items gap) (.array values) := by
  intro blanks rest before _
  obtain ⟨text, opened, _, ahead⟩ := itemsAhead_first blank opens rest
  rw [opened, readValue_list before, readItems_ahead blank opens each enough ahead]
  rfl

theorem readsBack_object {members : List WrittenMember} {entries : List (String × Json)} {gap : List Char}
    {size depth : Nat} (blank : Blanks gap) (distinct : (Entries.keys entries).Nodup)
    (each : List.Forall₂ (fun member entry => Spells member.key entry.1.toList ∧
      ReadsBack (readValue size depth) member.item.value entry.2) members entries)
    (enough : members.length < size) :
    ReadsBack (readValue size (depth + 1)) (objectText members gap) (.object entries) := by
  intro blanks rest before _
  obtain ⟨text, opened, _, ahead⟩ := membersAhead_first blank members rest
  have kept : Entries.setAll [] entries = entries := Entries.setAll_of_distinct distinct
  rw [opened, readValue_object before, readMembers_ahead blank each enough ahead]
  exact congrArg (fun members => Except.ok (Json.object members, rest)) kept

/-- Any value the writer is given comes back from the reader, in every layout that adds nothing but blanks. -/
theorem Plain.readsBack {layout : Layout} (blank : layout.Blank) {depth : Nat} {value : Json}
    (plain : Plain depth value) {size : Nat} (level : Nat) (roomy : (layout.write level value).length ≤ size) :
    ReadsBack (readValue size depth) (layout.write level value) value := by
  -- The loops are bounded by `size`, which is no less than what is written of any part.
  induction plain generalizing level with
  | @null depth =>
    intro blanks rest before after
    have opens : Opens (layout.write level .null) := (Plain.null : Plain depth .null).opens_write level blank
    apply readValue_of_scalar before (opens.append rest)
    rw [Layout.write]
    rfl
  | @bool depth value =>
    intro blanks rest before after
    have opens : Opens (layout.write level (.bool value)) := (Plain.bool value : Plain depth _).opens_write level blank
    apply readValue_of_scalar before (opens.append rest)
    cases value <;> rw [Layout.write] <;> rfl
  | @integer depth value fits =>
    intro blanks rest before after
    have opens : Opens (layout.write level (.number (.integer value fits))) :=
      (Plain.integer value fits : Plain depth _).opens_write level blank
    apply readValue_of_scalar before (opens.append rest)
    rw [Layout.write]
    exact readScalar_integer fits after
  | @string depth text =>
    intro blanks rest before after
    have opens : Opens (layout.write level (.string text)) :=
      (Plain.string text : Plain depth _).opens_write level blank
    apply readValue_of_scalar before (opens.append rest)
    rw [Layout.write]
    exact readScalar_quoted text rest
  | @array depth items each ih =>
    obtain ⟨gap, spaced, written⟩ := write_array_eq blank level items
    rw [written] at roomy ⊢
    refine readsBack_list spaced (List.forall_mem_map.mpr fun item member => ?_)
      (List.forall₂_map_left_iff.mpr (List.forall₂_same.mpr fun item member => ?_))
      (Nat.lt_of_lt_of_le length_lt_listText roomy)
    · exact (each item member).opens_write (level + 1) blank
    · have part : blank.item (level + 1) (layout.write (level + 1) item) ∈ blank.items (level + 1) items :=
        List.mem_map_of_mem member
      exact ih item member (level + 1) (Nat.le_trans (length_le_listText part) roomy)
  | @object depth members distinct each ih =>
    obtain ⟨gap, spaced, written⟩ := write_object_eq blank level members
    rw [written] at roomy ⊢
    refine readsBack_object spaced distinct
      (List.forall₂_map_left_iff.mpr (List.forall₂_same.mpr fun member present => ?_))
      (Nat.lt_of_lt_of_le length_lt_objectText roomy)
    have part : blank.member (level + 1) member.1 (layout.write (level + 1) member.2) ∈
        blank.members (level + 1) members := List.mem_map_of_mem present
    refine ⟨spells_flatMap_escaped member.1.toList, ?_⟩
    exact ih member present (level + 1) (Nat.le_trans (length_le_objectText part) roomy)

theorem parse_pretty {value : Json} (plain : Plain depthLimit value) : parse value.pretty = .ok value := by
  have all := plain.readsBack Layout.blank_pretty 0 (Nat.le_refl _) [] [] blanks_nil ended_nil
  simp only [List.nil_append, List.append_nil] at all
  simp only [parse, readAll, pretty, readJson, String.toList_ofList, all]
  rfl

end PageEditor.Json
