import PageEditor.Options.Reader
import PageEditor.Proofs.ReadNesting
import PageEditor.Proofs.SkippedValues
import PageEditor.Proofs.TypedTexts

/-!
Options given as an object. Whichever fields are listed, in whatever order and among whatever other members,
they replace the defaults of exactly these fields; a field is never listed twice.
-/

namespace PageEditor.Options

open Json

/-- The options that have these settings, and everything else from the base. -/
structure Merged (base : Options) (settings : List (Field × Json)) (options : Options) : Prop where
  listed : ∀ setting ∈ settings, options.fieldToJson setting.1 = setting.2
  kept : ∀ field ∉ settings.map Prod.fst, options.fieldToJson field = base.fieldToJson field

/-- The options with one field taken from others. -/
def take (options source : Options) : Field → Options
  | .componentName => { options with componentName := source.componentName }
  | .libraryModule => { options with libraryModule := source.libraryModule }
  | .libraryComponents => { options with libraryComponents := source.libraryComponents }
  | .localImportPath => { options with localImportPath := source.localImportPath }
  | .eventPrefix => { options with eventPrefix := source.eventPrefix }
  | .escapeLiterals => { options with escapeLiterals := source.escapeLiterals }
  | .nestedRefs => { options with nestedRefs := source.nestedRefs }
  | .strict => { options with strict := source.strict }

/-- The value that a text denotes, if it is one of an option: a string, a list of strings or a boolean. -/
inductive Denotes : List Char → Json → Prop where
  | string {value : List Char} {text : String} (quotes : Quotes value text) : Denotes value (.string text)
  | strings {items : List WrittenItem} {gap : List Char} {texts : List String} (blank : Blanks gap)
      (each : List.Forall₂ (fun item text => Quotes item.value text) items texts) :
      Denotes (listText items gap) (.array (texts.map .string))
  | true : Denotes ['t', 'r', 'u', 'e'] (.bool true)
  | false : Denotes ['f', 'a', 'l', 's', 'e'] (.bool false)

/-- The values that options can have in a field. -/
def Field.Takes (field : Field) (value : Json) : Prop := ∃ options : Options, options.fieldToJson field = value

/-- The member has the key of this field, however it is spelled. -/
def Names (member : WrittenMember) (field : Field) : Prop := Spells member.key field.key.toList

/-- The settings that the members of an object list, in their order. Members under other keys may have any value. -/
inductive Lists : List WrittenMember → List (Field × Json) → Prop where
  | nil : Lists [] []
  | known {member : WrittenMember} {members : List WrittenMember} {field : Field} {value : Json}
      {settings : List (Field × Json)} (names : Names member field) (denotes : Denotes member.item.value value)
      (takes : field.Takes value) (more : Lists members settings) :
      Lists (member :: members) ((field, value) :: settings)
  | unknown {member : WrittenMember} {members : List WrittenMember} {key : List Char}
      {settings : List (Field × Json)} (spells : Spells member.key key)
      (foreign : ∀ field : Field, field.key.toList ≠ key) (value : ValueText member.item.value)
      (more : Lists members settings) : Lists (member :: members) settings

/-- A text that is an object with these members. -/
def IsObject (text : String) (members : List WrittenMember) : Prop :=
  ∃ before gap after, Blanks before ∧ Blanks gap ∧ Blanks after ∧
    text.toList = before ++ (objectText members gap ++ after)

section Merging

variable {base middle options other : Options} {field : Field} {value : Json} {settings others : List (Field × Json)}

theorem merged_take (source : Options) :
    Merged options [(field, source.fieldToJson field)] (options.take source field) where
  listed := by
    intro setting member
    obtain rfl := List.mem_singleton.mp member
    cases field <;> rfl
  kept := by
    intro other absent
    rw [List.map_singleton, List.mem_singleton] at absent
    cases field <;> cases other <;> first | rfl | exact absurd rfl absent

theorem merged_nil : Merged base [] base := ⟨by simp, fun _ _ => rfl⟩

theorem Merged.cons (first : Merged base [(field, value)] middle) (more : Merged middle settings options)
    (unlisted : field ∉ settings.map Prod.fst) : Merged base ((field, value) :: settings) options where
  listed := by
    intro setting member
    rcases List.mem_cons.mp member with rfl | later
    · exact (more.kept field unlisted).trans (first.listed _ (List.mem_cons_self ..))
    · exact more.listed setting later
  kept := by
    intro other absent
    rw [List.map_cons, List.mem_cons, not_or] at absent
    exact (more.kept other absent.2).trans (first.kept other (by simpa using absent.1))

theorem ext_fieldToJson (same : ∀ field, options.fieldToJson field = other.fieldToJson field) : options = other := by
  have components : options.libraryComponents = other.libraryComponents :=
    List.map_injective_iff.mpr (fun _ _ => Json.string.inj) (Json.array.inj (same .libraryComponents))
  cases options
  cases other
  simp only [Options.mk.injEq]
  exact ⟨Json.string.inj (same .componentName), Json.string.inj (same .libraryModule), components,
    Json.string.inj (same .localImportPath), Json.string.inj (same .eventPrefix), Json.bool.inj (same .escapeLiterals),
    Json.bool.inj (same .nestedRefs), Json.bool.inj (same .strict)⟩

theorem Merged.unique (first : Merged base settings options) (second : Merged base others other)
    (same : ∀ setting, setting ∈ settings ↔ setting ∈ others) : options = other := by
  apply ext_fieldToJson
  intro field
  have fields : field ∈ settings.map Prod.fst ↔ field ∈ others.map Prod.fst := by
    simp only [List.mem_map, same]
  by_cases listed : field ∈ settings.map Prod.fst
  · obtain ⟨setting, member, rfl⟩ := List.mem_map.mp listed
    exact (first.listed setting member).trans (second.listed setting ((same setting).mp member)).symm
  · exact (first.kept field listed).trans (second.kept field (mt fields.mpr listed)).symm

end Merging

section Fields

variable {options : Options} {field : Field} {value : Json} {item : WrittenItem} {rest : List Char}

theorem Denotes.reads_string {written : List Char} {text : String} (denotes : Denotes written (.string text)) :
    ReadsBack readString written text := by
  cases denotes with
  | string quotes => exact readsBack_string quotes

theorem Denotes.reads_bool {written : List Char} {flag : Bool} (denotes : Denotes written (.bool flag)) :
    ReadsBack readBool written flag := by
  cases denotes with
  | true => exact readsBack_true
  | false => exact readsBack_false

theorem Denotes.reads_strings {written : List Char} {texts : List String}
    (denotes : Denotes written (.array (texts.map .string))) : ReadsBack readStrings written texts := by
  generalize given : Json.array (texts.map .string) = value at denotes
  cases denotes with
  | strings blank each =>
    have same := List.map_injective_iff.mpr (fun _ _ => Json.string.inj) (Json.array.inj given)
    subst same
    exact readsBack_strings blank each
  | _ => cases given

theorem readField_of_denotes {source : Options} (denotes : Denotes item.value (source.fieldToJson field))
    (ended : Ended rest) :
    readField options field (item.text ++ rest) = .ok (options.take source field, item.after ++ rest) := by
  cases field with
  | libraryComponents =>
    rw [readField, denotes.reads_strings.item item ended]
    rfl
  | escapeLiterals | nestedRefs | strict =>
    rw [readField, denotes.reads_bool.item item ended]
    rfl
  | componentName | libraryModule | localImportPath | eventPrefix =>
    rw [readField, denotes.reads_string.item item ended]
    rfl

/-- Whatever value a field is given, it is read up to its end or not at all. -/
theorem readField_ends {changed : Options} {left : List Char} (written : ValueText item.value)
    (taken : readField options field (item.text ++ rest) = .ok (changed, left)) : left = item.after ++ rest := by
  cases field with
  | libraryComponents =>
    obtain ⟨⟨texts, left⟩, read, answered⟩ := bind_eq_ok.mp taken
    cases answered
    exact EndsWith.item item written.endsWith_strings read
  | escapeLiterals | nestedRefs | strict =>
    obtain ⟨⟨flag, left⟩, read, answered⟩ := bind_eq_ok.mp taken
    cases answered
    exact EndsWith.item item written.endsWith_bool read
  | componentName | libraryModule | localImportPath | eventPrefix =>
    obtain ⟨⟨text, left⟩, read, answered⟩ := bind_eq_ok.mp taken
    cases answered
    exact EndsWith.item item written.endsWith_string read

theorem Field.ofKey?_eq_some {key : String} : Field.ofKey? key = some field ↔ field.key = key := by
  constructor
  · intro found
    rw [Field.ofKey?] at found
    simpa using List.find?_some found
  · rintro rfl
    cases field <;> rfl

end Fields

section Members

variable {options : Options} {seen : List Field} {fuel : Nat} {first : Bool} {text rest : List Char}
  {member : WrittenMember}

theorem readObject_known {field : Field} (next : nextMember first text = .ok (.part (member.fromKey ++ rest)))
    (names : Names member field) (unseen : field ∉ seen) :
    readObject options seen (fuel + 1) first text = (do
      let (options, rest) ← readField options field (member.item.text ++ rest)
      readObject options (field :: seen) fuel false rest) := by
  rw [readObject, next]
  simp only [bind, Except.bind, readQuoted_fromKey names, String.ofList_toList, Field.ofKey?_eq_some.mpr rfl,
    if_neg unseen, readColon_gap]

theorem readObject_unknown {key : List Char} (next : nextMember first text = .ok (.part (member.fromKey ++ rest)))
    (spells : Spells member.key key) (foreign : ∀ field : Field, field.key.toList ≠ key)
    (value : ValueText member.item.value) (ended : Ended rest) :
    readObject options seen (fuel + 1) first text = readObject options seen fuel false (member.item.after ++ rest) := by
  have unknown : Field.ofKey? (String.ofList key) = none := by
    cases known : Field.ofKey? (String.ofList key) with
    | none => rfl
    | some field =>
      refine absurd ?_ (foreign field)
      rw [Field.ofKey?_eq_some.mp known, String.toList_ofList]
  rw [readObject, next]
  simp only [bind, Except.bind, readQuoted_fromKey spells, unknown, readColon_gap, skip_item value ended]

/-- The fields that an object lists are set, from wherever it goes on. -/
theorem readObject_lists {gap : List Char} (blank : Blanks gap) {members : List WrittenMember}
    {settings : List (Field × Json)} (lists : Lists members settings) (distinct : (settings.map Prod.fst).Nodup)
    (unseen : ∀ setting ∈ settings, setting.1 ∉ seen) (enough : members.length < fuel)
    (ahead : MembersAhead gap rest first text members) :
    ∃ merged, readObject options seen fuel first text = .ok (merged, rest) ∧ Merged options settings merged := by
  induction lists generalizing options seen fuel first text with
  | nil =>
    obtain ⟨fuel, rfl⟩ := Nat.exists_eq_succ_of_ne_zero (Nat.ne_of_gt enough)
    refine ⟨options, ?_, merged_nil⟩
    rw [MembersAhead] at ahead
    rw [readObject, ahead]
    rfl
  | @known member members field value settings names denotes takes _ ih =>
    obtain ⟨fuel, rfl⟩ := Nat.exists_eq_succ_of_ne_zero (Nat.ne_zero_of_lt enough)
    obtain ⟨source, rfl⟩ := takes
    obtain ⟨unlisted, distinct⟩ := List.nodup_cons.mp distinct
    obtain ⟨fresh, unseen⟩ := List.forall_mem_cons.mp unseen
    have onward := membersAhead_later blank members member.item.blankAfter rest
    have still : ∀ setting ∈ settings, setting.1 ∉ field :: seen := by
      intro setting listed again
      rcases List.mem_cons.mp again with same | before
      · exact unlisted (List.mem_map.mpr ⟨setting, listed, same⟩)
      · exact unseen setting listed before
    have later : ∃ merged, readObject (options.take source field) (field :: seen) fuel false _ = .ok (merged, rest) ∧
        Merged (options.take source field) settings merged := ih distinct still (Nat.lt_of_succ_lt_succ enough) onward
    obtain ⟨merged, taken, more⟩ := later
    refine ⟨merged, ?_, (merged_take source).cons more unlisted⟩
    rw [readObject_known ahead names fresh, readField_of_denotes denotes (ended_onward _ blank (ended_objectEnd rest))]
    exact taken
  | @unknown member members key settings spells foreign value _ ih =>
    obtain ⟨fuel, rfl⟩ := Nat.exists_eq_succ_of_ne_zero (Nat.ne_zero_of_lt enough)
    have onward := membersAhead_later blank members member.item.blankAfter rest
    rw [readObject_unknown ahead spells foreign value (ended_onward _ blank (ended_objectEnd rest))]
    exact ih distinct unseen (Nat.lt_of_succ_lt_succ enough) onward

/-- What an object that can be read goes on with after a member: the field the member names, if any, was not seen
before it and is seen from then on. -/
theorem readObject_member {merged : Options} {left : List Char} (value : ValueText member.item.value)
    (ended : Ended rest) (next : nextMember first text = .ok (.part (member.fromKey ++ rest)))
    (taken : readObject options seen (fuel + 1) first text = .ok (merged, left)) :
    ∃ changed now, readObject changed now fuel false (member.item.after ++ rest) = .ok (merged, left) ∧ seen ⊆ now ∧
      ∀ field, Names member field → field ∉ seen ∧ field ∈ now := by
  obtain ⟨step, found, taken⟩ := bind_eq_ok.mp taken
  cases next.symm.trans found
  obtain ⟨⟨key, after⟩, read, taken⟩ := bind_eq_ok.mp taken
  obtain rfl := readQuoted_fromKey_ends read
  have named (field : Field) (names : Names member field) : Field.ofKey? (String.ofList key) = some field := by
    cases (readQuoted_fromKey names).symm.trans read
    rw [String.ofList_toList, Field.ofKey?_eq_some.mpr rfl]
  cases known : Field.ofKey? (String.ofList key) with
  | none =>
    simp only [known, readColon_gap, skip_item value ended, bind, Except.bind] at taken
    refine ⟨options, seen, taken, List.Subset.refl _, fun field names => ?_⟩
    rw [named field names] at known
    cases known
  | some field =>
    simp only [known] at taken
    by_cases again : field ∈ seen
    · rw [if_pos again] at taken
      cases taken
    · simp only [if_neg again, readColon_gap] at taken
      obtain ⟨_, colon, taken⟩ := bind_eq_ok.mp taken
      cases colon
      obtain ⟨⟨changed, middle⟩, set, onward⟩ := bind_eq_ok.mp taken
      obtain rfl := readField_ends value set
      refine ⟨changed, field :: seen, onward, List.subset_cons_self .., fun other names => ?_⟩
      obtain rfl := Option.some.inj (known.symm.trans (named other names))
      exact ⟨again, List.mem_cons_self ..⟩

/-- An object is read only if it names no field twice. -/
theorem readObject_names {gap : List Char} (blank : Blanks gap) {members : List WrittenMember}
    (values : ∀ member ∈ members, ValueText member.item.value) (ahead : MembersAhead gap rest first text members)
    {merged : Options} {left : List Char} (taken : readObject options seen fuel first text = .ok (merged, left)) :
    (∀ member ∈ members, ∀ field ∈ seen, ¬Names member field) ∧
      members.Pairwise fun earlier later => ∀ field, Names earlier field → ¬Names later field := by
  induction members generalizing options seen fuel first text with
  | nil => exact ⟨by simp, .nil⟩
  | cons member members ih =>
    obtain ⟨value, values⟩ := List.forall_mem_cons.mp values
    cases fuel with
    | zero => cases taken
    | succ fuel =>
      have ended := ended_onward (members.map WrittenMember.text) blank (ended_objectEnd rest)
      obtain ⟨changed, now, onward, wider, named⟩ := readObject_member value ended ahead taken
      obtain ⟨absent, apart⟩ := ih values (membersAhead_later blank members member.item.blankAfter rest) onward
      refine ⟨List.forall_mem_cons.mpr ⟨fun field before names => (named field names).1 before, ?_⟩,
        List.pairwise_cons.mpr ⟨?_, apart⟩⟩
      · exact fun later among field before => absent later among field (wider before)
      · exact fun later among field names => absent later among field (named field names).2

end Members

section Objects

variable {text : String} {members : List WrittenMember}

theorem finish_blanks {blanks : List Char} (blank : Blanks blanks) : finish blanks = .ok () := by
  have skipped := skipBlanks_append blank []
  rw [List.append_nil] at skipped
  rw [finish, skipped]
  rfl

theorem read_object (object : IsObject text members) :
    ∃ gap after fuel inner, Blanks gap ∧ Blanks after ∧ members.length < fuel ∧
      MembersAhead gap after true inner members ∧ read text.toList = readObject standard [] fuel true inner := by
  obtain ⟨before, gap, after, blankBefore, blankGap, blankAfter, same⟩ := object
  obtain ⟨inner, opened, long, ahead⟩ := membersAhead_first blankGap members after
  refine ⟨gap, after, inner.length + 1, inner, blankGap, blankAfter, Nat.lt_succ_of_le long, ahead, ?_⟩
  rw [same, opened, read, skipBlanks_append blankBefore, skipBlanks_cons (c := '{') rfl]
  rfl

/-- Listed settings replace the defaults. -/
theorem parse_lists {settings : List (Field × Json)} (object : IsObject text members)
    (lists : Lists members settings) (distinct : (settings.map Prod.fst).Nodup) :
    ∃ options, parse text = .ok options ∧ Merged standard settings options := by
  obtain ⟨gap, after, fuel, inner, blankGap, blankAfter, enough, ahead, start⟩ := read_object object
  have unseen : ∀ setting ∈ settings, setting.1 ∉ ([] : List Field) := fun _ _ => List.not_mem_nil
  obtain ⟨options, taken, merged⟩ := readObject_lists blankGap lists distinct unseen enough ahead
  exact ⟨options, readAll_eq_ok.mpr ⟨after, start.trans taken, finish_blanks blankAfter⟩, merged⟩

/-- Neither the order of the members nor those that are unknown make a difference. -/
theorem parse_congr {other : String} {others : List WrittenMember} {settings listed : List (Field × Json)}
    (object : IsObject text members) (lists : Lists members settings) (distinct : (settings.map Prod.fst).Nodup)
    (otherObject : IsObject other others) (otherLists : Lists others listed)
    (otherDistinct : (listed.map Prod.fst).Nodup) (same : ∀ setting, setting ∈ settings ↔ setting ∈ listed) :
    parse text = parse other := by
  obtain ⟨options, parsed, merged⟩ := parse_lists object lists distinct
  obtain ⟨again, otherParsed, otherMerged⟩ := parse_lists otherObject otherLists otherDistinct
  rw [parsed, otherParsed, merged.unique otherMerged same]

theorem parse_repeated (object : IsObject text members) (values : ∀ member ∈ members, ValueText member.item.value)
    {earlier later : WrittenMember} (twice : [earlier, later].Sublist members) {field : Field}
    (first : Names earlier field) (second : Names later field) : ∃ problem, parse text = .error problem := by
  cases parsed : parse text with
  | error problem => exact ⟨problem, rfl⟩
  | ok options =>
    obtain ⟨gap, after, fuel, inner, blankGap, _, _, ahead, start⟩ := read_object object
    obtain ⟨left, taken, _⟩ := readAll_eq_ok.mp parsed
    have apart := (readObject_names blankGap values ahead (start.symm.trans taken)).2
    have different := List.pairwise_iff_forall_sublist.mp apart twice
    exact absurd second (different field first)

end Objects

/-- Options given as an object: the fields that are listed replace the defaults, their order and all other members make
no difference, and no field is listed twice. -/
theorem objects_merge_over_defaults :
    (∀ {text : String} {members : List WrittenMember} {settings : List (Field × Json)}, IsObject text members →
      Lists members settings → (settings.map Prod.fst).Nodup →
      ∃ options, parse text = .ok options ∧ Merged standard settings options) ∧
    (∀ {text other : String} {members others : List WrittenMember} {settings listed : List (Field × Json)},
      IsObject text members → Lists members settings → (settings.map Prod.fst).Nodup → IsObject other others →
      Lists others listed → (listed.map Prod.fst).Nodup → (∀ setting, setting ∈ settings ↔ setting ∈ listed) →
      parse text = parse other) ∧
    ∀ {text : String} {members : List WrittenMember} {earlier later : WrittenMember} {field : Field},
      IsObject text members → (∀ member ∈ members, ValueText member.item.value) → [earlier, later].Sublist members →
      Names earlier field → Names later field → ∃ problem, parse text = .error problem :=
  ⟨parse_lists, parse_congr, fun object values twice => parse_repeated object values twice⟩

/-- `"strict": true` -/
def strictMember : WrittenMember := Layout.blank_pretty.member 1 "strict" ['t', 'r', 'u', 'e']

/-- `"eventPrefix":"do"` -/
def prefixMember : WrittenMember := Layout.blank_compact.member 1 "eventPrefix" ['"', 'd', 'o', '"']

/-- An unknown member that holds the key of a field. -/
def extraMember : WrittenMember := Layout.blank_compact.member 1 "extra" (objectText [strictMember] [])

def spacedText : String :=
  "\x7b\n  \"strict\": true,\"extra\":\x7b\n  \"strict\": true\x7d,\"eventPrefix\":\"do\"\x7d"

def swappedText : String := "\x7b\"eventPrefix\":\"do\",\n  \"strict\": true\x7d"

def repeatedText : String := "\x7b\n  \"strict\": true,\n  \"strict\": true\x7d"

theorem objects_merge_over_defaults_strict :
    (∃ options, parse spacedText = .ok options ∧
        Merged standard [(.strict, .bool true), (.eventPrefix, .string "do")] options) ∧
      parse spacedText = parse swappedText ∧ ∃ problem, parse repeatedText = .error problem := by
  have object (text : String) (members : List WrittenMember) (same : text.toList = objectText members []) :
      IsObject text members := ⟨[], [], [], blanks_nil, blanks_nil, blanks_nil, by simp [same]⟩
  have spaced : IsObject spacedText [strictMember, extraMember, prefixMember] := object _ _ rfl
  have swapped : IsObject swappedText [prefixMember, strictMember] := object _ _ rfl
  have repeated : IsObject repeatedText [strictMember, strictMember] := object _ _ rfl
  have names : Names strictMember .strict := spells_flatMap_escaped _
  have flag : ValueText strictMember.item.value := .true
  have extra : ValueText extraMember.item.value := .object blanks_nil (List.forall_mem_singleton.mpr flag)
  have foreign (field : Field) : field.key.toList ≠ "extra".toList := by cases field <;> decide
  have strict {members settings} (more : Lists members settings) :
      Lists (strictMember :: members) ((.strict, .bool true) :: settings) :=
    .known names .true ⟨{ standard with strict := true }, rfl⟩ more
  have eventPrefix {members settings} (more : Lists members settings) :
      Lists (prefixMember :: members) ((.eventPrefix, .string "do") :: settings) :=
    .known (spells_flatMap_escaped _) (.string ⟨['d', 'o'], rfl, spells_flatMap_escaped ['d', 'o']⟩)
      ⟨{ standard with eventPrefix := "do" }, rfl⟩ more
  have both := strict (.unknown (spells_flatMap_escaped _) foreign extra (eventPrefix .nil))
  obtain ⟨merge, reorder, refuse⟩ := objects_merge_over_defaults
  refine ⟨merge spaced both (by decide), ?_, ?_⟩
  · refine reorder spaced both (by decide) swapped (eventPrefix (strict .nil)) (by decide) fun setting => ?_
    simp only [List.mem_cons, List.not_mem_nil, or_false]
    exact or_comm
  · have each : ∀ member ∈ [strictMember, strictMember], ValueText member.item.value := by
      simpa using flag
    exact refuse repeated each (List.Sublist.refl _) names names

end PageEditor.Options
