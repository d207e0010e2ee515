import PageEditor.Proofs.OptionTexts

/-!
Options are read back from what is written for them, whatever their strings hold and in every layout that
adds nothing but blanks.
-/

namespace PageEditor.Options

open Json

variable {layout : Layout} (options : Options)

theorem quotes_write (level : Nat) (text : String) : Quotes (layout.write level (.string text)) text := by
  refine ⟨text.toList.flatMap escaped, ?_, spells_flatMap_escaped text.toList⟩
  rw [Layout.write, quoted, List.cons_append]

theorem denotes_write (blank : layout.Blank) (level : Nat) (field : Field) :
    Denotes (layout.write level (options.fieldToJson field)) (options.fieldToJson field) := by
  have flag (value : Bool) : Denotes (layout.write level (.bool value)) (.bool value) := by
    cases value
    · exact .false
    · exact .true
  cases field with
  | libraryComponents =>
    obtain ⟨gap, spaced, written⟩ := write_array_eq blank level (options.libraryComponents.map .string)
    rw [fieldToJson, written, Layout.Blank.items, List.map_map]
    have each (text : String) : Quotes (layout.write (level + 1) (.string text)) text := quotes_write (level + 1) text
    exact .strings spaced (List.forall₂_map_left_iff.mpr (List.forall₂_same.mpr fun text _ => each text))
  | escapeLiterals | nestedRefs | strict => exact flag _
  | componentName | libraryModule | localImportPath | eventPrefix => exact .string (quotes_write level _)

/-- All fields are listed in what is written. -/
theorem lists_written (blank : layout.Blank) (level : Nat) (fields : List Field) :
    Lists (blank.members level (fields.map fun field => (field.key, options.fieldToJson field)))
      (fields.map fun field => (field, options.fieldToJson field)) := by
  induction fields with
  | nil => exact .nil
  | cons field fields ih =>
    exact .known (spells_flatMap_escaped field.key.toList) (denotes_write options blank level field) ⟨options, rfl⟩ ih

theorem Field.mem_all (field : Field) : field ∈ Field.all := by cases field <;> decide

theorem parse_write (blank : layout.Blank) : parse (String.ofList (layout.write 0 options.toJson)) = .ok options := by
  obtain ⟨gap, spaced, written⟩ :=
    write_object_eq blank 0 (Field.all.map fun field => (field.key, options.fieldToJson field))
  have object : IsObject (String.ofList (layout.write 0 options.toJson)) _ :=
    ⟨[], gap, [], blanks_nil, spaced, blanks_nil, (String.toList_ofList.trans written).trans (List.append_nil _).symm⟩
  have fields : (Field.all.map fun field => (field, options.fieldToJson field)).map Prod.fst = Field.all := by
    rw [List.map_map]
    exact List.map_id Field.all
  have distinct : ((Field.all.map fun field => (field, options.fieldToJson field)).map Prod.fst).Nodup := by
    rw [fields]
    decide
  obtain ⟨again, parsed, merged⟩ := parse_lists object (lists_written options blank 1 Field.all) distinct
  rw [parsed, ext_fieldToJson fun field => merged.listed _ (List.mem_map_of_mem (Field.mem_all field))]

/-- Options are what is read from the text they are written as. -/
theorem parse_toJson : parse options.toJson.compact = .ok options ∧ parse options.toJson.pretty = .ok options :=
  ⟨parse_write options Layout.blank_compact, parse_write options Layout.blank_pretty⟩

end PageEditor.Options
