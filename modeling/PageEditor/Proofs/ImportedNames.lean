import PageEditor.Generate.Import
import PageEditor.Proofs.MarkupReader

/-!
Imports and markup name the same components. Each name of a page is imported once, where the walk first
meets it, together with all others of the shared library or on a line of its own.
-/

namespace PageEditor.Options

/-- What stands for the name in an import path. -/
def placeholder : List Char := "\x7bname\x7d".toList

theorem fillName_append (name rest : List Char) : fillName name (placeholder ++ rest) = name ++ fillName name rest := by
  change fillName name ('{' :: 'n' :: 'a' :: 'm' :: 'e' :: '}' :: rest) = _
  rw [fillName]

theorem fillName_cons (name : List Char) {c : Char} {rest : List Char} (other : ¬ placeholder <+: c :: rest) :
    fillName name (c :: rest) = c :: fillName name rest := by
  rw [fillName]
  rintro more rfl rfl
  exact other ⟨more, rfl⟩

/-- A path is empty, or it starts with a place for the name, or with a character that starts none. -/
@[elab_as_elim] theorem pathInduct {motive : List Char → Prop} (nil : motive [])
    (place : ∀ rest, motive rest → motive (placeholder ++ rest))
    (cons : ∀ c rest, ¬ placeholder <+: c :: rest → motive rest → motive (c :: rest)) (path : List Char) :
    motive path := by
  induction path using fillName.induct with
  | case1 => exact nil
  | case2 rest ih => exact place rest ih
  | case3 c rest other ih =>
    refine cons c rest ?_ ih
    rintro ⟨more, same⟩
    obtain ⟨rfl, rfl⟩ := List.cons.inj same
    exact other more rfl rfl

theorem fillName_placeholder (path : List Char) : fillName placeholder path = path := by
  induction path using pathInduct with
  | nil => rw [fillName]
  | place rest ih => rw [fillName_append, ih]
  | cons c rest other ih => rw [fillName_cons _ other, ih]

/-- A path falls into parts that have no place for the name, and the name is put between them. -/
theorem fillName_parts (path : List Char) :
    ∃ parts, parts ≠ [] ∧ (∀ part ∈ parts, ¬ placeholder <:+: part) ∧
      ∀ name, fillName name path = name.intercalate parts := by
  have empty : ¬ placeholder <:+: [] := by decide
  induction path using pathInduct with
  | nil =>
    refine ⟨[[]], by simp, List.forall_mem_singleton.mpr empty, ?_⟩
    intro name
    rw [fillName, List.intercalate_singleton]
  | place rest ih =>
    obtain ⟨parts, filled, free, put⟩ := ih
    refine ⟨[] :: parts, by simp, List.forall_mem_cons.mpr ⟨empty, free⟩, ?_⟩
    intro name
    rw [fillName_append, put, List.intercalate_cons_of_ne_nil filled, List.nil_append]
  | cons c rest other ih =>
    obtain ⟨parts, filled, free, put⟩ := ih
    cases parts with
    | nil => exact absurd rfl filled
    | cons first others =>
      obtain ⟨own, later⟩ := List.forall_mem_cons.mp free
      have longer (name : List Char) : fillName name (c :: rest) = name.intercalate ((c :: first) :: others) := by
        rw [fillName_cons _ other, put]
        cases others <;> simp [List.intercalate_cons_cons]
      refine ⟨(c :: first) :: others, by simp, List.forall_mem_cons.mpr ⟨?_, later⟩, longer⟩
      intro found
      rcases List.infix_cons_iff.mp found with starts | inside
      · -- The path starts with its first part, and it does not start with a place for the name.
        have begins : c :: first <+: c :: rest := by
          rw [← fillName_placeholder (c :: rest), longer]
          cases others <;> simp [List.intercalate_cons_cons]
        exact other (starts.trans begins)
      · exact own inside

theorem importPath_parts (options : Options) :
    ∃ parts : List String, (∀ part ∈ parts, ¬ placeholder <:+: part.toList) ∧
      options.localImportPath = "\x7bname\x7d".intercalate parts ∧
      ∀ name, options.importPath name = name.intercalate parts := by
  obtain ⟨parts, _, free, put⟩ := fillName_parts options.localImportPath.toList
  have same : (parts.map String.ofList).map String.toList = parts := by simp [Function.comp_def]
  refine ⟨parts.map String.ofList, ?_, ?_, ?_⟩
  · intro part member
    obtain ⟨text, listed, rfl⟩ := List.mem_map.mp member
    rw [String.toList_ofList]
    exact free text listed
  · apply String.toList_inj.mp
    rw [String.toList_intercalate, same, ← put]
    exact (fillName_placeholder _).symm
  · intro name
    apply String.toList_inj.mp
    rw [importPath, String.toList_ofList, String.toList_intercalate, same, put]

end PageEditor.Options

namespace PageEditor.Generate

/-- These are the names met on a walk, each once and where it is first met. -/
structure FirstMet (names walked : List String) : Prop where
  nodup : names.Nodup
  mem : ∀ name, name ∈ names ↔ name ∈ walked
  ordered : ∀ met, met <+: walked → ∃ seen, seen <+: names ∧ ∀ name, name ∈ seen ↔ name ∈ met

/-- Each name is kept where it first appears and taken out of what follows. -/
theorem nodup_eraseDups (names : List String) : names.eraseDups.Nodup := by
  match names with
  | [] => simp
  | name :: rest =>
    rw [List.eraseDups_cons, List.nodup_cons]
    exact ⟨by simp, nodup_eraseDups (rest.filter fun other => !other == name)⟩
termination_by names.length
decreasing_by exact Nat.lt_succ_of_le (List.length_filter_le _ _)

theorem firstMet_eraseDups (walked : List String) : FirstMet walked.eraseDups walked := by
  refine ⟨nodup_eraseDups walked, fun name => List.mem_eraseDups, ?_⟩
  rintro met ⟨later, rfl⟩
  refine ⟨met.eraseDups, ?_, fun name => List.mem_eraseDups⟩
  rw [List.eraseDups_append]
  exact List.prefix_append ..

theorem importLines_eq (options : Options) (names : List String) :
    importLines options names =
      (if names.filter (· ∈ options.libraryComponents) = [] then []
        else [libraryImport options (names.filter (· ∈ options.libraryComponents))]) ++
      (names.filter (· ∉ options.libraryComponents)).map (localImport options) := by
  have own : names.filter (not ∘ options.isShared) = names.filter (· ∉ options.libraryComponents) := by
    apply List.filter_congr
    intro name _
    simp [Options.isShared]
  have shared : names.filter options.isShared = names.filter (· ∈ options.libraryComponents) := rfl
  rw [importLines, List.partition_eq_filter_filter, own, shared]
  simp only [List.isEmpty_iff]

theorem count_bound (options : Options) {names : List String} (distinct : names.Nodup) (name : String) :
    (names.filter (· ∈ options.libraryComponents) ++ names.filter (· ∉ options.libraryComponents)).count name =
      if name ∈ names then 1 else 0 := by
  have whole :
      (names.filter (· ∈ options.libraryComponents) ++ names.filter (· ∉ options.libraryComponents)).Perm names := by
    have split := List.filter_append_perm (fun name => decide (name ∈ options.libraryComponents)) names
    simpa only [decide_not] using split
  rw [whole.count_eq, distinct.count]

/-- Each component of a page has a line, and each line a component. -/
theorem mem_importedNames_iff (forest : Forest) (name : String) :
    name ∈ importedNames forest ↔ ∃ line ∈ forestLines 0 forest, line.component.name = name := by
  rw [importedNames, List.mem_eraseDups, List.mem_map]
  constructor
  · rintro ⟨component, member, rfl⟩
    rw [← started_forestLines 0 forest] at member
    obtain ⟨line, written, starts⟩ := List.mem_filterMap.mp member
    refine ⟨line, written, ?_⟩
    cases line with
    | opening | single => rw [← Option.some.inj starts]; rfl
    | closing => cases starts
  · rintro ⟨line, written, rfl⟩
    exact ⟨line.component, component_mem_of_mem_forestLines written, rfl⟩

def Tag.name : Tag → String
  | .opening name _ | .closing name | .single name _ => name

/-- The names on the tags of a page that can be read are those of its imports. -/
theorem mem_importedNames_iff_read (options : Options) (indent : Nat) {forest : Forest}
    (named : ∀ component ∈ Forest.nodes forest, TagName component.name) :
    ∃ read, (forestMarkup options indent forest).lines.mapM readLine = some read ∧
      ∀ name, name ∈ importedNames forest ↔ ∃ line ∈ read, line.2.name = name := by
  have written : (forestMarkup options indent forest).lines = (forestLines 0 forest).map (Line.text options indent) :=
    lines_forestMarkup options indent 0 forest
  have tags : ∀ line ∈ forestLines 0 forest, TagName line.component.name :=
    fun line member => named line.component (component_mem_of_mem_forestLines member)
  have own (line : Line) : line.tag.name = line.component.name := by cases line <;> rfl
  refine ⟨_, by rw [written, mapM_readLine options indent tags], ?_⟩
  intro name
  rw [mem_importedNames_iff]
  constructor
  · rintro ⟨line, present, rfl⟩
    exact ⟨_, List.mem_map_of_mem present, own line⟩
  · rintro ⟨_, member, rfl⟩
    obtain ⟨line, present, rfl⟩ := List.mem_map.mp member
    exact ⟨line, present, (own line).symm⟩

/-- The imports of a page are the names of its components, in the order in which the walk meets them. Those that the
library has stand on one line, which comes first, each of the others has a line of its own with a path of its own, and
with these lines every name is bound once. The names on the tags of the markup are the same. -/
theorem imports_complete (options : Options) (forest : Forest) (indent : Nat) :
    let names := importedNames forest
    let shared := names.filter (· ∈ options.libraryComponents)
    let own := names.filter (· ∉ options.libraryComponents)
    FirstMet names ((Forest.preorder forest).map Component.name) ∧
      importLines options names =
        (if shared = [] then []
          else ["import \x7b " ++ ", ".intercalate shared ++ " \x7d from '" ++ options.libraryModule ++ "';"]) ++
          own.map (fun name => "import " ++ name ++ " from '" ++ options.importPath name ++ "';") ∧
      (∀ name, (shared ++ own).count name = if name ∈ names then 1 else 0) ∧
      (∃ parts : List String, (∀ part ∈ parts, ¬ Options.placeholder <:+: part.toList) ∧
        options.localImportPath = "\x7bname\x7d".intercalate parts ∧
        ∀ name, options.importPath name = name.intercalate parts) ∧
      (forestMarkup options indent forest).lines = (forestLines 0 forest).map (Line.text options indent) ∧
      (∀ name, name ∈ names ↔ ∃ line ∈ forestLines 0 forest, line.component.name = name) ∧
      ((∀ component ∈ Forest.nodes forest, TagName component.name) →
        ∃ read, (forestMarkup options indent forest).lines.mapM readLine = some read ∧
          ∀ name, name ∈ names ↔ ∃ line ∈ read, line.2.name = name) := by
  intro names shared own
  have first : FirstMet names ((Forest.preorder forest).map Component.name) := by
    rw [← Forest.nodes_eq_preorder]
    exact firstMet_eraseDups _
  exact ⟨first, importLines_eq options names, count_bound options first.nodup, options.importPath_parts,
    lines_forestMarkup options indent 0 forest, mem_importedNames_iff forest,
    mem_importedNames_iff_read options indent⟩

/-- Names that come again further down, two of them from the library. -/
def repeatingPage : Forest :=
  [⟨1, "Card", .empty, none, "", some [⟨2, "Input", .empty, none, "", none, some 1⟩,
    ⟨3, "Card", .empty, none, "", none, some 1⟩], none⟩, ⟨4, "Button", .empty, none, "", none, none⟩,
    ⟨5, "Input", .empty, none, "", none, none⟩]

theorem imports_complete_repeating :
    importLines .standard (importedNames repeatingPage) =
        ["import \x7b Input, Button \x7d from 'antd';", "import Card from './components/Card/prod';"] ∧
      (∀ component ∈ Forest.nodes repeatingPage, TagName component.name) ∧
      ∃ read, (forestMarkup .standard 0 repeatingPage).lines.mapM readLine = some read ∧
        ∀ name, name ∈ importedNames repeatingPage ↔ ∃ line ∈ read, line.2.name = name := by
  obtain ⟨_, written, _, _, _, _, reading⟩ := imports_complete .standard repeatingPage 0
  have named : ∀ component ∈ Forest.nodes repeatingPage, TagName component.name := by
    rw [Forest.nodes_eq_preorder]
    intro component member
    apply tagName_of_isIdentifier
    revert component
    decide
  refine ⟨written.trans ?_, named, reading named⟩
  decide +kernel

end PageEditor.Generate
