import Mathlib.Data.List.Nodup
import PageEditor.Proofs.ImportedNames
import PageEditor.Proofs.ModuleText
import PageEditor.Proofs.ReferenceFindings
import PageEditor.Proofs.RepeatedIds

/-!
The names that a module binds. Those that are derived show by their first character what they are derived
for, so that on a page without findings only what the page names itself can meet another name: its
components and its states.
-/

namespace PageEditor.Generate

def getterNames (options : Options) (forest : Forest) : List String :=
  (stateVariables options forest).map StateVariable.getter

def setterNames (options : Options) (forest : Forest) : List String :=
  (stateVariables options forest).map StateVariable.setter

def handlerNames (options : Options) (forest : Forest) : List String :=
  (forestMarkup options markupIndent forest).handlers.map Handler.name

/-- What every module imports. -/
def frameworkNames : List String := ["React", "useState", "useRef", "message"]

/-- The names that start with a letter and that the page does not choose. -/
def derivedNames (options : Options) (forest : Forest) : List (List String) :=
  [frameworkNames, [constantName options], setterNames options forest, handlerNames options forest]

/-- The names that `moduleParts` binds: those of imports, of the component, and of what is declared in its body. -/
def boundNames (options : Options) (forest : Forest) : List String :=
  (importedNames forest :: getterNames options forest :: referenceNames options forest ::
    derivedNames options forest).flatten

/-- No two states have the same setter, and what the page names itself is the name of nothing else. -/
structure NamesApart (options : Options) (forest : Forest) : Prop where
  setters : (setterNames options forest).Nodup
  getters : ∀ others ∈ derivedNames options forest, (getterNames options forest).Disjoint others
  components : ∀ others ∈ getterNames options forest :: referenceNames options forest :: derivedNames options forest,
    (importedNames forest).Disjoint others

section Silence

variable {options : Options} {forest : Forest} (silent : findings options forest = [])

include silent

theorem nodup_ids_of_silent : (Forest.ids forest).Nodup := by
  rw [findings, List.append_eq_nil_iff, List.append_eq_nil_iff] at silent
  obtain ⟨⟨duplicates, _⟩, _⟩ := silent
  rw [duplicateFindings, List.map_eq_nil_iff] at duplicates
  exact Forest.repeatedIds_eq_nil_iff.mp duplicates

/-- A state of a page without findings is named by an identifier, and its setter after that. -/
theorem state_of_silent {state : StateVariable} (member : state ∈ stateVariables options forest) :
    Text.isIdentifier state.getter = true ∧ state.setter = setterOf state.getter := by
  obtain ⟨component, root, declared⟩ := List.mem_filterMap.mp member
  obtain ⟨value, found, rfl⟩ := Option.map_eq_some_iff.mp declared
  have stateful : component ∈ forest.filter fun component => component.hasProp "value" := by
    rw [List.mem_filter]
    exact ⟨root, Option.isSome_of_eq_some found⟩
  have harmless : stateFinding? component = none := by
    rw [findings, List.append_eq_nil_iff, List.append_eq_nil_iff] at silent
    obtain ⟨⟨_, states⟩, _⟩ := silent
    rw [stateFindings, List.filterMap_eq_nil_iff] at states
    exact states component stateful
  cases named : stateName? component with
  | none => simp [stateFinding?, named] at harmless
  | some name =>
    have identifier : Text.isIdentifier name = true := by simpa [stateFinding?, named] using harmless
    simp only [stateNames, named]
    exact ⟨identifier, trivial⟩

theorem map_setterOf_getterNames : (getterNames options forest).map setterOf = setterNames options forest := by
  rw [getterNames, setterNames, List.map_map]
  apply List.map_congr_left
  intro state declared
  exact (state_of_silent silent declared).2.symm

end Silence

section Initials

/-- All of the names start with a character of one kind. -/
def StartWith (kind : Char → Prop) (names : List String) : Prop :=
  ∀ name ∈ names, ∃ c ∈ name.toList.head?, kind c

theorem StartWith.disjoint {kind kind' : Char → Prop} {names others : List String} (own : StartWith kind names)
    (theirs : StartWith kind' others) (apart : ∀ c, kind' c → ¬ kind c) : names.Disjoint others := by
  intro name member member'
  obtain ⟨c, first, is⟩ := own name member
  obtain ⟨c', first', is'⟩ := theirs name member'
  obtain rfl := Option.mem_unique first first'
  exact apart c is' is

theorem isDigit_eq_false_of_startsIdentifier {c : Char} (starts : Text.startsIdentifier c = true) :
    c.isDigit = false :=
  of_ascii (P := fun c => Text.startsIdentifier c = true → c.isDigit = false) (by decide)
    (toNat_of_startsIdentifier starts) starts

variable {options : Options} {forest : Forest}

theorem startWith_referenceNames : StartWith (fun c => c.isDigit = true) (referenceNames options forest) := by
  intro name member
  obtain ⟨own, listed, rfl⟩ := List.mem_map.mp member
  obtain ⟨component, _, rfl⟩ := List.mem_map.mp listed
  obtain ⟨c, rest, written, digit⟩ := idText_cons component.id
  refine ⟨c, ?_, digit⟩
  rw [reference, referenceName_toList, written]
  rfl

theorem startWith_handlerNames : StartWith (· ∈ ['h']) (handlerNames options forest) := by
  intro name member
  rw [handlerNames, handlers_forestMarkup_eq_map, List.map_map] at member
  obtain ⟨event, _, rfl⟩ := List.mem_map.mp member
  refine ⟨'h', ?_, List.mem_cons_self⟩
  simp [Event.handler, handler, handlerName]

variable (silent : findings options forest = [])

include silent

theorem startWith_setterNames : StartWith (· ∈ ['s']) (setterNames options forest) := by
  intro name member
  obtain ⟨state, declared, rfl⟩ := List.mem_map.mp member
  refine ⟨'s', ?_, List.mem_cons_self⟩
  rw [(state_of_silent silent declared).2]
  simp [setterOf]

theorem startWith_getterNames : StartWith (fun c => c.isDigit = false) (getterNames options forest) := by
  intro name member
  obtain ⟨state, declared, rfl⟩ := List.mem_map.mp member
  obtain ⟨c, rest, spelled, starts, _⟩ :=
    Text.isIdentifier_eq_true_iff.mp (state_of_silent silent declared).1
  refine ⟨c, ?_, isDigit_eq_false_of_startsIdentifier starts⟩
  rw [spelled]
  rfl

end Initials

section Standard

theorem constantName_standard : constantName .standard = "GeneratedComponent" := by decide +kernel

theorem startWith_frameworkNames : StartWith (· ∈ ['R', 'u', 'm']) frameworkNames := by
  simp [StartWith, frameworkNames]

theorem startWith_constantName : StartWith (· ∈ ['G']) [constantName .standard] := by
  simp [StartWith, constantName_standard]

variable {forest : Forest} (silent : findings .standard forest = [])

include silent

/-- Names of different groups do not meet, as long as the page does not choose them. -/
theorem pairwise_disjoint_of_silent :
    (referenceNames .standard forest :: derivedNames .standard forest).Pairwise List.Disjoint := by
  have references : StartWith _ (referenceNames .standard forest) := startWith_referenceNames
  have setters : StartWith _ (setterNames .standard forest) := startWith_setterNames silent
  have handlers : StartWith _ (handlerNames .standard forest) := startWith_handlerNames
  have framework := startWith_frameworkNames
  have constant := startWith_constantName
  simp only [derivedNames, List.pairwise_cons, List.forall_mem_cons]
  refine ⟨⟨references.disjoint framework ?_, references.disjoint constant ?_, references.disjoint setters ?_,
      references.disjoint handlers ?_, List.forall_mem_nil _⟩,
    ⟨framework.disjoint constant ?_, framework.disjoint setters ?_, framework.disjoint handlers ?_,
      List.forall_mem_nil _⟩,
    ⟨constant.disjoint setters ?_, constant.disjoint handlers ?_, List.forall_mem_nil _⟩,
    ⟨setters.disjoint handlers ?_, List.forall_mem_nil _⟩, List.forall_mem_nil _, .nil⟩
  all_goals simp

theorem nodup_of_silent (setters : (setterNames .standard forest).Nodup) :
    ∀ names ∈ importedNames forest :: getterNames .standard forest :: referenceNames .standard forest ::
      derivedNames .standard forest, names.Nodup := by
  have distinct := nodup_ids_of_silent silent
  have getters : (getterNames .standard forest).Nodup := by
    apply List.Nodup.of_map setterOf
    rwa [map_setterOf_getterNames silent]
  have handlers : (handlerNames .standard forest).Nodup := by
    rw [handlerNames, handlers_forestMarkup_eq_map, List.map_map]
    exact nodup_handler_names distinct ⟨'o', ['n'], rfl, rfl⟩
  simp only [derivedNames, List.forall_mem_cons]
  exact ⟨nodup_eraseDups _, getters, nodup_reference_names distinct, by decide, List.nodup_singleton _, setters,
    handlers, List.forall_mem_nil _⟩

end Standard

/-- The names that a module binds for a page without findings are distinct iff those that the page chooses are
kept apart: the names of its components and of its states. -/
theorem nodup_boundNames_iff {forest : Forest} (silent : findings .standard forest = []) :
    (boundNames .standard forest).Nodup ↔ NamesApart .standard forest := by
  rw [boundNames, List.nodup_flatten, List.pairwise_cons, List.pairwise_cons]
  constructor
  · rintro ⟨each, components, getters, _⟩
    have setters : (setterNames .standard forest).Nodup := each _ (by simp [derivedNames])
    refine ⟨setters, ?_, components⟩
    intro others member
    exact getters others (List.mem_cons_of_mem _ member)
  · rintro ⟨setters, getters, components⟩
    refine ⟨nodup_of_silent silent setters, components, ?_, pairwise_disjoint_of_silent silent⟩
    rw [List.forall_mem_cons]
    refine ⟨?_, getters⟩
    -- Getters are chosen by the page, but identifiers, and no identifier starts like a reference.
    apply (startWith_getterNames silent).disjoint startWith_referenceNames
    simp

/-- A form with two fields and a button. -/
def formPage (first second : String) : Forest :=
  let field (id : ComponentId) (name : String) : Component :=
    ⟨id, "Input", ⟨[("name", .literal (.string name)), ("value", .literal (.string ""))], by simp [Entries.keys]⟩,
      none, "", none, none⟩
  [field 1 first, field 2 second,
    ⟨3, "Button", ⟨[("onClick", .actions [.callMethod 1 "focus"])], by decide⟩, none, "", none, none⟩]

theorem nodup_boundNames_formPage :
    findings .standard (formPage "email" "phone") = [] ∧ NamesApart .standard (formPage "email" "phone") ∧
      (boundNames .standard (formPage "email" "phone")).Nodup := by
  have silent : findings .standard (formPage "email" "phone") = [] := by decide +kernel
  have names : (boundNames .standard (formPage "email" "phone")).Nodup := by decide +kernel
  exact ⟨silent, (nodup_boundNames_iff silent).mp names, names⟩

/-- Nothing is found where two fields have one name, and their state is declared twice. -/
theorem states_declared_twice :
    ¬ ∀ forest : Forest, findings .standard forest = [] → (boundNames .standard forest).Nodup := by
  intro always
  have silent : findings .standard (formPage "email" "email") = [] := by decide +kernel
  have repeated : ¬ (boundNames .standard (formPage "email" "email")).Nodup := by decide +kernel
  exact repeated (always _ silent)

end PageEditor.Generate
