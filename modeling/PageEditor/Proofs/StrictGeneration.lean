import PageEditor.Proofs.ModuleText
import PageEditor.Proofs.ReferenceFindings

/-!
Strict generation. The only findings that are errors are about actions whose target the page does not
have, and these are the actions that a handler would write a use of a missing reference for. So a strict
generator refuses exactly the pages for which another one writes such a handler, and for all other pages
the two write the same.
-/

namespace PageEditor.Generate

/-- What a method call on a component is written as, or an operation on its element. -/
def ReachesFor (statement : String) (target : ComponentId) : Prop :=
  (∃ method, statement = referenceName target ++ ".current?." ++ method ++ "();") ∨
    ∃ operation, statement = referenceName target ++ ".current?." ++ operation ++ ";"

/-- Some handler of the page reaches for a component that the page does not have. -/
def ReachesMissing (options : Options) (forest : Forest) : Prop :=
  ∃ own ∈ (forestMarkup options markupIndent forest).handlers, ∃ statement ∈ own.statements, ∃ target,
    ReachesFor statement target ∧ target ∉ Forest.ids forest

section Strictness

variable (options : Options) (strict : Bool) (forest : Forest)

theorem forestMarkup_strict (indent : Nat) :
    forestMarkup { options with strict } indent forest = forestMarkup options indent forest := by
  induction forest using Forest.inductLeaf generalizing indent with
  | nil => simp
  | leaf component rest childless beside =>
    rw [forestMarkup_leaf _ _ rest childless, forestMarkup_leaf _ _ rest childless, beside]
    rfl
  | parent component rest nested below beside =>
    rw [forestMarkup_parent _ _ rest nested, forestMarkup_parent _ _ rest nested, beside, below]
    rfl

theorem moduleText_strict : moduleText { options with strict } forest = moduleText options forest := by
  have parts : moduleParts { options with strict } forest = moduleParts options forest := by
    rw [moduleParts, forestMarkup_strict]
    rfl
  rw [moduleText_eq, moduleText_eq, parts]

theorem requests_strict : requests { options with strict } forest = requests options forest := rfl

/-- What a strict generator does is told by the findings alone. -/
theorem generate_strict :
    generate { options with strict := true } forest =
      if (findings options forest).any Finding.isError then .error (.invalidPage (findings options forest))
      else moduleText options forest := by
  rw [generate, moduleText_strict]
  rfl

theorem generate_lenient : generate { options with strict := false } forest = moduleText options forest := by
  rw [generate, moduleText_strict]
  rfl

end Strictness

section Errors

variable (options : Options) (forest : Forest)

theorem isAboutTarget_of_isError {finding : Finding} (member : finding ∈ findings options forest)
    (error : finding.isError = true) : finding.issue.isAboutTarget = true := by
  rw [findings, List.mem_append, List.mem_append] at member
  rcases member with (duplicate | state) | event
  · obtain ⟨id, _, rfl⟩ := List.mem_map.mp duplicate
    cases error
  · rw [Finding.isError, (of_mem_stateFindings forest state).2] at error
    cases error
  · obtain ⟨component, _, listed⟩ := List.mem_flatMap.mp event
    exact (eventFinding_of_mem options forest listed).isAboutTarget error

theorem isError_finding_iff (request : Request) :
    (request.finding forest).isError = true ↔ request.target ∉ Forest.ids forest := by
  by_cases known : request.target ∈ Forest.ids forest <;> simp [Finding.isError, severity_finding, known]

/-- A page has an error iff one of its events asks for a component that is not there. -/
theorem any_isError_iff :
    (findings options forest).any Finding.isError = true ↔
      ∃ request ∈ requests options forest, request.target ∉ Forest.ids forest := by
  rw [List.any_eq_true]
  constructor
  · rintro ⟨finding, member, error⟩
    have aboutTarget : finding ∈ targetFindings options forest :=
      List.mem_filter.mpr ⟨member, isAboutTarget_of_isError options forest member error⟩
    rw [targetFindings_eq] at aboutTarget
    obtain ⟨request, undeclared, rfl⟩ := List.mem_map.mp aboutTarget
    exact ⟨request, List.mem_of_mem_filter undeclared, (isError_finding_iff forest request).mp error⟩
  · rintro ⟨request, member, missing⟩
    have undeclared : referenceName request.target ∉ referenceNames options forest := by
      rw [mem_referenceNames_iff]
      split
      · exact missing
      · exact fun root => missing ((Forest.roots_sublist_ids forest).subset root)
    have due : request.finding forest ∈ targetFindings options forest := by
      rw [targetFindings_eq]
      exact List.mem_map_of_mem (List.mem_filter.mpr ⟨member, by simpa using undeclared⟩)
    exact ⟨_, List.mem_of_mem_filter due, (isError_finding_iff forest request).mpr missing⟩

end Errors

section Statements

variable {options : Options}

/-- Every action with a target is written, as a use of the reference of its target. -/
theorem reachesFor_of_target? (options : Options) {action : Action} {target : ComponentId}
    (reaches : action.target? = some target) :
    ∃ statement, statement? options action = some statement ∧ ReachesFor statement target := by
  cases action with
  | callMethod id method =>
    obtain rfl := Option.some.inj reaches
    exact ⟨_, rfl, .inl ⟨method, rfl⟩⟩
  | domOperation id operation =>
    obtain rfl := Option.some.inj reaches
    exact ⟨_, rfl, .inr ⟨operation, rfl⟩⟩
  | showMessage | unsupported => cases reaches

theorem ReachesFor.uses_reference {statement : String} {target : ComponentId} (reaches : ReachesFor statement target) :
    (referenceName target ++ ".current?.").toList <+: statement.toList := by
  rcases reaches with ⟨method, rfl⟩ | ⟨operation, rfl⟩
  · exact ⟨(method ++ "();").toList, by simp only [String.toList_append, List.append_assoc]⟩
  · exact ⟨(operation ++ ";").toList, by simp only [String.toList_append, List.append_assoc]⟩

theorem reachesMissing_iff (forest : Forest) :
    ReachesMissing options forest ↔ ∃ request ∈ requests options forest, request.target ∉ Forest.ids forest := by
  unfold ReachesMissing
  rw [handlers_forestMarkup_eq_map]
  constructor
  · rintro ⟨own, member, statement, stated, target, reaches, missing⟩
    obtain ⟨event, present, rfl⟩ := List.mem_map.mp member
    obtain ⟨action, listed, made⟩ := List.mem_filterMap.mp stated
    have aimed : target ∈ event.list.filterMap Action.target? :=
      List.mem_filterMap.mpr ⟨action, listed, target?_of_statement? options made reaches.uses_reference⟩
    exact ⟨⟨event.component.id, event.key, target⟩,
      List.mem_flatMap.mpr ⟨event, present, List.mem_map_of_mem aimed⟩, missing⟩
  · rintro ⟨request, member, missing⟩
    obtain ⟨event, present, asked⟩ := List.mem_flatMap.mp member
    obtain ⟨target, aimed, rfl⟩ := List.mem_map.mp asked
    obtain ⟨action, listed, aims⟩ := List.mem_filterMap.mp aimed
    obtain ⟨statement, written, reaches⟩ := reachesFor_of_target? options aims
    exact ⟨event.handler options, List.mem_map_of_mem present, statement,
      List.mem_filterMap.mpr ⟨action, listed, written⟩, target, reaches, missing⟩

end Statements

/-- Without strict options every page is generated, and the text holds its handlers. With them a page is refused
iff one of these handlers reaches for a component that the page does not have. It is refused with all its
findings, and any other page comes out as the same text. -/
theorem strict_exact (options : Options) (forest : Forest) :
    let lenient : Options := { options with strict := false }
    let strict : Options := { options with strict := true }
    ∃ before after,
      let text := before ++ handlerSection (forestMarkup lenient markupIndent forest).handlers ++ after
      generate lenient forest = .ok text ∧
        ((∃ error, generate strict forest = .error error) ↔ ReachesMissing lenient forest) ∧
        (generate strict forest = .error (.invalidPage (findings strict forest)) ↔ ReachesMissing lenient forest) ∧
        (generate strict forest = .ok text ↔ ¬ ReachesMissing lenient forest) := by
  intro lenient strict
  obtain ⟨before, after, written⟩ := moduleText_handlers options forest
  refine ⟨before, after, ?_⟩
  rw [generate_lenient, generate_strict, forestMarkup_strict]
  have errors : ReachesMissing lenient forest ↔ (findings options forest).any Finding.isError = true := by
    rw [reachesMissing_iff, any_isError_iff, requests_strict]
  have found : findings strict forest = findings options forest := rfl
  by_cases error : (findings options forest).any Finding.isError = true <;> simp [error, errors, written, found]

/-- A button whose event has an action that is not understood, and one that reaches for a component that is not
there. -/
def danglingPage : Forest :=
  [⟨1, "Button", ⟨[("onClick", .actions [.unsupported .null, .callMethod 9 "open"])], by decide⟩, none, "", none, none⟩]

/-- The refusal tells of the warning, too. -/
theorem strict_exact_dangling :
    let lenient : Options := { Options.standard with strict := false }
    let strict : Options := { Options.standard with strict := true }
    ReachesMissing lenient danglingPage ∧
      generate strict danglingPage = .error (.invalidPage [⟨.warning, 1, .unsupportedAction "onClick" 0⟩,
        ⟨.error, 1, .unresolvedTarget "onClick" 9⟩]) ∧
      ∃ text, generate lenient danglingPage = .ok text := by
  intro lenient strict
  obtain ⟨_, _, written, _, refused, _⟩ := strict_exact .standard danglingPage
  have found : findings strict danglingPage =
      [⟨.warning, 1, .unsupportedAction "onClick" 0⟩, ⟨.error, 1, .unresolvedTarget "onClick" 9⟩] := by
    decide +kernel
  have reaches : ReachesMissing lenient danglingPage := by
    refine ⟨⟨"handle1OnClick", 1, "onClick", ["9_ref.current?.open();"]⟩, ?_, _, List.mem_singleton_self _, 9,
      .inl ⟨"open", ?_⟩, ?_⟩
    all_goals decide +kernel
  exact ⟨reaches, found ▸ refused.mpr reaches, _, written⟩

end PageEditor.Generate
