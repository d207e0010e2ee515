import PageEditor.Generate.Module
import PageEditor.Proofs.ReferenceFindings

/-!
What only the editor looks at. The outline label of a component, the id it keeps of its parent, and whether
it has an empty list of children or none at all have no influence on what is generated or found.
-/

namespace PageEditor

mutual

/-- A component as it is published: without label and parent, and with a list of children only where it has some. -/
def Component.published : Component → Component
  | ⟨id, name, props, styles, _, some (child :: children), _⟩ =>
    ⟨id, name, props, styles, "", some (Forest.published (child :: children)), none⟩
  | ⟨id, name, props, styles, _, some [], _⟩ => ⟨id, name, props, styles, "", none, none⟩
  | ⟨id, name, props, styles, _, none, _⟩ => ⟨id, name, props, styles, "", none, none⟩

def Forest.published : Forest → Forest
  | [] => []
  | component :: rest => component.published :: Forest.published rest

end

namespace Component

section Reading

variable {α : Type} {read : Component → α}
  (unread : ∀ component children, read { component with desc := "", children, parent := none } = read component)

include unread

/-- What looks neither at these data nor at the children sees no difference. -/
theorem read_published (component : Component) : read component.published = read component := by
  obtain ⟨id, name, props, styles, desc, children, parent⟩ := component
  match children with
  | none | some [] =>
    rw [published]
    exact unread ⟨id, name, props, styles, desc, _, parent⟩ none
  | some (child :: children) =>
    rw [published]
    exact unread ⟨id, name, props, styles, desc, _, parent⟩ _

theorem map_published (components : List Component) : (components.map published).map read = components.map read := by
  rw [List.map_map]
  exact List.map_congr_left fun component _ => read_published unread component

end Reading

theorem filterMap_published {α : Type} {read : Component → Option α}
    (unread : ∀ component children, read { component with desc := "", children, parent := none } = read component)
    (components : List Component) : (components.map published).filterMap read = components.filterMap read := by
  rw [List.filterMap_map]
  exact List.filterMap_congr fun component _ => read_published unread component

end Component

namespace Forest

theorem published_eq_map (forest : Forest) : published forest = forest.map Component.published := by
  induction forest with
  | nil => rw [published, List.map_nil]
  | cons component rest ih => rw [published, List.map_cons, ih]

@[simp] theorem childList_published (component : Component) :
    component.published.childList = published component.childList := by
  obtain ⟨id, name, props, styles, desc, children, parent⟩ := component
  match children with
  | none | some [] => simp [Component.published, Component.childList, published_eq_map]
  | some (child :: children) => simp [Component.published, Component.childList]

theorem nodes_published (forest : Forest) : nodes (published forest) = (nodes forest).map Component.published := by
  simp only [nodes_eq_preorder]
  induction forest using induct with
  | nil => simp [published_eq_map]
  | cons component rest below beside =>
    rw [published, preorder_cons, preorder_cons, childList_published, below, beside, List.map_cons, List.map_append]

theorem ids_published (forest : Forest) : ids (published forest) = ids forest := by
  rw [ids, nodes_published, Component.map_published fun _ _ => rfl, ids]

end Forest

namespace Generate

variable (options : Options) (forest : Forest)

theorem importedNames_published : importedNames forest.published = importedNames forest := by
  rw [importedNames, Forest.nodes_published, Component.map_published fun _ _ => rfl, importedNames]

theorem stateVariables_published : stateVariables options forest.published = stateVariables options forest := by
  rw [stateVariables, Forest.published_eq_map, Component.filterMap_published fun _ _ => rfl, stateVariables]

theorem references_published : references options forest.published = references options forest := by
  unfold references
  split
  · rw [Forest.nodes_published, Component.map_published fun _ _ => rfl]
  · rw [Forest.published_eq_map, Component.map_published fun _ _ => rfl]

theorem forestMarkup_published (indent : Nat) :
    forestMarkup options indent forest.published = forestMarkup options indent forest := by
  induction forest using Forest.inductLeaf generalizing indent with
  | nil => rw [Forest.published]
  | leaf component rest childless beside =>
    have still : component.published.childList = [] := by rw [Forest.childList_published, childless, Forest.published]
    have element : emptyElement options indent component.published = emptyElement options indent component :=
      component.read_published fun _ _ => rfl
    rw [Forest.published, forestMarkup_leaf _ _ _ still, forestMarkup_leaf _ _ _ childless, element, beside]
  | parent component rest nested below beside =>
    have still : component.published.childList ≠ [] := by
      rw [Forest.childList_published, Forest.published_eq_map]
      exact fun none => nested (List.map_eq_nil_iff.mp none)
    have around (children : Markup) :
        element options indent component.published children = element options indent component children :=
      @Component.read_published _ (element options indent · children) (fun _ _ => rfl) component
    rw [Forest.published, forestMarkup_parent _ _ _ still, forestMarkup_parent _ _ _ nested, Forest.childList_published,
      below, beside, around]

theorem stateFindings_published : stateFindings forest.published = stateFindings forest := by
  rw [stateFindings, List.filterMap_filter, Forest.published_eq_map, Component.filterMap_published fun _ _ => rfl,
    stateFindings, List.filterMap_filter]

/-- A target is looked for among ids and roots. -/
theorem targetFinding?_published : targetFinding? options forest.published = targetFinding? options forest := by
  funext owner event target
  rw [targetFinding?_eq, targetFinding?_eq, referenceNames, references_published, Request.finding, Request.finding,
    Forest.ids_published, referenceNames]

theorem componentFindings_published (component : Component) :
    componentFindings options forest.published component.published = componentFindings options forest component := by
  have findings : propFindings options forest.published = propFindings options forest := by
    funext owner event value
    cases value <;> simp only [propFindings, targetFinding?_published]
  rw [componentFindings, findings]
  exact @Component.read_published _ (componentFindings options forest) (fun _ _ => rfl) component

theorem eventFindings_published : eventFindings options forest.published = eventFindings options forest := by
  rw [eventFindings, Forest.nodes_published, List.flatMap_map, eventFindings]
  apply List.flatMap_congr
  intro component _
  exact componentFindings_published options forest component

theorem findings_published : findings options forest.published = findings options forest := by
  rw [findings, duplicateFindings, Forest.repeatedIds, Forest.ids_published, stateFindings_published,
    eventFindings_published]
  rfl

theorem generate_published : generate options forest.published = generate options forest := by
  have data : moduleData options forest.published = moduleData options forest := by
    simp only [moduleData, declarationLines, importedNames_published, stateVariables_published, references_published,
      forestMarkup_published]
  rw [generate, findings_published, moduleText, data]
  rfl

/-- Pages that are published alike are generated alike, or refused with the same error, and have the same findings,
whatever the options. -/
theorem editor_data_unread (options : Options) {first second : Forest} (alike : first.published = second.published) :
    generate options first = generate options second ∧ findings options first = findings options second := by
  constructor
  · rw [← generate_published, alike, generate_published]
  · rw [← findings_published, alike, findings_published]

/-- A row around a button that reaches for a component that is not there. -/
def labelledRow (desc : String) (children : Option Forest) (parent : Option ComponentId) : Forest :=
  [⟨1, "Row", .empty, none, desc, some [⟨2, "Button", ⟨[("onClick", .actions [.callMethod 9 "open"])], by decide⟩, none,
    desc, children, parent⟩], parent⟩]

theorem editor_data_unread_labelledRow :
    let strict : Options := { Options.standard with strict := true }
    labelledRow "Row" (some []) (some 1) ≠ labelledRow "" none none ∧
      (labelledRow "Row" (some []) (some 1)).published = (labelledRow "" none none).published ∧
      generate strict (labelledRow "Row" (some []) (some 1)) = generate strict (labelledRow "" none none) ∧
      findings strict (labelledRow "Row" (some []) (some 1)) = findings strict (labelledRow "" none none) := by
  intro strict
  have alike : (labelledRow "Row" (some []) (some 1)).published = (labelledRow "" none none).published := by
    decide +kernel
  exact ⟨by decide +kernel, alike, editor_data_unread strict alike⟩

end Generate

end PageEditor
