import Mathlib.Data.List.Nodup
import PageEditor.Generate.Markup

/-!
The names of attributes. Props have distinct keys, and the style and the reference have names of their own; but
nothing keeps a prop from being named like these, and then its attribute stands in the tag beside the other.
-/

namespace PageEditor.Generate

/-- What stands before the equals signs in the tag of a component. -/
def attributeNames (options : Options) (component : Component) : List String :=
  (attributes options component).map Attribute.name

/-- Whether a value is written under its key. -/
def isWritten (options : Options) (key : String) : PropValue → Bool
  | .literal _ | .bound _ => true
  | .actions _ => options.isEventKey key
  | .unsupported _ => false

def writtenKeys (options : Options) (component : Component) : List String :=
  Entries.keys (component.props.entries.filter fun entry => isWritten options entry.1 entry.2)

variable (options : Options) (component : Component)

theorem name_propAttribute? (id : ComponentId) (key : String) (value : PropValue) :
    (propAttribute? options id key value).map Attribute.name = if isWritten options key value then some key else none := by
  cases value with
  | actions list => by_cases event : options.isEventKey key <;> simp [propAttribute?, isWritten, event]
  | literal | bound | unsupported => simp [propAttribute?, isWritten]

theorem names_props :
    (component.props.entries.filterMap fun entry => propAttribute? options component.id entry.1 entry.2).map
        Attribute.name =
      writtenKeys options component :=
  calc (component.props.entries.filterMap fun entry => propAttribute? options component.id entry.1 entry.2).map
        Attribute.name
    _ = component.props.entries.filterMap fun entry =>
          (propAttribute? options component.id entry.1 entry.2).map Attribute.name := List.map_filterMap ..
    _ = component.props.entries.filterMap fun entry =>
          if isWritten options entry.1 entry.2 then some entry.1 else none :=
      List.filterMap_congr fun entry _ => name_propAttribute? options component.id entry.1 entry.2
    _ = (component.props.entries.filter fun entry => isWritten options entry.1 entry.2).filterMap
          (some ∘ Prod.fst) := List.filterMap_filter.symm
    _ = writtenKeys options component := by rw [List.filterMap_eq_map, writtenKeys, Entries.keys]

theorem attributeNames_eq :
    attributeNames options component =
      writtenKeys options component ++ (if component.styles.isSome then ["style"] else []) ++ ["ref"] := by
  rw [attributeNames, attributes, List.map_append, List.map_append, names_props]
  cases component.styles <;> rfl

theorem nodup_writtenKeys : (writtenKeys options component).Nodup :=
  component.props.distinct.sublist (List.filter_sublist.map Prod.fst)

/-- A tag repeats no name iff no prop that it writes is named like the reference or, where there are styles, like
these. -/
theorem nodup_attributeNames_iff (options : Options) (component : Component) :
    (attributeNames options component).Nodup ↔
      "ref" ∉ writtenKeys options component ∧
        (component.styles.isSome = true → "style" ∉ writtenKeys options component) := by
  have keys := nodup_writtenKeys options component
  rw [attributeNames_eq, List.append_assoc, List.nodup_append_comm]
  cases component.styles with
  | none => simp [keys]
  | some styles => simp [keys, and_comm]

/-- A styled text with props of its own for the style and the reference. -/
def restyledText : Component :=
  (((Component.new 1 "Text").setProp "style" (.literal (.string "wide"))).setProp "ref"
    (.literal (.string "text"))).setStyle "color" (.string "red")

theorem attributes_repeated :
    ¬ ∀ (options : Options) (component : Component), (attributeNames options component).Nodup := by
  intro distinct
  have twice : attributeNames .standard restyledText = ["style", "ref", "style", "ref"] := by decide
  have once := distinct .standard restyledText
  rw [twice] at once
  exact absurd once (by decide)

end PageEditor.Generate
