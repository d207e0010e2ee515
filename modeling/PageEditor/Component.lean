import PageEditor.PropValue

/-!
Components, the nodes of the composed page. A component may have no list of children at all or an empty
one; the two are told apart wherever a component is written. Equality is decided by walking two trees
side by side.
-/

namespace PageEditor

structure Component where
  id : ComponentId
  name : String
  props : Dict PropValue
  styles : Option (Dict Json)
  /-- What the editor's outline shows. -/
  desc : String
  children : Option (List Component)
  parent : Option ComponentId

/-- The roots of a page, in order. -/
abbrev Forest := List Component

namespace Component

def new (id : ComponentId) (name : String) : Component := ⟨id, name, .empty, none, "", none, none⟩

def childList (component : Component) : Forest := component.children.getD []

def prop? (component : Component) (key : String) : Option PropValue := component.props.get? key

def hasProp (component : Component) (key : String) : Bool := component.props.contains key

def setProp (component : Component) (key : String) (value : PropValue) : Component :=
  { component with props := component.props.insert key value }

def styleMap (component : Component) : Dict Json := component.styles.getD .empty

def setStyle (component : Component) (key : String) (value : Json) : Component :=
  { component with styles := some (component.styleMap.insert key value) }

/-- Appends a child that knows its parent. -/
def addChild (component child : Component) : Component :=
  { component with children := some (component.childList ++ [{ child with parent := some component.id }]) }

mutual

def same : Component → Component → Bool
  | ⟨id, name, props, styles, desc, some children, parent⟩, ⟨id', name', props', styles', desc', some children', parent'⟩ =>
    decide ((id, name, props, styles, desc, parent) = (id', name', props', styles', desc', parent'))
      && sameForest children children'
  | ⟨id, name, props, styles, desc, none, parent⟩, ⟨id', name', props', styles', desc', none, parent'⟩ =>
    decide ((id, name, props, styles, desc, parent) = (id', name', props', styles', desc', parent'))
  | ⟨_, _, _, _, _, some _, _⟩, ⟨_, _, _, _, _, none, _⟩ => false
  | ⟨_, _, _, _, _, none, _⟩, ⟨_, _, _, _, _, some _, _⟩ => false

def sameForest : Forest → Forest → Bool
  | [], [] => true
  | left :: lefts, right :: rights => same left right && sameForest lefts rights
  | [], _ :: _ => false
  | _ :: _, [] => false

end

mutual

theorem same_iff : ∀ left right : Component, same left right = true ↔ left = right
  | ⟨_, _, _, _, _, some children, _⟩, ⟨_, _, _, _, _, some _, _⟩ => by
    simp [same, sameForest_iff children, and_assoc, and_comm, and_left_comm]
  | ⟨_, _, _, _, _, none, _⟩, ⟨_, _, _, _, _, none, _⟩ => by simp [same]
  | ⟨_, _, _, _, _, some _, _⟩, ⟨_, _, _, _, _, none, _⟩ => by simp [same]
  | ⟨_, _, _, _, _, none, _⟩, ⟨_, _, _, _, _, some _, _⟩ => by simp [same]

theorem sameForest_iff : ∀ left right : Forest, sameForest left right = true ↔ left = right
  | [], [] => by simp [sameForest]
  | first :: rest, other :: others => by simp [sameForest, same_iff first, sameForest_iff rest]
  | [], _ :: _ => by simp [sameForest]
  | _ :: _, [] => by simp [sameForest]

end

instance : DecidableEq Component := fun left right => decidable_of_iff _ (same_iff left right)

end Component

end PageEditor
