import PageEditor.Generate.Markup
import PageEditor.Proofs.ForestInduction

/-!
The lines of a page's markup before they are written. A component without children has one line, any
other an opening and a closing one around the lines of its children.
-/

namespace PageEditor.Forest

/-- Induction over a page that tells components without children from the others. -/
@[elab_as_elim] theorem inductLeaf {motive : Forest → Prop} (nil : motive [])
    (leaf : ∀ component rest, component.childList = [] → motive rest → motive (component :: rest))
    (parent : ∀ component rest, component.childList ≠ [] → motive component.childList → motive rest →
      motive (component :: rest)) (forest : Forest) : motive forest := by
  induction forest using induct with
  | nil => exact nil
  | cons component rest below beside =>
    by_cases childless : component.childList = []
    · exact leaf component rest childless beside
    · exact parent component rest childless below beside

end PageEditor.Forest

namespace PageEditor.Generate

namespace Markup

@[simp] theorem lines_empty : Markup.empty.lines = [] := rfl

@[simp] theorem handlers_empty : Markup.empty.handlers = [] := rfl

@[simp] theorem lines_append (first second : Markup) : (first ++ second).lines = first.lines ++ second.lines := rfl

@[simp] theorem handlers_append (first second : Markup) :
    (first ++ second).handlers = first.handlers ++ second.handlers := rfl

end Markup

section Equations

variable (options : Options) (indent : Nat) {component : Component} (rest : Forest)

@[simp] theorem forestMarkup_nil : forestMarkup options indent [] = .empty := by rw [forestMarkup]

theorem forestMarkup_leaf (childless : component.childList = []) :
    forestMarkup options indent (component :: rest) =
      emptyElement options indent component ++ forestMarkup options indent rest := by
  obtain ⟨id, name, props, styles, desc, children, parent⟩ := component
  rw [forestMarkup]
  match children, childless with
  | none, _ | some [], _ => simp [componentMarkup]

theorem forestMarkup_parent (nested : component.childList ≠ []) :
    forestMarkup options indent (component :: rest) =
      element options indent component (forestMarkup options (indent + indentStep) component.childList) ++
        forestMarkup options indent rest := by
  obtain ⟨id, name, props, styles, desc, children, parent⟩ := component
  rw [forestMarkup]
  match children, nested with
  | none, nested | some [], nested => exact absurd rfl nested
  | some (child :: children), _ => rw [componentMarkup]; rfl

end Equations

/-- A line, with the component it belongs to and how many others this one stands in. -/
inductive Line where
  | opening (depth : Nat) (component : Component)
  | closing (depth : Nat) (component : Component)
  | single (depth : Nat) (component : Component)

namespace Line

def depth : Line → Nat
  | .opening depth _ | .closing depth _ | .single depth _ => depth

def component : Line → Component
  | .opening _ component | .closing _ component | .single _ component => component

/-- The component that starts with the line. -/
def started? : Line → Option Component
  | .opening _ component | .single _ component => some component
  | .closing .. => none

def text (options : Options) (start : Nat) : Line → String
  | .opening depth component => spaces (start + indentStep * depth) ++ "<" ++ tagText options component ++ ">"
  | .closing depth component => spaces (start + indentStep * depth) ++ "</" ++ component.name ++ ">"
  | .single depth component => spaces (start + indentStep * depth) ++ "<" ++ tagText options component ++ " />"

end Line

mutual

def componentLines (depth : Nat) : Component → List Line
  | ⟨id, name, props, styles, desc, some (child :: children), parent⟩ =>
    [.opening depth ⟨id, name, props, styles, desc, some (child :: children), parent⟩]
      ++ forestLines (depth + 1) (child :: children)
      ++ [.closing depth ⟨id, name, props, styles, desc, some (child :: children), parent⟩]
  | component => [.single depth component]

def forestLines (depth : Nat) : Forest → List Line
  | [] => []
  | component :: rest => componentLines depth component ++ forestLines depth rest

end

section Equations

variable (depth : Nat) {component : Component} (rest : Forest)

@[simp] theorem forestLines_nil : forestLines depth [] = [] := by rw [forestLines]

theorem forestLines_leaf (childless : component.childList = []) :
    forestLines depth (component :: rest) = .single depth component :: forestLines depth rest := by
  obtain ⟨id, name, props, styles, desc, children, parent⟩ := component
  rw [forestLines]
  match children, childless with
  | none, _ | some [], _ => simp [componentLines]

theorem forestLines_parent (nested : component.childList ≠ []) :
    forestLines depth (component :: rest) =
      .opening depth component ::
        (forestLines (depth + 1) component.childList ++ .closing depth component :: forestLines depth rest) := by
  obtain ⟨id, name, props, styles, desc, children, parent⟩ := component
  rw [forestLines]
  match children, nested with
  | none, nested | some [], nested => exact absurd rfl nested
  | some (child :: children), _ =>
    rw [componentLines, List.append_assoc, List.append_assoc]
    rfl

end Equations

theorem lines_forestMarkup (options : Options) (start depth : Nat) (forest : Forest) :
    (forestMarkup options (start + indentStep * depth) forest).lines =
      (forestLines depth forest).map (Line.text options start) := by
  induction forest using Forest.inductLeaf generalizing depth with
  | nil => simp
  | leaf component rest childless beside =>
    rw [forestMarkup_leaf options _ rest childless, forestLines_leaf depth rest childless, Markup.lines_append, beside]
    rfl
  | parent component rest nested below beside =>
    have deeper : start + indentStep * depth + indentStep = start + indentStep * (depth + 1) := by
      rw [Nat.mul_succ, Nat.add_assoc]
    rw [forestMarkup_parent options _ rest nested, forestLines_parent depth rest nested, Markup.lines_append, beside,
      deeper, element, below]
    simp only [List.map_cons, List.map_append, List.append_assoc]
    rfl

/-- The components start in the order of the walk. -/
theorem started_forestLines (depth : Nat) (forest : Forest) :
    (forestLines depth forest).filterMap Line.started? = Forest.nodes forest := by
  rw [Forest.nodes_eq_preorder]
  induction forest using Forest.inductLeaf generalizing depth with
  | nil => rfl
  | leaf component rest childless beside =>
    simp [forestLines_leaf depth rest childless, Line.started?, beside, childless]
  | parent component rest nested below beside =>
    simp [forestLines_parent depth rest nested, List.filterMap_cons, Line.started?, below, beside]

theorem component_mem_of_mem_forestLines {depth : Nat} {forest : Forest} {line : Line}
    (member : line ∈ forestLines depth forest) : line.component ∈ Forest.nodes forest := by
  rw [Forest.nodes_eq_preorder]
  induction forest using Forest.inductLeaf generalizing depth with
  | nil => cases member
  | leaf component rest childless beside =>
    rw [forestLines_leaf depth rest childless] at member
    rw [Forest.preorder_cons, childless]
    rcases List.mem_cons.mp member with rfl | later
    · exact List.mem_cons_self
    · exact List.mem_cons_of_mem _ (beside later)
  | parent component rest nested below beside =>
    rw [forestLines_parent depth rest nested] at member
    rw [Forest.preorder_cons, List.mem_cons, List.mem_append]
    rcases List.mem_cons.mp member with rfl | member
    · exact .inl rfl
    · rcases List.mem_append.mp member with inside | member
      · exact .inr (.inl (below inside))
      · rcases List.mem_cons.mp member with rfl | later
        · exact .inl rfl
        · exact .inr (.inr (beside later))

/-- The handlers of a page are those of its components, in the order of the walk. -/
theorem handlers_forestMarkup (options : Options) (indent : Nat) (forest : Forest) :
    (forestMarkup options indent forest).handlers = (Forest.nodes forest).flatMap (handlers options) := by
  rw [Forest.nodes_eq_preorder]
  induction forest using Forest.inductLeaf generalizing indent with
  | nil => simp
  | leaf component rest childless beside =>
    simp [forestMarkup_leaf options indent rest childless, emptyElement, beside, childless]
  | parent component rest nested below beside =>
    simp [forestMarkup_parent options indent rest nested, element, below, beside]

end PageEditor.Generate
