import PageEditor.Component

/-!
Looking up, changing and detaching components anywhere in a page. All components are listed by a walk
that keeps those still to visit; `nodes_eq_preorder` says that this is the recursive pre-order, every
component before its children and these before its later siblings.
-/

namespace PageEditor

mutual

def Component.size : Component → Nat
  | ⟨_, _, _, _, _, some children, _⟩ => 1 + Forest.size children
  | ⟨_, _, _, _, _, none, _⟩ => 1

def Forest.size : Forest → Nat
  | [] => 0
  | component :: rest => component.size + Forest.size rest

end

mutual

def Component.preorder : Component → List Component
  | ⟨id, name, props, styles, desc, some children, parent⟩ =>
    ⟨id, name, props, styles, desc, some children, parent⟩ :: Forest.preorder children
  | ⟨id, name, props, styles, desc, none, parent⟩ => [⟨id, name, props, styles, desc, none, parent⟩]

def Forest.preorder : Forest → List Component
  | [] => []
  | component :: rest => component.preorder ++ Forest.preorder rest

end

theorem Component.size_eq (component : Component) : component.size = 1 + Forest.size component.childList := by
  obtain ⟨_, _, _, _, _, children, _⟩ := component
  cases children <;> simp [Component.size, Forest.size, Component.childList]

theorem Component.preorder_eq (component : Component) :
    component.preorder = component :: Forest.preorder component.childList := by
  obtain ⟨_, _, _, _, _, children, _⟩ := component
  cases children <;> simp [Component.preorder, Forest.preorder, Component.childList]

namespace Forest

theorem size_append (first second : Forest) : size (first ++ second) = size first + size second := by
  induction first with
  | nil => simp [size]
  | cons component rest ih =>
    simp only [List.cons_append, size, ih]
    omega

theorem preorder_append (first second : Forest) : preorder (first ++ second) = preorder first ++ preorder second := by
  induction first with
  | nil => rfl
  | cons component rest ih => simp [preorder, ih]

/-- One step of the walk: the first of the components still to visit, with its children in its place. -/
def visit? : Forest → Option (Component × Forest)
  | [] => none
  | component :: rest => some (component, component.childList ++ rest)

theorem size_visit {pending left : Forest} {component : Component} (visited : visit? pending = some (component, left)) :
    size left < size pending := by
  cases pending with
  | nil => contradiction
  | cons first rest =>
    obtain ⟨rfl, rfl⟩ := Prod.mk.inj (Option.some.inj visited)
    simp only [size_append, size, Component.size_eq first]
    omega

/-- All components, in the order in which the walk visits them. -/
def nodes (pending : Forest) : List Component :=
  match visited : visit? pending with
  | none => []
  | some (component, left) =>
    have := size_visit visited
    component :: nodes left
termination_by size pending

@[simp] theorem nodes_nil : nodes [] = [] := by
  rw [nodes]
  rfl

/-- A step takes the first component off the pre-order of what is still to visit. -/
theorem preorder_visit {pending left : Forest} {component : Component}
    (visited : visit? pending = some (component, left)) : preorder pending = component :: preorder left := by
  cases pending with
  | nil => contradiction
  | cons first rest =>
    obtain ⟨rfl, rfl⟩ := Prod.mk.inj (Option.some.inj visited)
    rw [preorder_append, preorder, Component.preorder_eq first, List.cons_append]

theorem nodes_eq_preorder (forest : Forest) : nodes forest = preorder forest := by
  fun_induction nodes forest with
  | case1 pending visited =>
    cases pending with
    | nil => rfl
    | cons first rest => contradiction
  | case2 pending component left visited _ ih => rw [ih, preorder_visit visited]

theorem nodes_append (first second : Forest) : nodes (first ++ second) = nodes first ++ nodes second := by
  simp only [nodes_eq_preorder, preorder_append]

def ids (forest : Forest) : List ComponentId := (nodes forest).map Component.id

def find? (forest : Forest) (id : ComponentId) : Option Component :=
  (nodes forest).find? fun component => component.id = id

def isRoot (forest : Forest) (id : ComponentId) : Bool := forest.any fun component => component.id = id

/-- Ids met again, at their second meeting only. -/
def repeated (seen reported : List ComponentId) : List ComponentId → List ComponentId
  | [] => []
  | id :: rest =>
    if id ∈ seen ∧ id ∉ reported then id :: repeated seen (id :: reported) rest
    else repeated (id :: seen) reported rest

def repeatedIds (forest : Forest) : List ComponentId := repeated [] [] (ids forest)

end Forest

mutual

/-- Changes the first component with an id, or answers nothing if there is none. -/
def Component.modify? (id : ComponentId) (change : Component → Component) : Component → Option Component
  | ⟨own, name, props, styles, desc, some children, parent⟩ =>
    if own = id then some (change ⟨own, name, props, styles, desc, some children, parent⟩)
    else (Forest.modify? id change children).map fun children => ⟨own, name, props, styles, desc, some children, parent⟩
  | ⟨own, name, props, styles, desc, none, parent⟩ =>
    if own = id then some (change ⟨own, name, props, styles, desc, none, parent⟩) else none

def Forest.modify? (id : ComponentId) (change : Component → Component) : Forest → Option Forest
  | [] => none
  | component :: rest =>
    match component.modify? id change with
    | some changed => some (changed :: rest)
    | none => (Forest.modify? id change rest).map (component :: ·)

end

/-- Takes the first of some siblings that has an id. -/
def Forest.takeRoot (id : ComponentId) : Forest → Option Component × Forest
  | [] => (none, [])
  | component :: rest =>
    if component.id = id then (some component, rest)
    else
      let (taken, left) := Forest.takeRoot id rest
      (taken, component :: left)

mutual

/-- Takes a component with an id from below another one: a child, or else one from below the children. -/
def Component.takeBelow (id : ComponentId) : Component → Option Component × Component
  | ⟨own, name, props, styles, desc, some children, parent⟩ =>
    match Forest.takeRoot id children with
    | (some taken, left) => (some taken, ⟨own, name, props, styles, desc, some left, parent⟩)
    | (none, _) =>
      let (taken, left) := Forest.takeBelow id children
      (taken, ⟨own, name, props, styles, desc, some left, parent⟩)
  | ⟨own, name, props, styles, desc, none, parent⟩ => (none, ⟨own, name, props, styles, desc, none, parent⟩)

def Forest.takeBelow (id : ComponentId) : Forest → Option Component × Forest
  | [] => (none, [])
  | component :: rest =>
    match component.takeBelow id with
    | (some taken, left) => (some taken, left :: rest)
    | (none, left) =>
      let (taken, others) := Forest.takeBelow id rest
      (taken, left :: others)

end

/-- Detaches a component with its subtree, and answers it. All siblings are asked before any of their children. -/
def Forest.remove (id : ComponentId) (forest : Forest) : Option Component × Forest :=
  match Forest.takeRoot id forest with
  | (some taken, left) => (some taken, left)
  | (none, left) => Forest.takeBelow id left

end PageEditor
