import PageEditor.Forest

/-!
Induction over pages. A page is empty, or it is a first component with a page below it and a page
beside it. The functions on pages are restated by these two cases, so that no proof about them has to
look at a component on its own or to ask whether a list of children is there.
-/

namespace PageEditor

namespace Component

def withChildren (component : Component) (children : Forest) : Component :=
  { component with children := some children }

@[simp] theorem id_withChildren (component : Component) (children : Forest) :
    (component.withChildren children).id = component.id := rfl

@[simp] theorem childList_withChildren (component : Component) (children : Forest) :
    (component.withChildren children).childList = children := rfl

theorem withChildren_eq_self {component : Component} {children : Forest} (nested : component.children = some children) :
    component.withChildren children = component := by
  obtain ⟨id, name, props, styles, desc, _, parent⟩ := component
  obtain rfl := nested
  rfl

end Component

namespace Forest

@[elab_as_elim] theorem induct {motive : Forest → Prop} (nil : motive [])
    (cons : ∀ component rest, motive component.childList → motive rest → motive (component :: rest)) :
    ∀ forest, motive forest
  | [] => nil
  | component :: rest => cons component rest (induct nil cons component.childList) (induct nil cons rest)
termination_by forest => size forest
decreasing_by all_goals simp only [size, Component.size_eq]; omega

@[simp] theorem preorder_nil : preorder [] = [] := rfl

@[simp] theorem preorder_cons (component : Component) (rest : Forest) :
    preorder (component :: rest) = component :: (preorder component.childList ++ preorder rest) := by
  rw [preorder, Component.preorder_eq, List.cons_append]

theorem ids_eq_map (forest : Forest) : ids forest = (preorder forest).map Component.id := by
  rw [ids, nodes_eq_preorder]

@[simp] theorem ids_nil : ids [] = [] := by rw [ids_eq_map]; rfl

@[simp] theorem ids_cons (component : Component) (rest : Forest) :
    ids (component :: rest) = component.id :: (ids component.childList ++ ids rest) := by
  simp only [ids_eq_map, preorder_cons, List.map_cons, List.map_append]

@[simp] theorem ids_append (first second : Forest) : ids (first ++ second) = ids first ++ ids second := by
  simp only [ids_eq_map, preorder_append, List.map_append]

theorem roots_sublist_ids (forest : Forest) : (forest.map Component.id).Sublist (ids forest) := by
  induction forest using induct with
  | nil => simp
  | cons component rest _ beside =>
    rw [ids_cons, List.map_cons]
    exact (beside.trans (List.sublist_append_right ..)).cons_cons _

theorem find?_eq_find? (id : ComponentId) (forest : Forest) :
    find? forest id = (preorder forest).find? fun component => component.id = id := by
  rw [find?, nodes_eq_preorder]

@[simp] theorem find?_nil (id : ComponentId) : find? [] id = none := by simp [find?_eq_find?]

/-- The search of the walk: the component itself, the page below it, the page beside it. -/
theorem find?_cons (id : ComponentId) (component : Component) (rest : Forest) :
    find? (component :: rest) id =
      if component.id = id then some component else (find? component.childList id).or (find? rest id) := by
  simp only [find?_eq_find?, preorder_cons, List.find?_cons, List.find?_append]
  split <;> simp_all

theorem find?_eq_none_iff {id : ComponentId} {forest : Forest} : find? forest id = none ↔ id ∉ ids forest := by
  simp [find?, ids]

/-- The search finds the first component of the walk that has the id. -/
theorem find?_eq_some_iff {id : ComponentId} {forest : Forest} {found : Component} :
    find? forest id = some found ↔
      found.id = id ∧ ∃ before after, preorder forest = before ++ found :: after ∧
        ∀ component ∈ before, component.id ≠ id := by
  rw [find?_eq_find?, List.find?_eq_some_iff_append]
  simp

@[simp] theorem modify?_nil (id : ComponentId) (change : Component → Component) : modify? id change [] = none := by
  rw [modify?]

private theorem modify?_component (id : ComponentId) (change : Component → Component) (component : Component) :
    component.modify? id change =
      if component.id = id then some (change component)
      else (modify? id change component.childList).map component.withChildren := by
  obtain ⟨own, name, props, styles, desc, children, parent⟩ := component
  cases children with
  | none => simp [Component.modify?, Component.childList]
  | some children =>
    rw [Component.modify?]
    rfl

/-- The search of a change: the component itself, the page below it, the page beside it. -/
theorem modify?_cons (id : ComponentId) (change : Component → Component) (component : Component) (rest : Forest) :
    modify? id change (component :: rest) =
      if component.id = id then some (change component :: rest)
      else ((modify? id change component.childList).map fun children => component.withChildren children :: rest).or
        ((modify? id change rest).map (component :: ·)) := by
  rw [modify?, modify?_component]
  by_cases found : component.id = id
  · simp [found]
  · cases below : modify? id change component.childList <;> simp [found]

section Removal

variable {id : ComponentId} {forest : Forest}

private theorem takeRoot_unchanged (missing : (takeRoot id forest).1 = none) : (takeRoot id forest).2 = forest := by
  induction forest with
  | nil => rfl
  | cons component rest ih =>
    rw [takeRoot] at missing ⊢
    split at missing
    next => cases missing
    next other =>
      rw [if_neg other]
      exact congrArg (component :: ·) (ih missing)

/-- Siblings that were asked in vain are the ones below which the search goes on. -/
private theorem remove_eq (id : ComponentId) (forest : Forest) :
    remove id forest = if (takeRoot id forest).1 = none then takeBelow id forest else takeRoot id forest := by
  rw [remove]
  rcases asked : takeRoot id forest with ⟨_ | taken, left⟩
  · have unchanged := takeRoot_unchanged (congrArg Prod.fst asked)
    rw [asked] at unchanged
    obtain rfl : left = forest := unchanged
    rfl
  · rfl

private theorem remove_unchanged_of (below : (takeBelow id forest).1 = none → (takeBelow id forest).2 = forest)
    (missing : (remove id forest).1 = none) : (remove id forest).2 = forest := by
  rw [remove_eq] at missing ⊢
  split at missing
  next noRoot =>
    rw [if_pos noRoot]
    exact below missing
  next root => exact absurd missing root

private theorem takeBelow_nested {component : Component} {children : Forest}
    (nested : component.children = some children) :
    component.takeBelow id =
      ((remove id component.childList).1, component.withChildren (remove id component.childList).2) := by
  obtain ⟨own, name, props, styles, desc, _, parent⟩ := component
  obtain rfl := nested
  rw [Component.takeBelow, Component.childList, Option.getD_some, remove_eq]
  rcases takeRoot id children with ⟨_ | taken, left⟩ <;> rfl

private theorem takeBelow_childless {component : Component} (childless : component.children = none) :
    component.takeBelow id = (none, component) := by
  obtain ⟨own, name, props, styles, desc, _, parent⟩ := component
  obtain rfl := childless
  rw [Component.takeBelow]

private theorem takeBelow_component_unchanged {component : Component}
    (below : (takeBelow id component.childList).1 = none → (takeBelow id component.childList).2 = component.childList)
    (missing : (component.takeBelow id).1 = none) : (component.takeBelow id).2 = component := by
  cases nested : component.children with
  | none => rw [takeBelow_childless nested]
  | some children =>
    have listed : component.childList = children := by rw [Component.childList, nested, Option.getD_some]
    rw [takeBelow_nested nested] at missing ⊢
    rw [remove_unchanged_of below missing, listed, Component.withChildren_eq_self nested]

private theorem takeBelow_unchanged (missing : (takeBelow id forest).1 = none) : (takeBelow id forest).2 = forest := by
  induction forest using induct with
  | nil => rw [takeBelow]
  | cons component rest below beside =>
    have inside := takeBelow_component_unchanged below
    rw [takeBelow] at missing ⊢
    rcases asked : component.takeBelow id with ⟨_ | taken, left⟩
    · rw [asked] at missing inside
      obtain rfl : left = component := inside rfl
      exact congrArg (left :: ·) (beside missing)
    · rw [asked] at missing
      cases missing

/-- A removal that finds nothing leaves the page as it was. -/
theorem remove_unchanged (missing : (remove id forest).1 = none) : (remove id forest).2 = forest :=
  remove_unchanged_of takeBelow_unchanged missing

end Removal

/-- What was taken and what was left, if something was taken. -/
def taken? {α : Type} : Option Component × α → Option (Component × α)
  | (some taken, left) => some (taken, left)
  | (none, _) => none

theorem taken?_eq_some_iff {α : Type} {result : Option Component × α} {taken : Component} {left : α} :
    taken? result = some (taken, left) ↔ result = (some taken, left) := by
  obtain ⟨_ | found, rest⟩ := result <;> simp [taken?]

theorem taken?_eq_none_iff {α : Type} {result : Option Component × α} : taken? result = none ↔ result.1 = none := by
  obtain ⟨_ | found, rest⟩ := result <;> simp [taken?]

def takeRoot? (id : ComponentId) (forest : Forest) : Option (Component × Forest) := taken? (takeRoot id forest)

def takeBelow? (id : ComponentId) (forest : Forest) : Option (Component × Forest) := taken? (takeBelow id forest)

def remove? (id : ComponentId) (forest : Forest) : Option (Component × Forest) := taken? (remove id forest)

@[simp] theorem takeRoot?_nil (id : ComponentId) : takeRoot? id [] = none := rfl

theorem takeRoot?_cons (id : ComponentId) (component : Component) (rest : Forest) :
    takeRoot? id (component :: rest) =
      if component.id = id then some (component, rest)
      else (takeRoot? id rest).map fun (taken, left) => (taken, component :: left) := by
  rw [takeRoot?, takeRoot, takeRoot?]
  split
  · rfl
  · rcases takeRoot id rest with ⟨_ | taken, left⟩ <;> rfl

theorem remove?_eq_some_iff {id : ComponentId} {forest left : Forest} {taken : Component} :
    remove? id forest = some (taken, left) ↔ remove id forest = (some taken, left) := taken?_eq_some_iff

theorem remove?_eq_or (id : ComponentId) (forest : Forest) :
    remove? id forest = (takeRoot? id forest).or (takeBelow? id forest) := by
  rw [remove?, remove_eq, takeRoot?, takeBelow?]
  rcases takeRoot id forest with ⟨_ | taken, left⟩ <;> rfl

@[simp] theorem takeBelow?_nil (id : ComponentId) : takeBelow? id [] = none := by
  rw [takeBelow?, takeBelow]
  rfl

@[simp] theorem remove?_nil (id : ComponentId) : remove? id [] = none := by simp [remove?_eq_or]

private theorem takeBelow?_component (id : ComponentId) (component : Component) :
    taken? (component.takeBelow id) =
      (remove? id component.childList).map fun (taken, left) => (taken, component.withChildren left) := by
  cases nested : component.children with
  | none => simp [takeBelow_childless nested, Component.childList, nested, taken?]
  | some children =>
    rw [takeBelow_nested nested, remove?]
    rcases remove id component.childList with ⟨_ | taken, left⟩ <;> rfl

/-- The search of a removal below the roots: the page below the first of them, then the others. -/
theorem takeBelow?_cons (id : ComponentId) (component : Component) (rest : Forest) :
    takeBelow? id (component :: rest) =
      ((remove? id component.childList).map fun (taken, left) => (taken, component.withChildren left :: rest)).or
        ((takeBelow? id rest).map fun (taken, left) => (taken, component :: left)) := by
  have below := takeBelow?_component id component
  rw [takeBelow?, takeBelow]
  rcases asked : component.takeBelow id with ⟨_ | taken, left⟩
  · obtain rfl : left = component := by
      have unchanged := takeBelow_component_unchanged takeBelow_unchanged (congrArg Prod.fst asked)
      rwa [asked] at unchanged
    rw [asked, eq_comm, taken?, Option.map_eq_none_iff] at below
    rw [below, Option.map_none, Option.none_or, takeBelow?]
    rcases takeBelow id rest with ⟨_ | taken, others⟩ <;> rfl
  · rw [asked, eq_comm, taken?, Option.map_eq_some_iff] at below
    obtain ⟨⟨found, children⟩, removed, same⟩ := below
    obtain ⟨rfl, rfl⟩ := Prod.mk.inj same
    rw [removed]
    rfl

end Forest

end PageEditor
