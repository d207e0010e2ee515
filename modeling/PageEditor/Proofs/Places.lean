import PageEditor.Proofs.ForestInduction

/-!
Places in a page. A place is a page with a gap among the components of one list of siblings; filled with
components, it is a page again, and everything around the gap is the same whatever it is filled with.
A search that finds an id leads to a place, and what an edit does there is said by what fills the place
before and afterwards. A search fails exactly on the ids the page does not have.
-/

namespace PageEditor

theorem Component.withChildren_childList {component : Component} (nested : component.childList ≠ []) :
    component.withChildren component.childList = component := by
  obtain ⟨id, name, props, styles, desc, children, parent⟩ := component
  cases children with
  | none => exact absurd rfl nested
  | some children => rfl

/-- A gap at the front of a page, in the page below its first component, or in the page beside it. -/
inductive Place where
  | here (rest : Forest)
  | inside (component : Component) (inner : Place) (rest : Forest)
  | beside (component : Component) (inner : Place)

namespace Place

/-- The page with components in the gap, as siblings of those around it. -/
def fill (segment : Forest) : Place → Forest
  | here rest => segment ++ rest
  | inside component inner rest => component.withChildren (inner.fill segment) :: rest
  | beside component inner => component :: inner.fill segment

/-- What the walk meets on its way to the gap. -/
def before (segment : Forest) : Place → List Component
  | here _ => []
  | inside component inner _ => component.withChildren (inner.fill segment) :: inner.before segment
  | beside component inner => Forest.preorder [component] ++ inner.before segment

/-- What the walk meets behind the gap. -/
def after : Place → List Component
  | here rest => Forest.preorder rest
  | inside _ inner rest => inner.after ++ Forest.preorder rest
  | beside _ inner => inner.after

/-- The ids of the components on the way to the gap, which do not depend on what fills it. -/
def passed (place : Place) : List ComponentId := (place.before []).map Component.id

theorem preorder_fill (place : Place) (segment : Forest) :
    Forest.preorder (place.fill segment) = place.before segment ++ Forest.preorder segment ++ place.after := by
  induction place with
  | here rest => simp only [fill, before, after, Forest.preorder_append, List.nil_append]
  | inside component inner rest ih =>
    simp only [fill, before, after, Forest.preorder_cons, Component.childList_withChildren, ih, List.cons_append,
      List.append_assoc]
  | beside component inner ih =>
    simp only [fill, before, after, Forest.preorder_cons, Forest.preorder_nil, ih, List.cons_append, List.append_nil,
      List.append_assoc]

/-- Of the components on the way to the gap, only the lists of children depend on what fills it. -/
theorem map_before {α : Type} {view : Component → α}
    (same : ∀ component children, view (Component.withChildren component children) = view component) (place : Place)
    (segment other : Forest) : (place.before segment).map view = (place.before other).map view := by
  induction place with
  | here rest => rfl
  | inside component inner rest ih => simp only [before, List.map_cons, same, ih]
  | beside component inner ih => simp only [before, List.map_append, ih]

theorem ids_before (place : Place) (segment : Forest) : (place.before segment).map Component.id = place.passed :=
  map_before (fun _ _ => rfl) place segment []

theorem ids_fill (place : Place) (segment : Forest) :
    Forest.ids (place.fill segment) = place.passed ++ Forest.ids segment ++ place.after.map Component.id := by
  simp only [Forest.ids_eq_map, preorder_fill, List.map_append, ids_before]

theorem passed_inside (component : Component) (inner : Place) (rest : Forest) :
    (inside component inner rest).passed = component.id :: inner.passed := by
  simp only [passed, before, List.map_cons, Component.id_withChildren]

theorem passed_beside (component : Component) (inner : Place) :
    (beside component inner).passed = Forest.ids [component] ++ inner.passed := by
  simp only [passed, before, List.map_append, Forest.ids_eq_map]

end Place

namespace Forest

variable {id : ComponentId} {forest : Forest}

theorem mem_ids : id ∈ ids forest ↔ ∃ component ∈ forest, component.id = id ∨ id ∈ ids component.childList := by
  induction forest with
  | nil => simp
  | cons component rest ih => simp [ih, eq_comm, or_assoc]

theorem modify?_eq_none_iff {change : Component → Component} : modify? id change forest = none ↔ id ∉ ids forest := by
  induction forest using induct with
  | nil => simp
  | cons component rest below beside =>
    rw [modify?_cons]
    by_cases found : component.id = id
    · simp [found]
    · have other : id ≠ component.id := fun same => found same.symm
      simp [found, other, below, beside]

theorem mem_ids_of_modify? {change : Component → Component} {changed : Forest}
    (modified : modify? id change forest = some changed) : id ∈ ids forest := by
  apply Decidable.byContradiction
  intro missing
  rw [modify?_eq_none_iff.mpr missing] at modified
  cases modified

theorem takeRoot?_eq_none_iff : takeRoot? id forest = none ↔ ∀ component ∈ forest, component.id ≠ id := by
  induction forest with
  | nil => simp
  | cons component rest ih => by_cases found : component.id = id <;> simp [takeRoot?_cons, found, ih]

theorem takeBelow?_eq_none_iff : takeBelow? id forest = none ↔ ∀ component ∈ forest, id ∉ ids component.childList := by
  induction forest using induct with
  | nil => simp
  | cons component rest below beside =>
    have inside : remove? id component.childList = none ↔ id ∉ ids component.childList := by
      rw [remove?_eq_or, Option.or_eq_none_iff, takeRoot?_eq_none_iff, below, mem_ids]
      simp [not_or, forall_and]
    simp [takeBelow?_cons, inside, beside]

theorem remove?_eq_none_iff : remove? id forest = none ↔ id ∉ ids forest := by
  rw [remove?_eq_or, Option.or_eq_none_iff, takeRoot?_eq_none_iff, takeBelow?_eq_none_iff, mem_ids]
  simp [not_or, forall_and]

theorem remove_eq_none_iff : (remove id forest).1 = none ↔ id ∉ ids forest := by
  rw [← remove?_eq_none_iff, remove?, taken?_eq_none_iff]

theorem mem_ids_of_remove {taken : Component} {left : Forest} (removed : remove id forest = (some taken, left)) :
    id ∈ ids forest := by
  apply Decidable.byContradiction
  intro missing
  have unfound := remove_eq_none_iff.mpr missing
  rw [removed] at unfound
  cases unfound

/-- An id that a page has leads to the place of the first component of the walk with that id. -/
theorem exists_first_place (present : id ∈ ids forest) :
    ∃ (place : Place) (node : Component), forest = place.fill [node] ∧ node.id = id ∧ id ∉ place.passed := by
  induction forest using induct with
  | nil => simp at present
  | cons component rest below beside =>
    by_cases own : component.id = id
    · exact ⟨.here rest, component, rfl, own, List.not_mem_nil⟩
    have other : id ≠ component.id := fun same => own same.symm
    by_cases inside : id ∈ ids component.childList
    · obtain ⟨place, node, children, same, first⟩ := below inside
      have nested : component.childList ≠ [] := by
        intro childless
        rw [childless, ids_nil] at inside
        cases inside
      refine ⟨.inside component place rest, node, ?_, same, ?_⟩
      · rw [Place.fill, ← children, Component.withChildren_childList nested]
      · rw [Place.passed_inside, List.mem_cons]
        exact not_or.mpr ⟨other, first⟩
    · rw [ids_cons, List.mem_cons, List.mem_append] at present
      obtain ⟨place, node, siblings, same, first⟩ := beside ((present.resolve_left other).resolve_left inside)
      refine ⟨.beside component place, node, ?_, same, ?_⟩
      · rw [Place.fill, ← siblings]
      · rw [Place.passed_beside, ids_cons, ids_nil, List.append_nil, List.mem_append, List.mem_cons]
        exact not_or.mpr ⟨not_or.mpr ⟨other, inside⟩, first⟩

theorem find?_of_preorder {before after : List Component} {node : Component}
    (walk : preorder forest = before ++ node :: after) (first : node.id ∉ before.map Component.id) :
    find? forest node.id = some node := by
  refine find?_eq_some_iff.mpr ⟨rfl, before, after, walk, ?_⟩
  intro component member same
  exact first (same ▸ List.mem_map_of_mem member)

section First

variable {place : Place} {node : Component} (first : node.id ∉ place.passed)

include first

theorem find?_fill : find? (place.fill [node]) node.id = some node := by
  have walk : preorder (place.fill [node]) =
      place.before [node] ++ node :: (preorder node.childList ++ place.after) := by
    simp only [Place.preorder_fill, preorder_cons, preorder_nil, List.append_nil, List.append_assoc, List.cons_append]
  apply find?_of_preorder walk
  rw [Place.ids_before]
  exact first

/-- A change reaches the first component of the walk that has the id, and nothing else. -/
theorem modify?_fill (change : Component → Component) :
    modify? node.id change (place.fill [node]) = some (place.fill [change node]) := by
  induction place with
  | here rest => rw [Place.fill, List.singleton_append, modify?_cons, if_pos rfl, Place.fill, List.singleton_append]
  | inside component inner rest ih =>
    rw [Place.passed_inside, List.mem_cons, not_or] at first
    have other : (component.withChildren (inner.fill [node])).id ≠ node.id := fun same => first.1 same.symm
    rw [Place.fill, modify?_cons, if_neg other, Component.childList_withChildren, ih first.2, Option.map_some,
      Option.some_or, Place.fill]
    rfl
  | beside component inner ih =>
    rw [Place.passed_beside, List.mem_append, not_or, ids_cons, ids_nil, List.append_nil, List.mem_cons,
      not_or] at first
    have other : component.id ≠ node.id := fun same => first.1.1 same.symm
    rw [Place.fill, modify?_cons, if_neg other, modify?_eq_none_iff.mpr first.1.2, Option.map_none, Option.none_or,
      ih first.2, Option.map_some, Place.fill]

end First

theorem modify?_place {change : Component → Component} {changed : Forest}
    (modified : modify? id change forest = some changed) :
    ∃ (place : Place) (node : Component), node.id = id ∧ id ∉ place.passed ∧ forest = place.fill [node] ∧
      changed = place.fill [change node] := by
  obtain ⟨place, node, rfl, rfl, first⟩ := exists_first_place (mem_ids_of_modify? modified)
  rw [modify?_fill first] at modified
  exact ⟨place, node, rfl, first, rfl, (Option.some.inj modified).symm⟩

private theorem takeRoot?_place {left : Forest} {taken : Component}
    (detached : takeRoot? id forest = some (taken, left)) :
    taken.id = id ∧ ∃ place : Place, forest = place.fill [taken] ∧ left = place.fill [] := by
  induction forest generalizing left with
  | nil => simp at detached
  | cons component rest ih =>
    rw [takeRoot?_cons] at detached
    split at detached
    next found =>
      obtain ⟨rfl, rfl⟩ := Prod.mk.inj (Option.some.inj detached)
      exact ⟨found, .here rest, rfl, rfl⟩
    next =>
      obtain ⟨⟨found, others⟩, inner, rebuilt⟩ := Option.map_eq_some_iff.mp detached
      obtain ⟨rfl, rfl⟩ := Prod.mk.inj rebuilt
      obtain ⟨same, place, rfl, rfl⟩ := ih inner
      exact ⟨same, .beside component place, rfl, rfl⟩

private theorem takeBelow?_place {left : Forest} {taken : Component}
    (detached : takeBelow? id forest = some (taken, left)) :
    taken.id = id ∧ ∃ place : Place, forest = place.fill [taken] ∧ left = place.fill [] := by
  induction forest using induct generalizing left with
  | nil => simp at detached
  | cons component rest below beside =>
    rw [takeBelow?_cons] at detached
    rcases Option.or_eq_some_iff.mp detached with inside | ⟨_, later⟩
    · obtain ⟨⟨found, remaining⟩, inner, rebuilt⟩ := Option.map_eq_some_iff.mp inside
      obtain ⟨rfl, rfl⟩ := Prod.mk.inj rebuilt
      have nested : component.childList ≠ [] := by
        intro childless
        rw [childless, remove?_nil] at inner
        cases inner
      have child : found.id = id ∧
          ∃ place : Place, component.childList = place.fill [found] ∧ remaining = place.fill [] := by
        rw [remove?_eq_or] at inner
        rcases Option.or_eq_some_iff.mp inner with root | ⟨_, deeper⟩
        · exact takeRoot?_place root
        · exact below deeper
      obtain ⟨same, place, children, rfl⟩ := child
      refine ⟨same, .inside component place rest, ?_, rfl⟩
      rw [Place.fill, ← children, Component.withChildren_childList nested]
    · obtain ⟨⟨found, others⟩, outer, rebuilt⟩ := Option.map_eq_some_iff.mp later
      obtain ⟨rfl, rfl⟩ := Prod.mk.inj rebuilt
      obtain ⟨same, place, rfl, rfl⟩ := beside outer
      exact ⟨same, .beside component place, rfl, rfl⟩

/-- A removal empties the place of one component that has the id. -/
theorem remove_place {left : Forest} {taken : Component} (removed : remove id forest = (some taken, left)) :
    taken.id = id ∧ ∃ place : Place, forest = place.fill [taken] ∧ left = place.fill [] := by
  have found := remove?_eq_some_iff.mpr removed
  rw [remove?_eq_or] at found
  rcases Option.or_eq_some_iff.mp found with root | ⟨_, below⟩
  · exact takeRoot?_place root
  · exact takeBelow?_place below

end Forest

end PageEditor
