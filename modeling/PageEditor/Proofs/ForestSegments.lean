import PageEditor.Proofs.Places

/-!
What changing or detaching a component does to the walk of a page: it exchanges a single segment of the
walk, up to the lists of children of the components above it.
-/

namespace PageEditor

/-- A component apart from what is below it. -/
def Component.face (component : Component) : Component := { component with children := none }

theorem Component.face_withChildren (component : Component) (children : Forest) :
    (component.withChildren children).face = component.face := rfl

namespace Forest

def faces (forest : Forest) : List Component := (preorder forest).map Component.face

@[simp] theorem faces_nil : faces [] = [] := rfl

@[simp] theorem faces_cons (component : Component) (rest : Forest) :
    faces (component :: rest) = component.face :: (faces component.childList ++ faces rest) := by
  simp only [faces, preorder_cons, List.map_cons, List.map_append]

@[simp] theorem faces_append (first second : Forest) : faces (first ++ second) = faces first ++ faces second := by
  simp only [faces, preorder_append, List.map_append]

theorem faces_addChild (component child : Component) :
    faces [component.withChildren (component.childList ++ [child])] = faces [component] ++ faces [child] := by
  simp [Component.face_withChildren]

theorem ids_eq_faces (forest : Forest) : ids forest = (faces forest).map Component.id := by
  rw [ids_eq_map, faces, List.map_map]
  rfl

/-- Two walks that differ in one segment, which `out` leaves and `into` takes over. -/
def Exchanged (out into : List Component) (forest changed : Forest) : Prop :=
  ∃ before after, faces forest = before ++ out ++ after ∧ faces changed = before ++ into ++ after

variable {out into : List Component}

/-- What fills a place is a segment of the walk. -/
theorem exchanged_fill (place : Place) (out into : Forest) :
    Exchanged (faces out) (faces into) (place.fill out) (place.fill into) := by
  refine ⟨(place.before into).map Component.face, place.after.map Component.face, ?_, ?_⟩
  · rw [faces, Place.preorder_fill, List.map_append, List.map_append,
      Place.map_before Component.face_withChildren place out into, faces]
  · rw [faces, Place.preorder_fill, List.map_append, List.map_append, faces]

theorem Exchanged.ids {forest changed : Forest} (exchanged : Exchanged out into forest changed) :
    ∃ before after, ids forest = before ++ out.map Component.id ++ after ∧
      ids changed = before ++ into.map Component.id ++ after := by
  obtain ⟨before, after, old, new⟩ := exchanged
  exact ⟨before.map Component.id, after.map Component.id,
    by simp only [ids_eq_faces, old, List.map_append], by simp only [ids_eq_faces, new, List.map_append]⟩

/-- A change replaces the segment of one component that has the id. -/
theorem modify?_exchanged {id : ComponentId} {change : Component → Component} {forest changed : Forest}
    (modified : modify? id change forest = some changed) :
    ∃ node, node.id = id ∧ Exchanged (faces [node]) (faces [change node]) forest changed := by
  obtain ⟨place, node, same, _, rfl, rfl⟩ := modify?_place modified
  exact ⟨node, same, exchanged_fill place [node] [change node]⟩

/-- A removal leaves out the segment of one component that has the id. -/
theorem remove_exchanged {id : ComponentId} {forest left : Forest} {taken : Component}
    (removed : remove id forest = (some taken, left)) :
    taken.id = id ∧ Exchanged (faces [taken]) [] forest left := by
  obtain ⟨same, place, rfl, rfl⟩ := remove_place removed
  exact ⟨same, exchanged_fill place [taken] []⟩

end Forest

end PageEditor
