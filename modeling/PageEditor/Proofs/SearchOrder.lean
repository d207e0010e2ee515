import PageEditor.Proofs.Revision
import PageEditor.Proofs.ForestSegments

/-!
Which component an id means. Looking one up and changing one stop at the first component of the walk that
has the id. A removal asks all siblings before it asks below any of them, so where an id is repeated it can
detach another component than the one that is shown.
-/

namespace PageEditor

namespace Forest

variable {id : ComponentId} {forest : Forest}

/-- A change is made to the component that is shown. -/
theorem find?_modify? {change : Component → Component} {changed : Forest}
    (own : ∀ component, (change component).id = component.id) (modified : modify? id change forest = some changed) :
    find? changed id = (find? forest id).map change := by
  obtain ⟨place, node, rfl, first, rfl, rfl⟩ := modify?_place modified
  have still : (change node).id ∉ place.passed := (own node).symm ▸ first
  rw [find?_fill first, Option.map_some, ← own node, find?_fill still]

/-- The first component of the walk with the id stands below one that has a later sibling with the id. -/
inductive Overtaken (id : ComponentId) : Forest → Prop where
  | sibling {component : Component} {rest : Forest} (other : component.id ≠ id) (inside : id ∈ ids component.childList)
      (later : ∃ sibling ∈ rest, sibling.id = id) : Overtaken id (component :: rest)
  | deeper {component : Component} {rest : Forest} (other : component.id ≠ id)
      (alone : ∀ sibling ∈ rest, sibling.id ≠ id) (inside : Overtaken id component.childList) :
      Overtaken id (component :: rest)
  | farther {component : Component} {rest : Forest} (other : component.id ≠ id) (outside : id ∉ ids component.childList)
      (later : Overtaken id rest) : Overtaken id (component :: rest)

/-- Only an id that is repeated is overtaken. -/
theorem Overtaken.one_lt_count (overtaken : Overtaken id forest) : 1 < (ids forest).count id := by
  induction overtaken with
  | @sibling component rest other inside later =>
    have below : 0 < (ids component.childList).count id := List.count_pos_iff.mpr inside
    have beside : 0 < (ids rest).count id := by
      obtain ⟨sibling, root, same⟩ := later
      exact List.count_pos_iff.mpr (mem_ids.mpr ⟨sibling, root, .inl same⟩)
    rw [ids_cons, List.count_cons_of_ne other, List.count_append]
    omega
  | deeper other _ _ ih | farther other _ _ ih =>
    rw [ids_cons, List.count_cons_of_ne other, List.count_append]
    omega

theorem Overtaken.mem (overtaken : Overtaken id forest) : id ∈ ids forest :=
  List.count_pos_iff.mp (Nat.lt_of_succ_lt overtaken.one_lt_count)

section Removal

variable {component : Component} {rest : Forest} (other : component.id ≠ id)

include other

theorem remove?_of_other :
    remove? id (component :: rest) =
      ((takeRoot? id rest).map fun (taken, left) => (taken, component :: left)).or
        (takeBelow? id (component :: rest)) := by
  rw [remove?_eq_or, takeRoot?_cons, if_neg other]

/-- A later sibling is taken before anything below is looked at. -/
theorem remove?_of_sibling (later : ∃ sibling ∈ rest, sibling.id = id) :
    ∃ taken left, remove? id (component :: rest) = some (taken, component :: left) := by
  cases sibling : takeRoot? id rest with
  | none =>
    obtain ⟨root, member, same⟩ := later
    exact absurd same (takeRoot?_eq_none_iff.mp sibling root member)
  | some found => exact ⟨found.1, found.2, by rw [remove?_of_other other, sibling]; rfl⟩

theorem remove?_of_inside (alone : ∀ sibling ∈ rest, sibling.id ≠ id) (inside : id ∈ ids component.childList) :
    remove? id (component :: rest) =
      (remove? id component.childList).map fun (taken, left) => (taken, component.withChildren left :: rest) := by
  cases removed : remove? id component.childList with
  | none => exact absurd inside (remove?_eq_none_iff.mp removed)
  | some found =>
    rw [remove?_of_other other, takeRoot?_eq_none_iff.mpr alone, takeBelow?_cons, removed]
    rfl

theorem remove?_of_outside (outside : id ∉ ids component.childList) :
    remove? id (component :: rest) = (remove? id rest).map fun (taken, left) => (taken, component :: left) := by
  rw [remove?_of_other other, takeBelow?_cons, remove?_eq_none_iff.mpr outside, remove?_eq_or]
  cases takeRoot? id rest <;> simp

end Removal

/-- Unless it is overtaken, the component that is shown is the one that is removed. -/
theorem find?_of_remove? {taken : Component} {left : Forest} (first : ¬ Overtaken id forest)
    (removed : remove? id forest = some (taken, left)) : find? forest id = some taken := by
  induction forest using induct generalizing left with
  | nil => simp at removed
  | cons component rest below beside =>
    rw [find?_cons]
    by_cases own : component.id = id
    · simp only [remove?_eq_or, takeRoot?_cons, own, ite_true, Option.some_or, Option.some.injEq, Prod.mk.injEq] at removed
      rw [if_pos own, removed.1]
    · rw [if_neg own]
      by_cases inside : id ∈ ids component.childList
      · have alone : ∀ sibling ∈ rest, sibling.id ≠ id :=
          fun sibling root same => first (.sibling own inside ⟨sibling, root, same⟩)
        rw [remove?_of_inside own alone inside] at removed
        obtain ⟨⟨found, children⟩, inner, rebuilt⟩ := Option.map_eq_some_iff.mp removed
        obtain ⟨rfl, rfl⟩ := Prod.mk.inj rebuilt
        rw [below (fun deeper => first (.deeper own alone deeper)) inner, Option.some_or]
      · rw [remove?_of_outside own inside] at removed
        obtain ⟨⟨found, others⟩, outer, rebuilt⟩ := Option.map_eq_some_iff.mp removed
        obtain ⟨rfl, rfl⟩ := Prod.mk.inj rebuilt
        rw [find?_eq_none_iff.mpr inside, Option.none_or]
        exact beside (fun later => first (.farther own inside later)) outer

/-- If it is overtaken, the component that is shown stays where it is, and another one is removed. -/
theorem Overtaken.find?_left {taken : Component} {left : Forest} (overtaken : Overtaken id forest)
    (removed : remove? id forest = some (taken, left)) : find? left id = find? forest id := by
  induction overtaken generalizing left with
  | @sibling component rest other inside later =>
    obtain ⟨found, others, sibling⟩ := remove?_of_sibling other later
    obtain ⟨rfl, rfl⟩ := Prod.mk.inj (Option.some.inj (removed.symm.trans sibling))
    cases shown : find? component.childList id with
    | none => exact absurd inside (find?_eq_none_iff.mp shown)
    | some found => rw [find?_cons, find?_cons, shown, Option.some_or, Option.some_or]
  | @deeper component rest other alone overtaken ih =>
    rw [remove?_of_inside other alone overtaken.mem] at removed
    obtain ⟨⟨found, children⟩, inner, rebuilt⟩ := Option.map_eq_some_iff.mp removed
    obtain ⟨rfl, rfl⟩ := Prod.mk.inj rebuilt
    rw [find?_cons, find?_cons, Component.id_withChildren, Component.childList_withChildren, ih inner, if_neg other,
      if_neg other]
  | @farther component rest other outside later ih =>
    rw [remove?_of_outside other outside] at removed
    obtain ⟨⟨found, others⟩, outer, rebuilt⟩ := Option.map_eq_some_iff.mp removed
    obtain ⟨rfl, rfl⟩ := Prod.mk.inj rebuilt
    rw [find?_cons, find?_cons, ih outer]

end Forest

namespace Store

open Forest

@[simp] theorem forest_commit (store : Store) (page : Forest) : (store.commit page).forest = page := by
  obtain ⟨kept, _, entries, cursor, _⟩ := store.history.commit_log page
  apply History.current_of_getElem?
  rw [commit, entries, cursor, List.getElem?_concat_length]

theorem update_eq_ok {store : Store} {id : ComponentId} {found : Component} (shown : store.find? id = some found)
    {change : Component → Component} (own : ∀ component, (change component).id = component.id) :
    ∃ next, (update id change).run store = .ok () next ∧ next.find? id = some (change found) := by
  rw [run_update]
  cases modified : modify? id change store.forest with
  | none =>
    have missing : store.find? id = none := find?_eq_none_iff.mpr (modify?_eq_none_iff.mp modified)
    cases missing.symm.trans shown
  | some page =>
    refine ⟨store.commit page, rfl, ?_⟩
    rw [find?, forest_commit, find?_modify? own modified]
    exact congrArg (Option.map change) shown

/-- Changes are made to the component that is shown for an id. It is also the one that is deleted, unless the id
is repeated and a later sibling of a component around it has the id too: then another component is deleted, and
the one that was shown still is. -/
theorem delete_shown {store : Store} {id : ComponentId} {found : Component} (shown : store.find? id = some found) :
    (∀ patch, ∃ next, (updateProps id patch).run store = .ok () next ∧ next.find? id = some (mergeProps patch found)) ∧
      (∀ patch replace, ∃ next, (updateStyles id patch replace).run store = .ok () next ∧
        next.find? id = some (if replace then replaceStyles patch found else mergeStyles patch found)) ∧
      (Overtaken id store.forest → 1 < (ids store.forest).count id) ∧
      ∃ removed next, (delete id).run store = .ok removed next ∧
        (¬ Overtaken id store.forest → removed = found) ∧
        (Overtaken id store.forest → next.find? id = some found) := by
  refine ⟨fun _ => update_eq_ok shown fun _ => rfl, ?_, Overtaken.one_lt_count, ?_⟩
  · intro patch replace
    cases replace
    · exact update_eq_ok shown fun _ => rfl
    · exact update_eq_ok shown fun _ => rfl
  · cases detached : remove? id store.forest with
    | none =>
      have missing : store.find? id = none := find?_eq_none_iff.mpr (remove?_eq_none_iff.mp detached)
      cases missing.symm.trans shown
    | some result =>
      obtain ⟨removed, page⟩ := result
      refine ⟨removed, store.commit page, ?_, ?_, ?_⟩
      · rw [run_delete, remove?_eq_some_iff.mp detached]
      · intro first
        exact Option.some.inj ((find?_of_remove? first detached).symm.trans shown)
      · intro overtaken
        rw [find?, forest_commit, overtaken.find?_left detached]
        exact shown

/-- A container around a text, and a button that has the id of the text. -/
def sharedIdPage : Forest :=
  [{ Component.new 1 "Container" with children := some [.new 2 "Text"] }, .new 2 "Button"]

theorem delete_shown_sharedId :
    let store := blank.run [.setForest sharedIdPage]
    store.find? 2 = some (.new 2 "Text") ∧ Overtaken 2 store.forest ∧
      (∃ removed next, (delete 2).run store = .ok removed next ∧ next.find? 2 = some (.new 2 "Text")) ∧
      store.find? 1 = some { Component.new 1 "Container" with children := some [.new 2 "Text"] } ∧
      ¬ Overtaken 1 store.forest ∧
      ∃ removed next, (delete 1).run store = .ok removed next ∧
        removed = { Component.new 1 "Container" with children := some [.new 2 "Text"] } := by
  intro store
  have page : store.forest = sharedIdPage := forest_commit ..
  have text : store.find? 2 = some (.new 2 "Text") := by
    rw [find?, page]
    decide +kernel
  have container : store.find? 1 = some { Component.new 1 "Container" with children := some [.new 2 "Text"] } := by
    rw [find?, page]
    decide +kernel
  have overtaken : Overtaken 2 store.forest := by
    rw [page]
    refine .sibling (by decide) ?_ ⟨.new 2 "Button", List.mem_singleton_self _, rfl⟩
    decide +kernel
  obtain ⟨_, _, _, removed, next, deleted, _, stays⟩ := delete_shown text
  obtain ⟨_, _, repeated, taken, left, deletedFirst, same, _⟩ := delete_shown container
  have first : ¬ Overtaken 1 store.forest := by
    intro overtaken
    have twice := repeated overtaken
    rw [page] at twice
    revert twice
    decide +kernel
  exact ⟨text, overtaken, ⟨removed, next, deleted, stays overtaken⟩, container, first,
    taken, left, deletedFirst, same first⟩

/-- The button is deleted where the text is shown. -/
theorem deleted_not_shown :
    ¬ ∀ (edits : List Edit) (id : ComponentId) (removed : Component) (next : Store),
      (delete id).run (blank.run edits) = .ok removed next → (blank.run edits).find? id = some removed := by
  intro always
  have page : (blank.run [.setForest sharedIdPage]).forest = sharedIdPage := forest_commit ..
  have deleted : (delete 2).run (blank.run [.setForest sharedIdPage]) =
      .ok (.new 2 "Button") ((blank.run [.setForest sharedIdPage]).commit [sharedIdPage.head (by decide)]) := by
    rw [run_delete, page]
    rfl
  have shown := always _ _ _ _ deleted
  rw [find?, page] at shown
  revert shown
  decide +kernel

end Store

end PageEditor
