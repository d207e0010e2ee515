import Mathlib.Data.List.Forall2
import PageEditor.Proofs.DistinctIds
import PageEditor.Proofs.OverlaidEntries
import PageEditor.Proofs.SearchOrder

/-!
What an edit does to a page, and that it does nothing else. An addition puts one component at the end of a list
of children or of the roots, a removal takes one out of such a list, and an update changes the props or the styles
of one component. The page around the place of the edit is the same afterwards.
-/

namespace PageEditor

/-- What names a component in an outline of its page. -/
def Component.label (component : Component) : ComponentId × String := (component.id, component.name)

theorem Component.label_withChildren (component : Component) (children : Forest) :
    (component.withChildren children).label = component.label := rfl

namespace Place

/-- A component on the way to a gap is left as it is, unless the gap is in the page below it. -/
theorem forall₂_before (place : Place) (out into : Forest) :
    List.Forall₂
      (fun old new => new = old ∨
        ∃ inner : Place, old.childList = inner.fill out ∧ new = old.withChildren (inner.fill into))
      (place.before out) (place.before into) := by
  induction place with
  | here rest => exact .nil
  | inside component inner rest ih => exact .cons (.inr ⟨inner, rfl, rfl⟩) ih
  | beside component inner ih => exact List.rel_append (List.forall₂_same.mpr fun _ _ => .inl rfl) ih

end Place

namespace Forest

def labels (forest : Forest) : List (ComponentId × String) := (nodes forest).map Component.label

theorem labels_fill (place : Place) (segment : Forest) :
    labels (place.fill segment) =
      (place.before []).map Component.label ++ labels segment ++ place.after.map Component.label := by
  have unchanged : (place.before segment).map Component.label = (place.before []).map Component.label :=
    Place.map_before Component.label_withChildren place segment []
  simp only [labels, nodes_eq_preorder, Place.preorder_fill, List.map_append, unchanged]

theorem labels_append (first second : Forest) : labels (first ++ second) = labels first ++ labels second := by
  rw [labels, nodes_append, List.map_append, labels, labels]

theorem labels_addChild (component child : Component) :
    labels [component.withChildren (component.childList ++ [child])] = labels [component] ++ labels [child] := by
  simp [labels, nodes_eq_preorder, preorder_append, Component.label_withChildren]

/-- Up to its children, the component that is shown for an id is found among the faces. -/
theorem map_face_find? (id : ComponentId) (forest : Forest) :
    (find? forest id).map Component.face = (faces forest).find? fun component => component.id = id := by
  rw [find?_eq_find?, faces, List.find?_map]
  rfl

/-- What fills a place does not matter for an id that is not in it. -/
theorem map_face_find?_fill {id : ComponentId} {segment : Forest} (outside : id ∉ ids segment) (place : Place) :
    (find? (place.fill segment) id).map Component.face = (find? (place.fill []) id).map Component.face := by
  obtain ⟨before, after, filled, empty⟩ := exchanged_fill place segment []
  have missing : (faces segment).find? (fun component => component.id = id) = none := by
    rw [← map_face_find?, find?_eq_none_iff.mpr outside, Option.map_none]
  rw [map_face_find?, map_face_find?, filled, empty, List.find?_append, List.find?_append, List.find?_append,
    List.find?_append, missing]
  rfl

section Emptied

variable {place : Place} {removed : Component} {other : ComponentId}

theorem find?_emptied (distinct : (ids (place.fill [removed])).Nodup) (inside : other ∈ ids [removed]) :
    find? (place.fill []) other = none := by
  rw [Place.ids_fill, List.append_assoc] at distinct
  obtain ⟨_, behind, fromBefore⟩ := List.nodup_append.mp distinct
  obtain ⟨_, _, fromAfter⟩ := List.nodup_append.mp behind
  rw [find?_eq_none_iff, Place.ids_fill, ids_nil, List.append_nil, List.mem_append, not_or]
  constructor
  · intro earlier
    exact fromBefore other earlier other (List.mem_append_left _ inside) rfl
  · intro later
    exact fromAfter other inside other later rfl

theorem find?_kept (present : other ∈ ids (place.fill [removed])) (outside : other ∉ ids [removed]) :
    ∃ old new, find? (place.fill [removed]) other = some old ∧ find? (place.fill []) other = some new ∧
      new.face = old.face := by
  have same := map_face_find?_fill outside place
  cases shown : find? (place.fill [removed]) other with
  | none => exact absurd present (find?_eq_none_iff.mp shown)
  | some old =>
    rw [shown, Option.map_some] at same
    obtain ⟨new, found, face⟩ := Option.map_eq_some_iff.mp same.symm
    exact ⟨old, new, rfl, found, face⟩

end Emptied

end Forest

namespace Attached

open Forest

variable {component : Component} {parent : Option ComponentId} {page next : Forest}

theorem find?_new (attached : Attached component parent page next) (fresh : component.id ∉ ids page) :
    find? next component.id = some component := by
  cases attached with
  | root page =>
    have walk : preorder (page ++ [component]) = preorder page ++ component :: preorder component.childList := by
      simp only [preorder_append, preorder_cons, preorder_nil, List.append_nil]
    apply find?_of_preorder walk
    rw [← ids_eq_map]
    exact fresh
  | @child place node first =>
    have walk : preorder (place.fill [node.withChildren (node.childList ++ [component])]) =
        (place.before [node.withChildren (node.childList ++ [component])]
          ++ node.withChildren (node.childList ++ [component]) :: preorder node.childList)
          ++ component :: (preorder component.childList ++ place.after) := by
      simp [Place.preorder_fill, preorder_append]
    apply find?_of_preorder walk
    simp only [Place.ids_fill, ids_cons, ids_nil, List.append_nil, List.mem_append, not_or] at fresh
    rw [List.map_append, Place.ids_before, List.map_cons, ← ids_eq_map, List.mem_append, not_or]
    exact ⟨fresh.1.1, fresh.1.2⟩

/-- In the walk, a child that is attached follows everything that is below its parent. -/
theorem labels_child {id : ComponentId} (attached : Attached component (some id) page next) :
    ∃ node before after, find? page id = some node ∧ id ∉ before.map Prod.fst ∧
      labels page = before ++ labels [node] ++ after ∧
      labels next = before ++ labels [node] ++ labels [component] ++ after := by
  cases attached with
  | @child place node first =>
    refine ⟨node, (place.before []).map Component.label, place.after.map Component.label, find?_fill first, ?_,
      labels_fill place [node], ?_⟩
    · rw [List.map_map]
      exact first
    · rw [labels_fill, labels_addChild, ← List.append_assoc]

theorem count_ids (attached : Attached component parent page next) (id : ComponentId) :
    (ids next).count id = (ids page).count id + (ids [component]).count id := by
  cases attached with
  | root page => rw [ids_append, List.count_append]
  | child first =>
    simp only [Place.ids_fill, ids_cons, ids_nil, Component.id_withChildren, Component.childList_withChildren,
      ids_append, List.count_append, List.count_cons, List.append_nil]
    omega

end Attached

namespace Store

open Forest

/-- An addition puts the component at the end of the roots or of the children of the first component with the id of
its parent, with the link to that parent, and leaves the page as it is otherwise. In the walk it comes with all that is
below it right behind the last component below its parent, its id now shows it, and no id is repeated that was not
repeated in the page or in the component. -/
theorem add_effect {store next : Store} {component : Component} {parent : Option ComponentId}
    (added : (add component parent).run store = .ok () next) :
    Attached { component with parent } parent store.forest next.forest ∧
      (parent = none → labels next.forest = labels store.forest ++ labels [component]) ∧
      (∀ id, parent = some id → ∃ node before after, store.find? id = some node ∧ id ∉ before.map Prod.fst ∧
        labels store.forest = before ++ labels [node] ++ after ∧
        labels next.forest = before ++ labels [node] ++ labels [component] ++ after) ∧
      next.find? component.id = some { component with parent } ∧
      ∀ id, 1 < (ids next.forest).count id ↔
        1 < (ids store.forest).count id ∨ 1 < (ids [component]).count id := by
  obtain ⟨unused, page, attachedPage, rfl⟩ := add_eq_ok added
  have attached := attached_of_attach attachedPage
  have fresh : ∀ id ∈ ids [component], id ∉ ids store.forest := clash?_eq_none_iff.mp unused
  have relabelled : labels [{ component with parent }] = labels [component] := by
    simp [labels, nodes_eq_preorder, Component.label, Component.childList]
  have renumbered : ids [{ component with parent }] = ids [component] := ids_singleton_face rfl rfl
  rw [find?, forest_commit]
  refine ⟨attached, ?_, ?_, attached.find?_new (fresh _ (by simp)), ?_⟩
  · rintro rfl
    cases attached with
    | root page => rw [labels_append, relabelled]
  · rintro id rfl
    obtain ⟨node, before, after, shown, first, old, new⟩ := attached.labels_child
    rw [relabelled] at new
    exact ⟨node, before, after, shown, first, old, new⟩
  · intro id
    rw [attached.count_ids, renumbered]
    by_cases inside : id ∈ ids [component]
    · have outside : (ids store.forest).count id = 0 := List.count_eq_zero.mpr (fresh id inside)
      omega
    · have outside : (ids [component]).count id = 0 := List.count_eq_zero.mpr inside
      omega

/-- A panel that repeats the id of a text inside it, and claims to stand somewhere else. -/
def twinPanel : Component :=
  { Component.new 4 "Panel" with
    children := some [.new 5 "Text", .new 5 "Text"]
    parent := some 77 }

theorem add_effect_twinPanel :
    ∃ next, (add twinPanel (some 2)).run (start sharedIdPage) = .ok () next ∧
      Attached { twinPanel with parent := some 2 } (some 2) sharedIdPage next.forest ∧
      labels next.forest = [(1, "Container"), (2, "Text"), (4, "Panel"), (5, "Text"), (5, "Text"), (2, "Button")] ∧
      next.find? 4 = some { twinPanel with parent := some 2 } ∧ 1 < (ids next.forest).count 5 := by
  have unused : clash? (start sharedIdPage).forest twinPanel = none := by decide +kernel
  obtain ⟨page, attached⟩ : ∃ page, attach (start sharedIdPage).forest twinPanel (some 2) = .ok page := ⟨_, rfl⟩
  have added : (add twinPanel (some 2)).run (start sharedIdPage) = .ok () ((start sharedIdPage).commit page) := by
    rw [run_add, unused, attached]
  obtain ⟨grown, _, _, shown, repeats⟩ := add_effect added
  refine ⟨_, added, grown, ?_, shown, (repeats 5).mpr (.inr (by decide +kernel))⟩
  obtain rfl := Except.ok.inj attached
  rw [forest_commit]
  decide +kernel

/-- A removal finds something exactly if the page has the id, and otherwise leaves the page and the store as they
were. It takes one component with the id out of the list of its siblings, with all that is below it, and leaves the page
as it is otherwise: of what the walk meets, only the components around the removed one have changed, in the list it was
below. -/
theorem remove_effect (id : ComponentId) (page : Forest) :
    ((remove id page).1.isSome ↔ id ∈ ids page) ∧
      ((remove id page).1 = none → (remove id page).2 = page ∧
        ∀ store : Store, store.forest = page → store.after (.delete id) = store) ∧
      ∀ removed left, remove id page = (some removed, left) →
        removed.id = id ∧
        (∃ place : Place, page = place.fill [removed] ∧ left = place.fill []) ∧
        (∃ before shrunk after, nodes page = before ++ nodes [removed] ++ after ∧ nodes left = shrunk ++ after ∧
          List.Forall₂
            (fun old new => new = old ∨
              ∃ inner : Place, old.childList = inner.fill [removed] ∧ new = old.withChildren (inner.fill []))
            before shrunk) ∧
        (∀ store : Store, store.forest = page → (store.after (.delete id)).forest = left) ∧
        ((ids page).Nodup → ∀ other ∈ ids [removed], Forest.find? left other = none) ∧
        ∀ other ∈ ids page, other ∉ ids [removed] →
          ∃ old new, Forest.find? page other = some old ∧ Forest.find? left other = some new ∧
            new.face = old.face := by
  refine ⟨?_, ?_, ?_⟩
  · rw [Option.isSome_iff_ne_none, ne_eq, remove_eq_none_iff, Decidable.not_not]
  · intro missing
    refine ⟨remove_unchanged missing, ?_⟩
    rintro store rfl
    have unfound : remove id store.forest = (none, store.forest) := Prod.ext missing (remove_unchanged missing)
    have refused : (Edit.delete id).revise store.forest = some (.error (.componentNotFound id)) := by
      rw [Edit.revise, unfound]
    exact after_of_error refused
  · intro removed left detached
    obtain ⟨same, place, rfl, rfl⟩ := remove_place detached
    refine ⟨same, ⟨place, rfl, rfl⟩, ?_, ?_, fun distinct _ => find?_emptied distinct, fun _ => find?_kept⟩
    · refine ⟨place.before [removed], place.before [], place.after, ?_, ?_, place.forall₂_before [removed] []⟩
      · simp only [nodes_eq_preorder, Place.preorder_fill]
      · rw [nodes_eq_preorder, Place.preorder_fill, preorder_nil, List.append_nil]
    · intro store page
      have revised : (Edit.delete id).revise store.forest = some (.ok (.removed removed, place.fill [])) := by
        rw [Edit.revise, page, detached]
      rw [after_of_ok revised, forest_commit]

/-- A form with an input, beside a text. -/
def nestedPage : Forest :=
  [{ Component.new 1 "Page" with
      children := some [{ Component.new 2 "Form" with children := some [.new 3 "Input"] }, .new 4 "Text"] }]

theorem remove_effect_nestedPage :
    (ids nestedPage).Nodup ∧
      (∃ form left, remove 2 nestedPage = (some form, left) ∧ 3 ∈ ids [form] ∧ Forest.find? left 3 = none ∧
        4 ∈ ids nestedPage ∧ 4 ∉ ids [form] ∧
        ∃ old new, Forest.find? nestedPage 4 = some old ∧ Forest.find? left 4 = some new ∧ new.face = old.face) ∧
      (remove 9 nestedPage).1 = none ∧ (remove 9 nestedPage).2 = nestedPage ∧
      (start nestedPage).after (.delete 9) = start nestedPage := by
  have distinct : (ids nestedPage).Nodup := by decide +kernel
  have missing : (remove 9 nestedPage).1 = none := rfl
  obtain ⟨_, refused, _⟩ := remove_effect 9 nestedPage
  obtain ⟨unchanged, untouched⟩ := refused missing
  obtain ⟨_, _, detaches⟩ := remove_effect 2 nestedPage
  obtain ⟨_, _, _, _, gone, kept⟩ := detaches _ _ rfl
  refine ⟨distinct, ⟨_, _, rfl, ?_, gone distinct 3 ?_, ?_, ?_, kept 4 ?_ ?_⟩, missing, unchanged, untouched _ rfl⟩
  all_goals decide +kernel

theorem update_fill {store : Store} {place : Place} {node : Component} (page : store.forest = place.fill [node])
    (first : node.id ∉ place.passed) (change : Component → Component) :
    ∃ next, (update node.id change).run store = .ok () next ∧ next.forest = place.fill [change node] := by
  refine ⟨store.commit (place.fill [change node]), ?_, forest_commit ..⟩
  rw [run_update, page, modify?_fill first]

/-- An update changes the component that is shown for the id, the first of the walk, and of it only the props or only
the styles. -/
theorem update_effect {store : Store} {id : ComponentId} (present : id ∈ ids store.forest) :
    ∃ (place : Place) (node : Component),
      store.forest = place.fill [node] ∧ node.id = id ∧ id ∉ place.passed ∧ store.find? id = some node ∧
        (∀ patch, ∃ next props, (updateProps id patch).run store = .ok () next ∧
          next.forest = place.fill [{ node with props }] ∧
          props.entries = Entries.overlay node.props.entries patch.entries) ∧
        (∀ patch, ∃ next styles, (updateStyles id patch false).run store = .ok () next ∧
          next.forest = place.fill [{ node with styles := some styles }] ∧
          styles.entries = Entries.overlay (node.styles.getD .empty).entries patch.entries) ∧
        ∀ patch, ∃ next, (updateStyles id patch true).run store = .ok () next ∧
          next.forest = place.fill [{ node with styles := some patch }] := by
  obtain ⟨place, node, page, rfl, first⟩ := exists_first_place present
  refine ⟨place, node, page, rfl, first, ?_, ?_, ?_, ?_⟩
  · rw [find?, page, find?_fill first]
  · intro patch
    obtain ⟨next, updated, changed⟩ := update_fill page first (mergeProps patch)
    exact ⟨next, node.props.extend patch, updated, changed, Dict.entries_extend ..⟩
  · intro patch
    obtain ⟨next, updated, changed⟩ := update_fill page first (mergeStyles patch)
    exact ⟨next, node.styleMap.extend patch, updated, changed, Dict.entries_extend ..⟩
  · intro patch
    exact update_fill page first (replaceStyles patch)

/-- Two buttons that share an id. -/
def buttonPage : Forest :=
  [{ Component.new 1 "Container" with
      children := some [{ Component.new 2 "Button" with
        props := ⟨[("type", .literal (.string "primary")), ("text", .literal (.string "Go"))], by decide⟩ }] },
    .new 2 "Button"]

def buttonPatch : Dict PropValue :=
  ⟨[("size", .literal (.string "small")), ("type", .literal (.string "default"))], by decide⟩

theorem update_effect_buttonPage :
    2 ∈ ids (start buttonPage).forest ∧
      ∃ (place : Place) (node : Component) (next : Store) (props : Dict PropValue),
        buttonPage = place.fill [node] ∧ 2 ∉ place.passed ∧
          (updateProps 2 buttonPatch).run (start buttonPage) = .ok () next ∧ next.forest = place.fill [{ node with props }] ∧
          props.entries = [("type", .literal (.string "default")), ("text", .literal (.string "Go")),
            ("size", .literal (.string "small"))] := by
  have present : 2 ∈ ids (start buttonPage).forest := by decide +kernel
  obtain ⟨place, node, page, _, first, shown, changes, _, _⟩ := update_effect present
  obtain ⟨next, props, updated, changed, entries⟩ := changes buttonPatch
  refine ⟨present, place, node, next, props, page, first, updated, changed, ?_⟩
  have button : (start buttonPage).find? 2 = some { Component.new 2 "Button" with
      props := ⟨[("type", .literal (.string "primary")), ("text", .literal (.string "Go"))], by decide⟩ } := by
    decide +kernel
  obtain rfl := Option.some.inj (button.symm.trans shown)
  rw [entries]
  decide +kernel

end Store

end PageEditor
