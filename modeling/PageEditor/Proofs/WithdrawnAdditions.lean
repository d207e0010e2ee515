import PageEditor.Proofs.EditorData
import PageEditor.Proofs.EditEffects

/-!
An addition that is taken back by deleting what was added. The new id leads the removal to the new component, wherever
it was attached and whatever is below it. The parent can be left with an empty list of children where it had none
before, which nobody sees: what a page is published as is told place by place.
-/

namespace PageEditor

namespace Component

theorem childList_eq_nil {component : Component} (childless : component.children = none) : component.childList = [] := by
  rw [childList, childless, Option.getD_none]

/-- A component is published alike around pages that are. -/
theorem published_withChildren (component : Component) {children others : Forest}
    (alike : children.published = others.published) :
    (component.withChildren children).published = (component.withChildren others).published := by
  match children, others with
  | [], [] => rfl
  | [], other :: rest | child :: siblings, [] =>
    rw [Forest.published, Forest.published] at alike
    cases alike
  | child :: siblings, other :: rest => simp only [withChildren, published, alike]

theorem published_withChildren_childList (component : Component) :
    (component.withChildren component.childList).published = component.published := by
  obtain ⟨id, name, props, styles, desc, children, parent⟩ := component
  cases children with
  | none => simp [withChildren, childList, published]
  | some children => rfl

end Component

namespace Forest

variable {id : ComponentId} {component : Component}

theorem takeRoot?_concat {forest : Forest} (others : ∀ root ∈ forest, root.id ≠ component.id) :
    takeRoot? component.id (forest ++ [component]) = some (component, forest) := by
  induction forest with
  | nil => simp [takeRoot?_cons]
  | cons root rest ih =>
    obtain ⟨first, later⟩ := List.forall_mem_cons.mp others
    rw [List.cons_append, takeRoot?_cons, if_neg first, ih later, Option.map_some]

/-- The last sibling is found whatever is below it, if the other ones and all that is below them have other ids. -/
theorem remove?_concat {forest : Forest} (fresh : component.id ∉ ids forest) :
    remove? component.id (forest ++ [component]) = some (component, forest) := by
  have others : ∀ root ∈ forest, root.id ≠ component.id := by
    rintro root member same
    exact fresh (mem_ids.mpr ⟨root, member, .inl same⟩)
  rw [remove?_eq_or, takeRoot?_concat others, Option.some_or]

section FirstRoot

variable {rest : Forest}

theorem remove?_of_own (own : component.id = id) : remove? id (component :: rest) = some (component, rest) := by
  rw [remove?_eq_or, takeRoot?_cons, if_pos own, Option.some_or]

theorem remove?_of_alone (other : component.id ≠ id) (outside : id ∉ ids rest) :
    remove? id (component :: rest) =
      (remove? id component.childList).map fun (taken, left) => (taken, component.withChildren left :: rest) := by
  obtain ⟨noRoot, noneBelow⟩ := Option.or_eq_none_iff.mp (remove?_eq_or .. ▸ remove?_eq_none_iff.mpr outside)
  rw [remove?_of_other other, noRoot, takeBelow?_cons, noneBelow, Option.map_none, Option.or_none,
    Option.none_or]

end FirstRoot

/-- A removal ends where the id is, if it is nowhere else in the page. -/
theorem remove?_fill {place : Place} (outside : id ∉ ids (place.fill [])) (component : Component) :
    remove? id (place.fill [component]) =
      (remove? id [component]).map fun (taken, left) => (taken, place.fill left) := by
  induction place with
  | here rest =>
    have fresh : id ∉ ids rest := outside
    rw [Place.fill, List.singleton_append]
    by_cases own : component.id = id
    · rw [remove?_of_own own, remove?_of_own own]
      rfl
    · rw [remove?_of_alone own fresh, remove?_of_alone own (ids_nil ▸ List.not_mem_nil), Option.map_map]
      rfl
  | inside owner inner rest ih =>
    simp only [Place.fill, ids_cons, Component.id_withChildren, Component.childList_withChildren, List.mem_cons,
      List.mem_append, not_or] at outside
    obtain ⟨notOwner, below, beside⟩ := outside
    have other : (owner.withChildren (inner.fill [component])).id ≠ id := fun same => notOwner same.symm
    rw [Place.fill, remove?_of_alone other beside, Component.childList_withChildren, ih below, Option.map_map]
    rfl
  | beside sibling inner ih =>
    simp only [Place.fill, ids_cons, List.mem_cons, List.mem_append, not_or] at outside
    obtain ⟨notSibling, below, beside⟩ := outside
    have other : sibling.id ≠ id := fun same => notSibling same.symm
    rw [Place.fill, remove?_of_outside other below, ih beside, Option.map_map]
    rfl

theorem published_fill (place : Place) {segment other : Forest} (alike : segment.published = other.published) :
    (place.fill segment).published = (place.fill other).published := by
  induction place with
  | here rest =>
    rw [published_eq_map, published_eq_map] at alike
    rw [Place.fill, Place.fill, published_eq_map, published_eq_map, List.map_append, List.map_append, alike]
  | inside owner inner rest ih =>
    rw [Place.fill, Place.fill, published, published, owner.published_withChildren ih]
  | beside sibling inner ih => rw [Place.fill, Place.fill, published, published, ih]

end Forest

/-- The same page, or the same but for the first component of the walk with the id of `parent`, which has no list of
children in the one page and an empty list in the other. -/
inductive SameButEmptied (parent : Option ComponentId) : Forest → Forest → Prop where
  | same (page : Forest) : SameButEmptied parent page page
  | emptied {place : Place} {node : Component} (owner : parent = some node.id) (first : node.id ∉ place.passed)
      (childless : node.children = none) :
      SameButEmptied parent (place.fill [node]) (place.fill [node.withChildren []])

namespace SameButEmptied

open Forest Generate

variable {parent : Option ComponentId} {page left : Forest}

theorem faces (alike : SameButEmptied parent page left) : Forest.faces left = Forest.faces page := by
  cases alike with
  | same => rfl
  | @emptied place node owner first childless =>
    have alone : Forest.faces [node.withChildren []] = Forest.faces [node] := by
      simp only [faces_cons, faces_nil, Component.face_withChildren, Component.childList_withChildren,
        Component.childList_eq_nil childless]
    obtain ⟨before, after, emptied, original⟩ := exchanged_fill place [node.withChildren []] [node]
    rw [emptied, original, alone]

theorem published (alike : SameButEmptied parent page left) : left.published = page.published := by
  cases alike with
  | same => rfl
  | @emptied place node owner first childless =>
    have alone : Forest.published [node.withChildren []] = Forest.published [node] := by
      rw [published_eq_map, published_eq_map, List.map_singleton, List.map_singleton,
        ← Component.childList_eq_nil childless, Component.published_withChildren_childList]
    exact published_fill place alone

end SameButEmptied

namespace Attached

open Forest

theorem remove {component : Component} {parent : Option ComponentId} {page next : Forest}
    (attached : Attached component parent page next) (fresh : component.id ∉ ids page) :
    ∃ left, Forest.remove component.id next = (some component, left) ∧ SameButEmptied parent page left := by
  cases attached with
  | root page => exact ⟨page, remove?_eq_some_iff.mp (remove?_concat fresh), .same page⟩
  | @child place node first =>
    simp only [Place.ids_fill, ids_cons, ids_nil, List.append_nil, List.mem_append, List.mem_cons, not_or] at fresh
    obtain ⟨⟨before, notParent, below⟩, after⟩ := fresh
    have outside : component.id ∉ ids (place.fill []) := by
      rw [Place.ids_fill, ids_nil, List.append_nil, List.mem_append, not_or]
      exact ⟨before, after⟩
    have other : (node.withChildren (node.childList ++ [component])).id ≠ component.id := fun same => notParent same.symm
    refine ⟨place.fill [node.withChildren node.childList], ?_, ?_⟩
    · rw [← remove?_eq_some_iff, remove?_fill outside, remove?_of_alone other (ids_nil ▸ List.not_mem_nil), Component.childList_withChildren,
        remove?_concat below]
      rfl
    · obtain ⟨id, name, props, styles, desc, children, parent⟩ := node
      cases children with
      | none => exact .emptied rfl first rfl
      | some children => exact .same _

end Attached

namespace Store

open Forest Generate

/-- What was added is found again by its id, and deleting it hands it back as it was added, with the link to its
parent. It leaves the page as it was before the addition, up to an empty list of children where the parent had no list:
the walk meets the same components in the same order, and the page has the same findings and is generated alike,
whatever the options. -/
theorem delete_added {store next : Store} {component : Component} {parent : Option ComponentId}
    (added : (add component parent).run store = .ok () next) :
    ∃ last, (delete component.id).run next = .ok { component with parent } last ∧
      SameButEmptied parent store.forest last.forest ∧
      (nodes last.forest).map Component.face = (nodes store.forest).map Component.face ∧
      ∀ options, findings options last.forest = findings options store.forest ∧
        generate options last.forest = generate options store.forest := by
  obtain ⟨unused, page, attachedPage, rfl⟩ := add_eq_ok added
  have attached := attached_of_attach attachedPage
  have fresh : component.id ∉ ids store.forest := clash?_eq_none_iff.mp unused _ (by simp)
  obtain ⟨left, removed, alike⟩ := attached.remove fresh
  refine ⟨(store.commit page).commit left, ?_, ?_, ?_, ?_⟩
  · rw [run_delete, forest_commit, removed]
  · rw [forest_commit]
    exact alike
  · rw [forest_commit, nodes_eq_preorder, nodes_eq_preorder]
    exact alike.faces
  · intro options
    rw [forest_commit]
    constructor
    · rw [← findings_published, alike.published, findings_published]
    · rw [← generate_published, alike.published, generate_published]

/-- A panel with a text inside that has its own id. -/
def echoPanel : Component := { Component.new 4 "Panel" with children := some [.new 4 "Text"], parent := some 77 }

theorem delete_added_echoPanel :
    ∃ next last, (add echoPanel (some 2)).run (start sharedIdPage) = .ok () next ∧
      (delete 4).run next = .ok { echoPanel with parent := some 2 } last ∧
      SameButEmptied (some 2) sharedIdPage last.forest ∧
      findings Options.standard last.forest = findings Options.standard sharedIdPage := by
  have unused : clash? (start sharedIdPage).forest echoPanel = none := by decide +kernel
  obtain ⟨page, attached⟩ : ∃ page, attach (start sharedIdPage).forest echoPanel (some 2) = .ok page := ⟨_, rfl⟩
  have added : (add echoPanel (some 2)).run (start sharedIdPage) = .ok () ((start sharedIdPage).commit page) := by
    rw [run_add, unused, attached]
  obtain ⟨last, deleted, alike, _, unseen⟩ := delete_added added
  exact ⟨_, last, added, deleted, alike, (unseen Options.standard).1⟩

end Store

end PageEditor
