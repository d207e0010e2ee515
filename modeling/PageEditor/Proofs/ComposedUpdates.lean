import PageEditor.Proofs.EditEffects

/-!
Updates in a row. Two updates of one component come to a single one where one patch can be laid over the other, and
updates of different data, or of different components, come to the same in either order.
-/

namespace PageEditor

/-- A change of what one component holds: of its props, or of its styles. -/
inductive Update where
  | props (patch : Dict PropValue)
  | styles (patch : Dict Json) (replace : Bool)

namespace Update

def edit (id : ComponentId) : Update → Edit
  | .props patch => .updateProps id patch
  | .styles patch replace => .updateStyles id patch replace

def change : Update → Component → Component
  | .props patch => Store.mergeProps patch
  | .styles patch replace => if replace then Store.replaceStyles patch else Store.mergeStyles patch

variable (update : Update) (component : Component)

theorem id_change : (update.change component).id = component.id := by
  rcases update with patch | ⟨patch, replace⟩
  · rfl
  · cases replace <;> rfl

theorem childList_change : (update.change component).childList = component.childList := by
  rcases update with patch | ⟨patch, replace⟩
  · rfl
  · cases replace <;> rfl

theorem change_withChildren (children : Forest) :
    update.change (component.withChildren children) = (update.change component).withChildren children := by
  rcases update with patch | ⟨patch, replace⟩
  · rfl
  · cases replace <;> rfl

theorem revise_edit (id : ComponentId) (page : Forest) :
    (update.edit id).revise page = some (Edit.revise.reviseAt page id update.change) := by
  cases update <;> rfl

end Update

namespace Forest

section Search

variable {id : ComponentId} {change : Component → Component} {component : Component} {rest : Forest}

theorem modify?_of_own (own : component.id = id) :
    modify? id change (component :: rest) = some (change component :: rest) := by
  rw [modify?_cons, if_pos own]

theorem modify?_of_inside (other : component.id ≠ id) {children : Forest}
    (inside : modify? id change component.childList = some children) :
    modify? id change (component :: rest) = some (component.withChildren children :: rest) := by
  rw [modify?_cons, if_neg other, inside, Option.map_some, Option.some_or]

theorem modify?_of_outside (other : component.id ≠ id) (outside : id ∉ ids component.childList) :
    modify? id change (component :: rest) = (modify? id change rest).map (component :: ·) := by
  rw [modify?_cons, if_neg other, modify?_eq_none_iff.mpr outside, Option.map_none, Option.none_or]

theorem exists_modify? (change : Component → Component) (present : id ∈ ids rest) :
    ∃ changed, modify? id change rest = some changed := by
  cases modified : modify? id change rest with
  | none => exact absurd present (modify?_eq_none_iff.mp modified)
  | some changed => exact ⟨changed, rfl⟩

end Search

theorem ids_update {id : ComponentId} {update : Update} {page changed : Forest}
    (modified : modify? id update.change page = some changed) : ids changed = ids page :=
  Store.ids_modify? update.id_change update.childList_change modified

/-- The second of two updates finds the component that the first one changed. -/
theorem update_update {id : ComponentId} {update : Update} (next : Update) {page changed : Forest}
    (modified : modify? id update.change page = some changed) :
    modify? id next.change changed = modify? id (next.change ∘ update.change) page := by
  obtain ⟨place, node, rfl, first, rfl, rfl⟩ := modify?_place modified
  have still : (update.change node).id ∉ place.passed := (update.id_change node).symm ▸ first
  have again := modify?_fill still next.change
  rw [update.id_change] at again
  rw [again, modify?_fill first, Function.comp_apply]

section Commuting

variable {first second : ComponentId} (update other : Update) {component : Component} {rest : Forest}

private theorem update_comm_of_own (own : component.id = first) (different : first ≠ second) :
    (modify? first update.change (component :: rest)).bind (modify? second other.change) =
      (modify? second other.change (component :: rest)).bind (modify? first update.change) := by
  have notSecond : component.id ≠ second := own ▸ different
  have changedNotSecond : (update.change component).id ≠ second := (update.id_change component).symm ▸ notSecond
  rw [modify?_of_own own, Option.bind_some]
  by_cases inside : second ∈ ids component.childList
  · obtain ⟨children, below⟩ := exists_modify? other.change inside
    have changedBelow : modify? second other.change (update.change component).childList = some children :=
      (update.childList_change component).symm ▸ below
    have still : (component.withChildren children).id = first := own
    rw [modify?_of_inside notSecond below, modify?_of_inside changedNotSecond changedBelow, Option.bind_some,
      modify?_of_own still, update.change_withChildren]
  · have changedOutside : second ∉ ids (update.change component).childList :=
      (update.childList_change component).symm ▸ inside
    rw [modify?_of_outside notSecond inside, modify?_of_outside changedNotSecond changedOutside, Option.bind_map]
    have onward (after : Forest) :
        modify? first update.change (component :: after) = some (update.change component :: after) := modify?_of_own own
    simp only [Function.comp_def, onward, Option.map_eq_bind]

/-- One of the two components stands below the first root, the other one does not. -/
private theorem update_comm_of_apart (notFirst : component.id ≠ first) (notSecond : component.id ≠ second)
    (inside : first ∈ ids component.childList) (outside : second ∉ ids component.childList) :
    (modify? first update.change (component :: rest)).bind (modify? second other.change) =
      (modify? second other.change (component :: rest)).bind (modify? first update.change) := by
  obtain ⟨children, below⟩ := exists_modify? update.change inside
  have stillOutside : second ∉ ids (component.withChildren children).childList := by
    rw [Component.childList_withChildren, ids_update below]
    exact outside
  have onward (after : Forest) :
      modify? first update.change (component :: after) = some (component.withChildren children :: after) :=
    modify?_of_inside notFirst below
  have stillNotSecond : (component.withChildren children).id ≠ second := notSecond
  rw [onward, Option.bind_some, modify?_of_outside notSecond outside, modify?_of_outside stillNotSecond stillOutside,
    Option.bind_map]
  simp only [Function.comp_def, onward, Option.map_eq_bind]

/-- Updates of two components do not meet, even where one of them stands below the other. -/
theorem update_comm (different : first ≠ second) (page : Forest) :
    (modify? first update.change page).bind (modify? second other.change) =
      (modify? second other.change page).bind (modify? first update.change) := by
  induction page using induct with
  | nil => simp
  | cons component rest below beside =>
    by_cases isFirst : component.id = first
    · exact update_comm_of_own update other isFirst different
    by_cases isSecond : component.id = second
    · exact (update_comm_of_own other update isSecond different.symm).symm
    by_cases firstInside : first ∈ ids component.childList <;> by_cases secondInside : second ∈ ids component.childList
    · obtain ⟨children, one⟩ := exists_modify? update.change firstInside
      obtain ⟨others, two⟩ := exists_modify? other.change secondInside
      obtain ⟨last, both⟩ := exists_modify? other.change (ids_update one ▸ secondInside)
      have same : modify? first update.change others = some last := by
        rw [one, two, Option.bind_some, Option.bind_some, both] at below
        exact below.symm
      have stillFirst : (component.withChildren others).id ≠ first := isFirst
      have stillSecond : (component.withChildren children).id ≠ second := isSecond
      rw [modify?_of_inside isFirst one, modify?_of_inside isSecond two, Option.bind_some, Option.bind_some,
        modify?_of_inside stillSecond both, modify?_of_inside stillFirst same]
      rfl
    · exact update_comm_of_apart update other isFirst isSecond firstInside secondInside
    · exact (update_comm_of_apart other update isSecond isFirst secondInside firstInside).symm
    · rw [modify?_of_outside isFirst firstInside, modify?_of_outside isSecond secondInside, Option.bind_map,
        Option.bind_map]
      have later := congrArg (Option.map (component :: ·)) beside
      simpa only [Option.map_bind, Function.comp_def, modify?_of_outside isFirst firstInside,
        modify?_of_outside isSecond secondInside] using later

end Commuting

end Forest

namespace Store

open Forest

/-- Edits that all succeed, one after the other, and the page they lead to. -/
inductive Leads : Store → List Edit → Forest → Prop where
  | done (store : Store) : Leads store [] store.forest
  | edited {store next : Store} {edit : Edit} {outcome : Outcome} {edits : List Edit} {page : Forest}
      (performed : (perform edit).run store = .ok outcome next) (onward : Leads next edits page) :
      Leads store (edit :: edits) page

/-- They lead to the page that is shown after a run of them. -/
theorem Leads.eq_forest_run {store : Store} {edits : List Edit} {page : Forest} (leads : Leads store edits page) :
    page = (store.run edits).forest := by
  induction leads with
  | done store => rfl
  | @edited store next edit outcome edits page performed _ ih =>
    have same : store.after edit = next := by rw [after, performed]
    rw [ih, ← same]
    rfl

/-- All edits of both runs succeed, and they lead to the same page. -/
def LeadAlike (store : Store) (edits others : List Edit) : Prop := ∃ page, Leads store edits page ∧ Leads store others page

variable {store : Store} {id : ComponentId} {page last : Forest}

theorem leads_update {update : Update} (updated : modify? id update.change store.forest = some page) {edits : List Edit}
    (onward : Leads (store.commit page) edits last) : Leads store (update.edit id :: edits) last := by
  have performed : (perform (update.edit id)).run store = .ok .done (store.commit page) := by
    rw [run_perform_of_revise (update.revise_edit id store.forest), Edit.revise.reviseAt, updated]
    rfl
  exact .edited performed onward

theorem leads_single {update : Update} (updated : modify? id update.change store.forest = some page) :
    Leads store [update.edit id] page := by
  apply leads_update updated
  have last := Leads.done (store.commit page)
  rwa [forest_commit] at last

theorem leads_pair {other : ComponentId} {update next : Update} (updated : modify? id update.change store.forest = some page)
    (again : modify? other next.change page = some last) : Leads store [update.edit id, next.edit other] last := by
  apply leads_update updated
  apply leads_single
  rw [forest_commit, again]

section SameComponent

variable (present : id ∈ ids store.forest) (update next : Update)

include present

/-- Two updates that come to a third one. -/
theorem leadAlike_single (both : Update) (same : next.change ∘ update.change = both.change) :
    LeadAlike store [update.edit id, next.edit id] [both.edit id] := by
  obtain ⟨page, updated⟩ := exists_modify? update.change present
  obtain ⟨last, single⟩ := exists_modify? both.change present
  have again : modify? id next.change page = some last := by rw [update_update next updated, same, single]
  exact ⟨last, leads_pair updated again, leads_single single⟩

theorem leadAlike_swapped (same : next.change ∘ update.change = update.change ∘ next.change) :
    LeadAlike store [update.edit id, next.edit id] [next.edit id, update.edit id] := by
  obtain ⟨page, updated⟩ := exists_modify? update.change present
  obtain ⟨other, updatedNext⟩ := exists_modify? next.change present
  obtain ⟨last, both⟩ := exists_modify? (next.change ∘ update.change) present
  have again : modify? id next.change page = some last := (update_update next updated).trans both
  have back : modify? id update.change other = some last := by rw [update_update update updatedNext, ← same, both]
  exact ⟨last, leads_pair updated again, leads_pair updatedNext back⟩

end SameComponent

theorem leadAlike_apart {other : ComponentId} (different : id ≠ other) (present : id ∈ ids store.forest)
    (otherPresent : other ∈ ids store.forest) (update next : Update) :
    LeadAlike store [update.edit id, next.edit other] [next.edit other, update.edit id] := by
  obtain ⟨page, updated⟩ := exists_modify? update.change present
  obtain ⟨side, updatedNext⟩ := exists_modify? next.change otherPresent
  obtain ⟨last, again⟩ := exists_modify? next.change (ids_update updated ▸ otherPresent)
  have back : modify? id update.change side = some last := by
    have either := update_comm update next different store.forest
    rw [updated, updatedNext, Option.bind_some, Option.bind_some, again] at either
    exact either.symm
  exact ⟨last, leads_pair updated again, leads_pair updatedNext back⟩

/-- Two patches laid over the props or the styles of a component one after the other come to the second one laid over
the first one and both of them over the component, in every entry and in the order of the entries. Styles that replace
others leave nothing of what was there before, and updates that touch different data or different components can be
made in either order. -/
theorem updates_compose {first second : ComponentId} (present : first ∈ ids store.forest)
    (otherPresent : second ∈ ids store.forest) :
    (∀ patch onTop, LeadAlike store [.updateProps first patch, .updateProps first onTop]
        [.updateProps first (patch.extend onTop)]) ∧
      (∀ patch onTop replace, LeadAlike store [.updateStyles first patch replace, .updateStyles first onTop false]
        [.updateStyles first (patch.extend onTop) replace]) ∧
      (∀ patch styles replace, LeadAlike store [.updateStyles first patch replace, .updateStyles first styles true]
        [.updateStyles first styles true]) ∧
      (∀ update next : Update, first ≠ second →
        LeadAlike store [update.edit first, next.edit second] [next.edit second, update.edit first]) ∧
      ∀ patch styles replace,
        LeadAlike store [.updateProps first patch, .updateStyles first styles replace]
          [.updateStyles first styles replace, .updateProps first patch] := by
  refine ⟨?_, ?_, ?_, ?_, ?_⟩
  · intro patch onTop
    apply leadAlike_single present (.props patch) (.props onTop) (.props (patch.extend onTop))
    funext component
    simp only [Update.change, Function.comp_apply, mergeProps, Dict.extend_assoc]
  · intro patch onTop replace
    apply leadAlike_single present (.styles patch replace) (.styles onTop false) (.styles (patch.extend onTop) replace)
    funext component
    cases replace
    · change mergeStyles onTop (mergeStyles patch component) = mergeStyles (patch.extend onTop) component
      simp only [mergeStyles, Component.styleMap, Option.getD_some, Dict.extend_assoc]
    · rfl
  · intro patch styles replace
    apply leadAlike_single present (.styles patch replace) (.styles styles true) (.styles styles true)
    funext component
    cases replace <;> rfl
  · intro update next different
    exact leadAlike_apart different present otherPresent update next
  · intro patch styles replace
    apply leadAlike_swapped present (.props patch) (.styles styles replace)
    funext component
    cases replace <;> rfl

def captionPatch : Dict PropValue :=
  ⟨[("text", .literal (.string "Stop")), ("size", .literal (.string "large"))], by decide⟩

/-- The page of the two buttons with other props of the first one. -/
def changedButtonPage (styles : Option (Dict Json)) (props : Dict PropValue) : Forest :=
  [{ Component.new 1 "Container" with
      styles
      children := some [{ Component.new 2 "Button" with props }] },
    .new 2 "Button"]

/-- The props of a button are updated twice, or once and the styles of the container around it as well, where another
button has the same id. -/
theorem updates_compose_buttonPage :
    let twice := changedButtonPage none ⟨[("type", .literal (.string "default")), ("text", .literal (.string "Stop")),
      ("size", .literal (.string "large"))], by decide⟩
    let both := changedButtonPage (some .empty) ⟨[("type", .literal (.string "default")), ("text", .literal (.string "Go")),
      ("size", .literal (.string "small"))], by decide⟩
    2 ∈ ids (start buttonPage).forest ∧ 1 ∈ ids (start buttonPage).forest ∧
      Leads (start buttonPage) [.updateProps 2 buttonPatch, .updateProps 2 captionPatch] twice ∧
      Leads (start buttonPage) [.updateProps 2 (buttonPatch.extend captionPatch)] twice ∧
      (2 : ComponentId) ≠ 1 ∧
      Leads (start buttonPage) [.updateProps 2 buttonPatch, .updateStyles 1 .empty false] both ∧
      Leads (start buttonPage) [.updateStyles 1 .empty false, .updateProps 2 buttonPatch] both := by
  intro twice both
  have button : 2 ∈ ids (start buttonPage).forest := by decide +kernel
  have container : 1 ∈ ids (start buttonPage).forest := by decide +kernel
  have different : (2 : ComponentId) ≠ 1 := by decide
  obtain ⟨props, _, _, apart, _⟩ := updates_compose button container
  obtain ⟨page, inTurn, atOnce⟩ := props buttonPatch captionPatch
  obtain ⟨last, forth, back⟩ := apart (.props buttonPatch) (.styles .empty false) different
  obtain rfl : page = twice := inTurn.eq_forest_run.trans (by decide +kernel)
  obtain rfl : last = both := forth.eq_forest_run.trans (by decide +kernel)
  exact ⟨button, container, inTurn, atOnce, different, forth, back⟩

end Store

end PageEditor
