import PageEditor.Proofs.Revision

/-!
Links to parents. Every component says which other one it stands in, and the roots say that they stand
in none. An addition writes the link of the component it attaches, and no other edit touches a link or
moves a component, so the links stay true from page to page.
-/

namespace PageEditor

namespace Forest

/-- All components know what they stand in: the roots `parent`, the others the component they are a child of. -/
structure LinkedUnder (parent : Option ComponentId) (forest : Forest) : Prop where
  roots : ∀ root ∈ forest, root.parent = parent
  below : ∀ component ∈ nodes forest, ∀ child ∈ component.childList, child.parent = some component.id

def Linked (forest : Forest) : Prop := LinkedUnder none forest

variable {parent : Option ComponentId}

theorem linkedUnder_nil : LinkedUnder parent [] := ⟨List.forall_mem_nil _, by simp⟩

theorem linkedUnder_cons {component : Component} {rest : Forest} :
    LinkedUnder parent (component :: rest) ↔
      component.parent = parent ∧ LinkedUnder (some component.id) component.childList ∧ LinkedUnder parent rest := by
  have nodes (links : Component → Prop) :
      (∀ node ∈ nodes (component :: rest), links node) ↔
        links component ∧ (∀ node ∈ nodes component.childList, links node) ∧ ∀ node ∈ nodes rest, links node := by
    simp [nodes_eq_preorder, or_imp, forall_and]
  constructor
  · rintro ⟨roots, below⟩
    obtain ⟨own, inside, beside⟩ := (nodes _).mp below
    obtain ⟨first, others⟩ := List.forall_mem_cons.mp roots
    exact ⟨first, ⟨own, inside⟩, ⟨others, beside⟩⟩
  · rintro ⟨first, inside, beside⟩
    exact ⟨List.forall_mem_cons.mpr ⟨first, beside.roots⟩, (nodes _).mpr ⟨inside.roots, inside.below, beside.below⟩⟩

theorem linkedUnder_append {first second : Forest} :
    LinkedUnder parent (first ++ second) ↔ LinkedUnder parent first ∧ LinkedUnder parent second := by
  induction first with
  | nil => simp [linkedUnder_nil]
  | cons component rest ih => simp only [List.cons_append, linkedUnder_cons, ih, and_assoc]

/-- What fills a place can be exchanged for anything that is linked wherever it is. -/
theorem LinkedUnder.refill {place : Place} {out into : Forest} (linked : LinkedUnder parent (place.fill out))
    (segment : ∀ owner, LinkedUnder owner out → LinkedUnder owner into) : LinkedUnder parent (place.fill into) := by
  induction place generalizing parent with
  | here rest =>
    obtain ⟨first, second⟩ := linkedUnder_append.mp linked
    exact linkedUnder_append.mpr ⟨segment parent first, second⟩
  | inside component inner rest ih =>
    obtain ⟨own, below, beside⟩ := linkedUnder_cons.mp linked
    exact linkedUnder_cons.mpr ⟨own, ih below, beside⟩
  | beside component inner ih =>
    obtain ⟨own, below, beside⟩ := linkedUnder_cons.mp linked
    exact linkedUnder_cons.mpr ⟨own, below, ih beside⟩

/-- A change at one component that leaves its own link and id alone, and the links below it true. -/
theorem LinkedUnder.modify? {id : ComponentId} {change : Component → Component} {forest changed : Forest}
    (linked : LinkedUnder parent forest) (modified : Forest.modify? id change forest = some changed)
    (own : ∀ component, (change component).id = component.id)
    (link : ∀ component, (change component).parent = component.parent)
    (below : ∀ component, component.id = id → LinkedUnder (some component.id) component.childList →
      LinkedUnder (some component.id) (change component).childList) : LinkedUnder parent changed := by
  obtain ⟨place, node, same, _, rfl, rfl⟩ := modify?_place modified
  apply linked.refill
  intro owner single
  obtain ⟨up, children, _⟩ := linkedUnder_cons.mp single
  rw [linkedUnder_cons, own, link]
  exact ⟨up, below node same children, linkedUnder_nil⟩

theorem LinkedUnder.remove {id : ComponentId} {forest left : Forest} {taken : Component}
    (linked : LinkedUnder parent forest) (removed : Forest.remove id forest = (some taken, left)) :
    LinkedUnder parent left := by
  obtain ⟨_, place, rfl, rfl⟩ := remove_place removed
  exact linked.refill fun _ _ => linkedUnder_nil

theorem linkedUnder_children_iff {component : Component} :
    LinkedUnder (some component.id) component.childList ↔
      ∀ node ∈ nodes [component], ∀ child ∈ node.childList, child.parent = some node.id := by
  have nodes : nodes [component] = component :: nodes component.childList := by simp [nodes_eq_preorder]
  rw [nodes, List.forall_mem_cons]
  exact ⟨fun linked => ⟨linked.roots, linked.below⟩, fun links => ⟨links.1, links.2⟩⟩

end Forest

/-- What an edit brings in is linked: a component inside itself, whatever its own link says, and a page as a whole. -/
def Edit.BringsLinked : Edit → Prop
  | .add component _ => ∀ node ∈ Forest.nodes [component], ∀ child ∈ node.childList, child.parent = some node.id
  | .setForest page => Forest.Linked page
  | .load text => ∀ page, Document.parse text = .ok page → Forest.Linked page
  | .delete _ | .updateProps .. | .updateStyles .. | .undo | .redo => True

namespace Store

open Forest

theorem linked_attach {page next : Forest} {component : Component} {parent : Option ComponentId} (linked : Linked page)
    (inside : LinkedUnder (some component.id) component.childList)
    (attached : attach page component parent = .ok next) : Linked next := by
  have single : LinkedUnder parent [{ component with parent }] :=
    linkedUnder_cons.mpr ⟨rfl, inside, linkedUnder_nil⟩
  cases attached_of_attach attached with
  | root => exact linkedUnder_append.mpr ⟨linked, single⟩
  | @child place node first =>
    apply LinkedUnder.refill linked
    intro owner own
    obtain ⟨up, children, _⟩ := linkedUnder_cons.mp own
    exact linkedUnder_cons.mpr ⟨up, linkedUnder_append.mpr ⟨children, single⟩, linkedUnder_nil⟩

theorem linked_reviseAt {id : ComponentId} {change : Component → Component} {page next : Forest} {outcome : Outcome}
    (linked : Linked page) (own : ∀ component, (change component).id = component.id)
    (link : ∀ component, (change component).parent = component.parent)
    (below : ∀ component, (change component).childList = component.childList)
    (revised : Edit.revise.reviseAt page id change = .ok (outcome, next)) : Linked next := by
  simp only [Edit.revise.reviseAt] at revised
  split at revised
  next changed modified =>
    obtain ⟨_, rfl⟩ := Prod.mk.inj (Except.ok.inj revised)
    refine linked.modify? modified own link ?_
    intro component _ children
    rw [below]
    exact children
  next => cases revised

/-- A page that an edit makes of a linked one is linked. -/
theorem linked_revise {edit : Edit} {page next : Forest} {outcome : Outcome} (linked : Linked page)
    (brings : edit.BringsLinked) (revised : edit.revise page = some (.ok (outcome, next))) : Linked next := by
  cases edit with
  | add component parent =>
    simp only [Edit.revise, Option.some.injEq] at revised
    split at revised
    next => cases revised
    next =>
      cases attached : attach page component parent with
      | error => simp [attached, Except.map] at revised
      | ok attachedPage =>
        rw [attached] at revised
        obtain ⟨_, rfl⟩ := Prod.mk.inj (Except.ok.inj revised)
        exact linked_attach linked (linkedUnder_children_iff.mpr brings) attached
  | delete id =>
    simp only [Edit.revise, Option.some.injEq] at revised
    split at revised
    next taken left removed =>
      obtain ⟨_, rfl⟩ := Prod.mk.inj (Except.ok.inj revised)
      exact linked.remove removed
    next => cases revised
  | updateProps id patch =>
    refine linked_reviseAt linked ?_ ?_ ?_ (Option.some.inj revised)
    all_goals exact fun _ => rfl
  | updateStyles id patch replace =>
    refine linked_reviseAt linked ?_ ?_ ?_ (Option.some.inj revised)
    all_goals
      intro component
      cases replace <;> rfl
  | setForest page =>
    obtain ⟨_, rfl⟩ := Prod.mk.inj (Except.ok.inj (Option.some.inj revised))
    exact brings
  | load text =>
    cases parsed : Document.parse text with
    | error => simp [Edit.revise, parsed] at revised
    | ok loaded =>
      simp only [Edit.revise, parsed, Option.some.injEq] at revised
      obtain ⟨_, rfl⟩ := Prod.mk.inj (Except.ok.inj revised)
      exact brings loaded parsed
  | undo | redo => cases revised

/-- Every page in the history is linked. -/
def Linked (store : Store) : Prop := ∀ page ∈ store.history.entries, Forest.Linked page

theorem Linked.after {store : Store} {edit : Edit} (linked : store.Linked) (brings : edit.BringsLinked) :
    (store.after edit).Linked := by
  apply forall_after linked
  intro outcome page revised
  exact linked_revise (linked _ (List.get_mem ..)) brings revised

/-- From a history of linked pages, a run of edits that bring in nothing unlinked meets linked pages only,
whichever of the edits succeed. -/
theorem run_linked {store : Store} {edits : List Edit} (linked : store.Linked)
    (brings : ∀ edit ∈ edits, edit.BringsLinked) : (store.run edits).Linked := by
  induction edits generalizing store with
  | nil => exact linked
  | cons edit edits ih =>
    obtain ⟨first, others⟩ := List.forall_mem_cons.mp brings
    exact ih (linked.after first) others

/-- A container with a text inside that still claims to stand somewhere else. -/
def strayContainer : Component :=
  { Component.new 2 "Container" with
    children := some [{ Component.new 3 "Text" with parent := some 2 }]
    parent := some 77 }

theorem run_linked_strayContainer :
    let edits : List Edit := [.add strayContainer (some 1), .add (.new 3 "Text") none, .delete 3, .undo]
    blank.Linked ∧ (∀ edit ∈ edits, edit.BringsLinked) ∧ (blank.run edits).Linked ∧
      (blank.run edits).history.entries.length = 3 ∧
      (blank.run edits).forest =
        [{ Component.new 1 "Page" with
            desc := "Page"
            children := some [{ strayContainer with parent := some 1 }] }] := by
  intro edits
  have linked : blank.Linked := by
    intro page member
    obtain rfl := List.mem_singleton.mp member
    exact linkedUnder_cons.mpr ⟨rfl, linkedUnder_nil, linkedUnder_nil⟩
  have container : (Edit.add strayContainer (some 1)).BringsLinked := by
    apply linkedUnder_children_iff.mp
    exact linkedUnder_cons.mpr ⟨rfl, linkedUnder_nil, linkedUnder_nil⟩
  have text : (Edit.add (.new 3 "Text") none).BringsLinked := linkedUnder_children_iff.mp linkedUnder_nil
  have brings : ∀ edit ∈ edits, edit.BringsLinked := by
    simp only [edits, List.forall_mem_cons]
    exact ⟨container, text, trivial, trivial, List.forall_mem_nil _⟩
  exact ⟨linked, brings, run_linked linked brings, by decide +kernel, by decide +kernel⟩

end Store

end PageEditor
