import Mathlib.Data.List.Induction
import PageEditor.Proofs.ForestSegments
import PageEditor.Proofs.Revision

/-!
Distinct ids over whole runs of edits. The store compares the ids of a new component with those of the
page but not with one another, so a component that repeats an id inside itself gets in. No other edit
of a part of the page can bring a repetition in, and undo and redo only meet pages that were there.
-/

namespace PageEditor

/-- Whether an edit puts a whole new page in place of the old one. -/
def Edit.replacesPage : Edit → Bool
  | .setForest _ | .load _ => true
  | .add .. | .delete _ | .updateProps .. | .updateStyles .. | .undo | .redo => false

namespace Forest

theorem ids_singleton_face {first second : Component} (id : first.id = second.id)
    (below : first.childList = second.childList) : ids [first] = ids [second] := by
  simp only [ids_cons, id, below]

/-- A new segment with ids of its own makes a repetition only if it has one itself. -/
private theorem nodup_insert_iff {before segment after : List ComponentId} (distinct : (before ++ after).Nodup)
    (fresh : ∀ id ∈ segment, id ∉ before ++ after) : (before ++ segment ++ after).Nodup ↔ segment.Nodup := by
  have moved : (before ++ segment ++ after).Perm (segment ++ (before ++ after)) := by
    rw [List.append_assoc]
    exact List.perm_append_comm_assoc ..
  rw [moved.nodup_iff, List.nodup_append]
  refine ⟨fun parts => parts.1, fun own => ⟨own, distinct, ?_⟩⟩
  rintro id inside _ outside rfl
  exact fresh id inside outside

end Forest

namespace Store

open Forest

theorem clash?_eq_none_iff {page : Forest} {component : Component} :
    clash? page component = none ↔ ∀ id ∈ ids [component], id ∉ ids page := by
  simp [clash?]

theorem attach_exchanged {page next : Forest} {component : Component} {parent : Option ComponentId}
    (attached : attach page component parent = .ok next) :
    Exchanged [] (faces [{ component with parent }]) page next := by
  cases attached_of_attach attached with
  | root => exact ⟨faces page, [], by simp, by simp⟩
  | @child place node first =>
    obtain ⟨before, after, old, new⟩ := exchanged_fill place [node]
      [node.withChildren (node.childList ++ [{ component with parent := some node.id }])]
    refine ⟨before ++ faces [node], after, by simpa using old, ?_⟩
    rw [new, faces_addChild, ← List.append_assoc]

/-- Every page in the history gives each component an id of its own. -/
def Distinct (store : Store) : Prop := ∀ page ∈ store.history.entries, (ids page).Nodup

theorem Distinct.forest {store : Store} (distinct : store.Distinct) : (ids store.forest).Nodup :=
  distinct _ (List.get_mem ..)

theorem distinct_commit_iff {store : Store} (distinct : store.Distinct) (page : Forest) :
    (store.commit page).Distinct ↔ (ids page).Nodup := by
  obtain ⟨kept, latest, entries, _, _⟩ := store.history.commit_log page
  unfold Distinct commit
  rw [entries]
  constructor
  · intro all
    exact all page (by simp)
  · intro own other member
    rcases List.mem_append.mp member with old | new
    · exact distinct other (List.mem_of_mem_take (latest.mem old))
    · obtain rfl := List.mem_singleton.mp new
      exact own

/-- An edit by which a component gets in whose own subtree repeats an id. -/
def TakesRepetition (store : Store) : Edit → Prop
  | .add component parent => (∃ next, (add component parent).run store = .ok () next) ∧ ¬ (ids [component]).Nodup
  | _ => False

/-- Changing what a component holds besides its children leaves the listed ids alone. -/
theorem ids_modify? {id : ComponentId} {change : Component → Component} {page next : Forest}
    (own : ∀ component, (change component).id = component.id)
    (below : ∀ component, (change component).childList = component.childList)
    (modified : modify? id change page = some next) : ids next = ids page := by
  obtain ⟨node, _, exchanged⟩ := modify?_exchanged modified
  obtain ⟨before, after, old, new⟩ := exchanged.ids
  rw [old, new, ← ids_eq_faces, ← ids_eq_faces, ids_singleton_face (own node) (below node)]

theorem ids_remove_sublist {id : ComponentId} {page next : Forest} {taken : Component}
    (removed : remove id page = (some taken, next)) : (ids next).Sublist (ids page) := by
  obtain ⟨_, exchanged⟩ := remove_exchanged removed
  obtain ⟨before, after, old, new⟩ := exchanged.ids
  rw [old, new]
  simp

theorem nodup_attach_iff {page next : Forest} {component : Component} {parent : Option ComponentId}
    (distinct : (ids page).Nodup) (fresh : clash? page component = none)
    (attached : attach page component parent = .ok next) : (ids next).Nodup ↔ (ids [component]).Nodup := by
  obtain ⟨before, after, old, new⟩ := (attach_exchanged attached).ids
  rw [← ids_eq_faces] at new
  have same : ids [{ component with parent }] = ids [component] := ids_singleton_face rfl rfl
  simp only [List.map_nil, List.append_nil] at old
  rw [new, same]
  apply nodup_insert_iff (old ▸ distinct)
  intro id inside
  rw [← old]
  exact clash?_eq_none_iff.mp fresh id inside

private theorem nodup_reviseAt {id : ComponentId} {change : Component → Component} {page next : Forest} {outcome : Outcome}
    (own : ∀ component, (change component).id = component.id)
    (below : ∀ component, (change component).childList = component.childList) (distinct : (ids page).Nodup)
    (revised : Edit.revise.reviseAt page id change = .ok (outcome, next)) : (ids next).Nodup := by
  simp only [Edit.revise.reviseAt] at revised
  split at revised
  next changed modified =>
    obtain ⟨_, rfl⟩ := Prod.mk.inj (Except.ok.inj revised)
    rw [ids_modify? own below modified]
    exact distinct
  next => cases revised

/-- Only an addition can bring a repetition to a part of a page. -/
theorem nodup_revise {edit : Edit} {page next : Forest} {outcome : Outcome} (part : edit.replacesPage = false)
    (other : ∀ component parent, edit ≠ .add component parent) (distinct : (ids page).Nodup)
    (revised : edit.revise page = some (.ok (outcome, next))) : (ids next).Nodup := by
  cases edit with
  | add component parent => exact absurd rfl (other component parent)
  | delete id =>
    simp only [Edit.revise, Option.some.injEq] at revised
    split at revised
    next taken left removed =>
      obtain ⟨_, rfl⟩ := Prod.mk.inj (Except.ok.inj revised)
      exact distinct.sublist (ids_remove_sublist removed)
    next => cases revised
  | updateProps id patch =>
    refine nodup_reviseAt ?_ ?_ distinct (Option.some.inj revised)
    all_goals exact fun _ => rfl
  | updateStyles id patch replace =>
    refine nodup_reviseAt ?_ ?_ distinct (Option.some.inj revised)
    all_goals
      intro component
      cases replace <;> rfl
  | setForest | load => cases part
  | undo | redo => cases revised

theorem add_eq_ok {store next : Store} {component : Component} {parent : Option ComponentId}
    (added : (add component parent).run store = .ok () next) :
    clash? store.forest component = none ∧
      ∃ page, attach store.forest component parent = .ok page ∧ next = store.commit page := by
  rw [run_add] at added
  split at added
  next => cases added
  next fresh =>
    split at added
    next page attached =>
      cases added
      exact ⟨fresh, page, attached, rfl⟩
    next => cases added

theorem after_add (store : Store) (component : Component) (parent : Option ComponentId) :
    store.after (.add component parent) =
      match (add component parent).run store with
      | .ok _ next => next
      | .error _ left => left := by
  rw [after, perform, EStateM.run_bind]
  cases (add component parent).run store <;> rfl

theorem distinct_after_add_iff {store : Store} (distinct : store.Distinct) (component : Component)
    (parent : Option ComponentId) :
    (store.after (.add component parent)).Distinct ↔ ¬ store.TakesRepetition (.add component parent) := by
  rw [after_add, TakesRepetition]
  cases added : (add component parent).run store with
  | error error left =>
    obtain rfl := atomic_add component parent store error left added
    simp [distinct]
  | ok _ next =>
    obtain ⟨fresh, page, attached, rfl⟩ := add_eq_ok added
    rw [distinct_commit_iff distinct, nodup_attach_iff distinct.forest fresh attached]
    simp

/-- The only way for an edit of a part of the page to spoil the history. -/
theorem distinct_after_iff {store : Store} {edit : Edit} (distinct : store.Distinct)
    (part : edit.replacesPage = false) : (store.after edit).Distinct ↔ ¬ store.TakesRepetition edit := by
  by_cases adds : ∃ component parent, edit = .add component parent
  · obtain ⟨component, parent, rfl⟩ := adds
    exact distinct_after_add_iff distinct component parent
  · simp only [not_exists] at adds
    have harmless : ¬ store.TakesRepetition edit := by
      cases edit <;> simp_all [TakesRepetition]
    refine iff_of_true ?_ harmless
    cases revised : edit.revise store.forest with
    | none =>
      unfold Distinct
      rw [entries_after_move revised]
      exact distinct
    | some result =>
      cases result with
      | error error =>
        rw [after_of_error revised]
        exact distinct
      | ok revision =>
        obtain ⟨outcome, page⟩ := revision
        rw [after_of_ok revised, distinct_commit_iff distinct]
        exact nodup_revise part adds distinct.forest revised

/-- From a history without repetitions, a run of edits of parts of the page meets none as long as no
component with a repetition inside itself gets in, and not a step longer. -/
theorem run_distinct_iff {store : Store} {edits : List Edit} (distinct : store.Distinct)
    (parts : ∀ edit ∈ edits, edit.replacesPage = false) :
    (∀ done, done <+: edits → (store.run done).Distinct) ↔
      ∀ done edit, done ++ [edit] <+: edits → ¬ (store.run done).TakesRepetition edit := by
  have step (done : List Edit) (edit : Edit) (starts : done ++ [edit] <+: edits) (before : (store.run done).Distinct) :
      (store.run (done ++ [edit])).Distinct ↔ ¬ (store.run done).TakesRepetition edit := by
    have part : edit.replacesPage = false := parts edit (starts.mem (by simp))
    rw [run, List.foldl_append]
    exact distinct_after_iff before part
  constructor
  · intro always done edit starts
    have earlier : done <+: edits := (List.prefix_append ..).trans starts
    exact (step done edit starts (always done earlier)).mp (always _ starts)
  · intro harmless done
    induction done using List.reverseRecOn with
    | nil => exact fun _ => distinct
    | append_singleton done edit ih =>
      intro starts
      have earlier : done <+: edits := (List.prefix_append ..).trans starts
      exact (step done edit starts (ih earlier)).mpr (harmless done edit starts)

theorem blank_distinct : blank.Distinct := by
  intro page member
  obtain rfl := List.mem_singleton.mp member
  simp [Component.childList, Component.new]

theorem run_distinct_iff_blank :
    let edits : List Edit := [.add (.new 2 "Text") (some 1), .undo, .delete 7]
    blank.Distinct ∧ (∀ edit ∈ edits, edit.replacesPage = false) ∧
      ((∀ done, done <+: edits → (blank.run done).Distinct) ↔
        ∀ done edit, done ++ [edit] <+: edits → ¬ (blank.run done).TakesRepetition edit) := by
  intro edits
  have parts : ∀ edit ∈ edits, edit.replacesPage = false := by simp [edits, Edit.replacesPage]
  exact ⟨blank_distinct, parts, run_distinct_iff blank_distinct parts⟩

/-- A container whose two children share an id is taken in. -/
theorem repetition_taken_in :
    ¬ ∀ (store : Store) (edits : List Edit), store.Distinct → (∀ edit ∈ edits, edit.replacesPage = false) →
      (store.run edits).Distinct := by
  intro always
  let twin : Component := .new 3 "Text"
  let container : Component := { Component.new 2 "Container" with children := some [twin, twin] }
  have fresh : clash? blank.forest container = none := by
    simp [clash?, blank, forest, start, History.current, History.start, container, twin, Component.childList, Component.new]
  have added : (add container none).run blank =
      .ok () (blank.commit (blank.forest ++ [{ container with parent := none }])) := by
    rw [run_add, fresh, attach]
  have spoiled : blank.TakesRepetition (.add container none) := by
    refine ⟨⟨_, added⟩, ?_⟩
    simp [container, twin, Component.childList, Component.new]
  have kept : (blank.after (.add container none)).Distinct :=
    always blank [.add container none] blank_distinct (by simp [Edit.replacesPage])
  exact (distinct_after_iff blank_distinct rfl).mp kept spoiled

end Store

end PageEditor
