import PageEditor.Editing.Edit
import PageEditor.Proofs.HistoryZipper
import PageEditor.Proofs.Places

/-!
Edits as revisions of a page. Apart from undo and redo, an edit makes a new page of the current one or
refuses to, and the store commits the new page. What an edit does to the history is then known without
looking at the edit, and what it does to the page without looking at the history.
-/

namespace PageEditor

namespace History

variable {α : Type}

theorem exists_shows (history : History α) : ∃ zipper, Shows history zipper := by
  refine ⟨⟨history.entries.take history.cursor, history.current, history.entries.drop (history.cursor + 1),
    history.limit⟩, ?_, ?_, rfl⟩
  · have split : history.entries.drop history.cursor = history.current :: history.entries.drop (history.cursor + 1) :=
      List.drop_eq_getElem_cons history.cursor_lt
    rw [Zipper.entries, List.append_assoc, List.singleton_append, ← split, List.take_append_drop]
  · exact (List.length_take_of_le (Nat.le_of_lt history.cursor_lt)).symm

/-- A commit keeps the latest of the entries up to the cursor and puts the new one behind them. Unless
the limit leaves room for a single entry, the one that was current stays. -/
theorem commit_log (history : History α) (entry : α) :
    ∃ kept, kept <:+ history.entries.take (history.cursor + 1) ∧
      (history.commit entry).entries = kept ++ [entry] ∧ (history.commit entry).cursor = kept.length ∧
      (history.limit ≠ some 1 → ∃ older, kept = older ++ [history.current]) := by
  obtain ⟨zipper, shows⟩ := history.exists_shows
  let pushed : Zipper α := { zipper with past := zipper.past ++ [zipper.current], current := entry, future := [] }
  have committed := shows.commit entry
  have latest : pushed.forgetPast.past <:+ zipper.past ++ [zipper.current] := List.drop_suffix ..
  refine ⟨pushed.forgetPast.past, ?_, ?_, committed.cursor, ?_⟩
  · rw [shows.take_cursor]
    exact latest
  · rw [committed.entries]
    exact List.append_nil _
  · intro roomy
    have few : pushed.surplus ≤ zipper.past.length := by
      cases limited : zipper.limit with
      | none => simp [pushed, Zipper.surplus, limited]
      | some limit =>
        have bounded := shows.limit.trans limited
        have positive := history.limit_pos limit bounded
        have several : limit ≠ 1 := fun single => roomy (bounded.trans (congrArg some single))
        simp only [pushed, Zipper.surplus, limited, Zipper.length_entries, List.length_append, List.length_singleton,
          List.length_nil]
        omega
    have remaining : pushed.forgetPast.past ≠ [] := by
      apply List.ne_nil_of_length_pos
      simp only [Zipper.forgetPast, List.length_drop, pushed, List.length_append, List.length_singleton]
      exact Nat.sub_pos_of_lt (Nat.lt_succ_of_le few)
    obtain ⟨older, same, _⟩ := (List.suffix_concat_iff.mp latest).resolve_left remaining
    exact ⟨older, by rw [same, shows.current]⟩

theorem redo_of_undo {history back : History α} {entry : α} (moved : history.undo = (some entry, back)) :
    back.redo = (some history.current, history) := by
  obtain ⟨entries, cursor, limit, inside, positive⟩ := history
  cases cursor with
  | zero => simp [undo] at moved
  | succ previous =>
    obtain ⟨_, rfl⟩ := Prod.mk.inj moved
    simp [redo, inside]

theorem redo_commit (history : History α) (entry : α) :
    (history.commit entry).redo = (none, history.commit entry) := by
  obtain ⟨kept, _, entries, cursor, _⟩ := history.commit_log entry
  simp [redo, entries, cursor]

theorem undo_commit (history : History α) (entry : α) (roomy : history.limit ≠ some 1) :
    ∃ back, (history.commit entry).undo = (some history.current, back) ∧ back.current = history.current := by
  obtain ⟨kept, latest, entries, cursor, several⟩ := history.commit_log entry
  obtain ⟨older, rfl⟩ := several roomy
  have behind : 0 < (history.commit entry).cursor := by simp [cursor]
  have shown : (history.commit entry).undo.2.current = history.current := by
    apply current_of_getElem?
    rw [undo, if_pos behind]
    simp [entries, cursor]
  refine ⟨(history.commit entry).undo.2, ?_, shown⟩
  have answer : (history.commit entry).undo.1 = some (history.commit entry).undo.2.current := by rw [undo, if_pos behind]
  exact Prod.ext (answer.trans (congrArg some shown)) rfl

end History

namespace Edit

/-- What an edit makes of a page. Undo and redo make nothing of it: they go to another one. -/
def revise (page : Forest) : Edit → Option (Except EditError (Outcome × Forest))
  | .add component parent => some <|
    match Store.clash? page component with
    | some id => .error (.duplicateId id)
    | none => (Store.attach page component parent).map fun next => (.done, next)
  | .delete id => some <|
    match Forest.remove id page with
    | (some removed, next) => .ok (.removed removed, next)
    | (none, _) => .error (.componentNotFound id)
  | .updateProps id patch => some (reviseAt page id (Store.mergeProps patch))
  | .updateStyles id patch replace =>
    some (reviseAt page id (if replace then Store.replaceStyles patch else Store.mergeStyles patch))
  | .setForest next => some (.ok (.done, next))
  | .load text => some <|
    match Document.parse text with
    | .ok next => .ok (.done, next)
    | .error problem => .error (.invalidDocument problem)
  | .undo | .redo => none
where
  reviseAt (page : Forest) (id : ComponentId) (change : Component → Component) : Except EditError (Outcome × Forest) :=
    match Forest.modify? id change page with
    | some next => .ok (.done, next)
    | none => .error (.componentNotFound id)

end Edit

/-- A page before and after a component is attached to it: as the last root, or as the last child of the first
component of the walk with the id of its parent. -/
inductive Attached (component : Component) : Option ComponentId → Forest → Forest → Prop where
  | root (page : Forest) : Attached component none page (page ++ [component])
  | child {place : Place} {node : Component} (first : node.id ∉ place.passed) :
    Attached component (some node.id) (place.fill [node])
      (place.fill [node.withChildren (node.childList ++ [component])])

namespace Store

theorem attached_of_attach {component : Component} {parent : Option ComponentId} {page next : Forest}
    (attached : attach page component parent = .ok next) : Attached { component with parent } parent page next := by
  cases parent with
  | none =>
    obtain rfl := Except.ok.inj attached
    exact .root page
  | some id =>
    simp only [attach] at attached
    split at attached
    next changed modified =>
      obtain rfl := Except.ok.inj attached
      obtain ⟨place, node, rfl, first, rfl, rfl⟩ := Forest.modify?_place modified
      exact .child first
    next => cases attached

section Operations

variable (store : Store) (id : ComponentId)

theorem run_add (component : Component) (parent : Option ComponentId) :
    (add component parent).run store =
      match clash? store.forest component with
      | some id => .error (.duplicateId id) store
      | none =>
        match attach store.forest component parent with
        | .ok page => .ok () (store.commit page)
        | .error error => .error error store := by
  simp only [add, EStateM.run_bind, EStateM.run_get]
  cases clash? store.forest component with
  | some id => rfl
  | none => cases attach store.forest component parent <;> rfl

theorem run_delete :
    (delete id).run store =
      match Forest.remove id store.forest with
      | (some removed, page) => .ok removed (store.commit page)
      | (none, _) => .error (.componentNotFound id) store := by
  simp only [delete, EStateM.run_bind, EStateM.run_get]
  rcases Forest.remove id store.forest with ⟨_ | removed, page⟩ <;> rfl

theorem run_update (change : Component → Component) :
    (update id change).run store =
      match Forest.modify? id change store.forest with
      | some page => .ok () (store.commit page)
      | none => .error (.componentNotFound id) store := by
  simp only [update, EStateM.run_bind, EStateM.run_get]
  cases Forest.modify? id change store.forest <;> rfl

theorem run_load (text : String) :
    (load text).run store =
      match Document.parse text with
      | .ok page => .ok () (store.commit page)
      | .error problem => .error (.invalidDocument problem) store := by
  rw [load]
  cases Document.parse text <;> rfl

end Operations

/-- Whenever it fails, an operation leaves the store as it was. -/
def Atomic {α : Type} (operation : Editing α) : Prop :=
  ∀ store error left, operation.run store = .error error left → left = store

theorem atomic_add (component : Component) (parent : Option ComponentId) : Atomic (add component parent) := by
  intro store error left failed
  rw [run_add] at failed
  split at failed
  next => cases failed; rfl
  next =>
    split at failed
    next => cases failed
    next => cases failed; rfl

theorem atomic_delete (id : ComponentId) : Atomic (delete id) := by
  intro store error left failed
  rw [run_delete] at failed
  split at failed
  next => cases failed
  next => cases failed; rfl

theorem atomic_update (id : ComponentId) (change : Component → Component) : Atomic (update id change) := by
  intro store error left failed
  rw [run_update] at failed
  split at failed
  next => cases failed
  next => cases failed; rfl

theorem atomic_load (text : String) : Atomic (load text) := by
  intro store error left failed
  rw [run_load] at failed
  split at failed
  next => cases failed
  next => cases failed; rfl

theorem Atomic.answer {α β : Type} {operation : Editing α} (atomic : Atomic operation) (view : α → β) :
    Atomic (do return view (← operation)) := by
  intro store error left failed
  rw [EStateM.run_bind] at failed
  split at failed
  next => cases failed
  next stopped =>
    cases failed
    exact atomic store error left stopped

theorem atomic_perform (edit : Edit) : Atomic (perform edit) := by
  cases edit with
  | add component parent => exact (atomic_add component parent).answer _
  | delete id => exact (atomic_delete id).answer _
  | updateProps id patch => exact (atomic_update id _).answer _
  | updateStyles id patch replace => exact (atomic_update id _).answer _
  | load text => exact (atomic_load text).answer _
  | setForest | undo | redo =>
    intro store error left failed
    cases failed

/-- How an operation ends that commits one page, or fails and leaves the store as it was. -/
def settle {α : Type} (store : Store) : Except EditError (α × Forest) → EStateM.Result EditError Store α
  | .ok (answer, page) => .ok answer (store.commit page)
  | .error error => .error error store

private theorem run_update_done (store : Store) (id : ComponentId) (change : Component → Component) :
    (do update id change; return Outcome.done : Editing Outcome).run store =
      store.settle (Edit.revise.reviseAt store.forest id change) := by
  rw [EStateM.run_bind, run_update, Edit.revise.reviseAt]
  cases Forest.modify? id change store.forest <;> rfl

/-- An edit that revises the page commits what it makes of it, and nothing else. -/
theorem run_perform_of_revise {store : Store} {edit : Edit} {result : Except EditError (Outcome × Forest)}
    (revised : edit.revise store.forest = some result) : (perform edit).run store = store.settle result := by
  cases edit with
  | add component parent =>
    obtain rfl := Option.some.inj revised
    rw [perform, EStateM.run_bind, run_add]
    cases clash? store.forest component with
    | some id => rfl
    | none => cases attach store.forest component parent <;> rfl
  | delete id =>
    obtain rfl := Option.some.inj revised
    rw [perform, EStateM.run_bind, run_delete]
    rcases Forest.remove id store.forest with ⟨_ | removed, page⟩ <;> rfl
  | updateProps id patch =>
    obtain rfl := Option.some.inj revised
    exact run_update_done ..
  | updateStyles id patch replace =>
    obtain rfl := Option.some.inj revised
    exact run_update_done ..
  | setForest page =>
    obtain rfl := Option.some.inj revised
    rfl
  | load text =>
    obtain rfl := Option.some.inj revised
    rw [perform, EStateM.run_bind, run_load]
    cases Document.parse text <;> rfl
  | undo => cases revised
  | redo => cases revised

theorem after_of_error {store : Store} {edit : Edit} {error : EditError}
    (failed : edit.revise store.forest = some (.error error)) : store.after edit = store := by
  rw [after, run_perform_of_revise failed]
  rfl

theorem after_of_ok {store : Store} {edit : Edit} {outcome : Outcome} {page : Forest}
    (succeeded : edit.revise store.forest = some (.ok (outcome, page))) : store.after edit = store.commit page := by
  rw [after, run_perform_of_revise succeeded]
  rfl

theorem entries_after_move {store : Store} {edit : Edit} (moves : edit.revise store.forest = none) :
    (store.after edit).history.entries = store.history.entries := by
  cases edit with
  | add | delete | updateProps | updateStyles | setForest | load => cases moves
  | undo =>
    change store.history.undo.2.entries = store.history.entries
    rw [History.undo]
    split <;> rfl
  | redo =>
    change store.history.redo.2.entries = store.history.entries
    rw [History.redo]
    split <;> rfl

/-- What holds of all pages in the history, and of the page that an edit makes, holds of all pages afterwards. -/
theorem forall_after {holds : Forest → Prop} {store : Store} {edit : Edit}
    (before : ∀ page ∈ store.history.entries, holds page)
    (made : ∀ outcome page, edit.revise store.forest = some (.ok (outcome, page)) → holds page) :
    ∀ page ∈ (store.after edit).history.entries, holds page := by
  cases revised : edit.revise store.forest with
  | none =>
    rw [entries_after_move revised]
    exact before
  | some result =>
    cases result with
    | error error =>
      rw [after_of_error revised]
      exact before
    | ok revision =>
      obtain ⟨outcome, page⟩ := revision
      obtain ⟨kept, latest, entries, _, _⟩ := store.history.commit_log page
      rw [after_of_ok revised, commit, entries]
      intro other member
      rcases List.mem_append.mp member with old | new
      · exact before other (List.mem_of_mem_take (latest.mem old))
      · obtain rfl := List.mem_singleton.mp new
        exact made outcome other revised

end Store

end PageEditor
