import PageEditor.Proofs.DistinctIds

/-!
Edits are all or nothing. Which of them a page refuses, and with which words, is told by the ids it
lists. A refused edit leaves the store alone, and an accepted one can be taken back and redone, unless
the history has room for a single page.
-/

namespace PageEditor

open Forest

def Edit.subject? : Edit → Option ComponentId
  | .delete id | .updateProps id _ | .updateStyles id _ _ => some id
  | .add .. | .setForest _ | .load _ | .undo | .redo => none

/-- Why an edit is refused on a page. A new page is never refused, and neither is going back or forth. -/
inductive Refused (page : Forest) : Edit → EditError → Prop where
  | duplicate {component : Component} {parent : Option ComponentId} {id : ComponentId} {before after : List ComponentId}
      (listed : ids [component] = before ++ id :: after) (first : ∀ other ∈ before, other ∉ ids page)
      (taken : id ∈ ids page) : Refused page (.add component parent) (.duplicateId id)
  | orphan {component : Component} {parent : ComponentId} (fresh : ∀ id ∈ ids [component], id ∉ ids page)
      (missing : parent ∉ ids page) : Refused page (.add component (some parent)) (.parentNotFound parent)
  | unknown {edit : Edit} {id : ComponentId} (subject : edit.subject? = some id) (missing : id ∉ ids page) :
      Refused page edit (.componentNotFound id)
  | unreadable {text : String} {problem : Document.Problem} (failed : Document.parse text = .error problem) :
      Refused page (.load text) (.invalidDocument problem)

namespace Store

theorem clash?_eq_some_iff {page : Forest} {component : Component} {id : ComponentId} :
    clash? page component = some id ↔
      id ∈ ids page ∧ ∃ before after, ids [component] = before ++ id :: after ∧ ∀ other ∈ before, other ∉ ids page := by
  simp [clash?, List.find?_eq_some_iff_append]

theorem attach_eq_error_iff {page : Forest} {component : Component} {parent : Option ComponentId} {error : EditError} :
    attach page component parent = .error error ↔
      ∃ id, parent = some id ∧ id ∉ ids page ∧ error = .parentNotFound id := by
  cases parent with
  | none => simp [attach]
  | some id =>
    simp only [attach, Option.some.injEq, exists_eq_left']
    split
    next next modified => simp [mem_ids_of_modify? modified]
    next missing => simp [modify?_eq_none_iff.mp missing, eq_comm]

end Store

namespace Edit

private theorem reviseAt_eq_error_iff {page : Forest} {id : ComponentId} {change : Component → Component}
    {error : EditError} :
    revise.reviseAt page id change = .error error ↔ id ∉ ids page ∧ error = .componentNotFound id := by
  simp only [revise.reviseAt]
  split
  next next modified => simp [mem_ids_of_modify? modified]
  next missing => simp [modify?_eq_none_iff.mp missing, eq_comm]

private theorem refused_subject_iff {page : Forest} {edit : Edit} {id : ComponentId} {error : EditError}
    (subject : edit.subject? = some id) : Refused page edit error ↔ id ∉ ids page ∧ error = .componentNotFound id := by
  constructor
  · rintro (_ | _ | ⟨same, missing⟩ | _)
    · cases subject
    · cases subject
    · obtain rfl := Option.some.inj (same.symm.trans subject)
      exact ⟨missing, rfl⟩
    · cases subject
  · rintro ⟨missing, rfl⟩
    exact .unknown subject missing

theorem refused_add_iff {page : Forest} {component : Component} {parent : Option ComponentId} {error : EditError} :
    Refused page (.add component parent) error ↔
      (∃ id, Store.clash? page component = some id ∧ error = .duplicateId id) ∨
      Store.clash? page component = none ∧ Store.attach page component parent = .error error := by
  simp only [Store.clash?_eq_some_iff, Store.clash?_eq_none_iff, Store.attach_eq_error_iff]
  constructor
  · rintro (⟨listed, first, taken⟩ | ⟨fresh, missing⟩ | ⟨subject, _⟩)
    · exact .inl ⟨_, ⟨taken, _, _, listed, first⟩, rfl⟩
    · exact .inr ⟨fresh, _, rfl, missing, rfl⟩
    · cases subject
  · rintro (⟨id, ⟨taken, before, after, listed, first⟩, rfl⟩ | ⟨fresh, id, rfl, missing, rfl⟩)
    · exact .duplicate listed first taken
    · exact .orphan fresh missing

theorem revise_eq_error_iff {page : Forest} {edit : Edit} {error : EditError} :
    edit.revise page = some (.error error) ↔ Refused page edit error := by
  cases edit with
  | add component parent =>
    rw [refused_add_iff, revise, Option.some.injEq]
    cases clash : Store.clash? page component with
    | some id => simp [eq_comm]
    | none => cases Store.attach page component parent <;> simp [Except.map]
  | delete id =>
    rw [refused_subject_iff rfl, revise, Option.some.injEq]
    split
    next removed => simp [mem_ids_of_remove removed]
    next missing => simp [remove_eq_none_iff.mp (congrArg Prod.fst missing), eq_comm]
  | updateProps id patch => rw [refused_subject_iff rfl, revise, Option.some.injEq, reviseAt_eq_error_iff]
  | updateStyles id patch replace => rw [refused_subject_iff rfl, revise, Option.some.injEq, reviseAt_eq_error_iff]
  | load text =>
    cases parsed : Document.parse text with
    | error problem =>
      simp only [revise, parsed, Option.some.injEq, Except.error.injEq]
      constructor
      · rintro rfl
        exact .unreadable parsed
      · rintro (_ | _ | ⟨subject, _⟩ | ⟨failed⟩)
        · cases subject
        · rw [Except.error.inj (parsed.symm.trans failed)]
    | ok page =>
      simp only [revise, parsed, Option.some.injEq, reduceCtorEq, false_iff]
      rintro (_ | _ | ⟨subject, _⟩ | ⟨failed⟩)
      · cases subject
      · cases parsed.symm.trans failed
  | setForest | undo | redo =>
    simp only [revise, Option.some.injEq, reduceCtorEq, false_iff]
    intro refused
    cases refused with
    | unknown subject missing => cases subject

end Edit

namespace Store

theorem run_perform_eq_error_iff {store : Store} {edit : Edit} {error : EditError} :
    (∃ left, (perform edit).run store = .error error left) ↔ Refused store.forest edit error := by
  rw [← Edit.revise_eq_error_iff]
  cases revised : edit.revise store.forest with
  | none =>
    cases edit with
    | add | delete | updateProps | updateStyles | setForest | load => cases revised
    | undo | redo =>
      constructor
      · rintro ⟨left, failed⟩
        cases failed
      · intro refused
        cases refused
  | some result =>
    rw [run_perform_of_revise revised]
    cases result <;> simp [settle]

/-- There is nothing to redo after an edit, and it can be undone and redone if there is room for two pages. -/
structure Undoable (before after : Store) : Prop where
  newest : after.redo = (false, after)
  undone : before.history.limit ≠ some 1 →
    ∃ back again, after.undo = (true, back) ∧ back.forest = before.forest ∧
      back.redo = (true, again) ∧ again.forest = after.forest

theorem commit_undoable (store : Store) (page : Forest) : Undoable store (store.commit page) where
  newest := by simp [redo, commit, History.redo_commit]
  undone roomy := by
    obtain ⟨back, moved, same⟩ := store.history.undo_commit page roomy
    refine ⟨⟨back⟩, store.commit page, ?_, same, ?_, rfl⟩
    · simp [undo, commit, moved]
    · simp [redo, commit, History.redo_of_undo moved]

/-- An edit fails exactly for the reasons given, and then leaves the store as it was. One that succeeds, and does
not go back or forth itself, leaves nothing to redo and can be undone and redone. -/
theorem edit_all_or_nothing (store : Store) (edit : Edit) :
    (∀ error, (∃ left, (perform edit).run store = .error error left) ↔ Refused store.forest edit error) ∧
      (∀ error left, (perform edit).run store = .error error left →
        left.history.entries = store.history.entries ∧ left.history.cursor = store.history.cursor ∧
          left.history.limit = store.history.limit ∧ left = store) ∧
      ∀ outcome next, (perform edit).run store = .ok outcome next → edit ≠ .undo → edit ≠ .redo →
        Undoable store next := by
  refine ⟨?_, ?_, ?_⟩
  · exact fun _ => run_perform_eq_error_iff
  · intro error left failed
    obtain rfl := atomic_perform edit store error left failed
    exact ⟨rfl, rfl, rfl, rfl⟩
  · intro outcome next succeeded notUndo notRedo
    cases revised : edit.revise store.forest with
    | none => cases edit <;> simp_all [Edit.revise]
    | some result =>
      rw [run_perform_of_revise revised] at succeeded
      cases result with
      | error error => cases succeeded
      | ok revision =>
        cases succeeded
        exact commit_undoable store revision.2

/-- Where an empty page has been undone, deleting what is not there keeps that page to be redone, and committing
another one takes its place. -/
theorem edit_all_or_nothing_blank :
    let store := blank.run [.setForest [], .undo]
    Refused store.forest (.delete 9) (.componentNotFound 9) ∧
      (∃ left, (perform (.delete 9)).run store = .error (.componentNotFound 9) left ∧
        left.history.entries = [blank.forest, []] ∧ left.history.cursor = 0 ∧ left = store) ∧
      ∃ next, (perform (.setForest [.new 2 "Text"])).run store = .ok .done next ∧
        next.history.entries = [blank.forest, [.new 2 "Text"]] ∧ Undoable store next := by
  intro store
  have missing : Refused store.forest (.delete 9) (.componentNotFound 9) := by
    refine .unknown rfl ?_
    decide +kernel
  obtain ⟨refuses, leaves, _⟩ := edit_all_or_nothing store (.delete 9)
  obtain ⟨_, _, undoable⟩ := edit_all_or_nothing store (.setForest [.new 2 "Text"])
  obtain ⟨left, failed⟩ := (refuses _).mpr missing
  obtain ⟨entries, cursor, _, same⟩ := leaves _ left failed
  refine ⟨missing, ⟨left, failed, ?_, ?_, same⟩, _, rfl, rfl, undoable _ _ rfl ?_ ?_⟩
  · rw [entries]
    rfl
  · rw [cursor]
    rfl
  · simp
  · simp

end Store

end PageEditor
