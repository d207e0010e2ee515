import PageEditor.Proofs.LimitedHistory
import PageEditor.Proofs.Revision

/-!
What is left of a history when a limit is set. It is one run of the entries around the current one, as long as the
limit has room for: first for the entries that can be redone, nearest first, and then for the latest ones of the
past. Of several limits the smallest alone decides.
-/

namespace PageEditor

namespace Zipper

variable {α : Type} (zipper : Zipper α)

/-- The future has what room the current entry leaves, and the past what room both of them leave. -/
theorem limitTo_eq (limit : Nat) :
    zipper.limitTo limit =
      { past := zipper.past.drop (zipper.entries.length - max limit 1)
        current := zipper.current
        future := zipper.future.take (max limit 1 - 1)
        limit := some (max limit 1) } := by
  let limited : Zipper α := { zipper with limit := some (max limit 1) }
  have cut : limited.forgetPast.forgetFuture = _ := forgetFuture_forgetPast_of_some rfl
  have length := zipper.length_entries
  have future : zipper.future.take
      (zipper.future.length - (zipper.entries.length - max limit 1 - zipper.past.length)) =
        zipper.future.take (max limit 1 - 1) := by
    rw [List.take_eq_take_iff, length]
    omega
  rw [limitTo, cut]
  exact congrArg (Zipper.mk _ _ · _) future

theorem length_entries_limitTo (limit : Nat) :
    (zipper.limitTo limit).entries.length = min zipper.entries.length (max limit 1) := by
  have length := zipper.length_entries
  rw [length_entries, limitTo_eq, List.length_drop, List.length_take]
  omega

theorem entries_limitTo (limit : Nat) :
    zipper.entries =
      zipper.past.take (zipper.entries.length - max limit 1) ++ (zipper.limitTo limit).entries ++
        zipper.future.drop (max limit 1 - 1) := by
  rw [limitTo_eq]
  generalize zipper.entries.length - max limit 1 = forgotten
  calc zipper.entries
    _ = zipper.past.take forgotten ++ zipper.past.drop forgotten ++ [zipper.current] ++
          (zipper.future.take (max limit 1 - 1) ++ zipper.future.drop (max limit 1 - 1)) := by
      rw [List.take_append_drop, List.take_append_drop, entries]
    _ = _ := by simp only [entries, List.append_assoc]

/-- After two limits there is left what the smaller one leaves. -/
theorem limitTo_limitTo (first second : Nat) :
    (zipper.limitTo first).limitTo second =
      { zipper.limitTo (min first second) with limit := some (max second 1) } := by
  have length := zipper.length_entries_limitTo first
  rw [limitTo_eq (zipper.limitTo first), length, limitTo_eq zipper (min first second)]
  have past : zipper.entries.length - max first 1 + (min zipper.entries.length (max first 1) - max second 1) =
      zipper.entries.length - max (min first second) 1 := by omega
  have future : min (max second 1 - 1) (max first 1 - 1) = max (min first second) 1 - 1 := by omega
  simp only [limitTo_eq zipper first, List.drop_drop, List.take_take, past, future]

end Zipper

namespace History

variable {α : Type}

/-- What can be redone. -/
def ahead (history : History α) : List α := history.entries.drop (history.cursor + 1)

/-- The second history is one run of the entries of the first, with the cursor on the same entry. -/
structure Window (history kept : History α) : Prop where
  run : ∃ older newer, history.entries = older ++ kept.entries ++ newer ∧ history.cursor = older.length + kept.cursor
  inside : kept.cursor < kept.entries.length
  current : kept.current = history.current

theorem window_limitTo (history : History α) (limit : Nat) : Window history (history.limitTo limit) := by
  obtain ⟨zipper, shows⟩ := history.exists_shows
  have limited := shows.limitTo limit
  have past : (zipper.limitTo limit).past = zipper.past.drop (zipper.entries.length - max limit 1) := by
    rw [Zipper.limitTo_eq]
  have current : (zipper.limitTo limit).current = zipper.current := by rw [Zipper.limitTo_eq]
  refine ⟨⟨zipper.past.take (zipper.entries.length - max limit 1), zipper.future.drop (max limit 1 - 1), ?_, ?_⟩,
    (history.limitTo limit).cursor_lt, ?_⟩
  · rw [shows.entries, limited.entries, ← Zipper.entries_limitTo]
  · rw [shows.cursor, limited.cursor, past, ← List.length_append, List.take_append_drop]
  · rw [shows.current, limited.current, current]

/-- A limit leaves a run of the entries around the current one. It is as long as the limit allows, and what can be
redone of it is cut only where that alone exceeds the limit. Two limits leave what the smaller one leaves. -/
theorem limit_keeps_window (history : History α) (limit : Nat) :
    Window history (history.limitTo limit) ∧
      (history.limitTo limit).entries.length = min history.entries.length (max limit 1) ∧
      (history.limitTo limit).ahead.length = min history.ahead.length (max limit 1 - 1) ∧
      ∀ later,
        ((history.limitTo limit).limitTo later).entries = (history.limitTo (min limit later)).entries ∧
          ((history.limitTo limit).limitTo later).cursor = (history.limitTo (min limit later)).cursor := by
  obtain ⟨zipper, shows⟩ := history.exists_shows
  have limited := shows.limitTo limit
  refine ⟨window_limitTo history limit, ?_, ?_, ?_⟩
  · rw [limited.entries, Zipper.length_entries_limitTo, shows.entries]
  · rw [ahead, ahead, limited.drop_cursor, shows.drop_cursor, Zipper.limitTo_eq, List.length_take, Nat.min_comm]
  · intro later
    have twice := limited.limitTo later
    have once := shows.limitTo (min limit later)
    rw [Zipper.limitTo_limitTo] at twice
    exact ⟨twice.entries.trans once.entries.symm, twice.cursor.trans once.cursor.symm⟩

end History

end PageEditor
