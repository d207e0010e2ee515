import Mathlib.Data.List.Induction
import PageEditor.Proofs.HistoryZipper

/-!
Two histories of the same calls, one that keeps everything and one with a limit. What the limit has
forgotten lies at the far end of the past. As long as the limited history is never asked to go back
further than it remembers, nobody can tell the two apart by what they show or by what can be redone.
-/

namespace PageEditor

/-- The call changes how much is kept. -/
def History.Call.setsLimit {α : Type} : History.Call α → Bool
  | .limitTo _ => true
  | .commit _ | .undo | .redo => false

namespace Zipper

variable {α : Type}

/-- The second zipper is the first without the oldest entries of its past. -/
structure Shortened (full limited : Zipper α) : Prop where
  past : limited.past <:+ full.past
  current : limited.current = full.current
  future : limited.future = full.future
  unlimited : full.limit = none

variable {full limited : Zipper α}

theorem Shortened.commit (shortened : Shortened full limited) (entry : α) :
    Shortened (full.commit entry) (limited.commit entry) := by
  have everything : (full.commit entry).past = full.past ++ [full.current] := by
    simp [Zipper.commit, forgetPast, surplus, shortened.unlimited]
  have latest : (limited.commit entry).past <:+ limited.past ++ [limited.current] := List.drop_suffix ..
  refine ⟨?_, rfl, rfl, shortened.unlimited⟩
  rw [everything, ← shortened.current]
  exact latest.trans (List.suffix_append_self_iff.mpr shortened.past)

/-- A step back is the same on both, unless the limited one has nothing left to go back to. -/
theorem Shortened.undo (shortened : Shortened full limited)
    (follows : full.undo.1.isSome = true → limited.undo.1.isSome = true) :
    limited.undo.1 = full.undo.1 ∧ Shortened full.undo.2 limited.undo.2 := by
  obtain ⟨past, current, future, limit⟩ := limited
  rcases List.eq_nil_or_concat past with rfl | ⟨older, previous, rfl⟩
  · have oldest : full.past.getLast? = none := by
      cases behind : full.past.getLast? with
      | none => rfl
      | some previous =>
        have refused := follows (by rw [Zipper.undo, behind]; rfl)
        cases refused
    simp only [Zipper.undo, oldest]
    exact ⟨rfl, shortened⟩
  · obtain ⟨forgotten, kept⟩ := shortened.past
    rw [List.concat_eq_append, ← List.append_assoc] at kept
    simp only [Zipper.undo, ← kept, List.concat_eq_append, List.getLast?_concat, List.dropLast_concat]
    refine ⟨trivial, List.suffix_append forgotten older, rfl, ?_, shortened.unlimited⟩
    rw [← shortened.current, ← shortened.future]

theorem Shortened.redo (shortened : Shortened full limited) :
    limited.redo.1 = full.redo.1 ∧ Shortened full.redo.2 limited.redo.2 := by
  simp only [Zipper.redo, ← shortened.future]
  cases ahead : limited.future with
  | nil => exact ⟨rfl, shortened⟩
  | cons next later =>
    refine ⟨rfl, ?_, rfl, rfl, shortened.unlimited⟩
    rw [← shortened.current]
    exact List.suffix_append_self_iff.mpr shortened.past

theorem Shortened.call (shortened : Shortened full limited) {call : History.Call α} (moves : call.setsLimit = false)
    (follows : call = .undo → full.undo.1.isSome = true → limited.undo.1.isSome = true) :
    (limited.call call).1 = (full.call call).1 ∧ Shortened (full.call call).2 (limited.call call).2 := by
  cases call with
  | commit entry => exact ⟨rfl, shortened.commit entry⟩
  | undo =>
    obtain ⟨answer, back⟩ := shortened.undo (follows rfl)
    exact ⟨congrArg History.Reply.moved answer, back⟩
  | redo =>
    obtain ⟨answer, forth⟩ := shortened.redo
    exact ⟨congrArg History.Reply.moved answer, forth⟩
  | limitTo limit => cases moves

end Zipper

namespace History

variable {α σ : Type}

theorem replay_concat (step : σ → Call α → Reply α × σ) (state : σ) (calls : List (Call α)) (call : Call α) :
    replay step state (calls ++ [call]) =
      ((replay step state calls).1 ++ [(step (replay step state calls).2 call).1],
        (step (replay step state calls).2 call).2) := by
  induction calls generalizing state with
  | nil => rfl
  | cons first rest ih => simp only [List.cons_append, replay, ih]

theorem Shows.run {history : History α} {zipper : Zipper α} (shows : Shows history zipper) (calls : List (Call α)) :
    (history.run calls).1 = (zipper.run calls).1 ∧ Shows (history.run calls).2 (zipper.run calls).2 :=
  replay_related (fun _ _ call held => held.call call) shows calls

/-- Wherever the full history goes back in a run, the limited one does not refuse to. -/
def KeepsUp (full limited : History α) (calls : List (Call α)) : Prop :=
  ∀ done, done ++ [.undo] <+: calls →
    (full.run done).2.undo.1.isSome = true → (limited.run done).2.undo.1.isSome = true

/-- What a limited history has in common with one that keeps everything. -/
structure Matches (full limited : History α) : Prop where
  current : limited.current = full.current
  ahead : limited.entries.drop (limited.cursor + 1) = full.entries.drop (full.cursor + 1)
  redo : (limited.call .redo).1 = (full.call .redo).1
  canRedo : limited.canRedo = full.canRedo
  latest : limited.entries <:+ full.entries
  /-- The cursors are at the same entry, as far from the end on both sides. -/
  cursor : ∃ forgotten, full.entries = forgotten ++ limited.entries ∧ full.cursor = forgotten.length + limited.cursor

theorem Shows.drop_cursor {history : History α} {zipper : Zipper α} (shows : Shows history zipper) :
    history.entries.drop (history.cursor + 1) = zipper.future := by
  rw [shows.entries, shows.cursor, Zipper.entries]
  apply List.drop_left'
  simp

theorem matches_of_shortened {full limited : History α} {zipper shorter : Zipper α} (shows : Shows full zipper)
    (shows' : Shows limited shorter) (shortened : Zipper.Shortened zipper shorter) : Matches full limited := by
  obtain ⟨forgotten, past⟩ := shortened.past
  have ahead : limited.entries.drop (limited.cursor + 1) = full.entries.drop (full.cursor + 1) := by
    rw [shows.drop_cursor, shows'.drop_cursor, shortened.future]
  have split : full.entries = forgotten ++ limited.entries := by
    rw [shows.entries, shows'.entries, Zipper.entries, Zipper.entries, ← past, shortened.current, shortened.future]
    simp only [List.append_assoc]
  have position : full.cursor = forgotten.length + limited.cursor := by
    rw [shows.cursor, shows'.cursor, ← past, List.length_append]
  refine ⟨?_, ahead, ?_, ?_, ⟨forgotten, split.symm⟩, forgotten, split, position⟩
  · rw [shows.current, shows'.current, shortened.current]
  · rw [(shows.call .redo).1, (shows'.call .redo).1]
    exact congrArg Reply.moved shortened.redo.1
  · simp only [canRedo, split, position, List.length_append]
    congr 1
    rw [eq_iff_iff]
    omega

/-- Without a limit nothing is forgotten, and the first entry stays the first. -/
theorem first_call {history : History α} (unlimited : history.limit = none) {call : Call α}
    (moves : call.setsLimit = false) :
    (history.call call).2.entries.head? = history.entries.head? ∧ (history.call call).2.limit = none := by
  cases call with
  | commit entry =>
    obtain ⟨first, rest, listed⟩ := List.exists_cons_of_length_pos (Nat.zero_lt_of_lt history.cursor_lt)
    simp only [History.call, commit, trim_of_none, unlimited]
    simp [listed]
  | undo =>
    simp only [History.call, History.undo]
    split <;> exact ⟨rfl, unlimited⟩
  | redo =>
    simp only [History.call, History.redo]
    split <;> exact ⟨rfl, unlimited⟩
  | limitTo limit => cases moves

theorem first_run {history : History α} (unlimited : history.limit = none) {calls : List (Call α)}
    (moves : ∀ call ∈ calls, call.setsLimit = false) :
    (history.run calls).2.entries.head? = history.entries.head? := by
  induction calls generalizing history with
  | nil => rfl
  | cons call calls ih =>
    obtain ⟨first, still⟩ := first_call unlimited (moves call List.mem_cons_self)
    rw [← first]
    exact ih still fun later member => moves later (List.mem_cons_of_mem _ member)

/-- The two histories stay in step as long as the limited one keeps up. -/
theorem shortened_run {full limited : History α} {zipper shorter : Zipper α} (shows : Shows full zipper)
    (shows' : Shows limited shorter) (shortened : Zipper.Shortened zipper shorter) {calls done : List (Call α)}
    (moves : ∀ call ∈ calls, call.setsLimit = false) (keepsUp : KeepsUp full limited calls) (starts : done <+: calls) :
    (shorter.run done).1 = (zipper.run done).1 ∧ Zipper.Shortened (zipper.run done).2 (shorter.run done).2 := by
  induction done using List.reverseRecOn with
  | nil => exact ⟨rfl, shortened⟩
  | append_singleton done call ih =>
    obtain ⟨replies, before⟩ := ih ((List.prefix_append ..).trans starts)
    have follows : call = .undo →
        (zipper.run done).2.undo.1.isSome = true → (shorter.run done).2.undo.1.isSome = true := by
      rintro rfl
      rw [← (shows.run done).2.undo.1, ← (shows'.run done).2.undo.1]
      exact keepsUp done starts
    obtain ⟨reply, after⟩ := before.call (moves call (starts.mem (by simp))) follows
    simp only [Zipper.run, replay_concat] at replies reply after ⊢
    exact ⟨by rw [replies, reply], after⟩

/-- A limit set at the start only shortens how far one can go back. Without one the first entry stays where it
is, and a limited history that never has to refuse a step back agrees with it on everything from its own
oldest entry on, at every point of a run. -/
theorem limit_only_shortens (initial : α) (limit : Nat) (calls : List (Call α))
    (moves : ∀ call ∈ calls, call.setsLimit = false) :
    (∀ done, done <+: calls → ((start initial).run done).2.entries.head? = some initial) ∧
      (KeepsUp (start initial) ((start initial).limitTo limit) calls → ∀ done, done <+: calls →
        (((start initial).limitTo limit).run done).1 = ((start initial).run done).1 ∧
          Matches ((start initial).run done).2 (((start initial).limitTo limit).run done).2) := by
  constructor
  · intro done starts
    exact first_run rfl fun call member => moves call (starts.mem member)
  · intro keepsUp done starts
    have full : Shows (start initial) (Zipper.start initial) := ⟨rfl, rfl, rfl⟩
    have limited := full.limitTo limit
    have shortened : Zipper.Shortened (Zipper.start initial) ((Zipper.start initial).limitTo limit) :=
      ⟨List.drop_suffix .., rfl, List.take_nil, rfl⟩
    obtain ⟨replies, after⟩ := shortened_run full limited shortened moves keepsUp starts
    obtain ⟨fullReplies, fullShows⟩ := full.run done
    obtain ⟨limitedReplies, limitedShows⟩ := limited.run done
    refine ⟨?_, matches_of_shortened fullShows limitedShows after⟩
    rw [fullReplies, limitedReplies, replies]

/-- One branch is given up for another, at whose last commit the limit drops the first entry. -/
theorem limit_only_shortens_three :
    let calls : List (Call Nat) := [.commit 1, .commit 2, .undo, .commit 3, .commit 4, .undo]
    let full := (start 0).run calls
    let limited := ((start 0).limitTo 3).run calls
    (∀ call ∈ calls, call.setsLimit = false) ∧ KeepsUp (start 0) ((start 0).limitTo 3) calls ∧
      full.2.entries = [0, 1, 3, 4] ∧ limited.2.entries = [1, 3, 4] ∧ full.2.entries.head? = some 0 ∧
      limited.1 = full.1 ∧ Matches full.2 limited.2 := by
  intro calls full limited
  have moves : ∀ call ∈ calls, call.setsLimit = false := by decide
  have keepsUp : KeepsUp (start 0) ((start 0).limitTo 3) calls := by
    have each : ∀ count < 7, ((start 0).run (calls.take count)).2.undo.1.isSome = true →
        (((start 0).limitTo 3).run (calls.take count)).2.undo.1.isSome = true := by decide
    intro done starts
    have early := (List.prefix_append done [.undo]).trans starts
    rw [List.prefix_iff_eq_take.mp early]
    exact each done.length (Nat.lt_succ_of_le early.length_le)
  obtain ⟨first, agrees⟩ := limit_only_shortens 0 3 calls moves
  obtain ⟨replies, same⟩ := agrees keepsUp calls (List.prefix_refl calls)
  exact ⟨moves, keepsUp, by decide, by decide, first calls (List.prefix_refl calls), replies, same⟩

end History

end PageEditor
