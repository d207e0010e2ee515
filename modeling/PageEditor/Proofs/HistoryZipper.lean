import PageEditor.Editing.History

/-!
A history seen as a zipper: the entries behind the current one, the current one, and those ahead of
it. The cursor of the log is then a position nobody has to compute, and a limit forgets entries at the
two far ends. Calls in any order answer alike on both and leave the two showing the same.
-/

namespace PageEditor

namespace History

variable {α σ τ : Type}

inductive Call (α : Type) where
  | commit (entry : α)
  | undo
  | redo
  | limitTo (limit : Nat)

/-- What a call has to say. A move says which entry it went to, if it went anywhere. -/
inductive Reply (α : Type) where
  | done
  | moved (entry : Option α)

def replay (step : σ → Call α → Reply α × σ) (state : σ) : List (Call α) → List (Reply α) × σ
  | [] => ([], state)
  | call :: calls =>
    let (reply, next) := step state call
    let (replies, last) := replay step next calls
    (reply :: replies, last)

/-- States that answer every call alike, and remain related by it, answer every run alike. -/
theorem replay_related {first : σ → Call α → Reply α × σ} {second : τ → Call α → Reply α × τ}
    {related : σ → τ → Prop}
    (steps : ∀ left right call, related left right →
      (first left call).1 = (second right call).1 ∧ related (first left call).2 (second right call).2)
    {left : σ} {right : τ} (start : related left right) (calls : List (Call α)) :
    (replay first left calls).1 = (replay second right calls).1 ∧
      related (replay first left calls).2 (replay second right calls).2 := by
  induction calls generalizing left right with
  | nil => exact ⟨rfl, start⟩
  | cons call calls ih =>
    obtain ⟨sameReply, next⟩ := steps left right call start
    obtain ⟨sameReplies, last⟩ := ih next
    exact ⟨congr (congrArg List.cons sameReply) sameReplies, last⟩

def call (history : History α) : Call α → Reply α × History α
  | .commit entry => (.done, history.commit entry)
  | .undo => history.undo.map .moved id
  | .redo => history.redo.map .moved id
  | .limitTo limit => (.done, history.limitTo limit)

def run (history : History α) (calls : List (Call α)) : List (Reply α) × History α :=
  replay call history calls

end History

/-- Past entries are listed from the oldest on, future ones from the next on. -/
structure Zipper (α : Type) where
  past : List α
  current : α
  future : List α
  limit : Option Nat

namespace Zipper

variable {α : Type}

def start (initial : α) : Zipper α := ⟨[], initial, [], none⟩

def entries (zipper : Zipper α) : List α := zipper.past ++ [zipper.current] ++ zipper.future

def surplus (zipper : Zipper α) : Nat :=
  match zipper.limit with
  | none => 0
  | some limit => zipper.entries.length - limit

def forgetPast (zipper : Zipper α) : Zipper α :=
  { zipper with past := zipper.past.drop zipper.surplus }

def forgetFuture (zipper : Zipper α) : Zipper α :=
  { zipper with future := zipper.future.take (zipper.future.length - zipper.surplus) }

def commit (zipper : Zipper α) (entry : α) : Zipper α :=
  forgetPast { zipper with past := zipper.past ++ [zipper.current], current := entry, future := [] }

def limitTo (zipper : Zipper α) (limit : Nat) : Zipper α :=
  forgetFuture (forgetPast { zipper with limit := some (max limit 1) })

def undo (zipper : Zipper α) : Option α × Zipper α :=
  match zipper.past.getLast? with
  | none => (none, zipper)
  | some previous =>
    (some previous,
      { zipper with past := zipper.past.dropLast, current := previous, future := zipper.current :: zipper.future })

def redo (zipper : Zipper α) : Option α × Zipper α :=
  match zipper.future with
  | [] => (none, zipper)
  | next :: later =>
    (some next, { zipper with past := zipper.past ++ [zipper.current], current := next, future := later })

def call (zipper : Zipper α) : History.Call α → History.Reply α × Zipper α
  | .commit entry => (.done, zipper.commit entry)
  | .undo => zipper.undo.map .moved id
  | .redo => zipper.redo.map .moved id
  | .limitTo limit => (.done, zipper.limitTo limit)

def run (zipper : Zipper α) (calls : List (History.Call α)) : List (History.Reply α) × Zipper α :=
  History.replay call zipper calls

theorem length_entries (zipper : Zipper α) :
    zipper.entries.length = zipper.past.length + 1 + zipper.future.length := by
  simp [entries]
  omega

theorem forgetFuture_forgetPast_of_some {zipper : Zipper α} {limit : Nat} (limited : zipper.limit = some limit) :
    zipper.forgetPast.forgetFuture =
      { zipper with
        past := zipper.past.drop (zipper.entries.length - limit)
        future := zipper.future.take
          (zipper.future.length - (zipper.entries.length - limit - zipper.past.length)) } := by
  have left := length_entries zipper.forgetPast
  simp only [forgetPast, surplus, limited, List.length_drop] at left ⊢
  simp only [forgetFuture, surplus, left]
  congr 2
  rw [length_entries]
  omega

end Zipper

namespace History

variable {α : Type}

/-- The log is what the zipper lists, with the cursor on its current entry. -/
structure Shows (history : History α) (zipper : Zipper α) : Prop where
  entries : history.entries = zipper.entries
  cursor : history.cursor = zipper.past.length
  limit : history.limit = zipper.limit

def Bounded (history : History α) : Prop := ∀ limit ∈ history.limit, history.entries.length ≤ limit

theorem current_of_getElem? {history : History α} {entry : α}
    (found : history.entries[history.cursor]? = some entry) : history.current = entry := by
  obtain ⟨_, same⟩ := List.getElem?_eq_some_iff.mp found
  exact same

theorem Shows.getElem?_cursor {history : History α} {zipper : Zipper α} (shows : Shows history zipper) :
    history.entries[history.cursor]? = some zipper.current := by
  rw [shows.entries, shows.cursor]
  simp [Zipper.entries]

theorem Shows.take_cursor {history : History α} {zipper : Zipper α} (shows : Shows history zipper) :
    history.entries.take (history.cursor + 1) = zipper.past ++ [zipper.current] := by
  rw [shows.entries, shows.cursor, Zipper.entries]
  apply List.take_left'
  simp

theorem Shows.current {history : History α} {zipper : Zipper α} (shows : Shows history zipper) :
    history.current = zipper.current := current_of_getElem? shows.getElem?_cursor

private theorem window (past future : List α) (entry : α) (surplus : Nat)
    (inside : surplus ≤ past.length + future.length) :
    ((past ++ [entry] ++ future).drop (min surplus past.length)).take (past.length + 1 + future.length - surplus) =
      past.drop surplus ++ [entry] ++ future.take (future.length - (surplus - past.length)) := by
  rw [List.append_assoc, List.drop_append_of_le_length (Nat.min_le_right ..)]
  rcases Nat.le_total surplus past.length with behind | ahead
  · rw [Nat.min_eq_left behind, Nat.sub_eq_zero_of_le behind, Nat.sub_zero, List.take_length, List.append_assoc]
    apply List.take_of_length_le
    simp only [List.length_append, List.length_drop, List.length_singleton]
    omega
  · have kept : past.length + 1 + future.length - surplus = future.length - (surplus - past.length) + 1 := by omega
    rw [Nat.min_eq_right ahead, List.drop_length, List.drop_eq_nil_of_le ahead, kept]
    rfl

theorem trim_of_none {history : History α} (unlimited : history.limit = none) : history.trim = history := by
  unfold trim
  split
  · rfl
  next limit limited => simp [unlimited] at limited

theorem trim_of_some {history : History α} {limit : Nat} (limited : history.limit = some limit) :
    history.trim.entries =
        (history.entries.drop (min (history.entries.length - limit) history.cursor)).take
          (history.entries.length - (history.entries.length - limit)) ∧
      history.trim.cursor = history.cursor - min (history.entries.length - limit) history.cursor ∧
      history.trim.limit = history.limit := by
  unfold trim
  split
  next unlimited => simp [limited] at unlimited
  next bound bounded =>
    obtain rfl := Option.some.inj (limited.symm.trans bounded)
    exact ⟨rfl, rfl, rfl⟩

theorem trim_bounded (history : History α) : Bounded history.trim := by
  intro limit limited
  cases chosen : history.limit with
  | none =>
    rw [trim_of_none chosen, chosen] at limited
    cases limited
  | some bound =>
    obtain ⟨entries, _, kept⟩ := trim_of_some chosen
    obtain rfl := Option.some.inj (chosen.symm.trans (kept.symm.trans limited))
    rw [entries, List.length_take]
    omega

/-- The cut a limit makes in the log, seen on the zipper. -/
theorem Shows.trim {history : History α} {zipper : Zipper α} (shows : Shows history zipper) :
    Shows history.trim zipper.forgetPast.forgetFuture := by
  cases limited : history.limit with
  | none =>
    have unlimited : zipper.surplus = 0 := by simp [Zipper.surplus, ← shows.limit, limited]
    have same : zipper.forgetPast.forgetFuture = zipper := by
      have past : zipper.forgetPast = zipper := by simp [Zipper.forgetPast, unlimited]
      simp [past, Zipper.forgetFuture, unlimited]
    rw [trim_of_none limited, same]
    exact shows
  | some limit =>
    obtain ⟨entries, cursor, kept⟩ := trim_of_some limited
    rw [Zipper.forgetFuture_forgetPast_of_some (shows.limit.symm.trans limited)]
    have length := zipper.length_entries
    rw [shows.entries, shows.cursor] at entries cursor
    refine ⟨?_, ?_, kept.trans shows.limit⟩
    · have positive := history.limit_pos limit limited
      rw [entries, length]
      apply window
      omega
    · rw [cursor, List.length_drop]
      omega

theorem Shows.commit {history : History α} {zipper : Zipper α} (shows : Shows history zipper) (entry : α) :
    Shows (history.commit entry) (zipper.commit entry) := by
  let pushed : Zipper α := { zipper with past := zipper.past ++ [zipper.current], current := entry, future := [] }
  have nothingAhead : pushed.forgetPast.forgetFuture = pushed.forgetPast := by
    simp [pushed, Zipper.forgetFuture, Zipper.forgetPast]
  change Shows _ pushed.forgetPast
  rw [← nothingAhead]
  apply Shows.trim
  constructor
  · simp [shows.take_cursor, pushed, Zipper.entries]
  · simp [pushed, shows.cursor]
  · exact shows.limit

theorem Shows.limitTo {history : History α} {zipper : Zipper α} (shows : Shows history zipper) (limit : Nat) :
    Shows (history.limitTo limit) (zipper.limitTo limit) := by
  apply Shows.trim
  exact ⟨shows.entries, shows.cursor, rfl⟩

theorem Shows.undo {history : History α} {zipper : Zipper α} (shows : Shows history zipper) :
    history.undo.1 = zipper.undo.1 ∧ Shows history.undo.2 zipper.undo.2 := by
  obtain ⟨past, current, future, limit⟩ := zipper
  rcases List.eq_nil_or_concat past with rfl | ⟨older, previous, rfl⟩
  · have oldest : ¬ 0 < history.cursor := by simp [shows.cursor]
    rw [History.undo, if_neg oldest]
    exact ⟨rfl, shows⟩
  · have behind : 0 < history.cursor := by simp [shows.cursor]
    have back : Shows history.undo.2 ⟨older, previous, current :: future, limit⟩ := by
      rw [History.undo, if_pos behind]
      refine ⟨?_, ?_, shows.limit⟩
      · simp [shows.entries, Zipper.entries]
      · simp [shows.cursor]
    have answer : history.undo.1 = some history.undo.2.current := by rw [History.undo, if_pos behind]
    rw [answer, back.current]
    simp only [Zipper.undo, List.concat_eq_append, List.getLast?_concat, List.dropLast_concat]
    exact ⟨trivial, back⟩

theorem Shows.redo {history : History α} {zipper : Zipper α} (shows : Shows history zipper) :
    history.redo.1 = zipper.redo.1 ∧ Shows history.redo.2 zipper.redo.2 := by
  have length := zipper.length_entries
  rw [← shows.entries, ← shows.cursor] at length
  obtain ⟨past, current, future, limit⟩ := zipper
  cases future with
  | nil =>
    have newest : ¬ history.cursor + 1 < history.entries.length := by simp [length]
    rw [History.redo, dif_neg newest]
    exact ⟨rfl, shows⟩
  | cons next later =>
    have ahead : history.cursor + 1 < history.entries.length := by simp [length]
    have forth : Shows history.redo.2 ⟨past ++ [current], next, later, limit⟩ := by
      rw [History.redo, dif_pos ahead]
      refine ⟨?_, ?_, shows.limit⟩
      · simp [shows.entries, Zipper.entries]
      · simp [shows.cursor]
    have answer : history.redo.1 = some history.redo.2.current := by rw [History.redo, dif_pos ahead]
    rw [answer, forth.current]
    exact ⟨rfl, forth⟩

theorem Shows.call {history : History α} {zipper : Zipper α} (shows : Shows history zipper) (call : Call α) :
    (history.call call).1 = (zipper.call call).1 ∧ Shows (history.call call).2 (zipper.call call).2 := by
  cases call with
  | commit entry => exact ⟨rfl, shows.commit entry⟩
  | undo => exact ⟨congrArg Reply.moved shows.undo.1, shows.undo.2⟩
  | redo => exact ⟨congrArg Reply.moved shows.redo.1, shows.redo.2⟩
  | limitTo limit => exact ⟨rfl, shows.limitTo limit⟩

/-- Moving along the log changes neither the log nor its limit. -/
theorem call_bounded {history : History α} (bounded : Bounded history) (call : Call α) :
    Bounded (history.call call).2 := by
  cases call with
  | commit entry => exact trim_bounded _
  | undo =>
    simp only [History.call, History.undo]
    split <;> exact bounded
  | redo =>
    simp only [History.call, History.redo]
    split <;> exact bounded
  | limitTo limit => exact trim_bounded _

/-- What a history and the zipper it refines have in common. -/
structure Agrees (history : History α) (zipper : Zipper α) : Prop where
  entries : history.entries = zipper.past ++ [zipper.current] ++ zipper.future
  cursor : history.cursor = zipper.past.length
  inside : history.cursor < history.entries.length
  found : history.entries[history.cursor]? = some zipper.current
  current : history.current = zipper.current
  canUndo : history.canUndo = true ↔ zipper.past ≠ []
  canRedo : history.canRedo = true ↔ zipper.future ≠ []
  limit : history.limit = zipper.limit
  nonempty : 1 ≤ history.entries.length
  bounded : ∀ limit ∈ history.limit, history.entries.length ≤ limit

theorem Shows.agrees {history : History α} {zipper : Zipper α} (shows : Shows history zipper)
    (bounded : Bounded history) : Agrees history zipper where
  entries := shows.entries
  cursor := shows.cursor
  inside := history.cursor_lt
  found := shows.getElem?_cursor
  current := shows.current
  canUndo := by simp [canUndo, shows.cursor, List.length_pos_iff]
  canRedo := by
    simp only [canRedo, shows.cursor, shows.entries, zipper.length_entries, decide_eq_true_eq, ← List.length_pos_iff]
    omega
  limit := shows.limit
  nonempty := Nat.zero_lt_of_lt history.cursor_lt
  bounded := bounded

/-- Whatever the calls, a history answers like the zipper and ends up showing what the zipper holds. -/
theorem run_refines_zipper (initial : α) (calls : List (Call α)) :
    ((start initial).run calls).1 = ((Zipper.start initial).run calls).1 ∧
      Agrees ((start initial).run calls).2 ((Zipper.start initial).run calls).2 := by
  have steps (history : History α) (zipper : Zipper α) (call : Call α) (held : Shows history zipper ∧ Bounded history) :
      (history.call call).1 = (zipper.call call).1 ∧
        Shows (history.call call).2 (zipper.call call).2 ∧ Bounded (history.call call).2 := by
    obtain ⟨reply, next⟩ := held.1.call call
    exact ⟨reply, next, call_bounded held.2 call⟩
  have started : Shows (start initial) (Zipper.start initial) := ⟨rfl, rfl, rfl⟩
  obtain ⟨replies, shows, bounded⟩ := replay_related steps ⟨started, nofun⟩ calls
  exact ⟨replies, shows.agrees bounded⟩

end History

end PageEditor
