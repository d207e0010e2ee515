/-!
Undo and redo over a log of snapshots with a cursor on the current one. Undo and redo only move the
cursor; a commit drops what lies ahead of it. A limit on the number of entries drops the oldest ones
first and then the far end of what could be redone, never the current one.
-/

namespace PageEditor

structure History (α : Type) where
  entries : List α
  cursor : Nat
  limit : Option Nat
  cursor_lt : cursor < entries.length
  limit_pos : ∀ bound ∈ limit, 0 < bound

namespace History

variable {α : Type}

def start (initial : α) : History α := ⟨[initial], 0, none, Nat.zero_lt_one, nofun⟩

def current (history : History α) : α := history.entries.get ⟨history.cursor, history.cursor_lt⟩

def canUndo (history : History α) : Bool := 0 < history.cursor

def canRedo (history : History α) : Bool := history.cursor + 1 < history.entries.length

/-- Cuts the log down to its limit. -/
def trim (history : History α) : History α :=
  match bounded : history.limit with
  | none => history
  | some limit =>
    let excess := history.entries.length - limit
    let behind := min excess history.cursor
    { entries := (history.entries.drop behind).take (history.entries.length - excess)
      cursor := history.cursor - behind
      limit := history.limit
      cursor_lt := by
        have positive := history.limit_pos limit bounded
        have inside := history.cursor_lt
        simp only [List.length_take, List.length_drop]
        omega
      limit_pos := history.limit_pos }

/-- A limit of zero counts as one. -/
def limitTo (history : History α) (limit : Nat) : History α :=
  trim
    { history with
      limit := some (max limit 1)
      limit_pos := by
        intro bound chosen
        obtain rfl := Option.some.inj chosen
        exact Nat.lt_of_lt_of_le Nat.zero_lt_one (Nat.le_max_right limit 1) }

def commit (history : History α) (entry : α) : History α :=
  trim
    { history with
      entries := history.entries.take (history.cursor + 1) ++ [entry]
      cursor := history.cursor + 1
      cursor_lt := by
        have inside := history.cursor_lt
        simp only [List.length_append, List.length_take, List.length_singleton]
        omega }

/-- Goes back one entry and answers it, unless the current one is the oldest. -/
def undo (history : History α) : Option α × History α :=
  if 0 < history.cursor then
    let moved : History α :=
      { history with
        cursor := history.cursor - 1
        cursor_lt := Nat.lt_of_le_of_lt (Nat.sub_le ..) history.cursor_lt }
    (some moved.current, moved)
  else (none, history)

/-- Goes forth one entry and answers it, unless the current one is the newest. -/
def redo (history : History α) : Option α × History α :=
  if inside : history.cursor + 1 < history.entries.length then
    let moved : History α := { history with cursor := history.cursor + 1, cursor_lt := inside }
    (some moved.current, moved)
  else (none, history)

end History

end PageEditor
