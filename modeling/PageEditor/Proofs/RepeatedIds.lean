import Mathlib.Data.List.Forall2
import Mathlib.Data.List.Nodup
import PageEditor.Forest

/-!
Repeated ids. The search keeps the ids it has met and those it has reported, and reports an id where it meets it
for the second time: not before, because it has not met it, and not again, because it has reported it.
-/

namespace PageEditor.Forest

/-- What is kept of the ids met so far. -/
structure Noted (met seen reported : List ComponentId) : Prop where
  seen : ∀ id, id ∈ seen ↔ id ∈ met
  reported : ∀ id, id ∈ reported ↔ 2 ≤ met.count id

/-- The id stands at the position, and once before it. -/
def IsSecond (ids : List ComponentId) (id : ComponentId) (position : Nat) : Prop :=
  ids[position]? = some id ∧ (ids.take position).count id = 1

section Search

variable {met seen reported : List ComponentId} {id : ComponentId}

theorem Noted.initial : Noted [] [] [] := ⟨fun _ => Iff.rfl, by simp⟩

theorem Noted.due_iff (noted : Noted met seen reported) : id ∈ seen ∧ id ∉ reported ↔ met.count id = 1 := by
  rw [noted.seen, noted.reported, ← List.count_pos_iff]
  omega

theorem Noted.report (noted : Noted met seen reported) (due : met.count id = 1) :
    Noted (met ++ [id]) seen (id :: reported) where
  seen other := by
    have known : id ∈ met := List.count_pos_iff.mp (by omega)
    rw [noted.seen, List.mem_append, List.mem_singleton]
    grind
  reported other := by
    rw [List.mem_cons, noted.reported, List.count_append, List.count_singleton]
    grind

theorem Noted.keep (noted : Noted met seen reported) (idle : met.count id ≠ 1) :
    Noted (met ++ [id]) (id :: seen) reported where
  seen other := by
    rw [List.mem_cons, noted.seen, List.mem_append, List.mem_singleton, or_comm]
  reported other := by
    rw [noted.reported, List.count_append, List.count_singleton]
    grind

theorem repeated_report (noted : Noted met seen reported) (due : met.count id = 1) (rest : List ComponentId) :
    repeated seen reported (id :: rest) = id :: repeated seen (id :: reported) rest :=
  if_pos (noted.due_iff.mpr due)

theorem repeated_keep (noted : Noted met seen reported) (idle : met.count id ≠ 1) (rest : List ComponentId) :
    repeated seen reported (id :: rest) = repeated (id :: seen) reported rest :=
  if_neg (mt noted.due_iff.mp idle)

theorem isSecond_here (due : met.count id = 1) (rest : List ComponentId) :
    IsSecond (met ++ id :: rest) id met.length := by
  refine ⟨by simp, ?_⟩
  rw [List.take_left, due]

/-- Each id that is reported stands at a position of its own, in order. -/
theorem exists_seconds (noted : Noted met seen reported) (rest : List ComponentId) :
    ∃ positions : List Nat, positions.Pairwise (· < ·) ∧ (∀ position ∈ positions, met.length ≤ position) ∧
      List.Forall₂ (IsSecond (met ++ rest)) (repeated seen reported rest) positions := by
  induction rest generalizing met seen reported with
  | nil => exact ⟨[], .nil, List.forall_mem_nil _, .nil⟩
  | cons id rest ih =>
    by_cases due : met.count id = 1
    · obtain ⟨positions, ordered, later, seconds⟩ := ih (noted.report due)
      rw [List.append_cons, repeated_report noted due]
      have apart : ∀ position ∈ positions, met.length < position := by
        intro position member
        have bound := later position member
        rwa [List.length_append] at bound
      refine ⟨met.length :: positions, List.pairwise_cons.mpr ⟨apart, ordered⟩, ?_, .cons ?_ seconds⟩
      · exact List.forall_mem_cons.mpr ⟨Nat.le_refl _, fun position member => Nat.le_of_lt (apart position member)⟩
      · rw [← List.append_cons]
        exact isSecond_here due rest
    · obtain ⟨positions, ordered, later, seconds⟩ := ih (noted.keep due)
      rw [List.append_cons, repeated_keep noted due]
      refine ⟨positions, ordered, ?_, seconds⟩
      intro position member
      have bound := later position member
      rw [List.length_append] at bound
      omega

/-- Reported are the ids that have not been repeated before and are then. -/
theorem mem_repeated_iff (noted : Noted met seen reported) (rest : List ComponentId) :
    id ∈ repeated seen reported rest ↔ met.count id < 2 ∧ 2 ≤ (met ++ rest).count id := by
  induction rest generalizing met seen reported with
  | nil =>
    rw [repeated, List.append_nil]
    simp
  | cons next rest ih =>
    have here : (met ++ [next]).count id = met.count id + if next = id then 1 else 0 := by
      rw [List.count_append, List.count_singleton]
      simp
    by_cases due : met.count next = 1
    · rw [repeated_report noted due, List.mem_cons, ih (noted.report due), ← List.append_cons, here]
      have total : (met ++ next :: rest).count id = met.count id + rest.count id + if next = id then 1 else 0 := by
        rw [List.count_append, List.count_cons]
        simp only [beq_iff_eq]
        omega
      grind
    · rw [repeated_keep noted due, ih (noted.keep due), ← List.append_cons, here]
      grind

theorem nodup_repeated (noted : Noted met seen reported) (rest : List ComponentId) :
    (repeated seen reported rest).Nodup := by
  induction rest generalizing met seen reported with
  | nil => exact .nil
  | cons next rest ih =>
    by_cases due : met.count next = 1
    · rw [repeated_report noted due, List.nodup_cons, mem_repeated_iff (noted.report due), List.count_append, due]
      refine ⟨?_, ih (noted.report due)⟩
      simp
    · rw [repeated_keep noted due]
      exact ih (noted.keep due)

end Search

theorem mem_repeatedIds_iff {id : ComponentId} {forest : Forest} :
    id ∈ repeatedIds forest ↔ 2 ≤ (ids forest).count id := by
  rw [repeatedIds, mem_repeated_iff .initial]
  simp

theorem repeatedIds_eq_nil_iff {forest : Forest} : repeatedIds forest = [] ↔ (ids forest).Nodup := by
  rw [List.eq_nil_iff_forall_not_mem, List.nodup_iff_count_le_one]
  simp only [mem_repeatedIds_iff]
  grind

/-- The ids reported are those of at least two components, each of them once and in the order in which the walk
meets them for the second time. -/
theorem repeatedIds_exact (forest : Forest) :
    (repeatedIds forest).Nodup ∧
      (∀ id, id ∈ repeatedIds forest ↔ 2 ≤ (ids forest).count id) ∧
      (∃ positions : List Nat, positions.Pairwise (· < ·) ∧
        List.Forall₂ (IsSecond (ids forest)) (repeatedIds forest) positions) ∧
      (repeatedIds forest = [] ↔ (ids forest).Nodup) := by
  obtain ⟨positions, ordered, _, seconds⟩ := exists_seconds .initial (ids forest)
  exact ⟨nodup_repeated .initial (ids forest), fun _ => mem_repeatedIds_iff, ⟨positions, ordered, seconds⟩,
    repeatedIds_eq_nil_iff⟩

end PageEditor.Forest
