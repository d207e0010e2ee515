import Mathlib.Data.List.Chain
import PageEditor.Proofs.Names
import PageEditor.Proofs.OverlaidEntries
import PageEditor.Text.Cluster

/-!
Clusters cut a text into pieces: none of them is empty, and one behind the other they are the text. A character that
joins whatever is before it starts one only at the start of the text or behind a control. Controls have no case.
-/

namespace PageEditor.Text

section Joining

variable {last next : Joining} {pending : Pending}

theorem standsAlone_of_apart (joins : next.goesOn = true) (apart : joinsNext last pending next = false) :
    last.standsAlone = true := by
  cases alone : last.standsAlone with
  | true => rfl
  | false =>
    have other : next.standsAlone = false := by cases next <;> first | rfl | cases joins
    simp [joinsNext, alone, other, joins] at apart

/-- What stands alone is joined to nothing but a carriage return. -/
theorem standsAlone_of_joins (alone : next.standsAlone = true) (joins : joinsNext last pending next = true) :
    last.standsAlone = true := by
  simp only [joinsNext, alone, Bool.or_true, ite_true, Bool.and_eq_true, decide_eq_true_eq] at joins
  rw [joins.1]
  rfl

/-- Ordinary characters are joined neither to one another nor by what was pending before them. -/
theorem apart_of_other (pending : Pending) : joinsNext .other (pending.after .other) .other = false := rfl

end Joining

section Clusters

variable {pending : Pending} {text : List Char}

theorem clustersFrom_ne_nil (pending : Pending) (c : Char) (rest : List Char) :
    clustersFrom pending (c :: rest) ≠ [] := by
  rw [clustersFrom.eq_def]
  split
  · cases ‹_ :: _ = _›
  · simp only
    split
    · split <;> simp
    · simp

/-- A character starts a cluster, and goes on with the next one if that joins it. -/
theorem clustersFrom_cons (pending : Pending) (c : Char) (rest : List Char) :
    let onward := pending.after (joining c)
    (clustersFrom pending (c :: rest) = [c] :: clustersFrom onward rest ∧
        ∀ next ∈ rest.head?, joinsNext (joining c) onward (joining next) = false) ∨
      ∃ next more cluster others, rest = next :: more ∧ joinsNext (joining c) onward (joining next) = true ∧
        clustersFrom onward rest = cluster :: others ∧ clustersFrom pending (c :: rest) = (c :: cluster) :: others := by
  intro onward
  cases rest with
  | nil => exact .inl ⟨rfl, by simp⟩
  | cons next more =>
    obtain ⟨cluster, others, later⟩ := List.exists_cons_of_ne_nil (clustersFrom_ne_nil onward next more)
    rw [clustersFrom.eq_def]
    by_cases joins : joinsNext (joining c) onward (joining next) = true
    · exact .inr ⟨next, more, cluster, others, rfl, joins, later, by simp only [onward, later, joins, ite_true]⟩
    · rw [Bool.not_eq_true] at joins
      exact .inl ⟨by simp [onward, later, joins], by simpa using joins⟩

/-- Every character is in one cluster, in order. -/
theorem flatten_clustersFrom (pending : Pending) (text : List Char) : (clustersFrom pending text).flatten = text := by
  induction text generalizing pending with
  | nil => rfl
  | cons c rest ih =>
    rcases clustersFrom_cons pending c rest with ⟨split, _⟩ | ⟨_, _, cluster, others, _, _, later, split⟩
    · rw [split, List.flatten_cons, ih, List.singleton_append]
    · have whole := ih (pending.after (joining c))
      rw [later, List.flatten_cons] at whole
      rw [split, List.flatten_cons, List.cons_append, whole]

theorem nil_notMem_clustersFrom (pending : Pending) (text : List Char) : [] ∉ clustersFrom pending text := by
  induction text generalizing pending with
  | nil => simp [clustersFrom]
  | cons c rest ih =>
    have filled := ih (pending.after (joining c))
    rcases clustersFrom_cons pending c rest with ⟨split, _⟩ | ⟨_, _, cluster, others, _, _, later, split⟩
    · simp [split, filled]
    · rw [later, List.mem_cons, not_or] at filled
      simp [split, filled.2]

theorem head_of_clustersFrom {cluster : Cluster} {others : List Cluster}
    (split : clustersFrom pending text = cluster :: others) : cluster.head? = text.head? := by
  have filled := nil_notMem_clustersFrom pending text
  rw [split, List.mem_cons, not_or] at filled
  obtain ⟨c, rest, rfl⟩ := List.exists_cons_of_ne_nil (Ne.symm filled.1)
  rw [← flatten_clustersFrom pending text, split, List.flatten_cons]
  rfl

/-- If the second of two clusters starts with a character that joins what is before it, the first one has only
characters that stand alone. -/
def Parted (earlier later : Cluster) : Prop :=
  ∀ c ∈ later.head?, (joining c).goesOn = true → ∀ d ∈ earlier, (joining d).standsAlone = true

theorem parted_clustersFrom (pending : Pending) (text : List Char) :
    (clustersFrom pending text).IsChain Parted := by
  induction text generalizing pending with
  | nil => exact .nil
  | cons c rest ih =>
    have chain := ih (pending.after (joining c))
    rcases clustersFrom_cons pending c rest with ⟨split, apart⟩ | ⟨next, more, cluster, others, rfl, joins, later, split⟩
    · rw [split]
      refine .cons chain ?_
      intro first starts e goesOn joined d single
      obtain rfl := List.mem_singleton.mp single
      obtain ⟨others, whole⟩ := List.head?_eq_some_iff.mp starts
      rw [head_of_clustersFrom whole] at goesOn
      exact standsAlone_of_apart joined (apart e goesOn)
    · rw [later] at chain
      rw [split]
      -- The first cluster only grows at its front, by a character that its first one joins.
      cases others with
      | nil => exact .singleton _
      | cons second others =>
        obtain ⟨parted, behind⟩ := List.isChain_cons_cons.mp chain
        refine List.isChain_cons_cons.mpr ⟨?_, behind⟩
        intro e goesOn joined
        have alone := parted e goesOn joined
        have first : cluster.head? = some next := head_of_clustersFrom later
        have nextAlone := alone next (List.mem_of_mem_head? first)
        exact List.forall_mem_cons.mpr ⟨standsAlone_of_joins nextAlone joins, alone⟩

end Clusters

section Controls

/-- Whether neither a run nor a sequence changes any of the codes. -/
def fixes (runs : List CaseRun) (sequences : List (Nat × List Nat)) (range : Nat × Nat) : Bool :=
  runs.all (fun run => Nat.blt run.last range.1 || Nat.blt range.2 run.first) &&
    sequences.all fun entry => Nat.blt entry.1 range.1 || Nat.blt range.2 entry.1

theorem fixes_upper : (controlRanges.all fun range => fixes upperRuns upperSequences range) = true := by decide +kernel

theorem fixes_lower : (controlRanges.all fun range => fixes lowerRuns lowerSequences range) = true := by decide +kernel

theorem mapCode_of_fixes {runs : List CaseRun} {sequences : List (Nat × List Nat)} {range : Nat × Nat} {code : Nat}
    (low : range.1 ≤ code) (high : code ≤ range.2) (fixed : fixes runs sequences range = true) :
    mapCode runs sequences code = [code] := by
  obtain ⟨still, alone⟩ := Bool.and_eq_true_iff.mp fixed
  unfold mapCode
  split
  next codes found =>
    have apart := List.all_eq_true.mp alone _ (Entries.mem_of_lookup found)
    simp only [Bool.or_eq_true, Nat.blt_eq] at apart
    omega
  next =>
    have missed : (runs.findSome? fun run => run.apply? code) = none := by
      rw [List.findSome?_eq_none_iff]
      intro run listed
      have apart := List.all_eq_true.mp still run listed
      simp only [Bool.or_eq_true, Nat.blt_eq] at apart
      have outside : ¬ (run.first ≤ code ∧ code ≤ run.last) := by omega
      unfold CaseRun.apply?
      simp [outside]
    rw [missed, Option.getD_none]

theorem exists_controlRange {c : Char} (alone : (joining c).standsAlone = true) :
    c = '\r' ∨ c = '\n' ∨ inRanges controlRanges c = true := by
  by_cases carriageReturn : c = '\r'
  · exact .inl carriageReturn
  by_cases lineFeed : c = '\n'
  · exact .inr (.inl lineFeed)
  by_cases control : inRanges controlRanges c = true
  · exact .inr (.inr control)
  have joined : (joining c).standsAlone = false := by
    simp only [joining, carriageReturn, lineFeed, control, Bool.false_eq_true, ite_false,
      apply_ite Joining.standsAlone]
    simp only [Joining.standsAlone, ite_self]
  rw [joined] at alone
  cases alone

/-- A control has no case and is no digit. -/
theorem control_fixed {c : Char} (alone : (joining c).standsAlone = true) :
    upper c = [c] ∧ lower c = [c] ∧ c.isDigit = false := by
  by_cases small : c.toNat < 0x80
  · have table : ∀ code : Fin 128, (joining (Char.ofNat code)).standsAlone = true →
        (Char.ofNat code).toUpper = Char.ofNat code ∧ (Char.ofNat code).toLower = Char.ofNat code ∧
          (Char.ofNat code).isDigit = false := by decide +kernel
    obtain ⟨raised, lowered, digit⟩ := Generate.of_ascii (P := fun c => (joining c).standsAlone = true →
      c.toUpper = c ∧ c.toLower = c ∧ c.isDigit = false) table small alone
    exact ⟨by rw [upper, if_pos small, raised], by rw [lower, if_pos small, lowered], digit⟩
  · have digit : c.isDigit = false := by
      rw [Bool.eq_false_iff]
      intro digit
      have bounds := Generate.toNat_of_isDigit digit
      omega
    rcases exists_controlRange alone with rfl | rfl | inside
    · exact absurd (by decide) small
    · exact absurd (by decide) small
    · obtain ⟨range, listed, bounds⟩ := List.any_eq_true.mp inside
      simp only [Bool.and_eq_true, decide_eq_true_eq] at bounds
      have raised := mapCode_of_fixes bounds.1 bounds.2 (List.all_eq_true.mp fixes_upper range listed)
      have lowered := mapCode_of_fixes bounds.1 bounds.2 (List.all_eq_true.mp fixes_lower range listed)
      exact ⟨by simp [upper, small, raised], by simp [lower, small, lowered], digit⟩

theorem lowerAfter_of_standsAlone (before : List Char) {text : List Char}
    (alone : ∀ c ∈ text, (joining c).standsAlone = true) : lowerAfter before text = text := by
  induction text generalizing before with
  | nil => rfl
  | cons c rest ih =>
    obtain ⟨own, others⟩ := List.forall_mem_cons.mp alone
    have ordinary : c ≠ capitalSigma := by
      rintro rfl
      revert own
      decide +kernel
    rw [lowerAfter, if_neg fun sigma => ordinary sigma.1, (control_fixed own).2.1, ih _ others, List.singleton_append]

end Controls

end PageEditor.Text
