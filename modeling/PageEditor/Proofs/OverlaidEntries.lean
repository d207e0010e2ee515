import PageEditor.Dict

/-!
What laying one ordered dictionary over another makes of it. Every entry of the dictionary below stays in
its place, with the value from above if there is one, and the entries whose keys are new follow in the
order from above. A dictionary is told by its keys in order and by what it has for each of them, so laying
three of them over one another gives the same whichever two are put together first.
-/

namespace PageEditor

namespace Entries

variable {α : Type} {key : String} {value : α} {entries added : List (String × α)}

/-- The entries with those of `added` on top. -/
def overlay (entries added : List (String × α)) : List (String × α) :=
  entries.map (fun entry => (entry.1, (added.lookup entry.1).getD entry.2))
    ++ added.filter fun entry => entry.1 ∉ keys entries

section Lookup

variable {κ : Type} [BEq κ] [LawfulBEq κ] {key other : κ} {entries : List (κ × α)}

theorem lookup_eq_none (absent : key ∉ entries.map Prod.fst) : entries.lookup key = none := by
  rw [List.lookup_eq_none_iff]
  intro entry member
  rw [bne_iff_ne]
  rintro rfl
  exact absent (List.mem_map_of_mem member)

theorem lookup_cons_of_ne (different : other ≠ key) : ((key, value) :: entries).lookup other = entries.lookup other := by
  rw [List.lookup_cons, beq_eq_false_iff_ne.mpr different]

theorem mem_of_lookup (found : entries.lookup key = some value) : (key, value) ∈ entries := by
  obtain ⟨before, after, rfl, _⟩ := List.lookup_eq_some_iff.mp found
  exact List.mem_append_right before (List.mem_cons_self ..)

end Lookup

/-- Setting a key that is there changes the one entry that has it. -/
theorem set_of_mem (distinct : (keys entries).Nodup) (present : key ∈ keys entries) :
    set key value entries = entries.map fun entry => (entry.1, if entry.1 = key then value else entry.2) := by
  induction entries with
  | nil => cases present
  | cons entry rest ih =>
    obtain ⟨other, current⟩ := entry
    obtain ⟨first, later⟩ := List.nodup_cons.mp distinct
    by_cases same : other = key
    · have untouched : rest.map (fun entry => (entry.1, if entry.1 = key then value else entry.2)) = rest := by
        refine (List.map_congr_left ?_).trans (List.map_id rest)
        rintro ⟨third, kept⟩ member
        have different : third ≠ key := by
          rintro rfl
          exact first (List.mem_map.mpr ⟨_, member, same.symm⟩)
        rw [if_neg different, id]
      rw [set, if_pos same, List.map_cons, if_pos same, untouched]
    · have behind : key ∈ keys rest := (List.mem_cons.mp present).resolve_left fun equal => same equal.symm
      rw [set, if_neg same, ih later behind, List.map_cons, if_neg same]

/-- A key that is set first can as well be laid on top with the others. -/
theorem overlay_set (distinct : (keys entries).Nodup) (fresh : key ∉ keys added) :
    overlay (set key value entries) added = overlay entries ((key, value) :: added) := by
  have missing : added.lookup key = none := lookup_eq_none fresh
  by_cases present : key ∈ keys entries
  · have covered : keys (set key value entries) = keys entries := by rw [keys_set, if_pos present]
    rw [overlay, overlay, covered, set_of_mem distinct present, List.map_map,
      List.filter_cons_of_neg (by simpa using present)]
    congr 1
    apply List.map_congr_left
    rintro ⟨other, current⟩ _
    by_cases same : other = key
    · simp [same, missing]
    · simp [same, lookup_cons_of_ne same]
  · have extended : keys (set key value entries) = keys entries ++ [key] := by rw [keys_set, if_neg present]
    have others : added.filter (fun entry => entry.1 ∉ keys entries ++ [key]) =
        added.filter fun entry => entry.1 ∉ keys entries := by
      apply List.filter_congr
      intro entry member
      have different : entry.1 ≠ key := fun same => fresh (same ▸ List.mem_map_of_mem member)
      simp [different]
    rw [overlay, overlay, extended, others, set_of_absent value present, List.map_append,
      List.filter_cons_of_pos (by simpa using present), List.append_assoc]
    congr 1
    · apply List.map_congr_left
      rintro ⟨other, current⟩ member
      have different : other ≠ key := by
        rintro rfl
        exact present (List.mem_map_of_mem member)
      rw [lookup_cons_of_ne different]
    · simp [missing]

theorem setAll_eq_overlay (distinct : (keys entries).Nodup) (above : (keys added).Nodup) :
    setAll entries added = overlay entries added := by
  induction added generalizing entries with
  | nil => simp [setAll, overlay]
  | cons entry added ih =>
    obtain ⟨fresh, others⟩ := List.nodup_cons.mp above
    calc setAll entries (entry :: added)
        = setAll (set entry.1 entry.2 entries) added := rfl
      _ = overlay (set entry.1 entry.2 entries) added := ih (nodup_keys_set _ _ distinct) others
      _ = overlay entries (entry :: added) := overlay_set distinct fresh

theorem keys_overlay (entries added : List (String × α)) :
    keys (overlay entries added) = keys entries ++ (keys added).filter (· ∉ keys entries) := by
  simp only [overlay, keys, List.map_append, List.map_map, List.filter_map]
  rfl

theorem lookup_map (change : String → α → α) (entries : List (String × α)) (key : String) :
    (entries.map fun entry => (entry.1, change entry.1 entry.2)).lookup key =
      (entries.lookup key).map (change key) := by
  induction entries with
  | nil => rfl
  | cons entry rest ih =>
    obtain ⟨other, value⟩ := entry
    by_cases same : key = other
    · subst same
      simp
    · rw [List.map_cons, lookup_cons_of_ne same, lookup_cons_of_ne same, ih]

theorem lookup_filter_keys (kept : String → Bool) (entries : List (String × α)) {key : String} (own : kept key) :
    (entries.filter fun entry => kept entry.1).lookup key = entries.lookup key := by
  induction entries with
  | nil => rfl
  | cons entry rest ih =>
    obtain ⟨other, value⟩ := entry
    by_cases same : key = other
    · subst same
      simp [own]
    · rw [lookup_cons_of_ne same, List.filter_cons]
      split
      · rw [lookup_cons_of_ne same, ih]
      · exact ih

/-- The value from above, or else the one from below. -/
theorem lookup_overlay (entries added : List (String × α)) (key : String) :
    (overlay entries added).lookup key = (added.lookup key).or (entries.lookup key) := by
  have below := lookup_map (fun key value => (added.lookup key).getD value) entries key
  rw [overlay, List.lookup_append, below]
  cases found : entries.lookup key with
  | some value => cases added.lookup key <;> rfl
  | none =>
    have fresh : key ∉ keys entries := by
      rintro present
      obtain ⟨entry, member, rfl⟩ := List.mem_map.mp present
      exact absurd (List.lookup_eq_none_iff.mp found entry member) (by simp)
    rw [Option.map_none, Option.none_or, Option.or_none]
    exact lookup_filter_keys (fun key => decide (key ∉ keys entries)) added (decide_eq_true fresh)

/-- Entries are told by their keys in order and by what stands at each key. -/
theorem ext_lookup {first second : List (String × α)} (distinct : (keys first).Nodup)
    (sameKeys : keys first = keys second) (same : ∀ key, first.lookup key = second.lookup key) : first = second := by
  induction first generalizing second with
  | nil => exact (List.map_eq_nil_iff.mp sameKeys.symm).symm
  | cons entry rest ih =>
    obtain ⟨key, value⟩ := entry
    cases second with
    | nil => cases sameKeys
    | cons other others =>
      obtain ⟨otherKey, otherValue⟩ := other
      obtain ⟨rfl, sameRest⟩ := List.cons.inj sameKeys
      obtain ⟨fresh, later⟩ := List.nodup_cons.mp distinct
      have absent : key ∉ keys others := fun present => fresh (sameRest.symm ▸ present : key ∈ rest.map Prod.fst)
      have sameValue : value = otherValue := by simpa using same key
      rw [sameValue, ih later sameRest]
      intro third
      by_cases own : third = key
      · subst own
        rw [lookup_eq_none fresh, lookup_eq_none absent]
      · simpa only [lookup_cons_of_ne own] using same third

end Entries

namespace Dict

variable {α : Type}

theorem entries_extend (dict added : Dict α) :
    (dict.extend added).entries = Entries.overlay dict.entries added.entries :=
  Entries.setAll_eq_overlay dict.distinct added.distinct

theorem ext {dict other : Dict α} (same : dict.entries = other.entries) : dict = other := by
  obtain ⟨entries, distinct⟩ := dict
  obtain rfl : entries = other.entries := same
  rfl

theorem entries_ofEntries {entries : List (String × α)} (distinct : (Entries.keys entries).Nodup) :
    (ofEntries entries).entries = entries :=
  Entries.setAll_of_distinct distinct

theorem eq_ofEntries_iff {dict : Dict α} {entries : List (String × α)} (distinct : (Entries.keys entries).Nodup) :
    dict = ofEntries entries ↔ dict.entries = entries := by
  constructor
  · rintro rfl
    exact entries_ofEntries distinct
  · intro same
    exact ext (same.trans (entries_ofEntries distinct).symm)

/-- Patches can be put together before they are laid on top. -/
theorem extend_assoc (dict first second : Dict α) :
    (dict.extend first).extend second = dict.extend (first.extend second) := by
  apply ext
  apply Entries.ext_lookup ((dict.extend first).extend second).distinct
  · simp only [entries_extend, Entries.keys_overlay, List.filter_append, List.filter_filter, List.append_assoc]
    congr 2
    apply List.filter_congr
    intro key _
    by_cases below : key ∈ Entries.keys dict.entries <;> simp [below]
  · intro key
    simp only [entries_extend, Entries.lookup_overlay, Option.or_assoc]

end Dict

end PageEditor
