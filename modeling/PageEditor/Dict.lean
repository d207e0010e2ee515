/-!
Ordered dictionaries. The keys are distinct and keep the order in which they were first set: setting
a key again changes its value and not its place. `Entries.set` is the rule on bare lists of entries,
and a `Dict` carries the proof that its keys are distinct.
-/

namespace PageEditor

namespace Entries

variable {α : Type}

def keys (entries : List (String × α)) : List String := entries.map Prod.fst

def set (key : String) (value : α) : List (String × α) → List (String × α)
  | [] => [(key, value)]
  | (other, current) :: rest =>
    if other = key then (other, value) :: rest else (other, current) :: set key value rest

/-- Sets the entries one after the other, so of a repeated key the last value wins. -/
def setAll (entries added : List (String × α)) : List (String × α) :=
  added.foldl (fun current entry => set entry.1 entry.2 current) entries

theorem keys_set (key : String) (value : α) (entries : List (String × α)) :
    keys (set key value entries) = if key ∈ keys entries then keys entries else keys entries ++ [key] := by
  induction entries with
  | nil => simp [keys, set]
  | cons entry rest ih =>
    obtain ⟨other, current⟩ := entry
    by_cases same : other = key
    · simp [keys, set, same]
    · have different : key ≠ other := fun equal => same equal.symm
      simp only [keys] at ih
      by_cases present : key ∈ rest.map Prod.fst <;> simp [keys, set, same, ih, different, present]

theorem nodup_keys_set (key : String) (value : α) {entries : List (String × α)}
    (distinct : (keys entries).Nodup) : (keys (set key value entries)).Nodup := by
  rw [keys_set]
  split
  · exact distinct
  next absent =>
    simp only [List.nodup_append, distinct, List.nodup_cons, List.mem_singleton, true_and]
    refine ⟨by simp, ?_⟩
    rintro other present _ rfl rfl
    exact absent present

theorem nodup_keys_setAll (added : List (String × α)) {entries : List (String × α)}
    (distinct : (keys entries).Nodup) : (keys (setAll entries added)).Nodup := by
  unfold setAll
  induction added generalizing entries with
  | nil => exact distinct
  | cons entry rest ih => exact ih (nodup_keys_set entry.1 entry.2 distinct)

theorem set_of_absent {key : String} (value : α) {entries : List (String × α)} (absent : key ∉ keys entries) :
    set key value entries = entries ++ [(key, value)] := by
  induction entries with
  | nil => rfl
  | cons entry rest ih =>
    obtain ⟨other, current⟩ := entry
    simp only [keys, List.map_cons, List.mem_cons, not_or] at absent
    have different : other ≠ key := fun equal => absent.1 equal.symm
    simp [set, different, ih absent.2]

theorem mem_of_mem_set {key : String} {value : α} {entries : List (String × α)} {entry : String × α}
    (member : entry ∈ set key value entries) : entry = (key, value) ∨ entry ∈ entries := by
  induction entries with
  | nil => exact .inl (List.mem_singleton.mp member)
  | cons first rest ih =>
    obtain ⟨other, current⟩ := first
    by_cases same : other = key
    · simp only [set, same, ite_true, List.mem_cons] at member ⊢
      exact member.imp_right .inr
    · simp only [set, same, ite_false, List.mem_cons] at member ⊢
      rcases member with rfl | later
      · exact .inr (.inl rfl)
      · exact (ih later).imp_right .inr

theorem mem_of_mem_setAll {entries added : List (String × α)} {entry : String × α}
    (member : entry ∈ setAll entries added) : entry ∈ entries ∨ entry ∈ added := by
  induction added generalizing entries with
  | nil => exact .inl member
  | cons first rest ih =>
    rcases ih member with earlier | later
    · rcases mem_of_mem_set earlier with rfl | old
      · exact .inr (List.mem_cons_self ..)
      · exact .inl old
    · exact .inr (List.mem_cons_of_mem _ later)

/-- Entries whose keys are all new follow in their order. -/
theorem setAll_of_distinct {entries added : List (String × α)} (distinct : (keys (entries ++ added)).Nodup) :
    setAll entries added = entries ++ added := by
  induction added generalizing entries with
  | nil => exact (List.append_nil entries).symm
  | cons first rest ih =>
    have split : entries ++ first :: rest = entries ++ [first] ++ rest := by simp
    rw [split] at distinct ⊢
    have absent : first.1 ∉ keys entries := by
      intro present
      simp only [keys, List.map_append, List.map_cons, List.map_nil, List.nodup_append] at distinct
      exact distinct.1.2.2 _ present _ (List.mem_singleton_self _) rfl
    change setAll (set first.1 first.2 entries) rest = _
    rw [set_of_absent first.2 absent]
    exact ih distinct

end Entries

structure Dict (α : Type) where
  entries : List (String × α)
  distinct : (Entries.keys entries).Nodup
deriving DecidableEq

namespace Dict

variable {α : Type}

def empty : Dict α := ⟨[], List.nodup_nil⟩

instance : Inhabited (Dict α) := ⟨empty⟩

def get? (dict : Dict α) (key : String) : Option α := dict.entries.lookup key

def contains (dict : Dict α) (key : String) : Bool := (dict.get? key).isSome

def insert (dict : Dict α) (key : String) (value : α) : Dict α :=
  ⟨Entries.set key value dict.entries, Entries.nodup_keys_set key value dict.distinct⟩

/-- The entries of `added` on top of those of `dict`: known keys stay where they are and new ones
follow in the order of `added`. -/
def extend (dict added : Dict α) : Dict α :=
  ⟨Entries.setAll dict.entries added.entries, Entries.nodup_keys_setAll added.entries dict.distinct⟩

def ofEntries (entries : List (String × α)) : Dict α :=
  ⟨Entries.setAll [] entries, Entries.nodup_keys_setAll entries List.nodup_nil⟩

@[simp] theorem ofEntries_entries (dict : Dict α) : ofEntries dict.entries = dict := by
  obtain ⟨entries, distinct⟩ := dict
  simp [ofEntries, Entries.setAll_of_distinct, distinct]

theorem mem_of_mem_ofEntries {entries : List (String × α)} {entry : String × α}
    (member : entry ∈ (ofEntries entries).entries) : entry ∈ entries :=
  (Entries.mem_of_mem_setAll member).resolve_left (List.not_mem_nil)

end Dict

end PageEditor
