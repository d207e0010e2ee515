import Mathlib.Data.List.Forall2
import PageEditor.Proofs.JsonTexts

/-!
Reading containers part by part. The reader steps from each part to the next up to the closing bracket, so
what it makes of a container follows from what it makes of the parts.
-/

namespace PageEditor.Json

section Steps

variable {blanks : List Char}

theorem nextItem_closed (blank : Blanks blanks) (first : Bool) (rest : List Char) :
    nextItem first (blanks ++ ']' :: rest) = .ok (.closed rest) := by
  simp only [nextItem, skipBlanks_append blank, skipBlanks_cons (c := ']') rfl]

theorem nextItem_first (blank : Blanks blanks) {text : List Char} (opens : Opens text) :
    nextItem true (blanks ++ text) = .ok (.part text) := by
  obtain ⟨c, rest, rfl, visible, other⟩ := opens
  simp [nextItem, skipBlanks_append blank, skipBlanks_cons visible, other]

theorem nextItem_later (blank : Blanks blanks) {text : List Char} (opens : Opens text) :
    nextItem false (',' :: (blanks ++ text)) = .ok (.part text) := by
  obtain ⟨c, rest, rfl, visible, other⟩ := opens
  simp [nextItem, skipBlanks_cons (c := ',') rfl, skipBlanks_append blank, skipBlanks_cons visible, other]

theorem nextItem_append (blank : Blanks blanks) (first : Bool) (text : List Char) :
    nextItem first (blanks ++ text) = nextItem first text := by
  simp only [nextItem, skipBlanks_append blank]

theorem nextMember_append (blank : Blanks blanks) (first : Bool) (text : List Char) :
    nextMember first (blanks ++ text) = nextMember first text := by
  simp only [nextMember, skipBlanks_append blank]

theorem nextMember_closed (blank : Blanks blanks) (first : Bool) (rest : List Char) :
    nextMember first (blanks ++ '}' :: rest) = .ok (.closed rest) := by
  simp only [nextMember, skipBlanks_append blank, skipBlanks_cons (c := '}') rfl]

theorem nextMember_first (blank : Blanks blanks) (text : List Char) :
    nextMember true (blanks ++ '"' :: text) = .ok (.part text) := by
  simp [nextMember, skipBlanks_append blank, skipBlanks_cons (c := '"') rfl]

theorem nextMember_later (blank : Blanks blanks) (text : List Char) :
    nextMember false (',' :: (blanks ++ '"' :: text)) = .ok (.part text) := by
  simp [nextMember, skipBlanks_cons (c := ',') rfl, skipBlanks_append blank, skipBlanks_cons (c := '"') rfl]

theorem readColon_append (blank : Blanks blanks) (text : List Char) : readColon (blanks ++ text) = readColon text := by
  simp only [readColon, skipBlanks_append blank]

theorem readColon_cons (text : List Char) : readColon (':' :: text) = .ok text := by
  simp only [readColon, skipBlanks_cons (c := ':') rfl]

end Steps

/-- What `read` makes of a written value: the value, whatever blanks precede it and whatever follows. -/
def ReadsBack {α : Type} (read : List Char → Except Stop (α × List Char)) (text : List Char) (value : α) : Prop :=
  ∀ blanks rest, Blanks blanks → Ended rest → read (blanks ++ (text ++ rest)) = .ok (value, rest)

/-- What is read from the value, if anything, is read up to the end of the value and no further. -/
def EndsWith {α : Type} (read : List Char → Except Stop (α × List Char)) (value : List Char) : Prop :=
  ∀ {blanks rest result left}, Blanks blanks → read (blanks ++ (value ++ rest)) = .ok (result, left) → left = rest

section Ahead

variable {gap rest : List Char} {first : Bool} {text : List Char}

/-- A list goes on with these items up to its end. -/
def ItemsAhead (gap rest : List Char) (first : Bool) (text : List Char) : List WrittenItem → Prop
  | [] => nextItem first text = .ok (.closed rest)
  | item :: items =>
    nextItem first text = .ok (.part (item.bare.text ++ (onward ']' (items.map WrittenItem.text) gap ++ rest)))

/-- A member from its key on. -/
def WrittenMember.fromKey (member : WrittenMember) : List Char :=
  member.key ++ '"' :: (member.gap ++ ':' :: member.item.text)

/-- An object goes on with these members up to its end. -/
def MembersAhead (gap rest : List Char) (first : Bool) (text : List Char) : List WrittenMember → Prop
  | [] => nextMember first text = .ok (.closed rest)
  | member :: members =>
    nextMember first text = .ok (.part (member.fromKey ++ (onward '}' (members.map WrittenMember.text) gap ++ rest)))

theorem itemsAhead_first (blank : Blanks gap) {items : List WrittenItem} (opens : ∀ item ∈ items, Opens item.value)
    (rest : List Char) : ∃ text, listText items gap ++ rest = '[' :: text ∧ items.length ≤ text.length ∧
      ItemsAhead gap rest true text items := by
  cases items with
  | nil => exact ⟨_, bracketed_nil_append, Nat.zero_le _, nextItem_closed blank true rest⟩
  | cons item items =>
    have count : items.length < (onward ']' (items.map WrittenItem.text) gap).length := by
      have count := @length_lt_onward ']' (items.map WrittenItem.text) gap
      rwa [List.length_map] at count
    refine ⟨item.text ++ (onward ']' (items.map WrittenItem.text) gap ++ rest), ?_, ?_, ?_⟩
    · rw [listText, List.map_cons, bracketed_cons, List.cons_append, List.append_assoc]
    · simp only [List.length_cons, List.length_append]
      omega
    · have starts := (opens item (List.mem_cons_self ..)).append
        (item.after ++ (onward ']' (items.map WrittenItem.text) gap ++ rest))
      rw [ItemsAhead, item.text_append, item.bare.text_append]
      exact nextItem_first item.blankBefore starts

theorem itemsAhead_later (blank : Blanks gap) {items : List WrittenItem} (opens : ∀ item ∈ items, Opens item.value)
    {after : List Char} (behind : Blanks after) (rest : List Char) :
    ItemsAhead gap rest false (after ++ (onward ']' (items.map WrittenItem.text) gap ++ rest)) items := by
  cases items with
  | nil =>
    rw [ItemsAhead, List.map_nil, onward_nil_append, nextItem_append behind]
    exact nextItem_closed blank false rest
  | cons item items =>
    have starts := (opens item (List.mem_cons_self ..)).append
      (item.after ++ (onward ']' (items.map WrittenItem.text) gap ++ rest))
    rw [ItemsAhead, List.map_cons, onward_cons_append, nextItem_append behind, item.text_append, item.bare.text_append]
    exact nextItem_later item.blankBefore starts

theorem membersAhead_first (blank : Blanks gap) (members : List WrittenMember) (rest : List Char) :
    ∃ text, objectText members gap ++ rest = '{' :: text ∧ members.length ≤ text.length ∧
      MembersAhead gap rest true text members := by
  cases members with
  | nil => exact ⟨_, bracketed_nil_append, Nat.zero_le _, nextMember_closed blank true rest⟩
  | cons member members =>
    have count : members.length < (onward '}' (members.map WrittenMember.text) gap).length := by
      have count := @length_lt_onward '}' (members.map WrittenMember.text) gap
      rwa [List.length_map] at count
    refine ⟨member.text ++ (onward '}' (members.map WrittenMember.text) gap ++ rest), ?_, ?_, ?_⟩
    · rw [objectText, List.map_cons, bracketed_cons, List.cons_append, List.append_assoc]
    · simp only [List.length_cons, List.length_append]
      omega
    · rw [MembersAhead, member.text_eq, List.append_assoc]
      exact nextMember_first member.blankBefore _

theorem membersAhead_later (blank : Blanks gap) (members : List WrittenMember) {after : List Char}
    (behind : Blanks after) (rest : List Char) :
    MembersAhead gap rest false (after ++ (onward '}' (members.map WrittenMember.text) gap ++ rest)) members := by
  cases members with
  | nil =>
    rw [MembersAhead, List.map_nil, onward_nil_append, nextMember_append behind]
    exact nextMember_closed blank false rest
  | cons member members =>
    rw [MembersAhead, List.map_cons, onward_cons_append, nextMember_append behind, member.text_eq, List.append_assoc]
    exact nextMember_later member.blankBefore _

end Ahead

section Keys

variable {rest : List Char} {member : WrittenMember}

/-- The key of a member, up to its closing quote. -/
theorem readQuoted_fromKey {key : List Char} (spells : Spells member.key key) :
    readQuoted (member.fromKey ++ rest) = .ok (key, member.gap ++ ':' :: (member.item.text ++ rest)) := by
  have read := readQuoted_of_spells spells (member.gap ++ ':' :: (member.item.text ++ rest))
  simpa [WrittenMember.fromKey] using read

theorem readQuoted_fromKey_ends {key left : List Char}
    (taken : readQuoted (member.fromKey ++ rest) = .ok (key, left)) :
    left = member.gap ++ ':' :: (member.item.text ++ rest) := by
  have written : member.fromKey ++ rest = member.key ++ '"' :: (member.gap ++ ':' :: (member.item.text ++ rest)) := by
    simp [WrittenMember.fromKey]
  rw [written] at taken
  exact readQuoted_ends member.keyBody taken

theorem readColon_gap (member : WrittenMember) :
    readColon (member.gap ++ ':' :: (member.item.text ++ rest)) = .ok (member.item.text ++ rest) := by
  rw [readColon_append member.blankGap, readColon_cons]

end Keys

section Loops

variable {α : Type} {read : List Char → Except Stop (α × List Char)}

theorem readItems_of_closed {fuel : Nat} {first : Bool} {text rest : List Char}
    (closed : nextItem first text = .ok (.closed rest)) : readItems read (fuel + 1) first text = .ok ([], rest) := by
  rw [readItems, closed]
  rfl

theorem readItems_of_part {fuel : Nat} {first : Bool} {text part left rest : List Char} {item : α} {items : List α}
    (next : nextItem first text = .ok (.part part)) (taken : read part = .ok (item, left))
    (onward : readItems read fuel false left = .ok (items, rest)) :
    readItems read (fuel + 1) first text = .ok (item :: items, rest) := by
  rw [readItems, next]
  simp only [bind, Except.bind, taken, onward]
  rfl

theorem readMembers_of_closed {fuel : Nat} {first : Bool} {text rest : List Char}
    (closed : nextMember first text = .ok (.closed rest)) :
    readMembers read (fuel + 1) first text = .ok ([], rest) := by
  rw [readMembers, closed]
  rfl

theorem readMembers_of_part {fuel : Nat} {first : Bool} {text left rest more : List Char} {member : WrittenMember}
    {key : List Char} {value : α} {members : List (String × α)}
    (next : nextMember first text = .ok (.part (member.fromKey ++ more))) (spells : Spells member.key key)
    (taken : read (member.item.text ++ more) = .ok (value, left))
    (onward : readMembers read fuel false left = .ok (members, rest)) :
    readMembers read (fuel + 1) first text = .ok ((String.ofList key, value) :: members, rest) := by
  rw [readMembers, next]
  simp only [bind, Except.bind, readQuoted_fromKey spells, readColon_gap, taken, onward]
  rfl

end Loops

section Items

variable {α : Type} {read : List Char → Except Stop (α × List Char)} {gap rest : List Char}

theorem ReadsBack.item {value : α} (item : WrittenItem) (reads : ReadsBack read item.value value) (ended : Ended rest) :
    read (item.text ++ rest) = .ok (value, item.after ++ rest) := by
  rw [item.text_append]
  exact reads _ _ item.blankBefore (ended_blanks item.blankAfter ended)

theorem EndsWith.item (item : WrittenItem) {value : α} {left : List Char} (ends : EndsWith read item.value)
    (taken : read (item.text ++ rest) = .ok (value, left)) : left = item.after ++ rest := by
  rw [item.text_append] at taken
  exact ends item.blankBefore taken

theorem readItems_ahead (blank : Blanks gap) {items : List WrittenItem} {values : List α}
    (opens : ∀ item ∈ items, Opens item.value)
    (each : List.Forall₂ (fun item value => ReadsBack read item.value value) items values) {fuel : Nat} {first : Bool}
    {text : List Char} (enough : items.length < fuel) (ahead : ItemsAhead gap rest first text items) :
    readItems read fuel first text = .ok (values, rest) := by
  induction each generalizing fuel first text with
  | nil =>
    obtain ⟨fuel, rfl⟩ := Nat.exists_eq_succ_of_ne_zero (Nat.ne_of_gt enough)
    exact readItems_of_closed ahead
  | @cons item value items values reads _ ih =>
    obtain ⟨fuel, rfl⟩ := Nat.exists_eq_succ_of_ne_zero (Nat.ne_zero_of_lt enough)
    obtain ⟨_, opens⟩ := List.forall_mem_cons.mp opens
    have taken := reads.item item.bare (ended_onward (items.map WrittenItem.text) blank (ended_listEnd rest))
    refine readItems_of_part ahead taken (ih opens (Nat.lt_of_succ_lt_succ enough) ?_)
    exact itemsAhead_later blank opens item.blankAfter rest

theorem readMembers_ahead (blank : Blanks gap) {members : List WrittenMember} {entries : List (String × α)}
    (each : List.Forall₂ (fun member entry => Spells member.key entry.1.toList ∧
      ReadsBack read member.item.value entry.2) members entries) {fuel : Nat} {first : Bool} {text : List Char}
    (enough : members.length < fuel) (ahead : MembersAhead gap rest first text members) :
    readMembers read fuel first text = .ok (entries, rest) := by
  induction each generalizing fuel first text with
  | nil =>
    obtain ⟨fuel, rfl⟩ := Nat.exists_eq_succ_of_ne_zero (Nat.ne_of_gt enough)
    exact readMembers_of_closed ahead
  | @cons member entry members entries own _ ih =>
    obtain ⟨fuel, rfl⟩ := Nat.exists_eq_succ_of_ne_zero (Nat.ne_zero_of_lt enough)
    obtain ⟨spells, reads⟩ := own
    have taken := reads.item member.item (ended_onward (members.map WrittenMember.text) blank (ended_objectEnd rest))
    have onward := ih (Nat.lt_of_succ_lt_succ enough) (membersAhead_later blank members member.item.blankAfter rest)
    have all := readMembers_of_part ahead spells taken onward
    rwa [String.ofList_toList] at all

/-- If the items of a list can be read at all, they are read up to the end of the list. -/
theorem readItems_ends (blank : Blanks gap) {items : List WrittenItem} (opens : ∀ item ∈ items, Opens item.value)
    (each : ∀ item ∈ items, EndsWith read item.value) {fuel : Nat} {first : Bool} {text left : List Char}
    {values : List α} (ahead : ItemsAhead gap rest first text items)
    (taken : readItems read fuel first text = .ok (values, left)) : left = rest := by
  induction items generalizing fuel first text values with
  | nil =>
    cases fuel with
    | zero => cases taken
    | succ fuel =>
      rw [readItems_of_closed ahead] at taken
      cases taken
      rfl
  | cons item items ih =>
    obtain ⟨_, opens⟩ := List.forall_mem_cons.mp opens
    obtain ⟨ends, each⟩ := List.forall_mem_cons.mp each
    cases fuel with
    | zero => cases taken
    | succ fuel =>
      obtain ⟨next, step, taken⟩ := bind_eq_ok.mp taken
      rw [ItemsAhead] at ahead
      cases ahead.symm.trans step
      obtain ⟨⟨value, middle⟩, read, taken⟩ := bind_eq_ok.mp taken
      obtain ⟨⟨values, left⟩, onward, answered⟩ := bind_eq_ok.mp taken
      cases answered
      rw [EndsWith.item item.bare ends read] at onward
      exact ih opens each (itemsAhead_later blank opens item.blankAfter rest) onward

end Items

end PageEditor.Json
