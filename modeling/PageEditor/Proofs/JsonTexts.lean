import PageEditor.Proofs.StableDecoding
import PageEditor.Proofs.WrittenScalars

/-!
The texts that are JSON, by their grammar and not by any reader: strings with all their escapes, numbers of
any size, and containers nested as deep as one likes, with blanks wherever they may stand.
-/

namespace PageEditor.Json

def Blanks (text : List Char) : Prop := ∀ c ∈ text, isBlank c = true

theorem blanks_nil : Blanks [] := List.forall_mem_nil _

theorem skipBlanks_append {blanks : List Char} (blank : Blanks blanks) (text : List Char) :
    skipBlanks (blanks ++ text) = skipBlanks text := List.dropWhile_append_of_pos blank

theorem skipBlanks_cons {c : Char} (visible : isBlank c = false) (rest : List Char) :
    skipBlanks (c :: rest) = c :: rest := by simp [skipBlanks, visible]

/-- How a value starts: not with a blank, and not as a container is closed. -/
def Opens (text : List Char) : Prop := ∃ c rest, text = c :: rest ∧ isBlank c = false ∧ c ≠ ']'

theorem Opens.append {text : List Char} (opens : Opens text) (more : List Char) : Opens (text ++ more) := by
  obtain ⟨c, rest, rfl, visible, other⟩ := opens
  exact ⟨c, rest ++ more, rfl, visible, other⟩

theorem Opens.skipBlanks {text : List Char} (opens : Opens text) : skipBlanks text = text := by
  obtain ⟨c, rest, rfl, visible, _⟩ := opens
  simp [Json.skipBlanks, visible]

theorem opens_digit {c : Char} (digit : c.isDigit = true) (rest : List Char) : Opens (c :: rest) := by
  refine ⟨c, rest, rfl, ?_, ?_⟩
  · by_contra blank
    simp only [isBlank, Bool.not_eq_false, Bool.or_eq_true, beq_iff_eq] at blank
    rcases blank with ((rfl | rfl) | rfl) | rfl <;> cases digit
  · rintro rfl
    cases digit

theorem ended_blanks {blanks rest : List Char} (blank : Blanks blanks) (ended : Ended rest) :
    Ended (blanks ++ rest) := by
  cases blanks with
  | nil => exact ended
  | cons c blanks =>
    have own : isBlank c = true := blank c (List.mem_cons_self ..)
    simp only [isBlank, Bool.or_eq_true, beq_iff_eq] at own
    apply ended_cons
    rcases own with ((rfl | rfl) | rfl) | rfl <;> decide

/-- What may stand between the quotes of a string. -/
inductive StringBody : List Char → Prop where
  | nil : StringBody []
  | plain {c : Char} {body : List Char} (notQuote : c ≠ '"') (notBackslash : c ≠ '\\') (notControl : ¬c < ' ')
      (more : StringBody body) : StringBody (c :: body)
  | letter {letter c : Char} {body : List Char} (known : simpleEscape? letter = some c) (more : StringBody body) :
      StringBody ('\\' :: letter :: body)
  | unit {a b c d : Char} {unit : Nat} {body : List Char} (digits : hexUnit? a b c d = some unit)
      (more : StringBody body) : StringBody ('\\' :: 'u' :: a :: b :: c :: d :: body)

/-- Digits, and at least one of them. -/
def Digits (text : List Char) : Prop := text ≠ [] ∧ ∀ c ∈ text, c.isDigit = true

inductive FractionPart : List Char → Prop where
  | none : FractionPart []
  | point {digits : List Char} (well : Digits digits) : FractionPart ('.' :: digits)

inductive ExponentPart : List Char → Prop where
  | none : ExponentPart []
  | letter {letter : Char} {sign digits : List Char} (isLetter : letter = 'e' ∨ letter = 'E')
      (isSign : sign = [] ∨ sign = ['+'] ∨ sign = ['-']) (well : Digits digits) :
      ExponentPart (letter :: (sign ++ digits))

/-- A number after its sign. -/
structure Numeral where
  whole : List Char
  fraction : List Char
  exponent : List Char
  digits : Digits whole
  /-- No number but zero starts with a zero. -/
  zero : whole.head? = some '0' → whole = ['0']
  fractionPart : FractionPart fraction
  exponentPart : ExponentPart exponent

def Numeral.text (numeral : Numeral) : List Char := numeral.whole ++ (numeral.fraction ++ numeral.exponent)

/-- An item of a list with the blanks around it. -/
structure WrittenItem where
  before : List Char
  value : List Char
  after : List Char
  blankBefore : Blanks before
  blankAfter : Blanks after

def WrittenItem.text (item : WrittenItem) : List Char := item.before ++ (item.value ++ item.after)

/-- A member of an object; its key is what stands between the quotes. -/
structure WrittenMember where
  before : List Char
  key : List Char
  gap : List Char
  item : WrittenItem
  blankBefore : Blanks before
  keyBody : StringBody key
  blankGap : Blanks gap

def WrittenMember.text (member : WrittenMember) : List Char :=
  member.before ++ '"' :: (member.key ++ '"' :: (member.gap ++ ':' :: member.item.text))

/-- The parts of a container with commas between them, and its brackets around them. -/
def bracketed (opening closing : Char) (parts : List (List Char)) (gap : List Char) : List Char :=
  opening :: ([','].intercalate parts ++ (gap ++ [closing]))

def listText (items : List WrittenItem) (gap : List Char) : List Char :=
  bracketed '[' ']' (items.map WrittenItem.text) gap

def objectText (members : List WrittenMember) (gap : List Char) : List Char :=
  bracketed '{' '}' (members.map WrittenMember.text) gap

/-- The texts of JSON values, without blanks around them. -/
inductive ValueText : List Char → Prop where
  | null : ValueText ['n', 'u', 'l', 'l']
  | true : ValueText ['t', 'r', 'u', 'e']
  | false : ValueText ['f', 'a', 'l', 's', 'e']
  | numeral (numeral : Numeral) : ValueText numeral.text
  | negative (numeral : Numeral) : ValueText ('-' :: numeral.text)
  | string {body : List Char} (well : StringBody body) : ValueText ('"' :: (body ++ ['"']))
  | list {items : List WrittenItem} {gap : List Char} (blank : Blanks gap)
      (each : ∀ item ∈ items, ValueText item.value) : ValueText (listText items gap)
  | object {members : List WrittenMember} {gap : List Char} (blank : Blanks gap)
      (each : ∀ member ∈ members, ValueText member.item.value) : ValueText (objectText members gap)

section Strings

variable {body text rest left : List Char}

theorem Spells.stringBody (spells : Spells body text) : StringBody body := by
  induction spells with
  | nil => exact .nil
  | plain notQuote notBackslash notControl _ ih => exact .plain notQuote notBackslash notControl ih
  | letter known _ ih => exact .letter known ih
  | unit digits _ _ _ ih => exact .unit digits ih
  | pair first second _ _ _ ih => exact .unit first (.unit second ih)

theorem readQuoted_low {a b c d : Char} {unit : Nat} (digits : hexUnit? a b c d = some unit)
    (isLow : isLowSurrogate unit = true) :
    readQuoted ('\\' :: 'u' :: a :: b :: c :: d :: rest) = .error (.before .loneSurrogate rest) := by
  rw [readQuoted]
  simp only [digits, isLow]
  rfl

theorem readQuoted_unpaired {a b c d : Char} {high : Nat} (first : hexUnit? a b c d = some high)
    (isHigh : isHighSurrogate high = true)
    (unpaired : ∀ e f g h more, rest ≠ '\\' :: 'u' :: e :: f :: g :: h :: more) :
    readQuoted ('\\' :: 'u' :: a :: b :: c :: d :: rest) = .error (.badPair rest) := by
  rw [readQuoted]
  simp only [first, isHigh, isLowSurrogate_of_isHighSurrogate isHigh, Bool.false_eq_true, if_false, if_true]

/-- What follows the first half of a pair in a string: its second half, or something that cannot be one. -/
theorem StringBody.second_cases (well : StringBody body) (rest : List Char) :
    (∃ e f g h low more, body = '\\' :: 'u' :: e :: f :: g :: h :: more ∧ hexUnit? e f g h = some low ∧
        StringBody more) ∨
      ∀ e f g h more, body ++ '"' :: rest ≠ '\\' :: 'u' :: e :: f :: g :: h :: more := by
  cases well with
  | nil => exact .inr fun _ _ _ _ _ same => absurd (List.cons.inj same).1 (by decide)
  | plain _ notBackslash _ _ => exact .inr fun _ _ _ _ _ same => notBackslash (List.cons.inj same).1
  | letter known _ =>
    refine .inr fun _ _ _ _ _ same => ?_
    rw [(List.cons.inj (List.cons.inj same).2).1] at known
    cases known
  | unit digits more => exact .inl ⟨_, _, _, _, _, _, rfl, digits, more⟩

/-- What is read of a string ends where the string does. -/
theorem readQuoted_ends (well : StringBody body) (taken : readQuoted (body ++ '"' :: rest) = .ok (text, left)) :
    left = rest := by
  -- Not by induction on the grammar, for which the second half of a pair is an escape like any other.
  generalize size : body.length = length
  induction length using Nat.strongRecOn generalizing body text with
  | ind length ih =>
    cases well with
    | nil =>
      cases taken
      rfl
    | plain notQuote notBackslash notControl more =>
      rw [List.cons_append, readQuoted_plain notQuote notBackslash notControl] at taken
      obtain ⟨⟨text, after⟩, taken, answered⟩ := bind_eq_ok.mp taken
      cases answered
      exact ih _ (by simp only [← size, List.length_cons]; omega) more taken rfl
    | letter known more =>
      rw [List.cons_append, List.cons_append, readQuoted_letter known] at taken
      obtain ⟨⟨text, after⟩, taken, answered⟩ := bind_eq_ok.mp taken
      cases answered
      exact ih _ (by simp only [← size, List.length_cons]; omega) more taken rfl
    | @unit a b c d unit body digits more =>
      have shorter : body.length < length := by simp only [← size, List.length_cons]; omega
      simp only [List.cons_append] at taken
      cases low : isLowSurrogate unit with
      | true =>
        rw [readQuoted_low digits low] at taken
        cases taken
      | false =>
        cases high : isHighSurrogate unit with
        | false =>
          rw [readQuoted_unit digits low high] at taken
          obtain ⟨⟨text, after⟩, taken, answered⟩ := bind_eq_ok.mp taken
          cases answered
          exact ih _ shorter more taken rfl
        | true =>
          rcases more.second_cases rest with ⟨e, f, g, h, low, body, rfl, second, more⟩ | unpaired
          · simp only [List.cons_append] at taken
            rw [readQuoted_high digits high second] at taken
            split at taken
            next =>
              obtain ⟨⟨text, after⟩, taken, answered⟩ := bind_eq_ok.mp taken
              cases answered
              exact ih _ (by simp only [List.length_cons] at shorter; omega) more taken rfl
            next => cases taken
          · rw [readQuoted_unpaired digits high unpaired] at taken
            cases taken

end Strings

theorem Numeral.opens (numeral : Numeral) : ∃ c rest, numeral.text = c :: rest ∧ c.isDigit = true := by
  obtain ⟨c, digits, whole⟩ := List.exists_cons_of_ne_nil numeral.digits.1
  have digit : c.isDigit = true := numeral.digits.2 c (by simp [whole])
  exact ⟨c, digits ++ (numeral.fraction ++ numeral.exponent), by rw [Numeral.text, whole, List.cons_append], digit⟩

theorem Numeral.append_ne (numeral : Numeral) {c : Char} (other : c.isDigit = false) {rest more : List Char} :
    numeral.text ++ rest ≠ c :: more := by
  intro same
  obtain ⟨first, digits, written, digit⟩ := numeral.opens
  rw [written] at same
  cases same
  rw [other] at digit
  cases digit

theorem ValueText.opens {text : List Char} (value : ValueText text) : Opens text := by
  cases value with
  | null => exact ⟨'n', _, rfl, rfl, by decide⟩
  | true => exact ⟨'t', _, rfl, rfl, by decide⟩
  | false => exact ⟨'f', _, rfl, rfl, by decide⟩
  | numeral numeral =>
    obtain ⟨c, rest, same, digit⟩ := numeral.opens
    rw [same]
    exact opens_digit digit rest
  | negative numeral => exact ⟨'-', _, rfl, rfl, by decide⟩
  | string _ => exact ⟨'"', _, rfl, rfl, by decide⟩
  | list _ _ => exact ⟨'[', _, rfl, rfl, by decide⟩
  | object _ _ => exact ⟨'{', _, rfl, rfl, by decide⟩

theorem ended_comma (rest : List Char) : Ended (',' :: rest) := ended_cons rest (by decide)

theorem ended_listEnd (rest : List Char) : Ended (']' :: rest) := ended_cons rest (by decide)

theorem ended_objectEnd (rest : List Char) : Ended ('}' :: rest) := ended_cons rest (by decide)

theorem length_le_flatMap {α β : Type} {f : α → List β} (filled : ∀ part, 1 ≤ (f part).length)
    (parts : List α) : parts.length ≤ (parts.flatMap f).length := by
  induction parts with
  | nil => simp
  | cons part parts ih =>
    have own := filled part
    simp only [List.flatMap_cons, List.length_cons, List.length_append]
    omega

theorem length_le_flatMap_of_mem {α β : Type} {f : α → List β} {part : α} {parts : List α}
    (member : part ∈ parts) : (f part).length ≤ (parts.flatMap f).length := by
  obtain ⟨before, after, rfl⟩ := List.append_of_mem member
  simp only [List.flatMap_append, List.flatMap_cons, List.length_append]
  omega

section Containers

variable {opening closing : Char} {part : List Char} {parts : List (List Char)} {gap rest : List Char}

/-- What follows a part of a container: the later parts and the closing bracket. -/
def onward (closing : Char) (parts : List (List Char)) (gap : List Char) : List Char :=
  parts.flatMap (',' :: ·) ++ (gap ++ [closing])

theorem onward_nil_append : onward closing [] gap ++ rest = gap ++ closing :: rest := by simp [onward]

theorem onward_cons_append :
    onward closing (part :: parts) gap ++ rest = ',' :: (part ++ (onward closing parts gap ++ rest)) := by
  simp [onward]

theorem ended_onward (parts : List (List Char)) (blank : Blanks gap) (ended : Ended (closing :: rest)) :
    Ended (onward closing parts gap ++ rest) := by
  cases parts with
  | nil =>
    rw [onward_nil_append]
    exact ended_blanks blank ended
  | cons part parts =>
    rw [onward_cons_append]
    exact ended_comma _

theorem length_onward_cons :
    (onward closing (part :: parts) gap).length = 1 + part.length + (onward closing parts gap).length := by
  simp only [onward, List.flatMap_cons, List.length_append, List.length_cons]
  omega

theorem length_lt_onward : parts.length < (onward closing parts gap).length := by
  have count := length_le_flatMap (f := (',' :: ·)) (fun part => Nat.succ_pos part.length) parts
  simp only [onward, List.length_append, List.length_singleton]
  omega

theorem length_le_onward (member : part ∈ parts) : part.length ≤ (onward closing parts gap).length := by
  have shorter := length_le_flatMap_of_mem (f := (',' :: ·)) member
  simp only [onward, List.length_append, List.length_cons] at shorter ⊢
  omega

theorem two_le_length_bracketed : 2 ≤ (bracketed opening closing parts gap).length := by
  simp only [bracketed, List.length_cons, List.length_append]
  omega

theorem bracketed_nil_append :
    bracketed opening closing [] gap ++ rest = opening :: (gap ++ closing :: rest) := by
  simp [bracketed]

theorem bracketed_cons :
    bracketed opening closing (part :: parts) gap = opening :: (part ++ onward closing parts gap) := by
  have tail : [','].intercalate (part :: parts) = part ++ parts.flatMap (',' :: ·) := by
    induction parts generalizing part with
    | nil => simp
    | cons next parts ih => simp [List.intercalate_cons_cons, ih]
  rw [bracketed, tail, onward, List.append_assoc]

theorem length_lt_bracketed : parts.length < (bracketed opening closing parts gap).length := by
  cases parts with
  | nil => exact Nat.lt_of_lt_of_le Nat.zero_lt_two two_le_length_bracketed
  | cons part parts =>
    have count : parts.length < (onward closing parts gap).length := length_lt_onward
    simp only [bracketed_cons, List.length_cons, List.length_append]
    omega

theorem length_le_bracketed (member : part ∈ parts) :
    part.length ≤ (bracketed opening closing parts gap).length := by
  cases parts with
  | nil => cases member
  | cons first parts =>
    simp only [bracketed_cons, List.length_cons, List.length_append]
    rcases List.mem_cons.mp member with rfl | later
    · omega
    · have shorter : part.length ≤ (onward closing parts gap).length := length_le_onward later
      omega

end Containers

theorem WrittenItem.text_append (item : WrittenItem) (rest : List Char) :
    item.text ++ rest = item.before ++ (item.value ++ (item.after ++ rest)) := by
  simp [WrittenItem.text]

theorem WrittenMember.text_append (member : WrittenMember) (rest : List Char) :
    member.text ++ rest =
      member.before ++ '"' :: (member.key ++ '"' :: (member.gap ++ ':' :: (member.item.text ++ rest))) := by
  simp [WrittenMember.text]

theorem WrittenItem.length_value_le (item : WrittenItem) : item.value.length ≤ item.text.length := by
  simp only [WrittenItem.text, List.length_append]
  omega

theorem WrittenMember.length_value_le (member : WrittenMember) : member.item.value.length ≤ member.text.length := by
  have shorter := member.item.length_value_le
  simp only [WrittenMember.text, List.length_append, List.length_cons]
  omega

theorem length_lt_listText {items : List WrittenItem} {gap : List Char} :
    items.length < (listText items gap).length := by
  have count := @length_lt_bracketed '[' ']' (items.map WrittenItem.text) gap
  rwa [List.length_map] at count

theorem length_le_listText {items : List WrittenItem} {gap : List Char} {item : WrittenItem} (member : item ∈ items) :
    item.value.length ≤ (listText items gap).length :=
  Nat.le_trans item.length_value_le (length_le_bracketed (List.mem_map_of_mem member))

theorem length_lt_objectText {members : List WrittenMember} {gap : List Char} :
    members.length < (objectText members gap).length := by
  have count := @length_lt_bracketed '{' '}' (members.map WrittenMember.text) gap
  rwa [List.length_map] at count

theorem length_le_objectText {members : List WrittenMember} {gap : List Char} {member : WrittenMember}
    (present : member ∈ members) : member.item.value.length ≤ (objectText members gap).length :=
  Nat.le_trans member.length_value_le (length_le_bracketed (List.mem_map_of_mem present))

/-- The item without the blanks before it. -/
def WrittenItem.bare (item : WrittenItem) : WrittenItem := { item with before := [], blankBefore := blanks_nil }

def WrittenMember.bare (member : WrittenMember) : WrittenMember :=
  { member with before := [], blankBefore := blanks_nil }

theorem WrittenItem.text_eq (item : WrittenItem) : item.text = item.before ++ item.bare.text := rfl

theorem WrittenMember.text_eq (member : WrittenMember) : member.text = member.before ++ member.bare.text := rfl

theorem WrittenItem.length_bare_le (item : WrittenItem) : item.bare.text.length ≤ item.text.length := by
  rw [item.text_eq, List.length_append]
  omega

theorem WrittenMember.length_bare_le (member : WrittenMember) : member.bare.text.length ≤ member.text.length := by
  rw [member.text_eq, List.length_append]
  omega

end PageEditor.Json
