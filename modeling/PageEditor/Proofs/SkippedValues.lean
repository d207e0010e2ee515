import PageEditor.Json.Skipped
import PageEditor.Proofs.ContainerSteps

/-!
Passing over a value that nobody asked for. Whatever value it is, it is passed over up to its end and no
further.
-/

namespace PageEditor.Json

section Strings

variable {body rest : List Char}

theorem skipQuoted_plain {c : Char} (notQuote : c ≠ '"') (notBackslash : c ≠ '\\') (notControl : ¬c < ' ') :
    skipQuoted (c :: rest) = skipQuoted rest := by
  rw [skipQuoted.eq_def]
  split
  next same => cases same
  next same => exact absurd (List.cons.inj same).1 notQuote
  next same => exact absurd (List.cons.inj same).1 notBackslash
  next same => exact absurd (List.cons.inj same).1 notBackslash
  next same => exact absurd (List.cons.inj same).1 notBackslash
  next same =>
    obtain ⟨rfl, rfl⟩ := List.cons.inj same
    rw [if_neg notControl]

theorem skipQuoted_letter {letter c : Char} (known : simpleEscape? letter = some c) :
    skipQuoted ('\\' :: letter :: rest) = skipQuoted rest := by
  have noUnit : letter ≠ 'u' := by
    rintro rfl
    cases known
  rw [skipQuoted.eq_def]
  split
  next same => cases same
  next same => cases same
  next same => exact absurd (List.cons.inj (List.cons.inj same).2).1 noUnit
  next same =>
    obtain ⟨rfl, rfl⟩ := List.cons.inj (List.cons.inj same).2
    rw [known]
    rfl
  next same => cases same
  next other _ same => exact (other _ _ (List.cons.inj same).1.symm (List.cons.inj same).2.symm).elim

theorem skipQuoted_of_stringBody (well : StringBody body) (rest : List Char) :
    skipQuoted (body ++ '"' :: rest) = .ok rest := by
  induction well with
  | nil => rfl
  | plain notQuote notBackslash notControl _ ih =>
    rw [List.cons_append, skipQuoted_plain notQuote notBackslash notControl, ih]
  | letter known _ ih =>
    rw [List.cons_append, List.cons_append, skipQuoted_letter known, ih]
  | unit digits _ ih =>
    simp only [List.cons_append]
    rw [skipQuoted, digits, ih]
    rfl

end Strings

section Numerals

variable {digits rest : List Char}

theorem Digits.startsWithDigit (well : Digits digits) (rest : List Char) :
    startsWithDigit (digits ++ rest) = true := by
  obtain ⟨filled, all⟩ := well
  cases digits with
  | nil => exact absurd rfl filled
  | cons c digits => exact all c (List.mem_cons_self ..)

theorem dropDigits_append (all : ∀ c ∈ digits, c.isDigit = true) (stop : startsWithDigit rest = false) :
    (dropDigits (digits ++ rest)).2 = rest := by
  induction digits with
  | nil =>
    cases rest with
    | nil => rfl
    | cons c rest =>
      have other : c.isDigit = false := stop
      simp [dropDigits, other]
  | cons c digits ih =>
    have digit : c.isDigit = true := all c (List.mem_cons_self ..)
    have onward := ih fun other member => all other (List.mem_cons_of_mem c member)
    simp [dropDigits, digit, onward]

theorem skipExponent_digits {sign : List Char} (isSign : sign = [] ∨ sign = ['+'] ∨ sign = ['-'])
    (well : Digits digits) (stop : startsWithDigit rest = false) :
    skipExponent (sign ++ (digits ++ rest)) = .ok rest := by
  have digit := well.startsWithDigit rest
  have dropped := dropDigits_append well.2 stop
  rcases isSign with rfl | rfl | rfl
  · obtain ⟨c, digits, rfl⟩ := List.exists_cons_of_ne_nil well.1
    unfold skipExponent
    rw [List.nil_append]
    split
    next same =>
      obtain ⟨rfl, _⟩ := List.cons.inj same
      cases digit
    next same =>
      obtain ⟨rfl, _⟩ := List.cons.inj same
      cases digit
    next => rw [if_pos digit, dropped]
  · simp only [List.singleton_append, skipExponent, digit, dropped, if_true]
  · simp only [List.singleton_append, skipExponent, digit, dropped, if_true]

section Exponents

variable {exponent : List Char}

theorem ExponentPart.startsWithDigit (part : ExponentPart exponent) (ended : Ended rest) :
    startsWithDigit (exponent ++ rest) = false := by
  cases part with
  | none => exact ended.startsWithDigit
  | letter isLetter _ _ => rcases isLetter with rfl | rfl <;> rfl

theorem ExponentPart.not_point (part : ExponentPart exponent) (ended : Ended rest) (more : List Char) :
    exponent ++ rest ≠ '.' :: more := by
  intro same
  cases part with
  | none =>
    obtain rfl : rest = '.' :: more := same
    exact (ended '.' rfl).2.1 rfl
  | letter isLetter _ _ => rcases isLetter with rfl | rfl <;> cases same

/-- An exponent that is there is passed over from its letter on. -/
theorem ExponentPart.skipExponent (part : ExponentPart exponent) (ended : Ended rest) {letter : Char}
    {more : List Char} (isLetter : letter = 'e' ∨ letter = 'E') (same : exponent ++ rest = letter :: more) :
    skipExponent more = .ok rest := by
  cases part with
  | none =>
    obtain rfl : rest = letter :: more := same
    obtain ⟨_, _, small, large⟩ := ended letter rfl
    exact (isLetter.elim small large).elim
  | letter _ isSign well =>
    obtain ⟨_, rfl⟩ := List.cons.inj (same.symm.trans (List.cons_append ..))
    rw [List.append_assoc]
    exact skipExponent_digits isSign well ended.startsWithDigit

theorem ExponentPart.absent (part : ExponentPart exponent) (small : ∀ more, exponent ++ rest ≠ 'e' :: more)
    (large : ∀ more, exponent ++ rest ≠ 'E' :: more) : exponent ++ rest = rest := by
  cases part with
  | none => rfl
  | letter isLetter _ _ =>
    rcases isLetter with rfl | rfl
    · exact absurd rfl (small _)
    · exact absurd rfl (large _)

end Exponents

theorem FractionPart.startsWithDigit {fraction exponent : List Char} (fractionPart : FractionPart fraction)
    (exponentPart : ExponentPart exponent) (ended : Ended rest) :
    startsWithDigit (fraction ++ (exponent ++ rest)) = false := by
  cases fractionPart with
  | none => exact exponentPart.startsWithDigit ended
  | point _ => rfl

theorem Numeral.noLeadingZero (numeral : Numeral) {more : List Char} (stop : startsWithDigit more = false) :
    ¬((numeral.whole ++ more).head? = some '0' ∧ startsWithDigit (numeral.whole ++ more).tail = true) := by
  rintro ⟨front, digit⟩
  obtain ⟨c, digits, whole⟩ := List.exists_cons_of_ne_nil numeral.digits.1
  have single : numeral.whole = ['0'] := by
    apply numeral.zero
    rw [whole] at front ⊢
    exact front
  rw [single, List.singleton_append, List.tail_cons, stop] at digit
  cases digit

theorem skipNumeral_text (numeral : Numeral) (ended : Ended rest) : skipNumeral (numeral.text ++ rest) = .ok rest := by
  have stop := numeral.fractionPart.startsWithDigit numeral.exponentPart ended
  have digit := numeral.digits.startsWithDigit (numeral.fraction ++ (numeral.exponent ++ rest))
  have single := numeral.noLeadingZero stop
  have dropped := dropDigits_append numeral.digits.2 stop
  obtain ⟨whole, fraction, exponent, _, _, fractionPart, exponentPart⟩ := numeral
  simp only [Numeral.text, List.append_assoc, skipNumeral, digit, Bool.not_true, Bool.false_eq_true, if_false,
    if_neg single, dropped]
  cases fractionPart with
  | none =>
    simp only [List.nil_append]
    split
    next same => exact absurd same (exponentPart.not_point ended _)
    next same => exact exponentPart.skipExponent ended (.inl rfl) same
    next same => exact exponentPart.skipExponent ended (.inr rfl) same
    next _ small large => exact congrArg Except.ok (exponentPart.absent small large)
  | point well =>
    have digit := well.startsWithDigit (exponent ++ rest)
    have dropped := dropDigits_append well.2 (exponentPart.startsWithDigit ended)
    simp only [List.cons_append, digit, Bool.not_true, Bool.false_eq_true, if_false, dropped]
    split
    next same => exact exponentPart.skipExponent ended (.inl rfl) same
    next same => exact exponentPart.skipExponent ended (.inr rfl) same
    next small large => exact congrArg Except.ok (exponentPart.absent small large)

end Numerals

/-- The text is passed over with so much fuel, whatever blanks precede it and whatever follows. -/
def PassedOver (fuel : Nat) (text : List Char) : Prop :=
  ∀ blanks rest, Blanks blanks → Ended rest → skipValue fuel (blanks ++ (text ++ rest)) = .ok rest

section Skipping

variable {gap rest : List Char} {fuel : Nat}

theorem PassedOver.item {item : WrittenItem} (passed : PassedOver fuel item.value) (ended : Ended rest) :
    skipValue fuel (item.text ++ rest) = .ok (item.after ++ rest) := by
  rw [item.text_append]
  exact passed _ _ item.blankBefore (ended_blanks item.blankAfter ended)

theorem skipItems_last {item : WrittenItem} (passed : PassedOver fuel item.value) (blank : Blanks gap) :
    skipItems (fuel + 1) (item.text ++ (gap ++ ']' :: rest)) = .ok rest := by
  rw [skipItems, passed.item (ended_blanks blank (ended_listEnd rest))]
  simp only [bind, Except.bind, skipBlanks_append item.blankAfter, skipBlanks_append blank,
    skipBlanks_cons (c := ']') rfl]

theorem skipItems_later {item : WrittenItem} (passed : PassedOver fuel item.value) :
    skipItems (fuel + 1) (item.text ++ ',' :: rest) = skipItems fuel rest := by
  rw [skipItems, passed.item (ended_comma rest)]
  simp only [bind, Except.bind, skipBlanks_append item.blankAfter, skipBlanks_cons (c := ',') rfl]

theorem skipMembers_last {member : WrittenMember} (passed : PassedOver fuel member.item.value) (blank : Blanks gap) :
    skipMembers (fuel + 1) (member.text ++ (gap ++ '}' :: rest)) = .ok rest := by
  rw [skipMembers, member.text_append, skipBlanks_append member.blankBefore, skipBlanks_cons (c := '"') rfl]
  simp only [bind, Except.bind, skipQuoted_of_stringBody member.keyBody, readColon_append member.blankGap,
    readColon_cons, passed.item (ended_blanks blank (ended_objectEnd rest)), skipBlanks_append member.item.blankAfter,
    skipBlanks_append blank, skipBlanks_cons (c := '}') rfl]

theorem skipMembers_later {member : WrittenMember} (passed : PassedOver fuel member.item.value) :
    skipMembers (fuel + 1) (member.text ++ ',' :: rest) = skipMembers fuel rest := by
  rw [skipMembers, member.text_append, skipBlanks_append member.blankBefore, skipBlanks_cons (c := '"') rfl]
  simp only [bind, Except.bind, skipQuoted_of_stringBody member.keyBody, readColon_append member.blankGap,
    readColon_cons, passed.item (ended_comma rest), skipBlanks_append member.item.blankAfter,
    skipBlanks_cons (c := ',') rfl]

/-- With fuel for twice its length the text is passed over. -/
def Skippable (text : List Char) : Prop := ∀ fuel, 2 * text.length ≤ fuel → PassedOver fuel text

theorem skipItems_onward (blank : Blanks gap) {item : WrittenItem} {items : List WrittenItem}
    (each : ∀ part ∈ item :: items, Skippable part.value)
    (enough : 2 * (item.text.length + (onward ']' (items.map WrittenItem.text) gap).length) ≤ fuel) :
    skipItems fuel (item.text ++ (onward ']' (items.map WrittenItem.text) gap ++ rest)) = .ok rest := by
  -- Twice what is left of the text stays within the fuel, since every item comes with a comma or a bracket.
  induction items generalizing item fuel with
  | nil =>
    have shorter := item.length_value_le
    have closed : 0 < (onward ']' ([].map WrittenItem.text) gap).length := Nat.zero_lt_of_lt length_lt_onward
    obtain ⟨fuel, rfl⟩ := Nat.exists_eq_succ_of_ne_zero (Nat.ne_of_gt (by omega : 0 < fuel))
    rw [List.map_nil, onward_nil_append]
    exact skipItems_last (each item (List.mem_cons_self ..) fuel (by omega)) blank
  | cons next items ih =>
    obtain ⟨own, others⟩ := List.forall_mem_cons.mp each
    have shorter := item.length_value_le
    rw [List.map_cons, length_onward_cons] at enough
    obtain ⟨fuel, rfl⟩ := Nat.exists_eq_succ_of_ne_zero (Nat.ne_of_gt (by omega : 0 < fuel))
    rw [List.map_cons, onward_cons_append, skipItems_later (own fuel (by omega))]
    exact ih others (by omega)

theorem skipMembers_onward (blank : Blanks gap) {member : WrittenMember} {members : List WrittenMember}
    (each : ∀ part ∈ member :: members, Skippable part.item.value)
    (enough : 2 * (member.text.length + (onward '}' (members.map WrittenMember.text) gap).length) ≤ fuel) :
    skipMembers fuel (member.text ++ (onward '}' (members.map WrittenMember.text) gap ++ rest)) = .ok rest := by
  induction members generalizing member fuel with
  | nil =>
    have shorter := member.length_value_le
    have closed : 0 < (onward '}' ([].map WrittenMember.text) gap).length := Nat.zero_lt_of_lt length_lt_onward
    obtain ⟨fuel, rfl⟩ := Nat.exists_eq_succ_of_ne_zero (Nat.ne_of_gt (by omega : 0 < fuel))
    rw [List.map_nil, onward_nil_append]
    exact skipMembers_last (each member (List.mem_cons_self ..) fuel (by omega)) blank
  | cons next members ih =>
    obtain ⟨own, others⟩ := List.forall_mem_cons.mp each
    have shorter := member.length_value_le
    rw [List.map_cons, length_onward_cons] at enough
    obtain ⟨fuel, rfl⟩ := Nat.exists_eq_succ_of_ne_zero (Nat.ne_of_gt (by omega : 0 < fuel))
    rw [List.map_cons, onward_cons_append, skipMembers_later (own fuel (by omega))]
    exact ih others (by omega)

section Brackets

variable {blanks : List Char} (before : Blanks blanks)
include before

theorem skipValue_list_closed (blank : Blanks gap) :
    skipValue (fuel + 1) (blanks ++ '[' :: (gap ++ ']' :: rest)) = .ok rest := by
  rw [skipValue, skipBlanks_append before, skipBlanks_cons (c := '[') rfl]
  simp only [skipBlanks_append blank, skipBlanks_cons (c := ']') rfl]

theorem skipValue_list_item {item : WrittenItem} (opens : Opens item.value) :
    skipValue (fuel + 1) (blanks ++ '[' :: (item.text ++ rest)) = skipItems fuel (item.bare.text ++ rest) := by
  have starts : Opens (item.bare.text ++ rest) := by
    rw [item.bare.text_append]
    exact opens.append _
  rw [skipValue, skipBlanks_append before, skipBlanks_cons (c := '[') rfl, item.text_eq, List.append_assoc]
  simp only [skipBlanks_append item.blankBefore, starts.skipBlanks]
  obtain ⟨c, more, same, _, other⟩ := starts
  simp [same, other]

theorem skipValue_object_closed (blank : Blanks gap) :
    skipValue (fuel + 1) (blanks ++ '{' :: (gap ++ '}' :: rest)) = .ok rest := by
  rw [skipValue, skipBlanks_append before, skipBlanks_cons (c := '{') rfl]
  simp only [skipBlanks_append blank, skipBlanks_cons (c := '}') rfl]

theorem skipValue_object_member (member : WrittenMember) :
    skipValue (fuel + 1) (blanks ++ '{' :: (member.text ++ rest)) = skipMembers fuel (member.bare.text ++ rest) := by
  rw [skipValue, skipBlanks_append before, skipBlanks_cons (c := '{') rfl, member.text_append]
  simp only [skipBlanks_append member.blankBefore, skipBlanks_cons (c := '"') rfl]
  rw [member.bare.text_append]
  rfl

end Brackets

theorem skippable_list (blank : Blanks gap) {items : List WrittenItem} (opens : ∀ item ∈ items, Opens item.value)
    (each : ∀ item ∈ items, Skippable item.value) : Skippable (listText items gap) := by
  intro fuel enough blanks rest before _
  have bracket : 2 ≤ (listText items gap).length := two_le_length_bracketed
  obtain ⟨fuel, rfl⟩ := Nat.exists_eq_succ_of_ne_zero (Nat.ne_of_gt (by omega : 0 < fuel))
  cases items with
  | nil =>
    rw [listText, List.map_nil, bracketed_nil_append]
    exact skipValue_list_closed before blank
  | cons item items =>
    have bare := item.length_bare_le
    rw [listText, List.map_cons, bracketed_cons] at enough ⊢
    simp only [List.length_cons, List.length_append] at enough
    rw [List.cons_append, List.append_assoc, skipValue_list_item before (opens item (List.mem_cons_self ..))]
    exact skipItems_onward blank (List.forall_mem_cons.mpr (List.forall_mem_cons.mp each)) (by omega)

theorem skippable_object (blank : Blanks gap) {members : List WrittenMember}
    (each : ∀ member ∈ members, Skippable member.item.value) : Skippable (objectText members gap) := by
  intro fuel enough blanks rest before _
  have bracket : 2 ≤ (objectText members gap).length := two_le_length_bracketed
  obtain ⟨fuel, rfl⟩ := Nat.exists_eq_succ_of_ne_zero (Nat.ne_of_gt (by omega : 0 < fuel))
  cases members with
  | nil =>
    rw [objectText, List.map_nil, bracketed_nil_append]
    exact skipValue_object_closed before blank
  | cons member members =>
    have bare := member.length_bare_le
    rw [objectText, List.map_cons, bracketed_cons] at enough ⊢
    simp only [List.length_cons, List.length_append] at enough
    rw [List.cons_append, List.append_assoc, skipValue_object_member before]
    exact skipMembers_onward blank (List.forall_mem_cons.mpr (List.forall_mem_cons.mp each)) (by omega)

theorem skippable_of_scalar {c : Char} {more : List Char} (visible : isBlank c = false)
    (noContainer : c ≠ '[' ∧ c ≠ '{') (scalar : ∀ rest, Ended rest → skipScalar (c :: more ++ rest) = .ok rest) :
    Skippable (c :: more) := by
  intro fuel enough blanks rest before ended
  rw [List.length_cons] at enough
  obtain ⟨fuel, rfl⟩ := Nat.exists_eq_succ_of_ne_zero (Nat.ne_of_gt (by omega : 0 < fuel))
  rw [skipValue, skipBlanks_append before, List.cons_append, skipBlanks_cons visible]
  split
  next same => exact absurd (List.cons.inj same).1 noContainer.1
  next same => exact absurd (List.cons.inj same).1 noContainer.2
  next => exact scalar rest ended

end Skipping

theorem skipScalar_of_digit {text : List Char} (digit : startsWithDigit text = true) :
    skipScalar text = skipNumeral text := by
  unfold skipScalar
  split
  next => cases digit
  next => cases digit
  next => cases digit
  next => cases digit
  next => cases digit
  next => cases digit
  next => rw [if_pos digit]

theorem Numeral.skippable (numeral : Numeral) : Skippable numeral.text := by
  obtain ⟨c, more, same, digit⟩ := numeral.opens
  obtain ⟨first, rest, cons, visible, _⟩ := opens_digit digit more
  obtain ⟨rfl, rfl⟩ := List.cons.inj cons
  rw [same]
  refine skippable_of_scalar visible ⟨?_, ?_⟩ fun rest ended => ?_
  · rintro rfl
    cases digit
  · rintro rfl
    cases digit
  · have starts : startsWithDigit (c :: more ++ rest) = true := digit
    rw [skipScalar_of_digit starts, ← same]
    exact skipNumeral_text numeral ended

theorem ValueText.skippable {text : List Char} (value : ValueText text) : Skippable text := by
  induction value with
  | null => exact skippable_of_scalar rfl (by decide) fun _ _ => rfl
  | true => exact skippable_of_scalar rfl (by decide) fun _ _ => rfl
  | false => exact skippable_of_scalar rfl (by decide) fun _ _ => rfl
  | numeral numeral => exact numeral.skippable
  | negative numeral => exact skippable_of_scalar rfl (by decide) fun _ ended => skipNumeral_text numeral ended
  | @string body well =>
    refine skippable_of_scalar rfl (by decide) fun rest _ => ?_
    have passed := skipQuoted_of_stringBody well rest
    rw [List.cons_append, List.append_assoc, List.singleton_append, skipScalar, passed]
  | list blank each ih => exact skippable_list blank (fun item member => (each item member).opens) ih
  | object blank _ ih => exact skippable_object blank ih

/-- A value nobody asked for is passed over, and nothing that follows it. -/
theorem skip_item {item : WrittenItem} (value : ValueText item.value) {rest : List Char} (ended : Ended rest) :
    skip (item.text ++ rest) = .ok (item.after ++ rest) := by
  have shorter := item.length_value_le
  apply PassedOver.item _ ended
  apply value.skippable
  rw [List.length_append]
  omega

end PageEditor.Json
