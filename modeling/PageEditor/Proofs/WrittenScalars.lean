import Mathlib.Data.Nat.Digits.Defs
import PageEditor.Json.Reader
import PageEditor.Json.Writer

/-!
Reading back what was written of whole numbers and of strings. The digits of a number end where
something else follows them, so what follows a number matters; a string ends at its own quote.
-/

namespace PageEditor.Json

/-- What may follow a number without becoming a part of it. -/
def Ended (rest : List Char) : Prop :=
  ∀ c ∈ rest.head?, c.isDigit = false ∧ c ≠ '.' ∧ c ≠ 'e' ∧ c ≠ 'E'

theorem ended_nil : Ended [] := nofun

theorem ended_cons {c : Char} (rest : List Char) (other : c.isDigit = false ∧ c ≠ '.' ∧ c ≠ 'e' ∧ c ≠ 'E') :
    Ended (c :: rest) := by
  intro head same
  obtain rfl := Option.some.inj same
  exact other

theorem Ended.startsWithDigit {rest : List Char} (ended : Ended rest) : startsWithDigit rest = false := by
  cases rest with
  | nil => rfl
  | cons c rest => exact (ended c rfl).1

theorem le_ofDigitChars (digits : List Char) (start : Nat) : start ≤ Nat.ofDigitChars 10 digits start := by
  rw [Nat.ofDigitChars_eq_ofDigitChars_zero]
  have positive : 1 ≤ 10 ^ digits.length := Nat.one_le_pow _ _ (by omega)
  have scaled : 1 * start ≤ 10 ^ digits.length * start := Nat.mul_le_mul_right start positive
  omega

theorem takeDigits_of_ended {rest : List Char} (ended : Ended rest) (significand : Nat) :
    takeDigits significand rest = (significand, 0, rest) := by
  cases rest with
  | nil => rfl
  | cons c rest =>
    have other : digit? c = none := by simp [digit?, (ended c rfl).1]
    simp only [takeDigits, other]

/-- As long as 64 bits hold the number, all of its digits are taken. -/
theorem takeDigits_append {digits rest : List Char} (all : ∀ c ∈ digits, c.isDigit = true) (ended : Ended rest)
    {start : Nat} (fits : Nat.ofDigitChars 10 digits start < wordLimit) :
    takeDigits start (digits ++ rest) = (Nat.ofDigitChars 10 digits start, digits.length, rest) := by
  induction digits generalizing start with
  | nil => exact takeDigits_of_ended ended start
  | cons c digits ih =>
    have digit : digit? c = some (c.toNat - '0'.toNat) := by simp [digit?, all c]
    rw [Nat.ofDigitChars_cons, Nat.mul_comm] at fits ⊢
    have smaller : start * 10 + (c.toNat - '0'.toNat) < wordLimit := Nat.lt_of_le_of_lt (le_ofDigitChars digits _) fits
    have onward := ih (fun other member => all other (List.mem_cons_of_mem c member)) fits
    rw [List.cons_append, takeDigits, digit]
    simp only [smaller, ite_true, onward, List.length_cons]

theorem dropDigits_of_ended {rest : List Char} (ended : Ended rest) : dropDigits rest = (0, rest) := by
  cases rest with
  | nil => rfl
  | cons c rest => simp [dropDigits, (ended c rfl).1]

theorem isDigit_of_mem_digits {value : Nat} {c : Char} (member : c ∈ Number.digits value) : c.isDigit = true :=
  Nat.isDigit_of_mem_toDigits (by omega) (by omega) member

/-- No number but zero is written with a zero in front. -/
theorem head?_digits {value : Nat} (positive : 0 < value) : (Number.digits value).head? ≠ some '0' := by
  induction value using Nat.strongRecOn with
  | ind value ih =>
    intro zero
    by_cases small : value < 10
    · rw [Number.digits, Nat.toDigits_of_lt_base small] at zero
      have same : value = 0 := Nat.digitChar_eq_zero.mp (Option.some.inj zero)
      omega
    · rw [Number.digits, Nat.toDigits_of_base_le (by omega) (by omega), List.head?_append] at zero
      have shorter : (Number.digits (value / 10)).head? ≠ some '0' := ih (value / 10) (by omega) (by omega)
      cases front : (Nat.toDigits 10 (value / 10)).head? with
      | none => exact Nat.toDigits_ne_nil (List.head?_eq_none_iff.mp front)
      | some c =>
        rw [front] at zero
        exact shorter (front.trans zero)

theorem noLeadingZero {value : Nat} {rest : List Char} (ended : Ended rest) :
    ¬((Number.digits value ++ rest).head? = some '0' ∧ startsWithDigit (Number.digits value ++ rest).tail = true) := by
  rintro ⟨zero, more⟩
  by_cases positive : 0 < value
  · cases written : Number.digits value with
    | nil => exact Nat.toDigits_ne_nil written
    | cons c digits =>
      have front := head?_digits positive
      rw [written] at zero front
      exact front zero
  · obtain rfl : value = 0 := by omega
    have single : startsWithDigit rest = true := more
    rw [ended.startsWithDigit] at single
    cases single

theorem startsWithDigit_digits (value : Nat) (rest : List Char) :
    startsWithDigit (Number.digits value ++ rest) = true := by
  cases written : Number.digits value with
  | nil => exact absurd written Nat.toDigits_ne_nil
  | cons c digits =>
    have member : c ∈ Number.digits value := by simp [written]
    exact isDigit_of_mem_digits member

theorem readNumeral_digits (negative : Bool) {value : Nat} (fits : value < wordLimit) {rest : List Char}
    (ended : Ended rest) :
    readNumeral negative (Number.digits value ++ rest) = .ok (Number.ofSigned negative value, rest) := by
  have all : ∀ c ∈ Number.digits value, c.isDigit = true := fun _ => isDigit_of_mem_digits
  have worth : Nat.ofDigitChars 10 (Number.digits value) 0 = value := Nat.ofDigitChars_ten_toDigits
  have taken := takeDigits_append all ended (worth.symm ▸ fits)
  rw [worth] at taken
  have digit := startsWithDigit_digits value rest
  have filled : (Number.digits value ++ rest).isEmpty = false := by
    simp [Number.digits, Nat.toDigits_ne_nil]
  unfold readNumeral
  rw [filled, digit, if_neg (noLeadingZero ended), taken]
  simp only [dropDigits_of_ended ended]
  cases rest with
  | nil => rfl
  | cons c rest =>
    obtain ⟨_, point, small, large⟩ := ended c rfl
    simp [point, small, large, pure, Except.pure]

theorem ofInt?_of_fits {value : Int} (fits : FitsWord value) :
    Number.ofInt? value = some (.integer value fits) := dif_pos fits

theorem ofSigned_natAbs {value : Int} (fits : FitsWord value) :
    Number.ofSigned (decide (value < 0)) value.natAbs = .integer value fits := by
  by_cases negative : value < 0
  · have nonzero : value.natAbs ≠ 0 := by omega
    have same : (-value.natAbs : Int) = value := by omega
    simp only [Number.ofSigned, negative, decide_true, Bool.true_and, beq_iff_eq, nonzero, ite_false, ite_true, same,
      ofInt?_of_fits fits]
  · have same : (value.natAbs : Int) = value := by omega
    simp only [Number.ofSigned, negative, decide_false, Bool.false_and, Bool.false_eq_true, ite_false, same,
      ofInt?_of_fits fits]

theorem readScalar_of_digit {text : List Char} (digit : startsWithDigit text = true) :
    readScalar text = (do
      let (value, rest) ← readNumeral false text
      return (.number value, rest)) := by
  unfold readScalar
  split
  next => cases digit
  next => cases digit
  next => cases digit
  next => cases digit
  next => cases digit
  next => cases digit
  next => rw [if_pos digit]

theorem readScalar_minus (text : List Char) :
    readScalar ('-' :: text) = (do
      let (value, rest) ← readNumeral true text
      return (.number value, rest)) := rfl

theorem readScalar_integer {value : Int} (fits : FitsWord value) {rest : List Char} (ended : Ended rest) :
    readScalar ((Number.integer value fits).chars ++ rest) = .ok (.number (.integer value fits), rest) := by
  have held : value.natAbs < wordLimit := by
    have bounds : -0x8000000000000000 ≤ value ∧ value < 0x10000000000000000 := fits
    unfold wordLimit
    omega
  have magnitude := readNumeral_digits (decide (value < 0)) held ended
  rw [ofSigned_natAbs fits] at magnitude
  by_cases negative : value < 0
  · rw [decide_eq_true negative] at magnitude
    rw [Number.chars, if_pos negative, List.cons_append, readScalar_minus, magnitude]
    rfl
  · rw [decide_eq_false negative] at magnitude
    have digit : startsWithDigit (Number.digits value.natAbs ++ rest) = true := startsWithDigit_digits ..
    rw [Number.chars, if_neg negative, readScalar_of_digit digit, magnitude]
    rfl

theorem hexUnit?_control {c : Char} (control : c < ' ') :
    hexUnit? '0' '0' (Nat.digitChar (c.toNat / 16)) (Nat.digitChar (c.toNat % 16)) = some c.toNat := by
  have small : c.toNat < 32 := control
  have each : ∀ code < 32, hexUnit? '0' '0' (Nat.digitChar (code / 16)) (Nat.digitChar (code % 16)) = some code := by
    decide
  exact each c.toNat small

theorem not_surrogate_of_control {c : Char} (control : c < ' ') :
    isLowSurrogate c.toNat = false ∧ isHighSurrogate c.toNat = false := by
  have small : c.toNat < 32 := control
  simp only [isLowSurrogate, isHighSurrogate, Bool.and_eq_false_iff, decide_eq_false_iff_not]
  omega

theorem isLowSurrogate_of_isHighSurrogate {unit : Nat} (high : isHighSurrogate unit = true) :
    isLowSurrogate unit = false := by
  simp only [isHighSurrogate, isLowSurrogate, Bool.and_eq_true, decide_eq_true_eq, Bool.and_eq_false_iff,
    decide_eq_false_iff_not] at high ⊢
  omega

/-- What stands between the quotes of a string spells these characters. A surrogate spells nothing on its own. -/
inductive Spells : List Char → List Char → Prop where
  | nil : Spells [] []
  | plain {c : Char} {body text : List Char} (notQuote : c ≠ '"') (notBackslash : c ≠ '\\') (notControl : ¬c < ' ')
      (more : Spells body text) : Spells (c :: body) (c :: text)
  | letter {letter c : Char} {body text : List Char} (known : simpleEscape? letter = some c)
      (more : Spells body text) : Spells ('\\' :: letter :: body) (c :: text)
  | unit {a b c d : Char} {unit : Nat} {body text : List Char} (digits : hexUnit? a b c d = some unit)
      (notLow : isLowSurrogate unit = false) (notHigh : isHighSurrogate unit = false) (more : Spells body text) :
      Spells ('\\' :: 'u' :: a :: b :: c :: d :: body) (Char.ofNat unit :: text)
  | pair {a b c d e f g h : Char} {high low : Nat} {body text : List Char} (first : hexUnit? a b c d = some high)
      (second : hexUnit? e f g h = some low) (isHigh : isHighSurrogate high = true)
      (isLow : isLowSurrogate low = true) (more : Spells body text) :
      Spells ('\\' :: 'u' :: a :: b :: c :: d :: '\\' :: 'u' :: e :: f :: g :: h :: body)
        (joinSurrogates high low :: text)

section Quoted

variable {body text rest : List Char}

theorem readQuoted_plain {c : Char} (notQuote : c ≠ '"') (notBackslash : c ≠ '\\') (notControl : ¬c < ' ') :
    readQuoted (c :: rest) = (do
      let (text, rest) ← readQuoted rest
      return (c :: text, rest)) := by
  rw [readQuoted.eq_def]
  split
  next same => cases same
  next same => exact absurd (List.cons.inj same).1 notQuote
  next same => exact absurd (List.cons.inj same).1 notBackslash
  next same => exact absurd (List.cons.inj same).1 notBackslash
  next same => exact absurd (List.cons.inj same).1 notBackslash
  next same =>
    obtain ⟨rfl, rfl⟩ := List.cons.inj same
    rw [if_neg notControl]

theorem readQuoted_letter {letter c : Char} (known : simpleEscape? letter = some c) :
    readQuoted ('\\' :: letter :: rest) = (do
      let (text, rest) ← readQuoted rest
      return (c :: text, rest)) := by
  have noUnit : letter ≠ 'u' := by
    rintro rfl
    cases known
  rw [readQuoted.eq_def]
  split
  next same => cases same
  next same => cases same
  next same => exact absurd (List.cons.inj (List.cons.inj same).2).1 noUnit
  next same =>
    obtain ⟨rfl, rfl⟩ := List.cons.inj (List.cons.inj same).2
    rw [known]
  next same => cases same
  next other _ same => exact (other _ _ (List.cons.inj same).1.symm (List.cons.inj same).2.symm).elim

theorem readQuoted_unit {a b c d : Char} {unit : Nat} (digits : hexUnit? a b c d = some unit)
    (notLow : isLowSurrogate unit = false) (notHigh : isHighSurrogate unit = false) :
    readQuoted ('\\' :: 'u' :: a :: b :: c :: d :: rest) = (do
      let (text, rest) ← readQuoted rest
      return (Char.ofNat unit :: text, rest)) := by
  rw [readQuoted]
  simp only [digits, notLow, notHigh]
  rfl

/-- After the first half of a pair there is either its second half or an error. -/
theorem readQuoted_high {a b c d e f g h : Char} {high low : Nat} (first : hexUnit? a b c d = some high)
    (isHigh : isHighSurrogate high = true) (second : hexUnit? e f g h = some low) :
    readQuoted ('\\' :: 'u' :: a :: b :: c :: d :: '\\' :: 'u' :: e :: f :: g :: h :: rest) =
      if isLowSurrogate low then do
        let (text, rest) ← readQuoted rest
        return (joinSurrogates high low :: text, rest)
      else .error (.before .loneSurrogate rest) := by
  rw [readQuoted]
  simp only [first, second, isHigh, isLowSurrogate_of_isHighSurrogate isHigh]
  rfl

theorem readQuoted_of_spells (spells : Spells body text) (rest : List Char) :
    readQuoted (body ++ '"' :: rest) = .ok (text, rest) := by
  induction spells with
  | nil => rfl
  | plain notQuote notBackslash notControl _ ih =>
    rw [List.cons_append, readQuoted_plain notQuote notBackslash notControl, ih]
    rfl
  | letter known _ ih =>
    rw [List.cons_append, List.cons_append, readQuoted_letter known, ih]
    rfl
  | unit digits notLow notHigh _ ih =>
    simp only [List.cons_append]
    rw [readQuoted_unit digits notLow notHigh, ih]
    rfl
  | pair first second isHigh isLow _ ih =>
    simp only [List.cons_append]
    rw [readQuoted_high first isHigh second, if_pos isLow, ih]
    rfl

theorem escaped_of_special {c : Char} (special : c ∈ ['"', '\\', '\x08', '\x0c', '\n', '\r', '\t']) :
    ∃ letter, escaped c = ['\\', letter] ∧ simpleEscape? letter = some c := by
  simp only [List.mem_cons, List.not_mem_nil, or_false] at special
  rcases special with rfl | rfl | rfl | rfl | rfl | rfl | rfl
  · exact ⟨'"', rfl, rfl⟩
  · exact ⟨'\\', rfl, rfl⟩
  · exact ⟨'b', rfl, rfl⟩
  · exact ⟨'f', rfl, rfl⟩
  · exact ⟨'n', rfl, rfl⟩
  · exact ⟨'r', rfl, rfl⟩
  · exact ⟨'t', rfl, rfl⟩

/-- The three ways to write a character: by a letter, by its code, or as it is. -/
theorem escaped_cases (c : Char) :
    (∃ letter, escaped c = ['\\', letter] ∧ simpleEscape? letter = some c) ∨
      (escaped c = ['\\', 'u', '0', '0', Nat.digitChar (c.toNat / 16), Nat.digitChar (c.toNat % 16)] ∧ c < ' ') ∨
      (escaped c = [c] ∧ c ≠ '"' ∧ c ≠ '\\' ∧ ¬c < ' ') := by
  by_cases special : c ∈ ['"', '\\', '\x08', '\x0c', '\n', '\r', '\t']
  · exact .inl (escaped_of_special special)
  · simp only [List.mem_cons, List.not_mem_nil, or_false, not_or] at special
    obtain ⟨quote, backslash, backspace, formFeed, lineFeed, carriageReturn, tab⟩ := special
    rw [escaped, if_neg quote, if_neg backslash, if_neg backspace, if_neg formFeed, if_neg lineFeed,
      if_neg carriageReturn, if_neg tab]
    by_cases control : c < ' '
    · exact .inr (.inl ⟨if_pos control, control⟩)
    · exact .inr (.inr ⟨if_neg control, quote, backslash, control⟩)

theorem Spells.escaped (c : Char) (more : Spells body text) : Spells (escaped c ++ body) (c :: text) := by
  rcases escaped_cases c with
    ⟨letter, written, known⟩ | ⟨written, control⟩ | ⟨written, notQuote, notBackslash, notControl⟩
  · rw [written]
    exact .letter known more
  · obtain ⟨notLow, notHigh⟩ := not_surrogate_of_control control
    have unit : Spells _ (Char.ofNat c.toNat :: text) := .unit (hexUnit?_control control) notLow notHigh more
    rw [Char.ofNat_toNat] at unit
    rw [written]
    exact unit
  · rw [written]
    exact .plain notQuote notBackslash notControl more

theorem spells_flatMap_escaped (text : List Char) : Spells (text.flatMap escaped) text := by
  induction text with
  | nil => exact .nil
  | cons c text ih =>
    rw [List.flatMap_cons]
    exact ih.escaped c

/-- A string is read up to its closing quote, whatever it holds. -/
theorem readQuoted_flatMap_escaped (text rest : List Char) :
    readQuoted (text.flatMap escaped ++ '"' :: rest) = .ok (text, rest) :=
  readQuoted_of_spells (spells_flatMap_escaped text) rest

end Quoted

theorem readScalar_quote (text : List Char) :
    readScalar ('"' :: text) = (do
      let (text, rest) ← readQuoted text
      return (.string (String.ofList text), rest)) := rfl

theorem readScalar_quoted (text : String) (rest : List Char) :
    readScalar (quoted text ++ rest) = .ok (.string text, rest) := by
  rw [quoted, List.cons_append, List.cons_append, List.append_assoc, List.singleton_append, readScalar_quote,
    readQuoted_flatMap_escaped]
  simp only [bind, Except.bind, String.ofList_toList]
  rfl

end PageEditor.Json
