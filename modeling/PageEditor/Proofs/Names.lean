import PageEditor.Generate.Name

/-!
Names of references and handlers. They spell out an id in decimal digits, and what follows an id is no
digit: neither the underscore of a reference nor, where it starts with an ASCII letter, the capitalized
event of a handler.
-/

namespace PageEditor.Generate

variable {id other : ComponentId}

theorem isDigit_of_mem_idText {c : Char} (member : c ∈ (idText id).toList) : c.isDigit = true := by
  rw [idText, String.toList_ofList] at member
  exact Nat.isDigit_of_mem_toDigits (b := 10) (by decide) (by decide) member

theorem ofDigitChars_idText (id : ComponentId) : Nat.ofDigitChars 10 (idText id).toList 0 = id.toNat := by
  rw [idText, String.toList_ofList, Nat.ofDigitChars_ten_toDigits]

theorem idText_injective (same : (idText id).toList = (idText other).toList) : id = other := by
  apply UInt64.toNat_inj.mp
  rw [← ofDigitChars_idText id, ← ofDigitChars_idText other, same]

theorem idText_cons (id : ComponentId) : ∃ c rest, (idText id).toList = c :: rest ∧ c.isDigit = true := by
  cases written : (idText id).toList with
  | nil => simp [idText] at written
  | cons c rest =>
    have first : c ∈ (idText id).toList := by
      rw [written]
      exact List.mem_cons_self
    exact ⟨c, rest, rfl, isDigit_of_mem_idText first⟩

theorem takeWhile_idText (id : ComponentId) {c : Char} (apart : c.isDigit = false) (rest : List Char) :
    ((idText id).toList ++ c :: rest).takeWhile Char.isDigit = (idText id).toList := by
  rw [List.takeWhile_append_of_pos fun _ => isDigit_of_mem_idText]
  simp [apart]

/-- Where something else than a digit follows, it can be told where an id ends. -/
theorem idText_append_inj {c d : Char} {rest more : List Char} (apart : c.isDigit = false) (apart' : d.isDigit = false)
    (same : (idText id).toList ++ c :: rest = (idText other).toList ++ d :: more) :
    id = other ∧ c :: rest = d :: more := by
  have digits : (idText id).toList = (idText other).toList := by
    rw [← takeWhile_idText id apart rest, ← takeWhile_idText other apart' more, same]
  exact ⟨idText_injective digits, List.append_cancel_left (digits ▸ same)⟩

theorem toNat_of_isDigit {c : Char} (digit : c.isDigit = true) : 48 ≤ c.toNat ∧ c.toNat ≤ 57 := by
  simpa using Char.isDigit_iff_toNat.mp digit

theorem toNat_of_isAlpha {c : Char} (letter : c.isAlpha = true) : 65 ≤ c.toNat ∧ c.toNat ≤ 122 := by
  change (decide (65 ≤ c.toNat ∧ c.toNat ≤ 90) || (decide (97 ≤ c.toNat) && decide (c.toNat ≤ 122))) = true at letter
  simp only [Bool.or_eq_true, Bool.and_eq_true, decide_eq_true_eq] at letter
  omega

theorem toNat_of_startsIdentifier {c : Char} (starts : Text.startsIdentifier c = true) : c.toNat < 128 := by
  rw [Text.startsIdentifier, Bool.or_eq_true, Bool.or_eq_true] at starts
  rcases starts with (letter | underscore) | dollar
  · have bounds := toNat_of_isAlpha letter
    omega
  · rw [eq_of_beq underscore]
    decide
  · rw [eq_of_beq dollar]
    decide

/-- What a table shows of the codes of ASCII holds of its characters. -/
theorem of_ascii {P : Char → Prop} (table : ∀ code : Fin 128, P (Char.ofNat code)) {c : Char} (small : c.toNat < 128) :
    P c := by
  have own := table ⟨c.toNat, small⟩
  rwa [Char.ofNat_toNat] at own

theorem upper_of_ascii {c : Char} (small : c.toNat < 128) : Text.upper c = [c.toUpper] := if_pos small

theorem upper_of_isDigit {c : Char} (digit : c.isDigit = true) : Text.upper c = [c] := by
  have bounds := toNat_of_isDigit digit
  have small : c.toNat < 128 := by omega
  have own := of_ascii (P := fun c => c.isDigit = true → c.toUpper = c) (by decide) small
  rw [upper_of_ascii small, own digit]

theorem upper_of_isAlpha {c : Char} (letter : c.isAlpha = true) :
    Text.upper c = [c.toUpper] ∧ c.toUpper.isDigit = false := by
  have bounds := toNat_of_isAlpha letter
  have small : c.toNat < 128 := by omega
  have apart := of_ascii (P := fun c => c.isAlpha = true → c.toUpper.isDigit = false) (by decide) small
  exact ⟨upper_of_ascii small, apart letter⟩

/-- What can start an identifier is ASCII, so that its capital is one character, which can start one too. -/
theorem upper_of_startsIdentifier {c : Char} (starts : Text.startsIdentifier c = true) :
    Text.upper c = [c.toUpper] ∧ Text.startsIdentifier c.toUpper = true := by
  have small := toNat_of_startsIdentifier starts
  have capital := of_ascii
    (P := fun c => Text.startsIdentifier c = true → Text.startsIdentifier c.toUpper = true) (by decide) small
  exact ⟨upper_of_ascii small, capital starts⟩

theorem capitalize_idText (id : ComponentId) : Text.capitalize (idText id) = idText id := by
  obtain ⟨c, rest, written, digit⟩ := idText_cons id
  rw [Text.capitalize, written]
  simp only [upper_of_isDigit digit, List.singleton_append]
  rw [← written, String.ofList_toList]

theorem referenceName_toList (id : ComponentId) :
    (referenceName id).toList = (idText id).toList ++ '_' :: ['r', 'e', 'f'] := by
  rw [referenceName, String.toList_append]
  rfl

theorem referenceName_injective (same : referenceName id = referenceName other) : id = other := by
  apply And.left
  apply idText_append_inj (c := '_') (d := '_') rfl rfl
  rw [← referenceName_toList, ← referenceName_toList, same]

/-- The name of a handler whose event starts with an ASCII letter. -/
theorem handlerName_toList (id : ComponentId) {event : String} {c : Char} {rest : List Char}
    (spelled : event.toList = c :: rest) (letter : c.isAlpha = true) :
    (handlerName id event).toList = "handle".toList ++ ((idText id).toList ++ c.toUpper :: rest) := by
  rw [handlerName, capitalize_idText, Text.capitalize, spelled]
  simp [(upper_of_isAlpha letter).1]

/-- Events that start with one and the same letter can be told apart in the names of their handlers. -/
theorem handlerName_injective {event event' : String} {c : Char} {rest rest' : List Char}
    (spelled : event.toList = c :: rest) (spelled' : event'.toList = c :: rest') (letter : c.isAlpha = true)
    (same : handlerName id event = handlerName other event') : id = other ∧ event = event' := by
  have apart := (upper_of_isAlpha letter).2
  have whole : (idText id).toList ++ c.toUpper :: rest = (idText other).toList ++ c.toUpper :: rest' := by
    have named := congrArg String.toList same
    rw [handlerName_toList id spelled letter, handlerName_toList other spelled' letter] at named
    exact List.append_cancel_left named
  obtain ⟨owner, ending⟩ := idText_append_inj apart apart whole
  refine ⟨owner, String.toList_inj.mp ?_⟩
  rw [spelled, spelled', (List.cons.inj ending).2]

/-- One starts with a digit, the other with a letter. -/
theorem referenceName_ne_handlerName (event : String) : referenceName id ≠ handlerName other event := by
  intro same
  obtain ⟨c, rest, written, digit⟩ := idText_cons id
  have first : (referenceName id).toList.head? = (handlerName other event).toList.head? := by rw [same]
  rw [referenceName_toList, written] at first
  have letter : c = 'h' := by simpa [handlerName] using first
  rw [letter] at digit
  cases digit

end PageEditor.Generate
