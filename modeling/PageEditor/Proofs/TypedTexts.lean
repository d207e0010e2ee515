import PageEditor.Json.Typed
import PageEditor.Proofs.ContainerSteps

/-!
Reading a string, a boolean or a list of strings where one is wanted. What is spelled so is read as what it
is, and of any other value either all is read or nothing: no reader stops in the middle of a value.
-/

namespace PageEditor.Json

/-- A string between its quotes. -/
def Quotes (value : List Char) (text : String) : Prop :=
  ∃ body, value = '"' :: (body ++ ['"']) ∧ Spells body text.toList

section Reading

variable {value : List Char}

theorem Quotes.opens {text : String} (quotes : Quotes value text) : Opens value := by
  obtain ⟨body, rfl, _⟩ := quotes
  exact ⟨'"', _, rfl, rfl, by decide⟩

theorem readsBack_string {text : String} (quotes : Quotes value text) : ReadsBack readString value text := by
  obtain ⟨body, rfl, spells⟩ := quotes
  intro blanks rest before _
  have taken := readQuoted_of_spells spells rest
  rw [List.cons_append, List.append_assoc, List.singleton_append, readString, skipBlanks_append before,
    skipBlanks_cons (c := '"') rfl]
  simp only [taken, bind, Except.bind, String.ofList_toList]
  rfl

theorem readsBack_true : ReadsBack readBool ['t', 'r', 'u', 'e'] true := by
  intro blanks rest before _
  rw [readBool, skipBlanks_append before]
  rfl

theorem readsBack_false : ReadsBack readBool ['f', 'a', 'l', 's', 'e'] false := by
  intro blanks rest before _
  rw [readBool, skipBlanks_append before]
  rfl

theorem readsBack_strings {items : List WrittenItem} {gap : List Char} {texts : List String} (blank : Blanks gap)
    (each : List.Forall₂ (fun item text => Quotes item.value text) items texts) :
    ReadsBack readStrings (listText items gap) texts := by
  intro blanks rest before _
  have strings : List.Forall₂ (fun item text => Opens item.value ∧ ReadsBack readString item.value text) items texts :=
    each.imp fun _ _ quotes => ⟨quotes.opens, readsBack_string quotes⟩
  obtain ⟨opens, reads⟩ := (List.forall₂_and_left items texts).mp strings
  obtain ⟨text, same, long, ahead⟩ := itemsAhead_first blank opens rest
  rw [same, readStrings, skipBlanks_append before, skipBlanks_cons (c := '[') rfl]
  exact readItems_ahead blank opens reads (Nat.lt_succ_of_le long) ahead

end Reading

section Inversion

variable {text left : List Char}

theorem readString_eq_ok {value : String} (taken : readString text = .ok (value, left)) :
    ∃ more chars, skipBlanks text = '"' :: more ∧ readQuoted more = .ok (chars, left) := by
  unfold readString at taken
  split at taken
  next more same =>
    obtain ⟨⟨chars, rest⟩, read, answered⟩ := bind_eq_ok.mp taken
    cases answered
    exact ⟨more, chars, same, read⟩
  next => cases taken

theorem readBool_eq_ok {value : Bool} (taken : readBool text = .ok (value, left)) :
    ∃ more, (skipBlanks text = 't' :: more ∧ readWord ['r', 'u', 'e'] more = .ok left) ∨
      (skipBlanks text = 'f' :: more ∧ readWord ['a', 'l', 's', 'e'] more = .ok left) := by
  unfold readBool at taken
  split at taken
  next more same =>
    obtain ⟨rest, read, answered⟩ := bind_eq_ok.mp taken
    cases answered
    exact ⟨more, .inl ⟨same, read⟩⟩
  next more same =>
    obtain ⟨rest, read, answered⟩ := bind_eq_ok.mp taken
    cases answered
    exact ⟨more, .inr ⟨same, read⟩⟩
  next => cases taken

theorem readStrings_eq_ok {values : List String} (taken : readStrings text = .ok (values, left)) :
    ∃ more, skipBlanks text = '[' :: more ∧ readItems readString (more.length + 1) true more = .ok (values, left) := by
  unfold readStrings at taken
  split at taken
  next more same => exact ⟨more, same, taken⟩
  next => cases taken

end Inversion

namespace ValueText

variable {value : List Char}

theorem skipBlanks (written : ValueText value) {blanks : List Char} (before : Blanks blanks) (rest : List Char) :
    skipBlanks (blanks ++ (value ++ rest)) = value ++ rest :=
  (skipBlanks_append before _).trans (written.opens.append rest).skipBlanks

theorem endsWith_string (written : ValueText value) : EndsWith readString value := by
  intro blanks rest text left before taken
  obtain ⟨more, chars, same, read⟩ := readString_eq_ok taken
  rw [written.skipBlanks before] at same
  cases written with
  | numeral numeral => exact absurd same (numeral.append_ne rfl)
  | string well =>
    rw [List.cons_append, List.append_assoc] at same
    cases same
    exact readQuoted_ends well read
  | _ => cases same

theorem endsWith_bool (written : ValueText value) : EndsWith readBool value := by
  intro blanks rest flag left before taken
  obtain ⟨more, found⟩ := readBool_eq_ok taken
  rw [written.skipBlanks before] at found
  rcases found with ⟨same, read⟩ | ⟨same, read⟩
  · cases written with
    | true =>
      cases same
      cases read
      rfl
    | numeral numeral => exact absurd same (numeral.append_ne rfl)
    | _ => cases same
  · cases written with
    | false =>
      cases same
      cases read
      rfl
    | numeral numeral => exact absurd same (numeral.append_ne rfl)
    | _ => cases same

theorem endsWith_strings (written : ValueText value) : EndsWith readStrings value := by
  intro blanks rest texts left before taken
  obtain ⟨more, same, read⟩ := readStrings_eq_ok taken
  rw [written.skipBlanks before] at same
  cases written with
  | numeral numeral => exact absurd same (numeral.append_ne rfl)
  | list blank each =>
    obtain ⟨text, opened, _, ahead⟩ := itemsAhead_first blank (fun item member => (each item member).opens) rest
    rw [opened] at same
    cases same
    exact readItems_ends blank (fun item member => (each item member).opens)
      (fun item member => (each item member).endsWith_string) ahead read
  | _ => cases same

end ValueText

end PageEditor.Json
