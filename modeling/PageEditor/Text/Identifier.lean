/-!
Identifiers of the generated language, as far as the editor accepts them: ASCII letters, digits,
underscore and dollar sign, the first of them no digit.
-/

namespace PageEditor.Text

def startsIdentifier (c : Char) : Bool := c.isAlpha || c == '_' || c == '$'

def continuesIdentifier (c : Char) : Bool := startsIdentifier c || c.isDigit

def isIdentifier (text : String) : Bool :=
  match text.toList with
  | [] => false
  | c :: rest => startsIdentifier c && rest.all continuesIdentifier

theorem continuesIdentifier_of_startsIdentifier {c : Char} (starts : startsIdentifier c = true) :
    continuesIdentifier c = true := by rw [continuesIdentifier, starts, Bool.true_or]

theorem isIdentifier_eq_true_iff {text : String} :
    isIdentifier text = true ↔
      ∃ c rest, text.toList = c :: rest ∧ startsIdentifier c = true ∧ ∀ d ∈ rest, continuesIdentifier d = true := by
  cases spelled : text.toList with
  | nil => simp [isIdentifier, spelled]
  | cons c rest =>
    simp only [isIdentifier, spelled, Bool.and_eq_true, List.all_eq_true]
    constructor
    · intro identifier
      exact ⟨c, rest, rfl, identifier⟩
    · rintro ⟨_, _, same, identifier⟩
      cases same
      exact identifier

theorem continuesIdentifier_of_mem {text : String} (identifier : isIdentifier text = true) {c : Char}
    (member : c ∈ text.toList) : continuesIdentifier c = true := by
  obtain ⟨first, rest, spelled, starts, continues⟩ := isIdentifier_eq_true_iff.mp identifier
  rw [spelled] at member
  rcases List.mem_cons.mp member with rfl | later
  · exact continuesIdentifier_of_startsIdentifier starts
  · exact continues c later

end PageEditor.Text
