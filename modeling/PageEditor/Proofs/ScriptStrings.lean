import Mathlib.Data.List.Basic
import PageEditor.Generate.Handler
import PageEditor.Proofs.StableValues

/-!
Single-quoted strings of the generated language. They are read here without looking at how they were
escaped: a string goes up to the first quote that no backslash precedes, it holds no line terminator, and
what a backslash starts stands for one character. Escaped text is read as the text it was made from, and
whatever follows it stays outside.
-/

namespace PageEditor.Text

def endsLine (c : Char) : Bool := c == '\n' || c == '\r' || c == '\u2028' || c == '\u2029'

theorem endsLine_eq_false_iff {c : Char} :
    endsLine c = false ↔ c ≠ '\n' ∧ c ≠ '\r' ∧ c ≠ '\u2028' ∧ c ≠ '\u2029' := by
  simp only [endsLine, Bool.or_eq_false_iff, beq_eq_false_iff_ne, and_assoc]

/-- What a character after a backslash stands for. -/
def letterMeaning? (letter : Char) : Option Char :=
  if letter = '\\' then some '\\'
  else if letter = '\'' then some '\''
  else if letter = 'n' then some '\n'
  else if letter = 'r' then some '\r'
  else none

/-- A string after its opening quote: the characters it stands for, and what follows its closing quote. -/
def readScript : List Char → Option (List Char × List Char)
  | [] => none
  | '\'' :: rest => some ([], rest)
  | '\\' :: 'u' :: a :: b :: c :: d :: rest => do
    let unit ← Json.hexUnit? a b c d
    let (text, rest) ← readScript rest
    if unit.isValidChar then some (Char.ofNat unit :: text, rest) else none
  | '\\' :: letter :: rest => do
    let plain ← letterMeaning? letter
    let (text, rest) ← readScript rest
    return (plain :: text, rest)
  | ['\\'] => none
  | c :: rest =>
    if endsLine c then none
    else do
      let (text, rest) ← readScript rest
      return (c :: text, rest)

section Reading

variable {text rest left : List Char}

theorem readScript_plain {c : Char} (notQuote : c ≠ '\'') (notBackslash : c ≠ '\\') (within : endsLine c = false)
    (onward : readScript rest = some (text, left)) : readScript (c :: rest) = some (c :: text, left) := by
  unfold readScript
  split
  next same => cases same
  next same => exact absurd (List.cons.inj same).1 notQuote
  next same => exact absurd (List.cons.inj same).1 notBackslash
  next same => exact absurd (List.cons.inj same).1 notBackslash
  next same => exact absurd (List.cons.inj same).1 notBackslash
  next same =>
    obtain ⟨rfl, rfl⟩ := List.cons.inj same
    rw [within, onward]
    rfl

theorem readScript_letter {letter c : Char} (known : letterMeaning? letter = some c)
    (onward : readScript rest = some (text, left)) : readScript ('\\' :: letter :: rest) = some (c :: text, left) := by
  have noUnit : letter ≠ 'u' := by
    rintro rfl
    cases known
  unfold readScript
  split
  next same => cases same
  next same => cases same
  next same => exact absurd (List.cons.inj (List.cons.inj same).2).1 noUnit
  next same =>
    obtain ⟨rfl, rfl⟩ := List.cons.inj (List.cons.inj same).2
    rw [known, onward]
    rfl
  next same => cases same
  next other _ same => exact (other _ _ (List.cons.inj same).1.symm (List.cons.inj same).2.symm).elim

theorem readScript_unit {a b c d : Char} {unit : Nat} (digits : Json.hexUnit? a b c d = some unit)
    (valid : unit.isValidChar) (onward : readScript rest = some (text, left)) :
    readScript ('\\' :: 'u' :: a :: b :: c :: d :: rest) = some (Char.ofNat unit :: text, left) := by
  rw [readScript, digits, onward]
  simp [valid]

/-- The ways in which a character is escaped: by a letter, by its code, or not at all. -/
theorem scriptEscape_cases (c : Char) :
    (∃ letter, scriptEscape c = ['\\', letter] ∧ letterMeaning? letter = some c) ∨
      (∃ a b d e unit, scriptEscape c = ['\\', 'u', a, b, d, e] ∧ Json.hexUnit? a b d e = some unit ∧
        unit.isValidChar ∧ Char.ofNat unit = c) ∨
      (scriptEscape c = [c] ∧ c ≠ '\'' ∧ c ≠ '\\' ∧ endsLine c = false) := by
  unfold scriptEscape
  split
  next => exact .inl ⟨'\\', rfl, rfl⟩
  next => exact .inl ⟨'\'', rfl, rfl⟩
  next => exact .inl ⟨'n', rfl, rfl⟩
  next => exact .inl ⟨'r', rfl, rfl⟩
  next => exact .inr (.inl ⟨'2', '0', '2', '8', 0x2028, rfl, rfl, by decide, rfl⟩)
  next => exact .inr (.inl ⟨'2', '0', '2', '9', 0x2029, rfl, rfl, by decide, rfl⟩)
  next backslash quote lineFeed carriageReturn lineSeparator paragraphSeparator =>
    refine .inr (.inr ⟨rfl, quote, backslash, ?_⟩)
    exact endsLine_eq_false_iff.mpr ⟨lineFeed, carriageReturn, lineSeparator, paragraphSeparator⟩

theorem readScript_escape (c : Char) (onward : readScript rest = some (text, left)) :
    readScript (scriptEscape c ++ rest) = some (c :: text, left) := by
  rcases scriptEscape_cases c with
    ⟨letter, written, known⟩ | ⟨a, b, d, e, unit, written, digits, valid, same⟩ | ⟨written, quote, backslash, within⟩
  · rw [written]
    exact readScript_letter known onward
  · rw [written, ← same]
    exact readScript_unit digits valid onward
  · rw [written]
    exact readScript_plain quote backslash within onward

theorem readScript_flatMap (text rest : List Char) :
    readScript (text.flatMap scriptEscape ++ '\'' :: rest) = some (text, rest) := by
  induction text with
  | nil => rfl
  | cons c text ih =>
    rw [List.flatMap_cons, List.append_assoc]
    exact readScript_escape c ih

end Reading

theorem scriptEscape_of_plain {c : Char} (plain : scriptNeedsEscape c = false) : scriptEscape c = [c] := by
  unfold scriptEscape
  split
  next => cases plain
  next => cases plain
  next => cases plain
  next => cases plain
  next => cases plain
  next => cases plain
  next => rfl

/-- Text that is handed on as it is has nothing to escape. -/
theorem toList_escapeScript (text : String) : (escapeScript text).toList = text.toList.flatMap scriptEscape := by
  unfold escapeScript
  split
  next => exact String.toList_ofList
  next harmless =>
    have same : ∀ c ∈ text.toList, scriptEscape c = [c] := by
      intro c member
      apply scriptEscape_of_plain
      rw [Bool.not_eq_true, List.any_eq_false] at harmless
      exact Bool.eq_false_iff.mpr (harmless c member)
    rw [List.flatMap_congr same, List.flatMap_singleton']

def oneLine (text : List Char) : Bool := text.all fun c => !endsLine c

@[simp] theorem oneLine_append (first second : List Char) :
    oneLine (first ++ second) = (oneLine first && oneLine second) := List.all_append

theorem oneLine_scriptEscape (c : Char) : oneLine (scriptEscape c) = true := by
  unfold scriptEscape
  split
  next => rfl
  next => rfl
  next => rfl
  next => rfl
  next => rfl
  next => rfl
  next _ _ lineFeed carriageReturn lineSeparator paragraphSeparator =>
    have within : endsLine c = false :=
      endsLine_eq_false_iff.mpr ⟨lineFeed, carriageReturn, lineSeparator, paragraphSeparator⟩
    simp [oneLine, within]

theorem oneLine_escapeScript (text : String) : oneLine (escapeScript text).toList = true := by
  rw [toList_escapeScript, oneLine, List.all_flatMap, List.all_eq_true]
  exact fun c _ => oneLine_scriptEscape c

theorem endsLine_of_continuesIdentifier {c : Char} (own : continuesIdentifier c = true) : endsLine c = false := by
  rw [Bool.eq_false_iff]
  intro terminator
  simp only [endsLine, Bool.or_eq_true, beq_iff_eq] at terminator
  rcases terminator with ((rfl | rfl) | rfl) | rfl <;> cases own

theorem oneLine_of_isIdentifier {text : String} (identifier : isIdentifier text = true) :
    oneLine text.toList = true := by
  rw [oneLine, List.all_eq_true]
  intro c member
  rw [endsLine_of_continuesIdentifier (continuesIdentifier_of_mem identifier member)]
  rfl

end PageEditor.Text

namespace PageEditor.Generate

open Text

/-- A kind of message that was read from a page is the name of a function, and nothing more. -/
theorem isIdentifier_of_showMessage {value : Json} {kind : MessageKind} {text : String}
    (decoded : Action.ofJson value = .showMessage kind text) : isIdentifier kind.name = true := by
  have known : Action.decode? value = some (.showMessage kind text) := by
    unfold Action.ofJson at decoded
    cases found : Action.decode? value with
    | none => simp [found] at decoded
    | some action => rw [← decoded, found, Option.getD_some]
  exact MessageKind.isIdentifier_of_ofName? (Action.understood_of_decode? known)

/-- The call that shows a message, with what stands between its quotes. -/
def messageCall (kind : MessageKind) (literal : String) : String :=
  "message." ++ kind.name ++ "('" ++ literal ++ "');"

section Escaped

variable {options : Options} (escapes : options.escapeLiterals = true)

include escapes

theorem scriptString_of_escaped (text : String) : scriptString options text = "'" ++ escapeScript text ++ "'" := by
  rw [scriptString, if_pos escapes]

theorem statement?_showMessage (kind : MessageKind) (text : String) :
    statement? options (.showMessage kind text) = some (messageCall kind (escapeScript text)) := by
  rw [statement?, scriptString_of_escaped escapes, messageCall]
  simp only [String.append_assoc]
  rfl

end Escaped

theorem oneLine_messageCall {kind : MessageKind} {literal : String} (identifier : isIdentifier kind.name = true)
    (short : oneLine literal.toList = true) : oneLine (messageCall kind literal).toList = true := by
  simp only [messageCall, String.toList_append, oneLine_append, oneLine_of_isIdentifier identifier, short]
  rfl

/-- Whatever a text holds, it ends up in one string of the generated module: up to its closing quote the string
stands for the text, and what follows is left to the module. So a message is shown by one call on one line, of a
function that is named by an identifier, and a state starts as one string. -/
theorem text_stays_quoted (options : Options) :
    (∀ text : String, (escapeScript text).toList = text.toList.flatMap scriptEscape) ∧
      (∀ (text : String) (rest : List Char),
        readScript ((escapeScript text).toList ++ '\'' :: rest) = some (text.toList, rest)) ∧
      (options.escapeLiterals = true →
        (∀ value kind text, Action.ofJson value = .showMessage kind text →
          isIdentifier kind.name = true ∧
            ∃ literal : String, statement? options (Action.ofJson value) = some (messageCall kind literal) ∧
              oneLine (messageCall kind literal).toList = true ∧
              ∀ rest, readScript (literal.toList ++ '\'' :: rest) = some (text.toList, rest)) ∧
        ∀ forest component value, component ∈ forest → component.prop? "value" = some (.literal value) →
          ∃ state ∈ stateVariables options forest, state.component = component.id ∧
            ∃ literal : String, state.initial = "'" ++ literal ++ "'" ∧
              readScript (literal ++ "'").toList = some (value.text.toList, [])) := by
  have quoted : ∀ (text : String) (rest : List Char),
      readScript ((escapeScript text).toList ++ '\'' :: rest) = some (text.toList, rest) := by
    intro text rest
    rw [toList_escapeScript]
    exact readScript_flatMap text.toList rest
  refine ⟨toList_escapeScript, quoted, ?_⟩
  intro escapes
  refine ⟨?_, ?_⟩
  · intro value kind text decoded
    have identifier := isIdentifier_of_showMessage decoded
    refine ⟨identifier, escapeScript text, ?_, oneLine_messageCall identifier (oneLine_escapeScript text), quoted text⟩
    rw [decoded]
    exact statement?_showMessage escapes kind text
  · intro forest component value member stored
    have declared : stateVariable? options component =
        some ⟨component.id, (stateNames component).1, (stateNames component).2, scriptString options value.text⟩ := by
      rw [stateVariable?, stored]
      rfl
    refine ⟨_, List.mem_filterMap.mpr ⟨component, member, declared⟩, rfl, escapeScript value.text, ?_, ?_⟩
    · exact scriptString_of_escaped escapes value.text
    · rw [String.toList_append]
      exact quoted value.text []

/-- A message whose text ends a string and a line of its own. -/
def outbreakMessage : Json :=
  .object [("type", .string "showMessage"),
    ("config", .object [("type", .string "warn"), ("text", .string "');\nalert('\\")])]

/-- An input whose value looks escaped already. -/
def outbreakInput : Component :=
  ⟨1, "Input", ⟨[("name", .literal (.string "note")), ("value", .literal (.string "\\'; it\\"))], by decide⟩, none, "",
    none, none⟩

theorem text_stays_quoted_outbreak :
    Options.standard.escapeLiterals = true ∧
      Action.ofJson outbreakMessage = .showMessage (.other "warn") "');\nalert('\\" ∧
      isIdentifier (MessageKind.other "warn").name = true ∧
      (∃ literal : String, statement? .standard (Action.ofJson outbreakMessage) =
          some (messageCall (.other "warn") literal) ∧
        ∀ rest, readScript (literal.toList ++ '\'' :: rest) = some ("');\nalert('\\".toList, rest)) ∧
      outbreakInput ∈ [outbreakInput] ∧
      outbreakInput.prop? "value" = some (.literal (.string "\\'; it\\")) ∧
      ∃ state ∈ stateVariables .standard [outbreakInput], ∃ literal : String, state.initial = "'" ++ literal ++ "'" ∧
        readScript (literal ++ "'").toList = some ("\\'; it\\".toList, []) := by
  obtain ⟨_, _, hence⟩ := text_stays_quoted .standard
  obtain ⟨messages, states⟩ := hence rfl
  have decoded : Action.ofJson outbreakMessage = .showMessage (.other "warn") "');\nalert('\\" := by decide +kernel
  have stored : outbreakInput.prop? "value" = some (.literal (.string "\\'; it\\")) := by decide +kernel
  have member : outbreakInput ∈ [outbreakInput] := List.mem_singleton_self _
  obtain ⟨identifier, literal, written, _, read⟩ := messages outbreakMessage _ _ decoded
  obtain ⟨state, declared, _, start⟩ := states [outbreakInput] outbreakInput _ member stored
  exact ⟨rfl, decoded, identifier, ⟨literal, written, read⟩, member, stored, state, declared, start⟩

end PageEditor.Generate
