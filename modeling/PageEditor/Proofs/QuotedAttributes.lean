import Mathlib.Data.List.Basic
import PageEditor.Proofs.MarkupLines
import PageEditor.Proofs.WrittenScalars

/-!
Double-quoted attributes of the markup. Such an attribute goes up to the next double quote, and entities in it
stand for other characters. Escaped text holds no double quote, its ampersands all start entities, and decoding
these gives the text back, also where it looks escaped already. A number is written without any of these
characters, so every literal stays inside its attribute and is read from it.
-/

namespace PageEditor.Text

/-- Entities are taken from the left, and what they stand for is not looked at again. -/
def decodeEntities : List Char → List Char
  | [] => []
  | '&' :: 'a' :: 'm' :: 'p' :: ';' :: rest => '&' :: decodeEntities rest
  | '&' :: 'q' :: 'u' :: 'o' :: 't' :: ';' :: rest => '"' :: decodeEntities rest
  | c :: rest => c :: decodeEntities rest

/-- What stands behind an ampersand makes an entity of it. -/
def EndsEntity (rest : List Char) : Prop := ['a', 'm', 'p', ';'] <+: rest ∨ ['q', 'u', 'o', 't', ';'] <+: rest

def OnlyEntities (text : List Char) : Prop := ∀ before rest, text = before ++ '&' :: rest → EndsEntity rest

theorem decodeEntities_plain {c : Char} (other : c ≠ '&') (rest : List Char) :
    decodeEntities (c :: rest) = c :: decodeEntities rest := by
  rw [decodeEntities]
  · rintro _ rfl
    exact absurd rfl other
  · rintro _ rfl
    exact absurd rfl other

theorem onlyEntities_cons {c : Char} {text : List Char} (entity : c = '&' → EndsEntity text)
    (within : OnlyEntities text) : OnlyEntities (c :: text) := by
  intro before rest split
  cases before with
  | nil =>
    obtain ⟨same, rfl⟩ := List.cons.inj split
    exact entity same
  | cons first before => exact within before rest (List.cons.inj split).2

theorem onlyEntities_append {first second : List Char} (plain : '&' ∉ first) (within : OnlyEntities second) :
    OnlyEntities (first ++ second) := by
  induction first with
  | nil => exact within
  | cons c first ih =>
    rw [List.mem_cons, not_or] at plain
    exact onlyEntities_cons (fun same => absurd same.symm plain.1) (ih plain.2)

/-- A character is escaped as one of the two entities, or it is neither of what they stand for. -/
theorem attributeEscape_cases (c : Char) :
    (c = '&' ∧ attributeEscape c = ['&', 'a', 'm', 'p', ';']) ∨
      (c = '"' ∧ attributeEscape c = ['&', 'q', 'u', 'o', 't', ';']) ∨
      (c ≠ '&' ∧ c ≠ '"' ∧ attributeEscape c = [c]) := by
  unfold attributeEscape
  split
  next => exact .inl ⟨rfl, rfl⟩
  next => exact .inr (.inl ⟨rfl, rfl⟩)
  next ampersand quote => exact .inr (.inr ⟨ampersand, quote, rfl⟩)

theorem decodeEntities_flatMap (text : List Char) : decodeEntities (text.flatMap attributeEscape) = text := by
  induction text with
  | nil => rfl
  | cons c text ih =>
    rw [List.flatMap_cons]
    rcases attributeEscape_cases c with ⟨rfl, written⟩ | ⟨rfl, written⟩ | ⟨other, _, written⟩
    · rw [written]
      exact congrArg (List.cons '&') ih
    · rw [written]
      exact congrArg (List.cons '"') ih
    · rw [written, List.singleton_append, decodeEntities_plain other, ih]

theorem quote_notMem_flatMap (text : List Char) : '"' ∉ text.flatMap attributeEscape := by
  intro member
  obtain ⟨c, _, escaped⟩ := List.mem_flatMap.mp member
  rcases attributeEscape_cases c with ⟨_, written⟩ | ⟨_, written⟩ | ⟨_, other, written⟩
  · rw [written] at escaped
    exact absurd escaped (by decide)
  · rw [written] at escaped
    exact absurd escaped (by decide)
  · rw [written, List.mem_singleton] at escaped
    exact other escaped.symm

theorem onlyEntities_flatMap (text : List Char) : OnlyEntities (text.flatMap attributeEscape) := by
  induction text with
  | nil =>
    intro before rest split
    simp at split
  | cons c text ih =>
    rw [List.flatMap_cons]
    rcases attributeEscape_cases c with ⟨_, written⟩ | ⟨_, written⟩ | ⟨other, _, written⟩
    · rw [written, List.cons_append]
      exact onlyEntities_cons (fun _ => .inl (List.prefix_append ..)) (onlyEntities_append (by decide) ih)
    · rw [written, List.cons_append]
      exact onlyEntities_cons (fun _ => .inr (List.prefix_append ..)) (onlyEntities_append (by decide) ih)
    · rw [written, List.singleton_append]
      exact onlyEntities_cons (fun same => absurd same other) ih

/-- Text in which nothing is escaped. -/
def Harmless (text : List Char) : Prop := ∀ c ∈ text, attributeNeedsEscape c = false

theorem Harmless.cons {c : Char} {text : List Char} (first : attributeNeedsEscape c = false) (others : Harmless text) :
    Harmless (c :: text) := List.forall_mem_cons.mpr ⟨first, others⟩

theorem Harmless.append {first second : List Char} (before : Harmless first) (behind : Harmless second) :
    Harmless (first ++ second) := List.forall_mem_append.mpr ⟨before, behind⟩

theorem Harmless.subset {text other : List Char} (harmless : Harmless text) (part : other ⊆ text) : Harmless other :=
  fun c member => harmless c (part member)

theorem Harmless.flatMap_attributeEscape {text : List Char} (harmless : Harmless text) :
    text.flatMap attributeEscape = text := by
  have same : ∀ c ∈ text, attributeEscape c = [c] := by
    intro c member
    have plain := harmless c member
    rw [attributeNeedsEscape, Bool.or_eq_false_iff, beq_eq_false_iff_ne, beq_eq_false_iff_ne] at plain
    rcases attributeEscape_cases c with ⟨same, _⟩ | ⟨same, _⟩ | ⟨_, _, written⟩
    · exact absurd same plain.1
    · exact absurd same plain.2
    · exact written
  rw [List.flatMap_congr same, List.flatMap_singleton']

/-- Text that is handed on as it is has nothing to escape. -/
theorem toList_escapeAttribute (text : String) :
    (escapeAttribute text).toList = text.toList.flatMap attributeEscape := by
  unfold escapeAttribute
  split
  next => exact String.toList_ofList
  next harmless =>
    rw [Bool.not_eq_true, List.any_eq_false] at harmless
    exact (Harmless.flatMap_attributeEscape fun c member => Bool.eq_false_iff.mpr (harmless c member)).symm

end PageEditor.Text

namespace PageEditor.Json

open Text

theorem harmless_digits (value : Nat) : Harmless (Number.digits value) := by
  intro c member
  have digit : c.isDigit = true := isDigit_of_mem_digits member
  rw [attributeNeedsEscape, Bool.or_eq_false_iff, beq_eq_false_iff_ne, beq_eq_false_iff_ne]
  constructor
  · rintro rfl
    cases digit
  · rintro rfl
    cases digit

theorem harmless_zeros (count : Nat) : Harmless (List.replicate count '0') := by
  intro c member
  rw [List.eq_of_mem_replicate member]
  rfl

theorem Binary64.harmless_magnitude (value : Binary64) : Harmless value.magnitude := by
  have significant : Harmless ((Number.digits value.shortest.significand).reverse.dropWhile (· == '0')).reverse := by
    apply (harmless_digits value.shortest.significand).subset
    intro c member
    exact List.mem_reverse.mp ((List.dropWhile_suffix _).mem (List.mem_reverse.mp member))
  rw [magnitude]
  split
  · exact .cons rfl (.cons rfl (.cons rfl nofun))
  dsimp only
  generalize ((Number.digits value.shortest.significand).reverse.dropWhile (· == '0')).reverse = digits at significant ⊢
  have first (count : Nat) : Harmless (digits.take count) := significant.subset (List.take_subset ..)
  have last (count : Nat) : Harmless (digits.drop count) := significant.subset (List.drop_subset ..)
  split
  · have fraction : Harmless (if (digits.drop 1).isEmpty then [] else '.' :: digits.drop 1) := by
      split
      · exact nofun
      · exact .cons rfl (last 1)
    refine .append (.append (.append (first 1) fraction) (.cons rfl (.cons ?_ nofun))) (harmless_digits _)
    split <;> rfl
  · split
    · exact .append (.append (.cons rfl (.cons rfl nofun)) (harmless_zeros _)) significant
    · refine .append (.append (first _) (harmless_zeros _)) (.cons rfl ?_)
      split
      · exact .cons rfl nofun
      · exact last _

/-- Numbers are written with digits, points, signs and the letter of the exponent. -/
theorem Number.harmless_chars (number : Number) : Harmless number.chars := by
  cases number with
  | integer value _ =>
    rw [chars]
    split
    · exact .cons rfl (harmless_digits _)
    · exact harmless_digits _
  | real value =>
    rw [chars, Binary64.chars]
    split
    · exact .cons rfl value.harmless_magnitude
    · exact value.harmless_magnitude

end PageEditor.Json

namespace PageEditor.Generate

open Text

section Escaped

variable {options : Options} (escapes : options.escapeLiterals = true)

include escapes

/-- Escaping leaves a number as it is, so both kinds of literal are written escaped. -/
theorem toList_literalText (value : Literal) :
    (literalText options value).toList = value.text.toList.flatMap attributeEscape := by
  cases value with
  | string text => rw [literalText, if_pos escapes, toList_escapeAttribute, Literal.text]
  | number value =>
    rw [literalText, Literal.text, Json.Number.text, String.toList_ofList, value.harmless_chars.flatMap_attributeEscape]

/-- Up to the next quote, a literal is read as the text it was made from. -/
theorem literalText_reads (value : Literal) :
    (∀ rest, ((literalText options value).toList ++ '"' :: rest).takeWhile (· != '"') =
        (literalText options value).toList) ∧
      decodeEntities (literalText options value).toList = value.text.toList := by
  rw [toList_literalText escapes]
  refine ⟨?_, decodeEntities_flatMap value.text.toList⟩
  intro rest
  have within : ∀ c ∈ value.text.toList.flatMap attributeEscape, (c != '"') = true := by
    intro c member
    rw [bne_iff_ne]
    rintro rfl
    exact quote_notMem_flatMap value.text.toList member
  rw [List.takeWhile_append_of_pos within, List.takeWhile_cons_of_neg (by simp), List.append_nil]

end Escaped

/-- The tag of every component stands in a line of its own. -/
theorem tag_mem_lines (options : Options) (indent : Nat) {forest : Forest} {component : Component}
    (member : component ∈ Forest.nodes forest) :
    ∃ width ending,
      spaces width ++ "<" ++ tagText options component ++ ending ∈ (forestMarkup options indent forest).lines := by
  rw [← started_forestLines 0 forest] at member
  obtain ⟨line, present, starts⟩ := List.mem_filterMap.mp member
  have written : line.text options indent ∈ (forestMarkup options indent forest).lines :=
    lines_forestMarkup options indent 0 forest ▸ List.mem_map_of_mem present
  cases line with
  | opening depth own =>
    obtain rfl := Option.some.inj starts
    exact ⟨_, _, written⟩
  | closing depth own => cases starts
  | single depth own =>
    obtain rfl := Option.some.inj starts
    exact ⟨_, _, written⟩

/-- A list of texts with blanks between them, up to one of the texts. -/
theorem intercalate_upto (before : List String) (text : String) (after : List String) :
    ∃ tail, " ".intercalate (before ++ text :: after) = String.join (before.map (· ++ " ")) ++ text ++ tail := by
  induction before with
  | nil =>
    cases after with
    | nil => exact ⟨"", by simp⟩
    | cons next after => exact ⟨" " ++ " ".intercalate (next :: after), by simp [String.append_assoc]⟩
  | cons first before ih =>
    obtain ⟨tail, rest⟩ := ih
    refine ⟨tail, ?_⟩
    rw [List.cons_append, String.intercalate_cons_of_ne_nil (by simp), rest, List.map_cons, String.join_cons]
    simp only [String.append_assoc]

/-- The tag of a component as far as the value of the attribute for a literal, which the attributes for the earlier
props precede. -/
theorem tagText_upto_literal (options : Options) {component : Component} {before after : List (String × PropValue)}
    {key : String} {value : Literal} (entries : component.props.entries = before ++ (key, .literal value) :: after) :
    ∃ tail, tagText options component =
      component.name ++ " " ++
        String.join ((before.filterMap fun entry => propAttribute? options component.id entry.1 entry.2).map
          fun earlier => earlier.text ++ " ") ++
        key ++ "=\"" ++ literalText options value ++ "\"" ++ tail := by
  have own : propAttribute? options component.id key (.literal value) = some ⟨key, .text (literalText options value)⟩ :=
    rfl
  simp only [tagText, attributes, entries, List.filterMap_append, List.filterMap_cons, own, List.append_assoc,
    List.map_append, List.cons_append, List.map_cons]
  obtain ⟨tail, written⟩ := intercalate_upto
    ((before.filterMap fun entry => propAttribute? options component.id entry.1 entry.2).map Attribute.text) _ _
  refine ⟨tail, ?_⟩
  rw [written, List.map_map, Attribute.text]
  simp only [String.append_assoc]
  rfl

/-- Whatever a text holds, escaped it is one attribute: no double quote is left in it, every ampersand starts one of
the two entities, and decoding these gives the text. So every literal prop of a page is written as an attribute that
ends at the next double quote and is read as the text of the literal. -/
theorem literals_stay_quoted (options : Options) :
    (∀ text : String,
        (escapeAttribute text).toList = text.toList.flatMap attributeEscape ∧ '"' ∉ (escapeAttribute text).toList ∧
          OnlyEntities (escapeAttribute text).toList ∧ decodeEntities (escapeAttribute text).toList = text.toList) ∧
      (options.escapeLiterals = true →
        ∀ forest indent component before key value after, component ∈ Forest.nodes forest →
          component.props.entries = before ++ (key, .literal value) :: after →
            ∃ (width : Nat) (literal tail : String),
              spaces width ++ "<" ++ component.name ++ " " ++
                  String.join ((before.filterMap fun entry => propAttribute? options component.id entry.1 entry.2).map
                    fun earlier => earlier.text ++ " ") ++
                  key ++ "=\"" ++ literal ++ "\"" ++ tail ∈ (forestMarkup options indent forest).lines ∧
                (∀ rest, (literal.toList ++ '"' :: rest).takeWhile (· != '"') = literal.toList) ∧
                decodeEntities literal.toList = value.text.toList) := by
  refine ⟨?_, ?_⟩
  · intro text
    rw [toList_escapeAttribute]
    exact ⟨rfl, quote_notMem_flatMap text.toList, onlyEntities_flatMap text.toList, decodeEntities_flatMap text.toList⟩
  · intro escapes forest indent component before key value after member entries
    obtain ⟨width, ending, written⟩ := tag_mem_lines options indent member
    obtain ⟨tail, upto⟩ := tagText_upto_literal options entries
    obtain ⟨ends, decoded⟩ := literalText_reads escapes value
    refine ⟨width, literalText options value, tail ++ ending, ?_, ends, decoded⟩
    rw [upto] at written
    simpa only [String.append_assoc] using written

/-- A text that looks escaped already, and then ends its attribute and its element. -/
def entityText : Component :=
  ⟨2, "Text", ⟨[("onClick", .actions []), ("text", .literal (.string "&quot;&amp;amp;\" />"))], by decide⟩, none, "",
    none, some 1⟩

theorem literals_stay_quoted_entityText :
    let page : Forest := [{ Component.new 1 "Row" with children := some [entityText] }]
    Options.standard.escapeLiterals = true ∧ entityText ∈ Forest.nodes page ∧
      entityText.props.entries =
        [("onClick", .actions [])] ++ ("text", .literal (.string "&quot;&amp;amp;\" />")) :: [] ∧
      ∃ (width : Nat) (literal tail : String),
        spaces width ++ "<" ++ "Text" ++ " " ++ "onClick=\x7bhandle2OnClick\x7d " ++ "text" ++ "=\"" ++ literal ++
            "\"" ++ tail ∈ (forestMarkup .standard 6 page).lines ∧
          (∀ rest, (literal.toList ++ '"' :: rest).takeWhile (· != '"') = literal.toList) ∧
          decodeEntities literal.toList = "&quot;&amp;amp;\" />".toList := by
  intro page
  have member : entityText ∈ Forest.nodes page := by
    rw [Forest.nodes_eq_preorder]
    exact List.mem_of_mem_getLast? rfl
  have entries : entityText.props.entries =
      [("onClick", .actions [])] ++ ("text", .literal (.string "&quot;&amp;amp;\" />")) :: [] := rfl
  have earlier : String.join ((List.filterMap (fun entry => propAttribute? .standard entityText.id entry.1 entry.2)
      [("onClick", .actions [])]).map fun earlier => earlier.text ++ " ") = "onClick=\x7bhandle2OnClick\x7d " := by
    decide +kernel
  obtain ⟨_, attributes⟩ := literals_stay_quoted .standard
  obtain ⟨width, literal, tail, written, ends, decoded⟩ := attributes rfl page 6 entityText _ _ _ _ member entries
  rw [earlier] at written
  exact ⟨rfl, member, entries, width, literal, tail, written, ends, decoded⟩

end PageEditor.Generate
