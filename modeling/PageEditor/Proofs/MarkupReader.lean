import PageEditor.Proofs.MarkupLines
import PageEditor.Proofs.Names
import PageEditor.Text.Identifier

/-!
A reader of markup that does not know the page. It takes a line for the opening, the closing or the only
one of an element by how the line starts and ends, and pairs opening and closing lines by name. What it
makes of the markup of a page is the outline of that page, whatever the attributes hold.
-/

namespace PageEditor.Generate

/-- A component as far as its markup tells it from others. -/
inductive Outline where
  | node (name : String) (id : ComponentId) (children : List Outline)

mutual

def componentOutline : Component → Outline
  | ⟨id, name, _, _, _, some children, _⟩ => .node name id (outline children)
  | ⟨id, name, _, _, _, none, _⟩ => .node name id []

def outline : Forest → List Outline
  | [] => []
  | component :: rest => componentOutline component :: outline rest

end

@[simp] theorem outline_nil : outline [] = [] := by rw [outline]

theorem outline_cons (component : Component) (rest : Forest) :
    outline (component :: rest) = .node component.name component.id (outline component.childList) :: outline rest := by
  obtain ⟨id, name, props, styles, desc, children, parent⟩ := component
  cases children <;> simp [outline, componentOutline, Component.childList]

inductive Tag where
  | opening (name : String) (id : ComponentId)
  | closing (name : String)
  | single (name : String) (id : ComponentId)
deriving DecidableEq

def Line.tag : Line → Tag
  | .opening _ component => .opening component.name component.id
  | .closing _ component => .closing component.name
  | .single _ component => .single component.name component.id

/-- The id that a reference attribute names, in a text read from its end. -/
def readReference : List Char → Option ComponentId
  | '}' :: 'f' :: 'e' :: 'r' :: '_' :: rest =>
    match rest.dropWhile Char.isDigit with
    | '{' :: '=' :: 'f' :: 'e' :: 'r' :: _ =>
      some (UInt64.ofNat (Nat.ofDigitChars 10 (rest.takeWhile Char.isDigit).reverse 0))
    | _ => none
  | _ => none

/-- A tag that does not close an element, after its angle bracket. -/
def readStart (text : List Char) : Option Tag :=
  let name := String.ofList (text.takeWhile (· != ' '))
  match text.reverse with
  | '>' :: '/' :: ' ' :: before => (readReference before).map (Tag.single name)
  | '>' :: before => (readReference before).map (Tag.opening name)
  | _ => none

def readTag : List Char → Option Tag
  | '<' :: '/' :: rest => some (.closing (String.ofList (rest.takeWhile (· != '>'))))
  | '<' :: rest => readStart rest
  | _ => none

/-- How far a line is indented, and its tag. -/
def readLine (line : String) : Option (Nat × Tag) :=
  (readTag (line.toList.dropWhile (· == ' '))).map ((line.toList.takeWhile (· == ' ')).length, ·)

/-- An element that has been opened and not closed yet, with its earlier siblings. -/
structure OpenElement where
  name : String
  id : ComponentId
  before : List Outline

/-- Nests tags, below the elements that are open and after the siblings that are complete. -/
def nest : List OpenElement → List Outline → List Tag → Option (List Outline)
  | [], done, [] => some done
  | _ :: _, _, [] => none
  | around, done, .single name id :: tags => nest around (done ++ [.node name id []]) tags
  | around, done, .opening name id :: tags => nest (⟨name, id, done⟩ :: around) [] tags
  | [], _, .closing _ :: _ => none
  | innermost :: around, done, .closing name :: tags =>
    if innermost.name = name then nest around (innermost.before ++ [.node innermost.name innermost.id done]) tags
    else none

def readOutline (lines : List String) : Option (List Outline) := do
  nest [] [] ((← lines.mapM readLine).map Prod.snd)

/-- A name that ends where its tag goes on, and does not turn an opening line into a closing one. -/
structure TagName (name : String) : Prop where
  bounded : ∀ c ∈ name.toList, c ≠ ' ' ∧ c ≠ '>'
  starts : name.toList.head? ≠ some '/'

theorem tagName_of_isIdentifier {name : String} (identifier : Text.isIdentifier name = true) : TagName name := by
  constructor
  · intro c member
    have allowed := Text.continuesIdentifier_of_mem identifier member
    constructor
    · rintro rfl
      cases allowed
    · rintro rfl
      cases allowed
  · intro slash
    have allowed := Text.continuesIdentifier_of_mem identifier (List.mem_of_head? slash)
    cases allowed

/-- Whatever stands before it, a reference at the end of a text is read, and no blank ends the text. -/
theorem readReference_reverse (id : ComponentId) (before : List Char) :
    ∃ rest, (before ++ (referenceAttribute id).text.toList).reverse = '}' :: rest ∧
      readReference ('}' :: rest) = some id := by
  have digits : ∀ c ∈ (idText id).toList.reverse, Char.isDigit c = true := by
    intro c member
    exact isDigit_of_mem_idText (List.mem_reverse.mp member)
  refine ⟨'f' :: 'e' :: 'r' :: '_' ::
    ((idText id).toList.reverse ++ '{' :: '=' :: 'f' :: 'e' :: 'r' :: before.reverse), ?_, ?_⟩
  · simp [referenceAttribute, referenceName, Attribute.text]
  · rw [readReference, List.dropWhile_append_of_pos digits, List.takeWhile_append_of_pos digits]
    simp [ofDigitChars_idText]

/-- The last attribute is the reference. -/
theorem tagText_eq (options : Options) (component : Component) :
    ∃ before : String, (tagText options component).toList =
      component.name.toList ++ ' ' :: (before.toList ++ (referenceAttribute component.id).text.toList) := by
  unfold tagText attributes
  rw [List.map_append, List.map_singleton]
  generalize List.map Attribute.text _ = texts
  cases texts with
  | nil => exact ⟨"", by simp⟩
  | cons text texts =>
    refine ⟨" ".intercalate (text :: texts) ++ " ", ?_⟩
    rw [String.intercalate_append_of_ne_nil (by simp) (by simp), String.intercalate_singleton]
    simp

section Reading

variable {name : String} (tag : TagName name)

include tag

theorem TagName.readTag_closing : readTag ('<' :: '/' :: (name.toList ++ ['>'])) = some (.closing name) := by
  have bounded : ∀ c ∈ name.toList, (c != '>') = true := fun c member => by simpa using (tag.bounded c member).2
  rw [readTag, List.takeWhile_append_of_pos bounded]
  simp

theorem TagName.readTag_start (rest : List Char) :
    readTag ('<' :: (name.toList ++ ' ' :: rest)) = readStart (name.toList ++ ' ' :: rest) := by
  cases named : name.toList with
  | nil => rfl
  | cons c continued =>
    have other : c ≠ '/' := by
      rintro rfl
      exact tag.starts (by simp [named])
    simp [readTag, other]

theorem TagName.takeWhile_blank (rest : List Char) :
    (name.toList ++ ' ' :: rest).takeWhile (· != ' ') = name.toList := by
  have bounded : ∀ c ∈ name.toList, (c != ' ') = true := fun c member => by simpa using (tag.bounded c member).1
  rw [List.takeWhile_append_of_pos bounded]
  simp

/-- The attributes before the last one may hold anything, angle brackets and references included. -/
theorem TagName.readTag_opening (before : List Char) (id : ComponentId) :
    readTag ('<' :: (name.toList ++ ' ' :: (before ++ ((referenceAttribute id).text.toList ++ ['>'])))) =
      some (.opening name id) := by
  obtain ⟨rest, reversed, read⟩ := readReference_reverse id (name.toList ++ ' ' :: before)
  have ending : (name.toList ++ ' ' :: (before ++ ((referenceAttribute id).text.toList ++ ['>']))).reverse =
      '>' :: '}' :: rest := by
    rw [← reversed]
    simp
  rw [tag.readTag_start, readStart, tag.takeWhile_blank, ending]
  simp [read]

theorem TagName.readTag_single (before : List Char) (id : ComponentId) :
    readTag ('<' :: (name.toList ++ ' ' :: (before ++ ((referenceAttribute id).text.toList ++ [' ', '/', '>'])))) =
      some (.single name id) := by
  obtain ⟨rest, reversed, read⟩ := readReference_reverse id (name.toList ++ ' ' :: before)
  have ending : (name.toList ++ ' ' :: (before ++ ((referenceAttribute id).text.toList ++ [' ', '/', '>']))).reverse =
      '>' :: '/' :: ' ' :: '}' :: rest := by
    rw [← reversed]
    simp
  rw [tag.readTag_start, readStart, tag.takeWhile_blank, ending]
  simp [read]

end Reading

theorem readLine_of_angle {line : String} {count : Nat} {rest : List Char} {tag : Tag}
    (written : line.toList = List.replicate count ' ' ++ '<' :: rest) (read : readTag ('<' :: rest) = some tag) :
    readLine line = some (count, tag) := by
  have blank : ∀ c ∈ List.replicate count ' ', (c == ' ') = true := by
    intro c member
    simp [List.eq_of_mem_replicate member]
  rw [readLine, written, List.dropWhile_append_of_pos blank, List.takeWhile_append_of_pos blank]
  simp [read]

/-- Each line is read as what it is, as far in as its component stands. -/
theorem readLine_text (options : Options) (start : Nat) {line : Line} (tag : TagName line.component.name) :
    readLine (line.text options start) = some (start + indentStep * line.depth, line.tag) := by
  cases line with
  | opening depth component =>
    obtain ⟨before, written⟩ := tagText_eq options component
    apply readLine_of_angle _ (tag.readTag_opening before.toList component.id)
    simp [Line.text, Line.component, Line.depth, spaces, written]
  | closing depth component =>
    apply readLine_of_angle _ tag.readTag_closing
    simp [Line.text, Line.component, Line.depth, spaces]
  | single depth component =>
    obtain ⟨before, written⟩ := tagText_eq options component
    apply readLine_of_angle _ (tag.readTag_single before.toList component.id)
    simp [Line.text, Line.component, Line.depth, spaces, written]

/-- The tags of a page, read among others, complete its outline where they stand. -/
theorem nest_forestLines (depth : Nat) (forest : Forest) (around : List OpenElement) (done : List Outline)
    (later : List Tag) :
    nest around done ((forestLines depth forest).map Line.tag ++ later) =
      nest around (done ++ outline forest) later := by
  -- Below a component the stack holds one element more, and no sibling is complete yet.
  induction forest using Forest.inductLeaf generalizing depth around done later with
  | nil => simp
  | leaf component rest childless beside =>
    rw [forestLines_leaf depth rest childless, outline_cons, childless, List.map_cons, List.cons_append]
    simp [Line.tag, nest, beside]
  | parent component rest nested below beside =>
    rw [forestLines_parent depth rest nested, outline_cons]
    simp only [List.map_cons, List.map_append, List.cons_append, List.append_assoc, Line.tag]
    rw [nest, below]
    simp [nest, beside]

theorem mapM_readLine (options : Options) (start : Nat) {lines : List Line}
    (tags : ∀ line ∈ lines, TagName line.component.name) :
    (lines.map (Line.text options start)).mapM readLine =
      some (lines.map fun line => (start + indentStep * line.depth, line.tag)) := by
  induction lines with
  | nil => rfl
  | cons line lines ih =>
    obtain ⟨tag, tags⟩ := List.forall_mem_cons.mp tags
    rw [List.map_cons, List.mapM_cons, readLine_text options start tag, ih tags]
    rfl

/-- The markup of a page determines its outline: the lines can be read one by one, each of them two further
in for every component around its own, and nested by their tags they are the components of the page. Names that are
no ASCII identifiers will do too, as long as they are told from the rest of their tags. -/
theorem readOutline_forestMarkup (options : Options) (start : Nat) (forest : Forest)
    (named : ∀ component ∈ Forest.nodes forest, TagName component.name) :
    readOutline (forestMarkup options start forest).lines = some (outline forest) ∧
      (forestMarkup options start forest).lines.mapM readLine =
        some ((forestLines 0 forest).map fun line => (start + 2 * line.depth, line.tag)) := by
  have written : (forestMarkup options start forest).lines = (forestLines 0 forest).map (Line.text options start) :=
    lines_forestMarkup options start 0 forest
  have tags : ∀ line ∈ forestLines 0 forest, TagName line.component.name :=
    fun line member => named line.component (component_mem_of_mem_forestLines member)
  rw [written, readOutline, mapM_readLine options start tags]
  refine ⟨?_, rfl⟩
  have nested := nest_forestLines 0 forest [] [] []
  simpa [nest, Function.comp_def] using nested

/-- A row around a button whose title looks like the end of a tag that is complete, and like a reference. -/
def misleadingPage : Forest :=
  [⟨7, "Row", .empty, none, "", some [⟨8, "Button",
    ⟨[("title", .literal (.string "</Row> ref=\x7b9_ref\x7d />")), ("/>", .bound ⟨"js", .string " />"⟩)], by decide⟩,
    none, "", none, some 7⟩], none⟩]

theorem readOutline_misleadingPage :
    (∀ component ∈ Forest.nodes misleadingPage, TagName component.name) ∧
      readOutline (forestMarkup .standard 4 misleadingPage).lines = some [.node "Row" 7 [.node "Button" 8 []]] ∧
      (forestMarkup .standard 4 misleadingPage).lines.mapM readLine =
        some [(4, .opening "Row" 7), (6, .single "Button" 8), (4, .closing "Row")] := by
  have named : ∀ component ∈ Forest.nodes misleadingPage, TagName component.name := by
    rw [Forest.nodes_eq_preorder]
    intro component member
    apply tagName_of_isIdentifier
    revert component
    decide
  exact ⟨named, readOutline_forestMarkup .standard 4 misleadingPage named⟩

end PageEditor.Generate
