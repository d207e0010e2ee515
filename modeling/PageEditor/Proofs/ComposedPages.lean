import PageEditor.Proofs.Events
import PageEditor.Proofs.ImportedNames

/-!
Pages put one behind the other. Whatever is generated from the roots is generated for each of them apart, and only
the imports look at what came before. An emitter writes the lines of a page one by one and keeps the handlers of all
pages it has written; what it has kept never shows in the lines of the next page.
-/

namespace PageEditor.Generate

/-- Takes up a prop: the attribute by which it is written, and the handler that the attribute names. -/
def emitProp (options : Options) (id : ComponentId) (written : List Attribute × List Handler)
    (entry : String × PropValue) : List Attribute × List Handler :=
  match entry with
  | (key, .actions list) =>
    if options.isEventKey key then
      let own := handler options id key list
      (written.1 ++ [⟨key, .expression own.name⟩], written.2 ++ [own])
    else written
  | (key, .bound value) => (written.1 ++ [⟨key, .expression value.expression⟩], written.2)
  | (key, .literal value) => (written.1 ++ [⟨key, .text (literalText options value)⟩], written.2)
  | (_, .unsupported _) => written

/-- The tag of a component, and the handlers with those of its props behind them. -/
def emitTag (options : Options) (component : Component) (handlers : List Handler) : String × List Handler :=
  let (props, handlers) := component.props.entries.foldl (emitProp options component.id) ([], handlers)
  let attributes := props ++ (component.styles.map styleAttribute).toList ++ [referenceAttribute component.id]
  (component.name ++ " " ++ " ".intercalate (attributes.map Attribute.text), handlers)

/-- Puts a line behind those that are written. -/
def Markup.push (written : Markup) (line : String) : Markup := { written with lines := written.lines ++ [line] }

mutual

/-- Writes a component behind what is written already. -/
def emitComponent (options : Options) (indent : Nat) (written : Markup) : Component → Markup
  | ⟨id, name, props, styles, desc, some (child :: children), parent⟩ =>
    let (tag, handlers) := emitTag options ⟨id, name, props, styles, desc, none, parent⟩ written.handlers
    let opened := { written with handlers }.push (spaces indent ++ "<" ++ tag ++ ">")
    (emitForest options (indent + indentStep) opened (child :: children)).push (spaces indent ++ "</" ++ name ++ ">")
  | component =>
    let (tag, handlers) := emitTag options component written.handlers
    { written with handlers }.push (spaces indent ++ "<" ++ tag ++ " />")

def emitForest (options : Options) (indent : Nat) (written : Markup) : Forest → Markup
  | [] => written
  | component :: rest => emitForest options indent (emitComponent options indent written component) rest

end

structure Emitter where
  handlers : List Handler

namespace Emitter

def fresh : Emitter := ⟨[]⟩

/-- The lines of a page, and the emitter after it. -/
def emit (emitter : Emitter) (options : Options) (indent : Nat) (forest : Forest) : List String × Emitter :=
  let written := emitForest options indent ⟨[], emitter.handlers⟩ forest
  (written.lines, ⟨written.handlers⟩)

end Emitter

namespace Markup

theorem eq_of_parts {first second : Markup} (lines : first.lines = second.lines)
    (handlers : first.handlers = second.handlers) : first = second := by
  obtain ⟨_, _⟩ := first
  exact congr (congrArg Markup.mk lines) handlers

@[simp] theorem lines_push (markup : Markup) (line : String) : (markup.push line).lines = markup.lines ++ [line] := rfl

@[simp] theorem handlers_push (markup : Markup) (line : String) : (markup.push line).handlers = markup.handlers := rfl

end Markup

section Emission

variable (options : Options)

theorem emitProp_eq (id : ComponentId) (written : List Attribute × List Handler) (key : String) (value : PropValue) :
    emitProp options id written (key, value) =
      (written.1 ++ (propAttribute? options id key value).toList,
        written.2 ++ (propHandler? options id key value).toList) := by
  cases value with
  | actions list =>
    by_cases event : options.isEventKey key <;> simp [emitProp, propAttribute?, propHandler?, event, handler]
  | literal | bound | unsupported => simp [emitProp, propAttribute?, propHandler?]

theorem foldl_emitProp (id : ComponentId) (entries : List (String × PropValue))
    (written : List Attribute × List Handler) :
    entries.foldl (emitProp options id) written =
      (written.1 ++ entries.filterMap (fun entry => propAttribute? options id entry.1 entry.2),
        written.2 ++ entries.filterMap (fun entry => propHandler? options id entry.1 entry.2)) := by
  induction entries generalizing written with
  | nil => simp
  | cons entry rest ih =>
    obtain ⟨key, value⟩ := entry
    rw [List.foldl_cons, ih, emitProp_eq]
    simp [List.filterMap_eq_flatMap_toList]

theorem emitTag_eq (component : Component) (before : List Handler) :
    emitTag options component before = (tagText options component, before ++ handlers options component) := by
  rw [emitTag, foldl_emitProp]
  rfl

theorem emitForest_leaf (indent : Nat) (written : Markup) {component : Component} (rest : Forest)
    (childless : component.childList = []) :
    emitForest options indent written (component :: rest) =
      emitForest options indent (written ++ emptyElement options indent component) rest := by
  obtain ⟨id, name, props, styles, desc, children, parent⟩ := component
  rw [emitForest]
  match children, childless with
  | none, _ | some [], _ =>
    simp only [emitComponent, emitTag_eq]
    rfl

theorem emitForest_parent (indent : Nat) (written : Markup) {component : Component} (rest : Forest)
    (nested : component.childList ≠ []) :
    emitForest options indent written (component :: rest) =
      emitForest options indent
        ((emitForest options (indent + indentStep)
          ⟨written.lines ++ [spaces indent ++ "<" ++ tagText options component ++ ">"],
            written.handlers ++ handlers options component⟩ component.childList).push
          (spaces indent ++ "</" ++ component.name ++ ">"))
        rest := by
  obtain ⟨id, name, props, styles, desc, children, parent⟩ := component
  rw [emitForest]
  match children, nested with
  | none, nested | some [], nested => exact absurd rfl nested
  | some (child :: children), _ => rw [emitComponent, emitTag_eq]; rfl

/-- What was written before stays as it is, and what is written does not depend on it. -/
theorem emitForest_eq (indent : Nat) (written : Markup) (forest : Forest) :
    emitForest options indent written forest = written ++ forestMarkup options indent forest := by
  induction forest using Forest.inductLeaf generalizing indent written with
  | nil =>
    rw [emitForest, forestMarkup_nil]
    apply Markup.eq_of_parts <;> simp
  | leaf component rest childless beside =>
    rw [emitForest_leaf options indent written rest childless, forestMarkup_leaf options indent rest childless, beside]
    apply Markup.eq_of_parts <;> simp only [Markup.lines_append, Markup.handlers_append, List.append_assoc]
  | parent component rest nested below beside =>
    rw [emitForest_parent options indent written rest nested, forestMarkup_parent options indent rest nested, below,
      beside]
    apply Markup.eq_of_parts <;>
      simp only [element, Markup.lines_append, Markup.handlers_append, Markup.lines_push, Markup.handlers_push,
        List.append_assoc]

theorem emit_eq (emitter : Emitter) (indent : Nat) (forest : Forest) :
    emitter.emit options indent forest =
      ((forestMarkup options indent forest).lines,
        ⟨emitter.handlers ++ (forestMarkup options indent forest).handlers⟩) := by
  rw [Emitter.emit, emitForest_eq]
  rfl

end Emission

section Append

variable (options : Options) (first second : Forest)

theorem forestMarkup_cons (indent : Nat) (component : Component) (rest : Forest) :
    forestMarkup options indent (component :: rest) =
      componentMarkup options indent component ++ forestMarkup options indent rest := by rw [forestMarkup]

theorem lines_forestMarkup_append (indent : Nat) :
    (forestMarkup options indent (first ++ second)).lines =
      (forestMarkup options indent first).lines ++ (forestMarkup options indent second).lines := by
  induction first with
  | nil => simp
  | cons component rest ih => simp only [List.cons_append, forestMarkup_cons, Markup.lines_append, ih, List.append_assoc]

theorem handlers_forestMarkup_append (indent : Nat) :
    (forestMarkup options indent (first ++ second)).handlers =
      (forestMarkup options indent first).handlers ++ (forestMarkup options indent second).handlers := by
  simp only [handlers_forestMarkup, Forest.nodes_append, List.flatMap_append]

theorem references_append :
    references options (first ++ second) = references options first ++ references options second := by
  unfold references
  split
  · rw [Forest.nodes_append, List.map_append]
  · rw [List.map_append]

/-- Names that are left out can be left out before or after repeated ones are. -/
theorem eraseDups_filter (keep : String → Bool) (names : List String) :
    (names.filter keep).eraseDups = names.eraseDups.filter keep := by
  match names with
  | [] => rfl
  | name :: rest =>
    have ih := eraseDups_filter keep (rest.filter fun other => !other == name)
    rw [List.eraseDups_cons]
    by_cases kept : keep name
    · rw [List.filter_cons_of_pos kept, List.filter_cons_of_pos kept, List.eraseDups_cons, ← ih,
        List.filter_filter, List.filter_filter]
      simp only [Bool.and_comm]
    · have others : (rest.filter fun other => !other == name).filter keep = rest.filter keep := by
        rw [List.filter_filter]
        apply List.filter_congr
        intro other _
        by_cases same : other = name
        · simp [same, kept]
        · simp [same]
      rw [List.filter_cons_of_neg kept, List.filter_cons_of_neg kept, ← ih, others]
termination_by names.length
decreasing_by exact Nat.lt_succ_of_le (List.length_filter_le _ _)

theorem importedNames_append :
    importedNames (first ++ second) =
      importedNames first ++ (importedNames second).filter (· ∉ importedNames first) := by
  rw [importedNames, Forest.nodes_append, List.map_append, List.eraseDups_append, List.removeAll, eraseDups_filter]
  apply congrArg (importedNames first ++ ·)
  apply List.filter_congr
  intro name _
  simp only [importedNames, List.mem_eraseDups, List.elem_eq_mem, decide_not]

theorem spaces_add (more count : Nat) : spaces (more + count) = spaces more ++ spaces count := by
  rw [spaces, ← List.replicate_append_replicate, String.ofList_append]
  rfl

theorem text_indented (start more : Nat) (line : Line) :
    line.text options (start + more) = spaces more ++ line.text options start := by
  have shifted (depth : Nat) :
      spaces (start + more + indentStep * depth) = spaces more ++ spaces (start + indentStep * depth) := by
    rw [← spaces_add, ← Nat.add_assoc, Nat.add_comm more start]
  cases line <;> simp only [Line.text, shifted, String.append_assoc]

theorem lines_forestMarkup_indented (start more : Nat) (forest : Forest) :
    (forestMarkup options (start + more) forest).lines =
      (forestMarkup options start forest).lines.map (spaces more ++ ·) := by
  have own := lines_forestMarkup options start 0 forest
  have further := lines_forestMarkup options (start + more) 0 forest
  rw [Nat.mul_zero, Nat.add_zero] at own further
  rw [own, further, List.map_map]
  exact List.map_congr_left fun line _ => text_indented options start more line

end Append

/-- What is generated for two pages together is what is generated for the first and then for the second, apart from
imports: of those of the second only the ones that are new are added. Emitting a page on an emitter that has been
used gives the lines it gives on a fresh one and puts its handlers behind the others. Further in, each line has
that many more blanks in front, and nothing else changes. -/
theorem pages_compose (options : Options) (first second : Forest) (indent more : Nat) :
    (forestMarkup options indent (first ++ second)).lines =
        (forestMarkup options indent first).lines ++ (forestMarkup options indent second).lines ∧
      (forestMarkup options indent (first ++ second)).handlers =
        (forestMarkup options indent first).handlers ++ (forestMarkup options indent second).handlers ∧
      stateVariables options (first ++ second) = stateVariables options first ++ stateVariables options second ∧
      references options (first ++ second) = references options first ++ references options second ∧
      importedNames (first ++ second) =
        importedNames first ++ (importedNames second).filter (· ∉ importedNames first) ∧
      (∀ emitter : Emitter, emitter.emit options indent first =
        ((forestMarkup options indent first).lines,
          ⟨emitter.handlers ++ (forestMarkup options indent first).handlers⟩)) ∧
      (let used := (Emitter.fresh.emit options indent first).2;
        (used.emit options more second).1 = (Emitter.fresh.emit options more second).1 ∧
          (used.emit options more second).2.handlers =
            used.handlers ++ (Emitter.fresh.emit options more second).2.handlers) ∧
      (forestMarkup options (indent + more) first).lines =
        (forestMarkup options indent first).lines.map (spaces more ++ ·) ∧
      (forestMarkup options (indent + more) first).handlers = (forestMarkup options indent first).handlers := by
  refine ⟨lines_forestMarkup_append options first second indent, handlers_forestMarkup_append options first second indent,
    List.filterMap_append .., references_append options first second, importedNames_append first second,
    fun emitter => emit_eq options emitter indent first, ⟨?_, ?_⟩, lines_forestMarkup_indented options indent more first,
    ?_⟩
  · simp only [emit_eq]
  · simp only [emit_eq, Emitter.fresh, List.nil_append]
  · rw [handlers_forestMarkup, handlers_forestMarkup]

end PageEditor.Generate
