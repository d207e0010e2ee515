import PageEditor.Proofs.ModuleText
import PageEditor.Proofs.TemplateReading

/-!
The lines of a generated module. Each part of the layout is empty or a number of whole lines, so that
together with the fixed text around them they are the lines of the module, in a fixed order and whatever
stands in them.
-/

namespace PageEditor.Generate

/-- Blocks that are separated and then ended by the same text are each followed by it. -/
theorem terminated_eq_join (ending : String) (blocks : List String) :
    terminated ending ending blocks = String.join (blocks.map (· ++ ending)) := by
  unfold terminated
  induction blocks with
  | nil => rfl
  | cons block blocks ih =>
    cases blocks with
    | nil => simp
    | cons next blocks =>
      simp only [List.isEmpty_cons, Bool.false_eq_true, ite_false] at ih ⊢
      rw [String.intercalate_cons_cons, String.append_assoc, ih]
      simp only [List.map_cons, String.join_cons]

/-- Every line ends with a line feed. -/
def unlines (lines : List String) : String := String.join (lines.map (· ++ "\n"))

@[simp] theorem unlines_nil : unlines [] = "" := rfl

@[simp] theorem unlines_cons (line : String) (lines : List String) :
    unlines (line :: lines) = line ++ ("\n" ++ unlines lines) := by
  simp only [unlines, List.map_cons, String.join_cons, String.append_assoc]

@[simp] theorem unlines_append (first second : List String) :
    unlines (first ++ second) = unlines first ++ unlines second := by
  simp only [unlines, List.map_append, String.join_append]

theorem terminated_eq_unlines (lines : List String) : terminated "\n" "\n" lines = unlines lines :=
  terminated_eq_join "\n" lines

theorem intercalate_eq_unlines {lines : List String} (some : lines ≠ []) :
    "\n".intercalate lines ++ "\n" = unlines lines := by
  rw [← terminated_eq_unlines, terminated, if_neg (by simpa using some)]

/-- Lines with an empty one after them, unless there are none. -/
def paragraph (lines : List String) : List String := if lines.isEmpty then [] else lines ++ [""]

theorem terminated_eq_paragraph (lines : List String) : terminated "\n" "\n\n" lines = unlines (paragraph lines) := by
  cases lines with
  | nil => rfl
  | cons line lines =>
    have feeds : "\n\n" = "\n" ++ "\n" := rfl
    simp only [terminated, paragraph, List.isEmpty_cons, Bool.false_eq_true, ite_false]
    rw [feeds, ← String.append_assoc, intercalate_eq_unlines (by simp), unlines_append]
    rfl

def handlerLines (handlers : List Handler) : List String := handlers.flatMap fun own => own.lines ++ [""]

theorem handlerSection_eq (handlers : List Handler) : handlerSection handlers = unlines (handlerLines handlers) := by
  have text (own : Handler) : own.text ++ "\n\n" = unlines (own.lines ++ [""]) := by
    have feeds : "\n\n" = "\n" ++ "\n" := rfl
    rw [Handler.text, feeds, ← String.append_assoc, intercalate_eq_unlines (by simp [Handler.lines]), unlines_append]
    rfl
  rw [handlerSection, terminated_eq_join, handlerLines]
  induction handlers with
  | nil => rfl
  | cons own handlers ih =>
    rw [List.map_cons, List.map_cons, String.join_cons, ih, text, List.flatMap_cons, unlines_append (own.lines ++ [""])]

/-- The lines of a module, with what the layout puts between its parts. -/
def moduleLines (options : Options) (forest : Forest) : List String :=
  let markup := forestMarkup options markupIndent forest
  ["import React, \x7b useState, useRef \x7d from 'react';",
    "import \x7b message \x7d from '" ++ options.libraryModule ++ "';"]
    ++ importLines options (importedNames forest)
    ++ ["", "const " ++ constantName options ++ " = () => \x7b"]
    ++ paragraph ((declarationLines options forest).map ("  " ++ ·))
    ++ handlerLines markup.handlers
    ++ ["  return (", "    <>"] ++ markup.lines ++ ["    </>", "  );", "\x7d;", ""]
    ++ ["export default " ++ constantName options ++ ";"]

theorem join_moduleParts (options : Options) (forest : Forest) :
    String.join (moduleParts options forest) = unlines (moduleLines options forest) := by
  have imports : "import React, \x7b useState, useRef \x7d from 'react';\nimport \x7b message \x7d from '" =
      "import React, \x7b useState, useRef \x7d from 'react';" ++ ("\n" ++ "import \x7b message \x7d from '") := rfl
  have library : "';\n" = "';" ++ "\n" := rfl
  have constant : "\nconst " = "\n" ++ "const " := rfl
  have body : " = () => \x7b\n" = " = () => \x7b" ++ "\n" := rfl
  have opening : "  return (\n    <>\n" = "  return (" ++ ("\n" ++ ("    <>" ++ "\n")) := rfl
  have closing : "    </>\n  );\n\x7d;\n\nexport default " =
      "    </>" ++ ("\n" ++ ("  );" ++ ("\n" ++ ("\x7d;" ++ ("\n" ++ ("\n" ++ "export default ")))))) := rfl
  have ending : ";\n" = ";" ++ "\n" := rfl
  simp only [moduleParts, moduleLines, importSection, declarationSection, markupSection, handlerSection_eq,
    terminated_eq_unlines, terminated_eq_paragraph, unlines_append, unlines_cons, unlines_nil, String.join_cons,
    String.join_nil, String.append_empty, String.empty_append]
  rw [imports, library, constant, body, opening, closing, ending]
  simp only [String.append_assoc]

/-- Without strict options a page is always generated, as these lines in this order, whatever its texts and the
options hold. They are also what the template of a module is filled to. -/
theorem generate_eq_lines {options : Options} (lenient : options.strict = false) (forest : Forest) :
    generate options forest = .ok ("\n".intercalate (moduleLines options forest) ++ "\n") ∧
      Template.fill moduleTemplate (moduleData options forest) =
        .ok ("\n".intercalate (moduleLines options forest) ++ "\n") ∧
      constantName options =
        if Text.pascalCase options.componentName = "" then "GeneratedComponent"
        else Text.pascalCase options.componentName := by
  have filled : moduleLines options forest ≠ [] := by simp [moduleLines]
  rw [intercalate_eq_unlines filled]
  refine ⟨?_, ?_, constantName_eq options⟩
  · rw [generate, lenient, moduleText_eq, join_moduleParts]
    rfl
  · rw [fill_moduleTemplate, render_moduleLayout, join_moduleParts]

/-- Options and a page that are full of what a template would expand. -/
def bracedOptions : Options :=
  { Options.standard with
    componentName := "\x7b\x7bmy-markup\x7d\x7d page"
    libraryModule := "\x7b\x7blibrary\x7d\x7d"
    localImportPath := "./\x7bname\x7d/\x7b\x7bimports\x7d\x7d" }

def bracedPage : Forest :=
  [⟨1, "Text", ⟨[("value", .bound ⟨"js", .string "\x7b\x7bhandlers\x7d\x7d"⟩)], by decide⟩, none, "", none, none⟩,
    ⟨2, "Button", ⟨[("onClick", .actions [.callMethod 1 "\x7b\x7bcomponent\x7d\x7d"])], by decide⟩, none, "",
      none, none⟩]

theorem generate_eq_lines_braced :
    bracedOptions.strict = false ∧
      generate bracedOptions bracedPage = .ok ("\n".intercalate (moduleLines bracedOptions bracedPage) ++ "\n") ∧
      constantName bracedOptions = "\x7b\x7bmyMarkup\x7d\x7dPage" ∧
      moduleLines bracedOptions bracedPage = [
        "import React, \x7b useState, useRef \x7d from 'react';",
        "import \x7b message \x7d from '\x7b\x7blibrary\x7d\x7d';",
        "import \x7b Button \x7d from '\x7b\x7blibrary\x7d\x7d';",
        "import Text from './Text/\x7b\x7bimports\x7d\x7d';",
        "",
        "const \x7b\x7bmyMarkup\x7d\x7dPage = () => \x7b",
        "  const [undefined, set] = useState(\x7b\x7bhandlers\x7d\x7d);",
        "  const 1_ref = useRef<Text>(null);",
        "  const 2_ref = useRef<Button>(null);",
        "",
        "  const handle2OnClick = () => \x7b",
        "    1_ref.current?.\x7b\x7bcomponent\x7d\x7d();",
        "  \x7d;",
        "",
        "  return (",
        "    <>",
        "      <Text value=\x7b\x7b\x7bhandlers\x7d\x7d\x7d ref=\x7b1_ref\x7d />",
        "      <Button onClick=\x7bhandle2OnClick\x7d ref=\x7b2_ref\x7d />",
        "    </>",
        "  );",
        "\x7d;",
        "",
        "export default \x7b\x7bmyMarkup\x7d\x7dPage;"] := by
  have lenient : bracedOptions.strict = false := rfl
  obtain ⟨generated, _, named⟩ := generate_eq_lines lenient bracedPage
  refine ⟨lenient, generated, ?_, ?_⟩
  · rw [named]
    decide +kernel
  · decide +kernel

end PageEditor.Generate
