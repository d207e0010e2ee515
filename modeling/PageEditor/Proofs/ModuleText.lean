import PageEditor.Generate.Module

/-!
The text of a generated module. Its layout asks only for values that the data of a module has, and all
of these are texts, so that filling it in never fails and copies each of them as it is.
-/

namespace PageEditor.Template

/-- Where every piece renders, the whole does, to the texts of the pieces one after the other. -/
theorem render_eq_join {data : Json} {pieces : List Piece} {texts : List String}
    (rendered : pieces.map (renderPiece data) = texts.map .ok) : render data pieces = .ok (String.join texts) := by
  induction pieces generalizing texts with
  | nil =>
    obtain rfl : texts = [] := by simpa using rendered.symm
    rw [render, String.join_nil]
  | cons piece pieces ih =>
    cases texts with
    | nil => cases rendered
    | cons text texts =>
      obtain ⟨first, others⟩ := List.cons.inj rendered
      simp only [render, first, ih others, String.join_cons]
      rfl

theorem renderPiece_text (data : Json) (value : String) : renderPiece data (.text value) = .ok value := rfl

section Members

variable {members : List (String × Json)} {name value : String} (found : members.lookup name = some (.string value))

include found

theorem renderPiece_value : renderPiece (.object members) (.value [name]) = .ok value := by
  simp only [renderPiece, follow, found]
  rfl

theorem renderPiece_pascal :
    renderPiece (.object members) (.pascal (some (.path [name]))) = .ok (Text.pascalCase value) := by
  simp only [renderPiece, argumentText, follow, found]
  rfl

end Members

end PageEditor.Template

namespace PageEditor.Generate

/-- The parts of a module between the fixed texts of its layout. -/
def importSection (options : Options) (forest : Forest) : String :=
  terminated "\n" "\n" (importLines options (importedNames forest))

def declarationSection (options : Options) (forest : Forest) : String :=
  terminated "\n" "\n\n" ((declarationLines options forest).map ("  " ++ ·))

def handlerSection (handlers : List Handler) : String := terminated "\n\n" "\n\n" (handlers.map Handler.text)

def markupSection (lines : List String) : String := terminated "\n" "\n" lines

/-- The name of the generated component, wherever the module writes it. -/
def constantName (options : Options) : String := Text.pascalCase (usableName options)

theorem pascalCase_defaultComponentName : Text.pascalCase Options.defaultComponentName = "GeneratedComponent" := by
  decide +kernel

theorem constantName_eq (options : Options) :
    constantName options =
      if Text.pascalCase options.componentName = "" then "GeneratedComponent"
      else Text.pascalCase options.componentName := by
  by_cases blank : Text.pascalCase options.componentName = ""
  · rw [constantName, usableName, if_pos (by simp [blank]), pascalCase_defaultComponentName, if_pos blank]
  · rw [constantName, usableName, if_neg (by simpa using blank), if_neg blank]

def moduleParts (options : Options) (forest : Forest) : List String := [
  "import React, \x7b useState, useRef \x7d from 'react';\nimport \x7b message \x7d from '",
  options.libraryModule,
  "';\n",
  importSection options forest,
  "\nconst ",
  constantName options,
  " = () => \x7b\n",
  declarationSection options forest,
  handlerSection (forestMarkup options markupIndent forest).handlers,
  "  return (\n    <>\n",
  markupSection (forestMarkup options markupIndent forest).lines,
  "    </>\n  );\n\x7d;\n\nexport default ",
  constantName options,
  ";\n"]

theorem render_moduleLayout (options : Options) (forest : Forest) :
    Template.render (moduleData options forest) moduleLayout = .ok (String.join (moduleParts options forest)) := by
  have library : Template.renderPiece (moduleData options forest) (.value ["library"]) = .ok options.libraryModule :=
    Template.renderPiece_value rfl
  have imports : Template.renderPiece (moduleData options forest) (.value ["imports"]) =
      .ok (importSection options forest) := Template.renderPiece_value rfl
  have component : Template.renderPiece (moduleData options forest) (.pascal (some (.path ["component"]))) =
      .ok (constantName options) := Template.renderPiece_pascal rfl
  have declarations : Template.renderPiece (moduleData options forest) (.value ["declarations"]) =
      .ok (declarationSection options forest) := Template.renderPiece_value rfl
  have handlers : Template.renderPiece (moduleData options forest) (.value ["handlers"]) =
      .ok (handlerSection (forestMarkup options markupIndent forest).handlers) := Template.renderPiece_value rfl
  have markup : Template.renderPiece (moduleData options forest) (.value ["markup"]) =
      .ok (markupSection (forestMarkup options markupIndent forest).lines) := Template.renderPiece_value rfl
  apply Template.render_eq_join
  simp only [moduleLayout, moduleParts, List.map_cons, List.map_nil, Template.renderPiece_text, library, imports,
    component, declarations, handlers, markup]

theorem moduleText_eq (options : Options) (forest : Forest) :
    moduleText options forest = .ok (String.join (moduleParts options forest)) := by
  rw [moduleText, render_moduleLayout]
  rfl

/-- The handlers stand in the text of a module as they are. -/
theorem moduleText_handlers (options : Options) (forest : Forest) :
    ∃ before after, moduleText options forest =
      .ok (before ++ handlerSection (forestMarkup options markupIndent forest).handlers ++ after) := by
  refine ⟨String.join ((moduleParts options forest).take 8), String.join ((moduleParts options forest).drop 9), ?_⟩
  rw [moduleText_eq]
  simp only [moduleParts, List.take_succ_cons, List.take_zero, List.drop_succ_cons, List.drop_zero, String.join_cons,
    String.join_nil, String.append_assoc, String.empty_append]

end PageEditor.Generate
