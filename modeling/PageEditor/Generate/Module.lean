import PageEditor.Generate.Finding
import PageEditor.Generate.Import
import PageEditor.Generate.Markup
import PageEditor.Template

/-!
The generated module: imports, one component with its declarations, its handlers and its markup, and the
export of that component. The parts are filled into a fixed layout, each of them empty or a number of
whole lines.
-/

namespace PageEditor.Generate

inductive GenerateError where
  | invalidPage (findings : List Finding)
  | template (problem : Template.Problem)
deriving DecidableEq

def GenerateError.message : GenerateError → String
  | .invalidPage findings =>
    "Component tree failed validation: " ++ "; ".intercalate ((findings.filter Finding.isError).map Finding.text)
  | .template problem => "Template error: " ++ problem.message

def moduleLayout : List Template.Piece := [
  .text "import React, \x7b useState, useRef \x7d from 'react';\nimport \x7b message \x7d from '",
  .value ["library"],
  .text "';\n",
  .value ["imports"],
  .text "\nconst ",
  .pascal (some (.path ["component"])),
  .text " = () => \x7b\n",
  .value ["declarations"],
  .value ["handlers"],
  .text "  return (\n    <>\n",
  .value ["markup"],
  .text "    </>\n  );\n\x7d;\n\nexport default ",
  .pascal (some (.path ["component"])),
  .text ";\n"]

def markupIndent : Nat := 6

/-- Blocks with a line feed between them and `ending` after them; nothing if there are none. -/
def terminated (separator ending : String) (blocks : List String) : String :=
  if blocks.isEmpty then "" else separator.intercalate blocks ++ ending

/-- A name that has nothing left in Pascal case is replaced. -/
def usableName (options : Options) : String :=
  if (Text.pascalCase options.componentName).isEmpty then Options.defaultComponentName else options.componentName

def declarationLines (options : Options) (forest : Forest) : List String :=
  (stateVariables options forest).map StateVariable.line
    ++ (references options forest).map Reference.line

def moduleData (options : Options) (forest : Forest) : Json :=
  let markup := forestMarkup options markupIndent forest
  .object [
    ("library", .string options.libraryModule),
    ("component", .string (usableName options)),
    ("imports", .string (terminated "\n" "\n" (importLines options (importedNames forest)))),
    ("declarations", .string (terminated "\n" "\n\n" ((declarationLines options forest).map ("  " ++ ·)))),
    ("handlers", .string (terminated "\n\n" "\n\n" (markup.handlers.map Handler.text))),
    ("markup", .string (terminated "\n" "\n" markup.lines))]

def moduleText (options : Options) (forest : Forest) : Except GenerateError String :=
  (Template.render (moduleData options forest) moduleLayout).mapError .template

/-- The module for a page. Under strict options a page with an error is refused with all its findings. -/
def generate (options : Options) (forest : Forest) : Except GenerateError String :=
  if options.strict && (findings options forest).any Finding.isError then
    .error (.invalidPage (findings options forest))
  else moduleText options forest

def framework : String := "React"

end PageEditor.Generate
