import PageEditor.Forest
import PageEditor.Options

/-!
Imports of components: one line for all that come from the shared library, then one line for each of
the others.
-/

namespace PageEditor.Generate

/-- The names of all components, each where it first appears. -/
def importedNames (forest : Forest) : List String := ((Forest.nodes forest).map Component.name).eraseDups

def localImport (options : Options) (name : String) : String :=
  "import " ++ name ++ " from '" ++ options.importPath name ++ "';"

def libraryImport (options : Options) (names : List String) : String :=
  "import \x7b " ++ ", ".intercalate names ++ " \x7d from '" ++ options.libraryModule ++ "';"

def importLines (options : Options) (names : List String) : List String :=
  let (shared, own) := names.partition options.isShared
  (if shared.isEmpty then [] else [libraryImport options shared]) ++ own.map (localImport options)

end PageEditor.Generate
