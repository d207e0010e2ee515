import PageEditor.Component
import PageEditor.Text.Case

/-!
Names of what a generated module declares.
-/

namespace PageEditor.Generate

def referenceName (id : ComponentId) : String := idText id ++ "_ref"

def handlerName (id : ComponentId) (event : String) : String :=
  "handle" ++ Text.capitalize (idText id) ++ Text.capitalize event

def setterOf (getter : String) : String := "set" ++ Text.capitalize getter

end PageEditor.Generate
