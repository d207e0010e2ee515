import PageEditor.Editing.Store

/-!
Edits as values, so that whole runs of them can be replayed. Undoing or redoing where nothing is left
does not fail but says so.
-/

namespace PageEditor

inductive Edit where
  | add (component : Component) (parent : Option ComponentId)
  | delete (id : ComponentId)
  | updateProps (id : ComponentId) (patch : Dict PropValue)
  | updateStyles (id : ComponentId) (patch : Dict Json) (replace : Bool)
  | setForest (forest : Forest)
  | load (text : String)
  | undo
  | redo

/-- What an edit that did not fail has to say. -/
inductive Outcome where
  | done
  | removed (component : Component)
  | moved (somewhere : Bool)

namespace Store

def perform : Edit → Editing Outcome
  | .add component parent => do
    add component parent
    return .done
  | .delete id => return .removed (← delete id)
  | .updateProps id patch => do
    updateProps id patch
    return .done
  | .updateStyles id patch replace => do
    updateStyles id patch replace
    return .done
  | .setForest forest => do
    modify fun store => store.setForest forest
    return .done
  | .load text => do
    load text
    return .done
  | .undo => return .moved (← modifyGet undo)
  | .redo => return .moved (← modifyGet redo)

/-- The store that an edit leaves, whether it failed or not. -/
def after (store : Store) (edit : Edit) : Store :=
  match (perform edit).run store with
  | .ok _ next => next
  | .error _ left => left

def run (store : Store) (edits : List Edit) : Store := edits.foldl after store

end Store

end PageEditor
