import PageEditor.Document
import PageEditor.Editing.History
import PageEditor.Forest

/-!
The page under edit, with its history. An operation reads the current page, makes another one of it, and
commits that as one snapshot.
-/

namespace PageEditor

structure Store where
  history : History Forest

inductive EditError where
  | invalidDocument (problem : Document.Problem)
  | componentNotFound (id : ComponentId)
  | parentNotFound (id : ComponentId)
  | duplicateId (id : ComponentId)

def EditError.message : EditError → String
  | .invalidDocument problem => problem.message
  | .componentNotFound id => "Component " ++ idText id ++ " not found"
  | .parentNotFound id => "Parent component " ++ idText id ++ " not found"
  | .duplicateId id => "Component id " ++ idText id ++ " is already in use"

/-- Operations on the store. One that fails leaves a store behind as well, with all that was done to it before. -/
abbrev Editing := EStateM EditError Store

namespace Store

def start (forest : Forest) : Store := ⟨.start forest⟩

def blank : Store := start [{ Component.new 1 "Page" with desc := "Page" }]

def forest (store : Store) : Forest := store.history.current

def find? (store : Store) (id : ComponentId) : Option Component := store.forest.find? id

def commit (store : Store) (forest : Forest) : Store := ⟨store.history.commit forest⟩

/-- The first id of a subtree that the page already has. -/
def clash? (forest : Forest) (component : Component) : Option ComponentId :=
  let existing := Forest.ids forest
  (Forest.ids [component]).find? fun id => id ∈ existing

/-- The page with a component as the last child of its parent, or as the last root. -/
def attach (forest : Forest) (component : Component) (parent : Option ComponentId) : Except EditError Forest :=
  let component := { component with parent }
  match parent with
  | none => .ok (forest ++ [component])
  | some id =>
    match Forest.modify? id (fun node => { node with children := some (node.childList ++ [component]) }) forest with
    | some forest => .ok forest
    | none => .error (.parentNotFound id)

def record (forest : Forest) : Editing Unit := modify fun store => store.commit forest

def add (component : Component) (parent : Option ComponentId) : Editing Unit := do
  let forest := (← get).forest
  match clash? forest component with
  | some id => throw (.duplicateId id)
  | none =>
    match attach forest component parent with
    | .ok forest => record forest
    | .error error => throw error

/-- Answers the component that was removed. -/
def delete (id : ComponentId) : Editing Component := do
  match Forest.remove id (← get).forest with
  | (some removed, forest) =>
    record forest
    return removed
  | (none, _) => throw (.componentNotFound id)

def update (id : ComponentId) (change : Component → Component) : Editing Unit := do
  match Forest.modify? id change (← get).forest with
  | some forest => record forest
  | none => throw (.componentNotFound id)

def mergeProps (patch : Dict PropValue) (component : Component) : Component :=
  { component with props := component.props.extend patch }

def mergeStyles (patch : Dict Json) (component : Component) : Component :=
  { component with styles := some (component.styleMap.extend patch) }

def replaceStyles (styles : Dict Json) (component : Component) : Component :=
  { component with styles := some styles }

def updateProps (id : ComponentId) (patch : Dict PropValue) : Editing Unit := update id (mergeProps patch)

def updateStyles (id : ComponentId) (patch : Dict Json) (replace : Bool) : Editing Unit :=
  update id (if replace then replaceStyles patch else mergeStyles patch)

def setForest (store : Store) (forest : Forest) : Store := store.commit forest

def load (text : String) : Editing Unit :=
  match Document.parse text with
  | .ok forest => modify fun store => store.setForest forest
  | .error problem => throw (.invalidDocument problem)

/-- Says whether there was anything to undo. -/
def undo (store : Store) : Bool × Store :=
  let (entry, history) := store.history.undo
  (entry.isSome, ⟨history⟩)

/-- Says whether there was anything to redo. -/
def redo (store : Store) : Bool × Store :=
  let (entry, history) := store.history.redo
  (entry.isSome, ⟨history⟩)

end Store

end PageEditor
