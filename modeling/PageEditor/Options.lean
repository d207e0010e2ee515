import PageEditor.Json.Value

/-!
Options of the generator.
-/

namespace PageEditor

structure Options where
  /-- Pascal-cased in the output. -/
  componentName : String
  /-- Where shared widgets and notifications are imported from. -/
  libraryModule : String
  libraryComponents : List String
  /-- The path of every other component, with a place for its name. -/
  localImportPath : String
  /-- Props whose key starts with it are events. -/
  eventPrefix : String
  escapeLiterals : Bool
  /-- References are declared for all components and not for the roots only. -/
  nestedRefs : Bool
  /-- Generation fails if the page has errors. -/
  strict : Bool
deriving DecidableEq

namespace Options

def defaultComponentName : String := "GeneratedComponent"

def standard : Options where
  componentName := defaultComponentName
  libraryModule := "antd"
  libraryComponents := ["Button", "Input", "Form", "Table", "Modal"]
  localImportPath := "./components/\x7bname\x7d/prod"
  eventPrefix := "on"
  escapeLiterals := true
  nestedRefs := false
  strict := false

def isShared (options : Options) (name : String) : Bool := name ∈ options.libraryComponents

def isEventKey (options : Options) (key : String) : Bool := options.eventPrefix.toList.isPrefixOf key.toList

def fillName (name : List Char) : List Char → List Char
  | [] => []
  | '{' :: 'n' :: 'a' :: 'm' :: 'e' :: '}' :: rest => name ++ fillName name rest
  | c :: rest => c :: fillName name rest

def importPath (options : Options) (name : String) : String :=
  String.ofList (fillName name.toList options.localImportPath.toList)

inductive Field where
  | componentName
  | libraryModule
  | libraryComponents
  | localImportPath
  | eventPrefix
  | escapeLiterals
  | nestedRefs
  | strict
deriving DecidableEq

namespace Field

def key : Field → String
  | .componentName => "componentName"
  | .libraryModule => "libraryModule"
  | .libraryComponents => "libraryComponents"
  | .localImportPath => "localImportPath"
  | .eventPrefix => "eventPrefix"
  | .escapeLiterals => "escapeLiterals"
  | .nestedRefs => "nestedRefs"
  | .strict => "strict"

def all : List Field :=
  [.componentName, .libraryModule, .libraryComponents, .localImportPath, .eventPrefix, .escapeLiterals,
    .nestedRefs, .strict]

def ofKey? (key : String) : Option Field := all.find? fun field => field.key = key

end Field

def fieldToJson (options : Options) : Field → Json
  | .componentName => .string options.componentName
  | .libraryModule => .string options.libraryModule
  | .libraryComponents => .array (options.libraryComponents.map .string)
  | .localImportPath => .string options.localImportPath
  | .eventPrefix => .string options.eventPrefix
  | .escapeLiterals => .bool options.escapeLiterals
  | .nestedRefs => .bool options.nestedRefs
  | .strict => .bool options.strict

def toJson (options : Options) : Json :=
  .object (Field.all.map fun field => (field.key, options.fieldToJson field))

end Options

end PageEditor
