import PageEditor.Generate.Handler

/-!
Markup. Every component becomes an element with its props as attributes in order, then its styles and
its reference; children stand between an opening and a closing line, two blanks further in. The handlers
that attributes name are collected in the same order.
-/

namespace PageEditor.Generate

structure Markup where
  lines : List String
  handlers : List Handler
deriving DecidableEq

namespace Markup

def empty : Markup := ⟨[], []⟩

def append (first second : Markup) : Markup :=
  ⟨first.lines ++ second.lines, first.handlers ++ second.handlers⟩

instance : Append Markup := ⟨append⟩

end Markup

inductive AttributeValue where
  | text (value : String)
  | expression (value : String)
deriving DecidableEq

structure Attribute where
  name : String
  value : AttributeValue
deriving DecidableEq

def Attribute.text : Attribute → String
  | ⟨name, .text value⟩ => name ++ "=\"" ++ value ++ "\""
  | ⟨name, .expression value⟩ => name ++ "=\x7b" ++ value ++ "\x7d"

def literalText (options : Options) : Literal → String
  | .string text => if options.escapeLiterals then Text.escapeAttribute text else text
  | .number value => value.text

/-- Values that have no form in markup give no attribute. -/
def propAttribute? (options : Options) (id : ComponentId) (key : String) : PropValue → Option Attribute
  | .literal value => some ⟨key, .text (literalText options value)⟩
  | .bound value => some ⟨key, .expression value.expression⟩
  | .actions _ => if options.isEventKey key then some ⟨key, .expression (handlerName id key)⟩ else none
  | .unsupported _ => none

def styleObject (styles : Dict Json) : String := (Json.object styles.entries).compact

def styleAttribute (styles : Dict Json) : Attribute := ⟨"style", .expression (styleObject styles)⟩

def referenceAttribute (id : ComponentId) : Attribute := ⟨"ref", .expression (referenceName id)⟩

def attributes (options : Options) (component : Component) : List Attribute :=
  component.props.entries.filterMap (fun entry => propAttribute? options component.id entry.1 entry.2)
    ++ (component.styles.map styleAttribute).toList
    ++ [referenceAttribute component.id]

def propHandler? (options : Options) (id : ComponentId) (key : String) : PropValue → Option Handler
  | .actions list => if options.isEventKey key then some (handler options id key list) else none
  | _ => none

def handlers (options : Options) (component : Component) : List Handler :=
  component.props.entries.filterMap fun entry => propHandler? options component.id entry.1 entry.2

def spaces (count : Nat) : String := String.ofList (List.replicate count ' ')

def tagText (options : Options) (component : Component) : String :=
  component.name ++ " " ++ " ".intercalate ((attributes options component).map Attribute.text)

def indentStep : Nat := 2

def element (options : Options) (indent : Nat) (component : Component) (children : Markup) : Markup :=
  ⟨[spaces indent ++ "<" ++ tagText options component ++ ">"] ++ children.lines
    ++ [spaces indent ++ "</" ++ component.name ++ ">"],
    handlers options component ++ children.handlers⟩

def emptyElement (options : Options) (indent : Nat) (component : Component) : Markup :=
  ⟨[spaces indent ++ "<" ++ tagText options component ++ " />"], handlers options component⟩

mutual

def componentMarkup (options : Options) (indent : Nat) : Component → Markup
  | ⟨id, name, props, styles, desc, some (child :: children), parent⟩ =>
    element options indent ⟨id, name, props, styles, desc, none, parent⟩
      (forestMarkup options (indent + indentStep) (child :: children))
  | component => emptyElement options indent component

def forestMarkup (options : Options) (indent : Nat) : Forest → Markup
  | [] => .empty
  | component :: rest => componentMarkup options indent component ++ forestMarkup options indent rest

end

end PageEditor.Generate
