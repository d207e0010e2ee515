/-!
Escaping of literal text in generated source: for a double-quoted attribute, where entities are decoded,
and for a single-quoted string, which a line terminator would end.
-/

namespace PageEditor.Text

def attributeEscape : Char → List Char
  | '&' => ['&', 'a', 'm', 'p', ';']
  | '"' => ['&', 'q', 'u', 'o', 't', ';']
  | c => [c]

def attributeNeedsEscape (c : Char) : Bool := c == '&' || c == '"'

/-- Text without special characters is handed on as it is. -/
def escapeAttribute (text : String) : String :=
  if text.toList.any attributeNeedsEscape then String.ofList (text.toList.flatMap attributeEscape) else text

def scriptEscape : Char → List Char
  | '\\' => ['\\', '\\']
  | '\'' => ['\\', '\'']
  | '\n' => ['\\', 'n']
  | '\r' => ['\\', 'r']
  | '\u2028' => ['\\', 'u', '2', '0', '2', '8']
  | '\u2029' => ['\\', 'u', '2', '0', '2', '9']
  | c => [c]

def scriptNeedsEscape (c : Char) : Bool :=
  c == '\\' || c == '\'' || c == '\n' || c == '\r' || c == '\u2028' || c == '\u2029'

def escapeScript (text : String) : String :=
  if text.toList.any scriptNeedsEscape then String.ofList (text.toList.flatMap scriptEscape) else text

end PageEditor.Text
