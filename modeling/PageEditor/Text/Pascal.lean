import PageEditor.Text.Case
import PageEditor.Text.Cluster

/-!
Pascal case. A text is cut into words at blanks, hyphens and underscores and where the case or the kind
of its characters changes; every word is capitalized, its other letters are lowered, and the words are
joined. The characters are clusters: a mark counts as part of the character that carries it.
-/

namespace PageEditor.Text.Pascal

inductive Kind where
  | upper
  | lower
  | digit
  | other
deriving DecidableEq

def Kind.ofCluster (cluster : Cluster) : Kind :=
  if cluster.all Char.isDigit then .digit
  else
    let raised := upperText cluster
    let lowered := lowerText cluster
    if raised = lowered then .other
    else if cluster = raised then .upper
    else if cluster = lowered then .lower
    else .other

def isSeparator (cluster : Cluster) : Bool :=
  cluster == [' '] || cluster == ['-'] || cluster == ['_']

/-- A capital before a small letter starts a word even among capitals. -/
def startsWord (previous current next : Kind) : Bool :=
  match previous, current with
  | .lower, .upper | .upper, .digit | .digit, .upper | .digit, .lower | .lower, .digit => true
  | .upper, .upper => next == .lower
  | _, _ => false

def kindOfNext : List Cluster → Kind
  | [] => .other
  | cluster :: _ => Kind.ofCluster cluster

/-- What still belongs to the current word, and the words after it. -/
def split (previous : Kind) : List Cluster → List Char × List (List Char)
  | [] => ([], [])
  | cluster :: rest =>
    let kind := Kind.ofCluster cluster
    let (word, others) := split kind rest
    if isSeparator cluster then ([], word :: others)
    else if startsWord previous kind (kindOfNext rest) then ([], (cluster ++ word) :: others)
    else (cluster ++ word, others)

def words (text : List Char) : List (List Char) :=
  let (word, others) := split .other (clusters text)
  (word :: others).filter fun word => !word.isEmpty

def capitalizedWord : List Char → List Char
  | [] => []
  | c :: rest => upper c ++ lowerText rest

end PageEditor.Text.Pascal

namespace PageEditor.Text

def pascalCase (text : String) : String :=
  String.ofList ((Pascal.words text.toList).flatMap Pascal.capitalizedWord)

end PageEditor.Text
