import PageEditor.Json.Fault
import PageEditor.Json.Mismatch

/-!
Errors of reading a text. While a text is read an error is a `Stop`: a reason and the number of bytes
still ahead. The position in the text is worked out once, at the end.
-/

namespace PageEditor.Json

/-- Why a text could not be read: it is no JSON, or it holds something else than wanted. A mismatch has
no position when it is found in a value that was read before. -/
inductive ReadError where
  | malformed (fault : Fault) (position : Position)
  | mismatched (mismatch : Mismatch) (position : Option Position)
deriving DecidableEq

def ReadError.message : ReadError → String
  | .malformed fault position => fault.message ++ position.suffix
  | .mismatched mismatch position => mismatch.message ++ (position.elim "" Position.suffix)

/-- Reading stopped for a reason, with so many bytes of the text still ahead. -/
structure Stop where
  reason : Fault ⊕ Mismatch
  ahead : Nat

def byteCount (text : List Char) : Nat := text.foldr (fun c total => c.utf8Size + total) 0

namespace Stop

def before (fault : Fault) (rest : List Char) : Stop := ⟨.inl fault, byteCount rest⟩

def past (fault : Fault) (rest : List Char) (count : Nat) : Stop := ⟨.inl fault, byteCount rest - count⟩

def within (fault : Fault) (rest : List Char) : Stop := past fault rest 1

def mismatched (mismatch : Mismatch) (rest : List Char) : Stop := ⟨.inr mismatch, byteCount rest⟩

def toError (text : String) (stop : Stop) : ReadError :=
  let position := Position.ofOffset text (text.utf8ByteSize - stop.ahead)
  match stop.reason with
  | .inl fault => .malformed fault position
  | .inr mismatch => .mismatched mismatch (some position)

end Stop

end PageEditor.Json
