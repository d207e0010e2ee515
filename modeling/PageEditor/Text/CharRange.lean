/-!
Sets of characters given as inclusive ranges of code points. The tables are those of Unicode 17.
-/

namespace PageEditor.Text

def inRanges (ranges : List (Nat × Nat)) (c : Char) : Bool :=
  ranges.any fun range => range.1 ≤ c.toNat && c.toNat ≤ range.2

end PageEditor.Text
