import LiveFind.Text.Ranges

/-!
# White space

The characters with the property `White_Space` (Unicode 17).
-/

namespace LiveFind.Text

/-- The white space characters. -/
def whiteSpaces : List (Nat × Nat) :=
  [
    (0x9, 0xD), (0x20, 0x20), (0x85, 0x85), (0xA0, 0xA0), (0x1680, 0x1680), (0x2000, 0x200A),
    (0x2028, 0x2029), (0x202F, 0x202F), (0x205F, 0x205F), (0x3000, 0x3000)
  ]

/-- Whether `c` is white space. -/
def isWhiteSpace (c : Char) : Bool :=
  covers whiteSpaces c.toNat

end LiveFind.Text
