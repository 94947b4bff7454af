/-!
# Pieces of a text

`occursIn_iff`: the search finds a piece exactly where it is a contiguous run of the text.
-/

namespace LiveFind.Text

/-- Whether `piece` is a contiguous run of the characters. -/
def occursIn (piece : List Char) : List Char → Bool
  | [] => piece.isEmpty
  | c :: rest => piece.isPrefixOf (c :: rest) || occursIn piece rest

/-- Whether the string `piece` occurs in the string `s`. -/
def contains (s piece : String) : Bool :=
  occursIn piece.toList s.toList

theorem occursIn_iff (piece cs : List Char) : occursIn piece cs = true ↔ piece <:+: cs := by
  induction cs with
  | nil => simp [occursIn, List.isEmpty_iff]
  | cons c rest ih => simp [occursIn, ih, List.infix_cons_iff]

theorem contains_iff (s piece : String) : contains s piece = true ↔ piece.toList <:+: s.toList :=
  occursIn_iff _ _

end LiveFind.Text
