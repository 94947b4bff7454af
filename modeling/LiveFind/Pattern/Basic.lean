import LiveFind.Pattern.CharSet

/-!
# Patterns

A pattern describes runs of a text. It is given by its expression: characters, places between
characters, sequence, choice and repetition. How many repetitions are tried first plays no part,
since a pattern is only ever asked whether it occurs.
-/

namespace LiveFind.Pattern

/-- A condition on a place between two characters. -/
inductive Place
  | textStart
  | textEnd
  /-- The start of the text, or behind a line feed. -/
  | lineStart
  /-- The end of the text, or before a line feed. -/
  | lineEnd
  /-- The start of a line where `\r\n`, `\r` and `\n` all end one. -/
  | anyLineStart
  | anyLineEnd
  /-- Between a word character and another or none. -/
  | wordEdge
  | notWordEdge
  /-- A word character follows and none goes before. -/
  | wordStart
  | wordEnd
  /-- No word character goes before. -/
  | wordStartHalf
  /-- No word character follows. -/
  | wordEndHalf
deriving Repr, DecidableEq

namespace Place

/-- Whether the condition holds between the two neighbours, which are missing at the ends of the
text. -/
def holds (p : Place) (before after : Option Char) : Bool :=
  let wordBefore := before.any CharClass.word.mem
  let wordAfter := after.any CharClass.word.mem
  match p with
  | textStart => before.isNone
  | textEnd => after.isNone
  | lineStart => before.isNone || before == some '\n'
  | lineEnd => after.isNone || after == some '\n'
  | anyLineStart =>
    before.isNone || before == some '\n' || (before == some '\r' && after != some '\n')
  | anyLineEnd =>
    after.isNone || after == some '\r' || (after == some '\n' && before != some '\r')
  | wordEdge => wordBefore != wordAfter
  | notWordEdge => wordBefore == wordAfter
  | wordStart => !wordBefore && wordAfter
  | wordEnd => wordBefore && !wordAfter
  | wordStartHalf => !wordBefore
  | wordEndHalf => !wordAfter

end Place

/-- What a pattern describes. -/
inductive Expr
  /-- The empty run. -/
  | empty
  /-- One character of the set. -/
  | char (s : CharSet)
  /-- The empty run at a place. -/
  | place (p : Place)
  | seq (a b : Expr)
  | alt (a b : Expr)
  /-- At least `min` runs in a row, and at most `max` if there is such a bound. -/
  | times (min : Nat) (max : Option Nat) (a : Expr)
deriving Repr, DecidableEq

end LiveFind.Pattern
