import LiveFind.Pattern.Match
import LiveFind.Pattern.Reader

/-!
# Patterns as they are written

A pattern keeps its text beside the expression that the text stands for. `ofText_defaultSource` says
that the pattern used where none is given is the one that its text describes.
-/

namespace LiveFind

/-- A pattern: its text, and what that stands for. -/
structure Pattern where
  source : String
  expr : Pattern.Expr
deriving Repr, DecidableEq

namespace Pattern

/-- The pattern that a text stands for. -/
def ofText (source : String) : Except Fault Pattern :=
  (Expr.read source.toList).map fun expr ↦ ⟨source, expr⟩

/-- Whether some run of the text is one that the pattern describes. -/
def occursIn (p : Pattern) (s : String) : Bool :=
  p.expr.occursIn s.toList

/-- The text of the pattern for identifiers such as `node:42`, `#42` and `3:12`. -/
def defaultSource : String := "^(?:node:|#)?\\d+(?::\\d+)*$"

/-- One character of an expression. -/
def Expr.only (c : Char) : Expr :=
  .char (.single c)

/-- One or more decimal digits. -/
def Expr.digits : Expr :=
  .times 1 none (.char (.named .digit))

/-- An optional `node:` or `#`, then groups of digits with a colon between two of them, and nothing
else. -/
def defaultExpr : Expr :=
  seqAll
    [ .place .textStart
    , .times 0 (some 1) (.alt (seqAll (['n', 'o', 'd', 'e', ':'].map .only)) (.only '#'))
    , .digits
    , .times 0 none (.seq (.only ':') .digits)
    , .place .textEnd ]

/-- The pattern for identifiers. -/
def default : Pattern :=
  ⟨defaultSource, defaultExpr⟩

/-- The text of the pattern for identifiers stands for its expression. -/
theorem ofText_defaultSource : ofText defaultSource = .ok default := by
  have h : (Expr.read defaultSource.toList).toOption = some defaultExpr := by decide +kernel
  match hr : Expr.read defaultSource.toList with
  | .ok e =>
    rw [hr] at h
    simp only [ofText, hr, Option.some.inj h]
    rfl
  | .error fault =>
    rw [hr] at h
    exact absurd h (by simp [Except.toOption])

end Pattern

end LiveFind
