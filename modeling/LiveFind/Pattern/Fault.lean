/-!
# What can be wrong with a pattern

Each way in which the text of a pattern fails to be one, and its wording.
-/

namespace LiveFind.Pattern

/-- Why a text is not a pattern. -/
inductive Fault
  | groupUnclosed
  | groupUnopened
  | classUnclosed
  | classRangeReversed
  | classRangeNotLiteral
  | classEscapeInvalid
  | nothingToRepeat
  | countReversed
  | countUnclosed
  | countMissing
  | countTooLarge
  | escapeUnfinished
  | escapeUnknown
  | backreference
  | lookAround
  | flagUnknown
  | flagTwice
  | flagNegationTwice
  | flagNegationDangling
  | flagUnfinished
  | groupNameUnfinished
  | groupNameEmpty
  | groupNameInvalid
  | groupNameTwice
  | hexDigitInvalid
  | hexEmpty
  | hexNotScalar
  | propertyInvalid
  | propertyUnknown
  | propertyValueUnknown
  | wordEdgeUnclosed
  | wordEdgeUnknown
  | wordEdgeUnfinished
  | nestedTooDeep
deriving Repr, DecidableEq

/-- How deep groups, classes and repetitions may nest. -/
def nestLimit : Nat := 250

/-- The wording of a fault. -/
def Fault.message : Fault → String
  | groupUnclosed => "unclosed group"
  | groupUnopened => "unopened group"
  | classUnclosed => "unclosed character class"
  | classRangeReversed => "invalid character class range, the start must be <= the end"
  | classRangeNotLiteral => "invalid range boundary, must be a literal"
  | classEscapeInvalid => "invalid escape sequence found in character class"
  | nothingToRepeat => "repetition operator missing expression"
  | countReversed => "invalid repetition count range, the start must be <= the end"
  | countUnclosed => "unclosed counted repetition"
  | countMissing => "repetition quantifier expects a valid decimal"
  | countTooLarge => "decimal literal invalid"
  | escapeUnfinished => "incomplete escape sequence, reached end of pattern prematurely"
  | escapeUnknown => "unrecognized escape sequence"
  | backreference => "backreferences are not supported"
  | lookAround => "look-around, including look-ahead and look-behind, is not supported"
  | flagUnknown => "unrecognized flag"
  | flagTwice => "duplicate flag"
  | flagNegationTwice => "flag negation operator repeated"
  | flagNegationDangling => "dangling flag negation operator"
  | flagUnfinished => "expected flag but got end of regex"
  | groupNameUnfinished => "unclosed capture group name"
  | groupNameEmpty => "empty capture group name"
  | groupNameInvalid => "invalid capture group character"
  | groupNameTwice => "duplicate capture group name"
  | hexDigitInvalid => "invalid hexadecimal digit"
  | hexEmpty => "hexadecimal literal empty"
  | hexNotScalar => "hexadecimal literal is not a Unicode scalar value"
  | propertyInvalid => "invalid Unicode character class"
  | propertyUnknown => "Unicode property not found"
  | propertyValueUnknown => "Unicode property value not found"
  | wordEdgeUnclosed =>
    "special word boundary assertion is either unclosed or contains an invalid character"
  | wordEdgeUnknown =>
    "unrecognized special word boundary assertion, " ++
      "valid choices are: start, end, start-half or end-half"
  | wordEdgeUnfinished =>
    "found either the beginning of a special word boundary or a bounded repetition " ++
      "on a \\b with an opening brace, but no closing brace"
  | nestedTooDeep =>
    "exceed the maximum number of nested parentheses/brackets (" ++ toString nestLimit ++ ")"

end LiveFind.Pattern
