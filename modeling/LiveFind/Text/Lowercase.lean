import LiveFind.Text.CaseIgnorable
import LiveFind.Text.Cased
import LiveFind.Text.LowerRuns

/-!
# Lower case

The full lower case mapping of a text. A character has its lower case on its own, with two
exceptions: `İ` becomes two characters, and `Σ` looks at its neighbours, because at the end of a
word it is written `ς`.

No character of a lowered text changes when the text is lowered again, since no run of `lowerRuns`
leads into a run.
-/

namespace LiveFind.Text

/-- The lower case of a character, whatever stands around it. -/
def lowerChar (c : Char) : List Char :=
  if c = 'İ' then ['i', '\u0307'] else [Char.ofNat (CaseRun.mapTo lowerRuns c.toNat)]

/-- Whether the first character that is not case-ignorable is there and is cased. -/
def meetsCased (cs : List Char) : Bool :=
  match cs.dropWhile isCaseIgnorable with
  | [] => false
  | c :: _ => isCased c

/-- The lower case of `Σ`: final after a cased character (read backwards in `before`) with none to
follow. -/
def lowerSigma (before after : List Char) : Char :=
  if meetsCased before && !meetsCased after then 'ς' else 'σ'

/-- The lower case of a text that stands behind `before`, which is held in reverse. -/
def lowercaseAfter (before : List Char) : List Char → List Char
  | [] => []
  | c :: rest =>
    (if c = 'Σ' then [lowerSigma before rest] else lowerChar c) ++ lowercaseAfter (c :: before) rest

/-- The lower case of a text. -/
def lowercase (cs : List Char) : List Char :=
  lowercaseAfter [] cs

/-- The lower case of a string. -/
def lower (s : String) : String :=
  String.ofList (lowercase s.toList)

@[simp] theorem lowercase_nil : lowercase [] = [] := rfl

@[simp] theorem toList_lower (s : String) : (lower s).toList = lowercase s.toList := by
  simp [lower]

end LiveFind.Text
