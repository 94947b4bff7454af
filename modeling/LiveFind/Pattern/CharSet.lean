import LiveFind.Text.Alphabetic
import LiveFind.Text.DecimalDigit
import LiveFind.Text.Folding
import LiveFind.Text.Letter
import LiveFind.Text.Number
import LiveFind.Text.Recent
import LiveFind.Text.WhiteSpace
import LiveFind.Text.Word

/-!
# Sets of characters

The classes that a pattern can name, and the operations on them. Patterns are fixed to Unicode 16,
so a character that came later belongs to no class. A set is an expression, so that membership is
decided character by character and no set is ever spelled out.
-/

namespace LiveFind.Pattern

/-- The classes with a name of their own: those of escapes such as `\d`, those of `\p`, and the
bracketed ASCII ones. -/
inductive CharClass
  | digit
  | space
  | word
  | letter
  | number
  | alphabetic
  | asciiAlnum
  | asciiAlpha
  | ascii
  | asciiBlank
  | asciiControl
  | asciiDigit
  | asciiGraph
  | asciiLower
  | asciiPrint
  | asciiPunct
  | asciiSpace
  | asciiUpper
  | asciiWord
  | asciiHexDigit
deriving Repr, DecidableEq

namespace CharClass

/-- Whether the class holds the character. -/
def mem (k : CharClass) (c : Char) : Bool :=
  let n := c.toNat
  match k with
  | digit => Text.isDecimalDigit c && !Text.isRecent c
  | space => Text.isWhiteSpace c
  | word => Text.isWord c && !Text.isRecent c
  | letter => Text.isLetter c && !Text.isRecent c
  | number => Text.isNumber c && !Text.isRecent c
  | alphabetic => Text.isAlphabetic c && !Text.isRecent c
  | asciiAlnum => c.isAlphanum
  | asciiAlpha => c.isAlpha
  | ascii => n < 0x80
  | asciiBlank => c == '\t' || c == ' '
  | asciiControl => n < 0x20 || n == 0x7F
  | asciiDigit => c.isDigit
  | asciiGraph => 0x21 ≤ n && n ≤ 0x7E
  | asciiLower => c.isLower
  | asciiPrint => 0x20 ≤ n && n ≤ 0x7E
  | asciiPunct => 0x21 ≤ n && n ≤ 0x7E && !c.isAlphanum
  | asciiSpace => (9 ≤ n && n ≤ 13) || c == ' '
  | asciiUpper => c.isUpper
  | asciiWord => c.isAlphanum || c == '_'
  | asciiHexDigit => c.isDigit || (0x61 ≤ n && n ≤ 0x66) || (0x41 ≤ n && n ≤ 0x46)

/-- The class that a bracketed name such as `alpha` in `[:alpha:]` stands for. -/
def ofBracketName? (name : List Char) : Option CharClass :=
  match String.ofList name with
  | "alnum" => some asciiAlnum
  | "alpha" => some asciiAlpha
  | "ascii" => some ascii
  | "blank" => some asciiBlank
  | "cntrl" => some asciiControl
  | "digit" => some asciiDigit
  | "graph" => some asciiGraph
  | "lower" => some asciiLower
  | "print" => some asciiPrint
  | "punct" => some asciiPunct
  | "space" => some asciiSpace
  | "upper" => some asciiUpper
  | "word" => some asciiWord
  | "xdigit" => some asciiHexDigit
  | _ => none

end CharClass

/-- A set of characters. -/
inductive CharSet
  | empty
  | range (lo hi : Char)
  | named (k : CharClass)
  /-- The characters of either set. -/
  | union (a b : CharSet)
  /-- The characters of both sets. -/
  | inter (a b : CharSet)
  /-- The characters of the first set that are not in the second. -/
  | diff (a b : CharSet)
  /-- The characters of exactly one of the sets. -/
  | symmDiff (a b : CharSet)
  | compl (a : CharSet)
  /-- The characters that differ from a member in case only. -/
  | caseless (a : CharSet)
deriving Repr, DecidableEq

namespace CharSet

/-- Whether the set holds the character. -/
def mem : CharSet → Char → Bool
  | empty, _ => false
  | range lo hi, c => lo ≤ c && c ≤ hi
  | named k, c => k.mem c
  | union a b, c => a.mem c || b.mem c
  | inter a b, c => a.mem c && b.mem c
  | diff a b, c => a.mem c && !b.mem c
  | symmDiff a b, c => a.mem c != b.mem c
  | compl a, c => !a.mem c
  | caseless a, c => (Text.caseVariants c).any a.mem

/-- The set of one character. -/
def single (c : Char) : CharSet :=
  range c c

/-- All characters but the given ones. -/
def allBut (cs : List Char) : CharSet :=
  compl (cs.foldr (fun c s ↦ union (single c) s) empty)

/-- The set as it is read when case does not matter. -/
def ignoringCase (ignore : Bool) (s : CharSet) : CharSet :=
  if ignore then caseless s else s

/-- The set or, where a pattern negates it, all other characters. -/
def negatedIf (negated : Bool) (s : CharSet) : CharSet :=
  if negated then compl s else s

theorem mem_single (a c : Char) : (single a).mem c = decide (a = c) := by
  have h : a ≤ c ∧ c ≤ a ↔ a = c :=
    ⟨fun h ↦ Char.le_antisymm h.1 h.2, fun h ↦ h ▸ ⟨Char.le_refl a, Char.le_refl a⟩⟩
  simp only [single, mem, ← h, Bool.decide_and]

end CharSet

end LiveFind.Pattern
