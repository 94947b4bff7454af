import LiveFind.Text.FoldRuns

/-!
# Simple case folding

Two characters differ in case only when they fold to the same representative. The case variants of a
character are the representative and all that folds to it.
-/

namespace LiveFind.Text

/-- The representative of a character among those that differ from it in case only. -/
def fold (c : Char) : Nat :=
  CaseRun.mapTo foldRuns c.toNat

/-- The characters that differ from `c` in case only, `c` among them. -/
def caseVariants (c : Char) : List Char :=
  if c.toNat < 0x80 ∧ ¬ c.isAlpha then [c]
  else
    let f := fold c
    (f :: CaseRun.preimages foldRuns f).map Char.ofNat

end LiveFind.Text
