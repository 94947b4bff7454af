/-!
# Runs of case pairs

Scripts put their upper and lower case letters side by side, so the case mappings of thousands of
characters are a few hundred runs: code points `step` apart that move by the same distance.
-/

namespace LiveFind.Text

/-- The code points `first`, `first + step`, … up to `last`; `first` goes to `image` and the others
move with it. -/
structure CaseRun where
  first : Nat
  last : Nat
  step : Nat
  image : Nat
deriving Repr, DecidableEq

namespace CaseRun

/-- Whether the run holds the code point. -/
def holds (r : CaseRun) (n : Nat) : Bool :=
  decide (r.first ≤ n) && decide (n ≤ r.last) && decide ((n - r.first) % r.step = 0)

/-- Where the run takes a code point that it holds. -/
def apply (r : CaseRun) (n : Nat) : Nat :=
  r.image + (n - r.first)

/-- The code points that ascending runs take to `n`. -/
def preimages (runs : List CaseRun) (n : Nat) : List Nat :=
  runs.filterMap fun r ↦
    if r.image ≤ n then
      let m := r.first + (n - r.image)
      if r.holds m then some m else none
    else none

/-- The image of a code point under ascending runs; one that no run holds stays as it is. -/
def mapTo : List CaseRun → Nat → Nat
  | [], n => n
  | r :: rest, n => if r.last < n then mapTo rest n else if r.holds n then r.apply n else n

@[simp] theorem mapTo_nil (n : Nat) : mapTo [] n = n := rfl

theorem mapTo_cons (r : CaseRun) (rest : List CaseRun) (n : Nat) :
    mapTo (r :: rest) n =
      if r.last < n then mapTo rest n else if r.holds n then r.apply n else n := rfl

end CaseRun

end LiveFind.Text
