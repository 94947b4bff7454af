import LiveFind.Pattern.Basic

/-!
# Matching

All runs of a pattern are followed at once. A set of places in a text of `n` characters is a number
below `2 ^ (n + 1)`: bit `i` stands for the place before character `i`. An expression takes the set
of places where its runs may start to the set of places where they may end, so the work grows with
the length of the text times the size of the pattern, whatever the pattern is.
-/

namespace LiveFind.Pattern

/-- The number whose bit `i` is the `i`-th entry. -/
def bits : List Bool → Nat
  | [] => 0
  | b :: rest => 2 * bits rest + b.toNat

/-- For each place of a text, the characters before and after it. -/
def neighbours (before : Option Char) : List Char → List (Option Char × Option Char)
  | [] => [(before, none)]
  | c :: rest => (before, some c) :: neighbours (some c) rest

/-- An expression made ready for one text: each condition is the set of places where it holds. -/
inductive Plan
  | stay
  /-- Go past a character that starts at one of the places. -/
  | advance (places : Nat)
  /-- Stay if the place is among these. -/
  | check (places : Nat)
  | seq (a b : Plan)
  | alt (a b : Plan)
  | times (min : Nat) (extra : Nat) (a : Plan)

/-- The plan of an expression for a text. In a text of `n` characters, `n + 1` rounds reach all that
any number does. -/
def Expr.plan (text : List Char) : Expr → Plan
  | .empty => .stay
  | .char s => .advance (bits (text.map s.mem))
  | .place p =>
    .check (bits ((neighbours none text).map fun (before, after) ↦ p.holds before after))
  | .seq a b => .seq (a.plan text) (b.plan text)
  | .alt a b => .alt (a.plan text) (b.plan text)
  | .times min max a => .times min (max.elim (text.length + 1) (· - min)) (a.plan text)

/-- Apply `f` the given number of times, or until nothing changes. -/
def iterate (f : Nat → Nat) : Nat → Nat → Nat
  | 0, s => s
  | k + 1, s => let t := f s; if t = s then s else iterate f k t

/-- The places reached by applying `f` at most the given number of times. -/
def spread (f : Nat → Nat) : Nat → Nat → Nat
  | 0, s => s
  | k + 1, s => let t := s ||| f s; if t = s then s else spread f k t

/-- The places where a run ends that starts at a place of the set. -/
def Plan.run : Plan → Nat → Nat
  | stay, s => s
  | advance places, s => (s &&& places) <<< 1
  | check places, s => s &&& places
  | seq a b, s => b.run (a.run s)
  | alt a b, s => a.run s ||| b.run s
  | times min extra a, s => spread a.run extra (iterate a.run min s)

/-- Whether some run of the text is one that the expression describes. -/
def Expr.occursIn (e : Expr) (text : List Char) : Bool :=
  (e.plan text).run (bits (List.replicate (text.length + 1) true)) != 0

end LiveFind.Pattern
