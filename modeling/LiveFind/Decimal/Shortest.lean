/-!
# The shortest decimal of a double

Of the decimals that read back as a given double, the one with the fewest digits, and of those the
nearest. All in exact arithmetic: a double is `m * 2 ^ q`, and the reals that round to it form an
interval around it. On the grid of the multiples of a power of ten, if any point lies in that
interval then so does one of the two neighbours of the double, so the grids are tried from the
coarsest on.
-/

namespace LiveFind.Decimal

/-- The decimal `coefficient * 10 ^ exponent`. -/
structure Shortest where
  coefficient : Nat
  exponent : Int
deriving Repr, DecidableEq

/-- A positive double and the interval of reals that round to it, as numerators over one
denominator. -/
structure Interval where
  low : Nat
  value : Nat
  high : Nat
  denominator : Nat
  /-- Whether the ends of the interval round to the double too. -/
  closed : Bool
deriving Repr

/-- The leading bit of a significand, which the bits of a normal double leave out. -/
def implicitBit : Nat := 0x10000000000000

/-- The interval of the double with these bits, its sign left out. At a power of two the neighbour
below is half as far away as the one above. -/
def Interval.ofBits (bits : UInt64) : Interval :=
  let fraction := bits.toNat % implicitBit
  let field := bits.toNat / implicitBit % 0x800
  let m := if field = 0 then fraction else fraction + implicitBit
  let q : Int := (max field 1 : Nat) - 1077
  let below := if fraction = 0 ∧ 1 < field then 1 else 2
  let scale := Nat.pow 2 q.toNat
  { low := (4 * m - below) * scale
    value := 4 * m * scale
    high := (4 * m + 2) * scale
    denominator := Nat.pow 2 (-q).toNat
    closed := m % 2 = 0 }

/-- The point of the grid `10 ^ g` that reads back and is nearest to the double; a tie goes to the
even coefficient. -/
def Interval.pointOn? (i : Interval) (g : Int) : Option Nat :=
  let unit := Nat.pow 10 g.toNat * i.denominator
  let scale := Nat.pow 10 (-g).toNat
  let within (n : Nat) : Bool :=
    if i.closed then i.low * scale ≤ n * unit ∧ n * unit ≤ i.high * scale
    else i.low * scale < n * unit ∧ n * unit < i.high * scale
  let n := i.value * scale / unit
  let r := i.value * scale % unit
  match within n, within (n + 1) with
  | true, true => some (if 2 * r < unit ∨ (2 * r = unit ∧ n % 2 = 0) then n else n + 1)
  | true, false => some n
  | false, true => some (n + 1)
  | false, false => none

/-- Whether the double is at least `10 ^ p`. -/
def Interval.reaches (i : Interval) (p : Int) : Bool :=
  Nat.pow 10 p.toNat * i.denominator ≤ i.value * Nat.pow 10 (-p).toNat

/-- The exponent of the leading digit, that is the greatest `p` with `10 ^ p` at most the double. -/
def Interval.leading (i : Interval) : Int :=
  let guess : Int := ((i.value.log2 : Int) - i.denominator.log2) * 1233 / 4096
  if i.reaches (guess + 1) then guess + 1
  else if i.reaches guess then guess
  else guess - 1

/-- Try grids from coarse to fine, ending with the one of 17 digits, where every double has a point.
-/
def Interval.search (i : Interval) : Nat → Int → Shortest
  | 0, g => ⟨(i.pointOn? g).getD 0, g⟩
  | finer + 1, g =>
    match i.pointOn? g with
    | some n => ⟨n, g⟩
    | none => i.search finer (g - 1)

/-- The shortest decimal of the positive double with these bits. The first grid is coarser than the
double, since a double just below a power of ten may read as that power. -/
def shortest (bits : UInt64) : Shortest :=
  let i := Interval.ofBits bits
  i.search 17 (i.leading + 1)

end LiveFind.Decimal
