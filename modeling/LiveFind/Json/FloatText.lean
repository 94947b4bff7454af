import LiveFind.Decimal.Shortest

/-!
# The text of a double

The shortest digits that read back, positional from `0.00001` up to below `1e16` and with an
exponent outside of that, where the exponent always has a sign. A point with at least one digit
behind it tells a positional double from a whole number.
-/

namespace LiveFind.Json

/-- The leading exponents of the doubles that are written without an exponent. -/
def positional (leading : Int) : Bool :=
  -5 ≤ leading ∧ leading < 16

/-- The digits of a positive decimal as they are written. -/
def decimalText (d : Decimal.Shortest) : List Char :=
  let digits := Nat.toDigits 10 d.coefficient
  let leading : Int := digits.length - 1 + d.exponent
  if positional leading then
    if 0 ≤ d.exponent then digits ++ List.replicate d.exponent.toNat '0' ++ ['.', '0']
    else if 0 ≤ leading then
      digits.take (leading.toNat + 1) ++ '.' :: digits.drop (leading.toNat + 1)
    else
      '0' :: '.' :: List.replicate (-leading - 1).toNat '0' ++ digits
  else
    let point := if digits.length = 1 then [] else '.' :: digits.drop 1
    let sign := if leading < 0 then '-' else '+'
    digits.take 1 ++ point ++ 'e' :: sign :: Nat.toDigits 10 leading.natAbs

/-- The text of the finite double with these bits. -/
def floatText (bits : UInt64) : List Char :=
  let magnitude := bits &&& 0x7fffffffffffffff
  let text := if magnitude = 0 then ['0', '.', '0'] else decimalText (Decimal.shortest magnitude)
  if bits = magnitude then text else '-' :: text

end LiveFind.Json
