/-!
# Rounded quotients

Averages and percentiles are computed with numbers of 53 significant bits and written with a fixed
number of decimal places. Both are roundings to the nearest value, a tie going to the even one, and
both are done exactly on fractions of whole numbers.
-/

namespace NullFlow

/-- The quotient rounded to the nearest whole number, a tie to the even one. -/
def nearest (num den : Nat) : Nat :=
  let q := num / den
  let r := num % den
  if 2 * r < den then q else if den < 2 * r then q + 1 else q + q % 2

/-- **A fraction** that is not negative. -/
structure Fraction where
  num : Nat
  den : Nat := 1
  deriving Repr

namespace Fraction

/-- The significant bits of a number. -/
def significantBits : Nat := 53

/-- **The closest fraction with 53 significant bits.** The quotient is scaled by a power of two
until its whole part has that many bits. -/
def rounded (q : Fraction) : Fraction :=
  if q.num = 0 ∨ q.den = 0 then ⟨0, 1⟩
  else
    let up := significantBits + Nat.log2 q.den - Nat.log2 q.num
    let down := Nat.log2 q.num - (significantBits + Nat.log2 q.den)
    let num := q.num * Nat.pow 2 up
    let den := q.den * Nat.pow 2 down
    -- The whole part of the scaled quotient has 53 or 54 bits.
    if num / den < Nat.pow 2 significantBits then ⟨nearest num den * Nat.pow 2 down, Nat.pow 2 up⟩
    else ⟨nearest num (2 * den) * Nat.pow 2 (down + 1), Nat.pow 2 up⟩

/-- The number with the given digits and so many of them after the point, rounded; a negative number
counts as zero. -/
def ofDecimal (digits : Int) (places : Nat) : Fraction := rounded ⟨digits.toNat, Nat.pow 10 places⟩

/-- The quotient of two fractions, rounded. -/
def dividedBy (q r : Fraction) : Fraction := rounded ⟨q.num * r.den, q.den * r.num⟩

/-- The product of two fractions, rounded. -/
def times (q r : Fraction) : Fraction := rounded ⟨q.num * r.num, q.den * r.den⟩

/-- The least whole number that is not smaller. -/
def ceiling (q : Fraction) : Nat := (q.num + q.den - 1) / q.den

/-- **The fraction with a number of decimal places.** -/
def decimal (places : Nat) (q : Fraction) : String :=
  let n := nearest (q.num * Nat.pow 10 places) q.den
  let digits := toString (n % Nat.pow 10 places)
  toString (n / Nat.pow 10 places) ++ "."
    ++ String.ofList (List.replicate (places - digits.length) '0')
    ++ digits

end Fraction

end NullFlow
