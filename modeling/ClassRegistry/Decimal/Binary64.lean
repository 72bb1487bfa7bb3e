/-!
# Binary floating-point numbers

Non-negative numbers of binary64, as a significand times a power of two. All arithmetic is exact, on
natural numbers, and rounds to the nearest number at the end; of two that are equally near it takes
the one with the even significand.
-/

namespace ClassRegistry.Decimal

/-- A non-negative number `significand * 2 ^ exponent`. -/
structure Binary64 where
  significand : Nat
  exponent : Int
  deriving DecidableEq, Repr

namespace Binary64

/-- The least exponent. -/
def leastExponent : Int := -1074

/-- A quotient divided by a power of two, as a quotient of natural numbers. -/
def scaleDown (numerator denominator : Nat) (exponent : Int) : Nat × Nat :=
  (numerator * Nat.pow 2 (-exponent).toNat, denominator * Nat.pow 2 exponent.toNat)

/-- The quotient rounded to a whole number. -/
def roundQuotient (numerator denominator : Nat) : Nat :=
  let quotient := numerator / denominator
  let twice := 2 * (numerator % denominator)
  if denominator < twice || (twice = denominator && quotient % 2 = 1) then quotient + 1
  else quotient

/-- The number nearest to a quotient. -/
def ofQuotient (numerator denominator : Nat) : Binary64 :=
  let guess := max leastExponent ((numerator.log2 : Int) - denominator.log2 - 53)
  let (n, d) := scaleDown numerator denominator guess
  let exponent := if Nat.pow 2 53 ≤ n / d then guess + 1 else guess
  let (n, d) := scaleDown numerator denominator exponent
  let significand := roundQuotient n d
  if significand = Nat.pow 2 53 then ⟨Nat.pow 2 52, exponent + 1⟩ else ⟨significand, exponent⟩

/-- The number nearest to a natural number. -/
def ofNat (n : Nat) : Binary64 :=
  ofQuotient n 1

/-- Whether the number is too large for the format. -/
def isInfinite (b : Binary64) : Bool :=
  1024 ≤ (b.significand.log2 : Int) + b.exponent && b.significand ≠ 0

/-- The product, rounded. -/
def mul (a b : Binary64) : Binary64 :=
  let (n, d) := scaleDown (a.significand * b.significand) 1 (-(a.exponent + b.exponent))
  ofQuotient n d

/-- The quotient, rounded. -/
def div (a b : Binary64) : Binary64 :=
  let (n, d) := scaleDown a.significand b.significand (b.exponent - a.exponent)
  ofQuotient n d

end Binary64

end ClassRegistry.Decimal
