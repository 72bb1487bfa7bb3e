import ClassRegistry.Decimal.Binary64

/-!
# Shortest decimal text of a binary number

The fewest digits that read back as the number: among the multiples of a power of ten that round
to it, those of the largest power, and of two of them the nearer one.
-/

namespace ClassRegistry.Decimal

/-- A number `digits * 10 ^ exponent`. -/
structure Scientific where
  digits : Nat
  exponent : Int
  deriving DecidableEq, Repr

/-- `fourths * 2 ^ (exponent - 2)` and `count * 10 ^ power`, both multiplied by what makes them
whole numbers. -/
def aligned (exponent power : Int) (fourths count : Nat) : Nat × Nat :=
  let binary := exponent - 2
  (fourths * Nat.pow 2 binary.toNat * Nat.pow 10 (-power).toNat,
    count * Nat.pow 10 power.toNat * Nat.pow 2 (-binary).toNat)

/-- Whether `count * 10 ^ power` rounds to the number. The ends of the interval belong to it when
the significand is even. -/
def roundsTo (b : Binary64) (power : Int) (count : Nat) : Bool :=
  let gap := if b.significand = Nat.pow 2 52 && Binary64.leastExponent < b.exponent then 1 else 2
  let (low, x) := aligned b.exponent power (4 * b.significand - gap) count
  let (high, _) := aligned b.exponent power (4 * b.significand + 2) count
  if b.significand % 2 = 0 then low ≤ x && x ≤ high else low < x && x < high

/-- The multiple of a power of ten that is next to the number and rounds to it. -/
def nearestMultiple? (b : Binary64) (power : Int) : Option Nat :=
  let (value, unit) := aligned b.exponent power (4 * b.significand) 1
  let below := value / unit
  let twice := 2 * (value % unit)
  let nearer := if unit < twice || (twice = unit && below % 2 = 1) then below + 1 else below
  if roundsTo b power nearer then some nearer
  else [below, below + 1].find? (roundsTo b power)

/-- The shortest decimal that rounds to a number other than zero. -/
def shortest (b : Binary64) : Scientific :=
  let powers := (List.range 660).map fun (n : Nat) => (310 : Int) - n
  (powers.findSome? fun power => (nearestMultiple? b power).map (Scientific.mk · power)).getD ⟨0, 0⟩

/-- The decimal text of a number: positional where the point stands at most sixteen digits behind
the first digit or at most four before it, otherwise with an exponent, which always has a sign. -/
def Binary64.text (b : Binary64) : String :=
  if b.significand = 0 then "0.0"
  else
    let s := shortest b
    let digits := toString s.digits
    let point := (digits.length : Int) + s.exponent
    let zeros (n : Int) : String := String.ofList (List.replicate n.toNat '0')
    let cut (n : Int) : String × String :=
      (String.ofList (digits.toList.take n.toNat), String.ofList (digits.toList.drop n.toNat))
    if 0 ≤ s.exponent && point ≤ 16 then digits ++ zeros s.exponent ++ ".0"
    else if 0 < point && point ≤ 16 then (cut point).1 ++ "." ++ (cut point).2
    else if -5 < point && point ≤ 0 then "0." ++ zeros (-point) ++ digits
    else
      let exponent := (if 0 < point then "e+" else "e") ++ toString (point - 1)
      if digits.length = 1 then digits ++ exponent
      else (cut 1).1 ++ "." ++ (cut 1).2 ++ exponent

end ClassRegistry.Decimal
