/-
  Binary floating-point numbers with 53 bits.

  A `Binary64` is a non-negative number `mantissa · 2 ^ exponent`.  Every
  operation is exact on natural numbers and rounds once, to the nearest number
  and on a tie to the even one.  A result that is too large is none.
-/

namespace PotCatalog

/-- A non-negative fraction. -/
structure Fraction where
  num : Nat
  den : Nat
  deriving Repr

namespace Fraction

/-- `n · base ^ exponent`. -/
def scaled (base n : Nat) (exponent : Int) : Fraction :=
  if 0 ≤ exponent then ⟨n * base.pow exponent.toNat, 1⟩
  else ⟨n, base.pow (-exponent).toNat⟩

/-- Whether a fraction is less than another one. -/
def lt (a b : Fraction) : Bool := a.num * b.den < b.num * a.den

/-- Whether a fraction is at most another one. -/
def le (a b : Fraction) : Bool := a.num * b.den ≤ b.num * a.den

end Fraction

/-- The number `mantissa · 2 ^ exponent`. -/
structure Binary64 where
  mantissa : Nat
  exponent : Int
  deriving DecidableEq, Repr

namespace Binary64

/-- The exponent of the smallest numbers. -/
def minExponent : Int := -1074

/-- The largest exponent. -/
def maxExponent : Int := 971

/-- The quotient of two numbers, rounded to the nearest one and on a tie to the
    even one. -/
def roundedQuotient (a b : Nat) : Nat :=
  let q := a / b
  let r := a % b
  if 2 * r > b || (2 * r = b && q % 2 = 1) then q + 1 else q

/-- The exponent with which the mantissa of a fraction has 53 bits, unless it
    would be too small. -/
def exponentFor (x : Fraction) : Int :=
  let guess : Int := (x.num.log2 : Int) - x.den.log2 - 52
  let unit := Fraction.scaled 2 (Nat.pow 2 52) guess
  max minExponent (if x.lt unit then guess - 1 else guess)

/-- The number nearest to a fraction. -/
def round (x : Fraction) : Option Binary64 :=
  if x.num = 0 then some ⟨0, minExponent⟩
  else
    let e := exponentFor x
    let unit := Fraction.scaled 2 1 e
    let m := roundedQuotient (x.num * unit.den) (x.den * unit.num)
    let (m, e) := if m = Nat.pow 2 53 then (Nat.pow 2 52, e + 1) else (m, e)
    if e > maxExponent then none else some ⟨m, e⟩

/-- The value of a number. -/
def value (x : Binary64) : Fraction := Fraction.scaled 2 x.mantissa x.exponent

/-- The product of two numbers. -/
def mul (x y : Binary64) : Option Binary64 :=
  round ⟨x.value.num * y.value.num, x.value.den * y.value.den⟩

/-- The quotient of two numbers. -/
def div (x y : Binary64) : Option Binary64 :=
  round ⟨x.value.num * y.value.den, x.value.den * y.value.num⟩

/-- The number nearest to a natural number. -/
def ofNat (n : Nat) : Option Binary64 := round ⟨n, 1⟩

/-- The largest power of ten that is a number. -/
def maxPower : Nat := 308

/-- The number times a power of ten.  Powers that are no numbers are divided by
    in several steps, each of which rounds. -/
def timesPower (x : Binary64) (power : Int) : Option Binary64 :=
  if power.natAbs ≤ maxPower then do
    let ten ← ofNat (Nat.pow 10 power.natAbs)
    if 0 ≤ power then x.mul ten else x.div ten
  else if x.mantissa = 0 then some x
  else if 0 ≤ power then none
  else do
    (← x.div (← ofNat (Nat.pow 10 maxPower))).timesPower (power + maxPower)
termination_by power.natAbs
decreasing_by simp only [maxPower] at *; omega

/-- The number nearest to `digits`, times a power of ten. -/
def ofDecimal (digits : Nat) (power : Int) : Option Binary64 := do
  (← ofNat digits).timesPower power

end Binary64

end PotCatalog
