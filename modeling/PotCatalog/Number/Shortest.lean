/-
  The shortest decimal text of a floating-point number.

  Of the decimals that are read back as a number, those with the fewest digits
  are taken, and of these the one nearest to the number.
-/
import PotCatalog.Number.Binary64

namespace PotCatalog

/-- The number `digits · 10 ^ power`. -/
structure Decimal where
  digits : Nat
  power : Int
  deriving DecidableEq, Repr

namespace Decimal

/-- The value of a decimal. -/
def value (d : Decimal) : Fraction := Fraction.scaled 10 d.digits d.power

end Decimal

namespace Binary64

/-- The least fraction that is rounded to a number, or the end of those if it
    is not one of them. -/
def lowerEnd (x : Binary64) : Fraction :=
  if x.mantissa = Nat.pow 2 52 && x.exponent > minExponent then
    Fraction.scaled 2 (4 * x.mantissa - 1) (x.exponent - 2)
  else Fraction.scaled 2 (2 * x.mantissa - 1) (x.exponent - 1)

/-- The greatest fraction that is rounded to a number, or the end of those if it
    is not one of them. -/
def upperEnd (x : Binary64) : Fraction := Fraction.scaled 2 (2 * x.mantissa + 1) (x.exponent - 1)

/-- Whether a decimal is read back as a number. -/
def isReadFrom (x : Binary64) (d : Decimal) : Bool :=
  if x.mantissa % 2 = 0 then x.lowerEnd.le d.value && d.value.le x.upperEnd
  else x.lowerEnd.lt d.value && d.value.lt x.upperEnd

/-- The power of ten of the first digit of a number. -/
def leadingPower (x : Binary64) : Int :=
  let v := x.value
  if v.den ≤ v.num then ((Nat.toDigits 10 (v.num / v.den)).length : Int) - 1
  else
    match (List.range 400).find? fun j => v.den ≤ v.num * Nat.pow 10 j with
    | some j => -(j : Int)
    | none => 0

/-- The two decimals with `count` digits next to a number, the nearer one
    first. -/
def neighbours (x : Binary64) (count : Nat) : List Decimal :=
  let power := x.leadingPower - ((count : Int) - 1)
  let unit := Fraction.scaled 10 1 power
  let num := x.value.num * unit.den
  let den := x.value.den * unit.num
  let below := num / den
  let rest := num % den
  if 2 * rest < den || (2 * rest = den && below % 2 = 0) then [⟨below, power⟩, ⟨below + 1, power⟩]
  else [⟨below + 1, power⟩, ⟨below, power⟩]

/-- The shortest decimal that is read back as a number.  Seventeen digits are
    always enough. -/
def shortest (x : Binary64) : Decimal :=
  if x.mantissa = 0 then ⟨0, 0⟩
  else (((List.range 17).flatMap fun n => x.neighbours (n + 1)).find? x.isReadFrom).getD ⟨0, 0⟩

end Binary64

/-! ## Text -/

/-- The digits of a decimal without zeros at the end. -/
def Decimal.significant (d : Decimal) : List Char :=
  ((Nat.toDigits 10 d.digits).reverse.dropWhile (· == '0')).reverse

/-- The text of a decimal: positional from `10 ^ -5` up to `10 ^ 16`, and with a
    signed exponent otherwise. -/
def Decimal.text (d : Decimal) : String :=
  let zeros (n : Nat) : List Char := List.replicate n '0'
  let digits := d.significant
  let first : Int := d.power + ((Nat.toDigits 10 d.digits).length : Int) - 1
  if d.digits = 0 then "0.0"
  else if -5 ≤ first && first < 0 then
    String.ofList ('0' :: '.' :: zeros ((-first).toNat - 1) ++ digits)
  else if 0 ≤ first && first < 16 then
    let whole := first.toNat + 1
    let (before, behind) := (digits.take whole, digits.drop whole)
    String.ofList (before ++ zeros (whole - before.length) ++ '.' ::
      if behind.isEmpty then ['0'] else behind)
  else
    let mantissa := match digits with
      | digit :: rest@(_ :: _) => digit :: '.' :: rest
      | other => other
    String.ofList mantissa ++ (if first < 0 then "e-" else "e+") ++ toString first.natAbs

/-- The shortest text that is read back as a number. -/
def Binary64.text (x : Binary64) : String := x.shortest.text

end PotCatalog
