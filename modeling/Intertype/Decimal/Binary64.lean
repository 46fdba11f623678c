/-
# Double-precision numbers

A double is a sign, an exponent field of eleven bits and a fraction of fifty-two. Its magnitude is
`significand · 2 ^ scale` unless the exponent field is at its greatest, which makes it infinite or no
number at all. `Binary64.ofQuotient` is the double nearest to a quotient of natural numbers, the one
with the even significand where two are equally near; it works on whole numbers only.

Key definitions: `Binary64`, `Binary64.significand`, `Binary64.scale`, `Binary64.ofQuotient`,
`Binary64.ofDecimal`.
-/

namespace Intertype

/-- A number in the double-precision format. -/
structure Binary64 where
  /-- Whether it has a minus sign. -/
  negative : Bool
  /-- The exponent field. -/
  exponent : Fin 2048
  /-- The fraction field. -/
  fraction : Fin (Nat.pow 2 52)
  deriving DecidableEq

namespace Binary64

/-- Whether the double is a number with a finite value. -/
def isFinite (x : Binary64) : Bool :=
  x.exponent.val ≠ 2047

/-- Whether the double is no number. -/
def isNaN (x : Binary64) : Bool :=
  x.exponent.val = 2047 && x.fraction.val ≠ 0

/-- The whole number that a power of two multiplies. -/
def significand (x : Binary64) : Nat :=
  if x.exponent.val = 0 then x.fraction.val else Nat.pow 2 52 + x.fraction.val

/-- The exponent of that power of two. -/
def scale (x : Binary64) : Int :=
  max (x.exponent.val : Int) 1 - 1075

/-- Whether the double is zero, of either sign. -/
def isZero (x : Binary64) : Bool :=
  x.significand = 0

/-- The infinity of a sign. -/
def infinity (negative : Bool) : Binary64 :=
  ⟨negative, ⟨2047, by omega⟩, ⟨0, by decide⟩⟩

/-- No number. -/
def nan : Binary64 :=
  ⟨false, ⟨2047, by omega⟩, ⟨Nat.pow 2 51, by decide⟩⟩

/-- The double with the two fields run together, infinite where they overflow. -/
def ofFields (negative : Bool) (bits : Nat) : Binary64 :=
  if h : bits < 2047 * Nat.pow 2 52 then
    ⟨negative, ⟨bits / Nat.pow 2 52, Nat.div_lt_of_lt_mul (Nat.lt_of_lt_of_le h (by decide))⟩,
      ⟨bits % Nat.pow 2 52, Nat.mod_lt _ (by decide)⟩⟩
  else infinity negative

/-- A quotient as a numerator and a denominator, multiplied by a power of `base`. -/
def scaled (base num den : Nat) (e : Int) : Nat × Nat :=
  if 0 ≤ e then (num * Nat.pow base e.toNat, den) else (num, den * Nat.pow base (-e).toNat)

/-- The whole number nearest to a quotient, the even one where two are equally near. -/
def nearest (num den : Nat) : Nat :=
  let low := num / den
  let twice := 2 * (num % den)
  if twice < den ∨ (twice = den ∧ low % 2 = 0) then low else low + 1

/-- The power of two that makes the significand of a quotient fit, as small as the format admits. -/
def fittingScale (num den : Nat) : Int :=
  let rough : Int := (num.log2 : Int) - den.log2 - 53
  let (n, d) := scaled 2 num den (-rough)
  max (if n / d < Nat.pow 2 53 then rough else rough + 1) (-1074)

/-- The double nearest to the quotient of two natural numbers, with the given sign. -/
def ofQuotient (negative : Bool) (num den : Nat) : Binary64 :=
  if num = 0 then ofFields negative 0
  else
    let q := fittingScale num den
    let (n, d) := scaled 2 num den (-q)
    ofFields negative ((q + 1074).toNat * Nat.pow 2 52 + nearest n d)

/-- The double nearest to `digits · 10 ^ e`, with the given sign. Beyond the range of the format the
power need not be formed: `width` is the number of decimal digits in `digits`. -/
def ofDecimal (negative : Bool) (digits width : Nat) (e : Int) : Binary64 :=
  if digits = 0 then ofFields negative 0
  else if e + width < -330 then ofFields negative 0
  else if e + width > 310 then infinity negative
  else
    let (n, d) := scaled 10 digits 1 e
    ofQuotient negative n d

/-- The whole number that the double is, if it is one. -/
def whole? (x : Binary64) : Option Int :=
  let (n, d) := scaled 2 x.significand 1 x.scale
  if x.isFinite ∧ n % d = 0 then
    some (if x.negative then -((n / d : Nat) : Int) else ((n / d : Nat) : Int))
  else none

example : (ofDecimal false 1 1 (-1)).significand = 0x1999999999999A := by decide +kernel
example : ofDecimal false 1 1 999 = infinity false := by decide +kernel
example : (ofDecimal true 30 2 (-1)).whole? = some (-3) := by decide +kernel
example : (ofDecimal true 5 1 (-1)).whole? = none := by decide +kernel
example : ofDecimal true 5 1 (-324) = ofFields true 1 := by decide +kernel
example : ofDecimal false 17976931348623159 17 292 = infinity false := by decide +kernel

end Binary64
end Intertype
