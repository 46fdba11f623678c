/-
# The shortest decimal of a double

A finite double is written with the fewest significant digits that read back as the same double; of
several such digit strings the one nearest to its value is taken, and of two equally near ones the
even one. On each grid of so many digits only the two neighbours of the value need be tried.

A decimal whose first digit stands for a power of ten from the fourth negative one to the fifteenth is
written positionally, with a point and at least one digit behind it. Any other has one digit before
the point, none behind it if that suffices, and the exponent after an `e`, with its sign and at least
two digits.

Key definitions: `Binary64.shortest`, `Binary64.text`.
-/
import Intertype.Decimal.Digits
import Intertype.Decimal.Binary64

namespace Intertype

/-- The decimal number `digits · 10 ^ exponent`. -/
structure Decimal.Scaled where
  /-- The digits as a whole number. -/
  digits : Nat
  /-- The power of ten of the last digit. -/
  exponent : Int
  deriving DecidableEq, Repr

namespace Decimal

/-- The power of ten that the first digit of a quotient stands for. -/
def leadingPower (num den : Nat) : Int :=
  if den ≤ num then ((digits (num / den)).length : Int) - 1
  else -((digits ((den + num - 1) / num - 1)).length : Int)

/-- The neighbours of a quotient on the grid of multiples of `10 ^ e`, the nearer one first, and of two
equally near ones the even one. -/
def neighbours (num den : Nat) (e : Int) : List Scaled :=
  let (n, d) := Binary64.scaled 10 num den (-e)
  let low := n / d
  let twice := 2 * (n % d)
  if twice = 0 then [⟨low, e⟩]
  else if twice < d ∨ (twice = d ∧ low % 2 = 0) then [⟨low, e⟩, ⟨low + 1, e⟩]
  else [⟨low + 1, e⟩, ⟨low, e⟩]

/-- The decimal without the zeros that its digits end in, at most so many. -/
def trimmed : Nat → Scaled → Scaled
  | 0, d => d
  | fuel + 1, d =>
    if d.digits ≠ 0 ∧ d.digits % 10 = 0 then trimmed fuel ⟨d.digits / 10, d.exponent + 1⟩ else d

end Decimal

namespace Binary64

open Decimal

/-- The double nearest to a decimal, with the given sign. -/
def ofScaled (negative : Bool) (d : Scaled) : Binary64 :=
  ofDecimal negative d.digits (digits d.digits).length d.exponent

/-- The magnitude of a finite double as a quotient. -/
def quotient (x : Binary64) : Nat × Nat :=
  scaled 2 x.significand 1 x.scale

/-- The exact value of the magnitude of a finite double as a decimal. -/
def exactDecimal (x : Binary64) : Scaled :=
  if 0 ≤ x.scale then ⟨x.significand * Nat.pow 2 x.scale.toNat, 0⟩
  else ⟨x.significand * Nat.pow 5 (-x.scale).toNat, x.scale⟩

/-- The decimals to be tried: the neighbours of the value with one digit, with two, and so on. -/
def candidates (x : Binary64) : List Scaled :=
  let (num, den) := x.quotient
  let power := leadingPower num den
  (List.range 17).flatMap fun n : Nat => neighbours num den (power - n)

/-- The shortest decimal that reads back as the double. -/
def shortest (x : Binary64) : Scaled :=
  match x.candidates.find? fun d => ofScaled x.negative d = x with
  | some d => d
  | none => x.exactDecimal

/-- So many zeros. -/
def zeros (n : Nat) : List Char :=
  List.replicate n '0'

/-- An exponent with its sign and at least two digits. -/
def exponentText (e : Int) : List Char :=
  let ds := digits e.natAbs
  (if e < 0 then '-' else '+') :: (zeros (2 - ds.length) ++ ds)

/-- A decimal that is not zero, positionally or with an exponent. -/
def decimalText (d : Scaled) : List Char :=
  let ds := digits d.digits
  let power : Int := d.exponent + ds.length - 1
  if -4 ≤ power ∧ power < 16 then
    if 0 ≤ d.exponent then ds ++ zeros d.exponent.toNat ++ ['.', '0']
    else if 0 ≤ power then
      ds.take (power.toNat + 1) ++ '.' :: ds.drop (power.toNat + 1)
    else '0' :: '.' :: (zeros (-power - 1).toNat ++ ds)
  else
    match ds with
    | [] => []
    | [c] => c :: 'e' :: exponentText power
    | c :: more => c :: '.' :: (more ++ 'e' :: exponentText power)

/-- A finite double as source text. -/
def finiteText (x : Binary64) : String :=
  let magnitude :=
    if x.isZero then ['0', '.', '0'] else decimalText (trimmed 400 x.shortest)
  String.ofList (if x.negative then '-' :: magnitude else magnitude)

/-- A double as text, one without a finite value by a name for it. -/
def text (x : Binary64) : String :=
  if x.isFinite then x.finiteText
  else if x.isNaN then "nan"
  else if x.negative then "-inf" else "inf"

end Binary64
end Intertype
