/-
# Reading a decimal number

A decimal number is an optional sign, digits with at most one point among them or beside them, and an
optional exponent; the names of the infinities and of no number are read too, in letters of either
case. The result is the nearest double (`Binary64.ofDecimal`).

Key definition: `Binary64.read?`.
-/
import Intertype.Decimal.Shortest

namespace Intertype
namespace Binary64

open Decimal

/-- The digits at the start of a text, and the rest of it. -/
def spanDigits (cs : List Char) : List Char × List Char :=
  (cs.takeWhile isDigit, cs.dropWhile isDigit)

/-- Reads an exponent after its letter: an optional sign and at least one digit, and nothing else. -/
def readExponent? (cs : List Char) : Option Int :=
  match cs with
  | '+' :: ds => if ds ≠ [] ∧ ds.all isDigit then some (value ds) else none
  | ds => toInt? ds

/-- Reads an unsigned decimal number. -/
def readMagnitude? (negative : Bool) (cs : List Char) : Option Binary64 :=
  let (whole, rest) := spanDigits cs
  let (fraction, rest) := match rest with
    | '.' :: more => spanDigits more
    | _ => ([], rest)
  let ds := whole ++ fraction
  if ds = [] then none
  else
    let scaledBy := fun (e : Int) =>
      ofDecimal negative (value ds) (digits (value ds)).length (e - fraction.length)
    match rest with
    | [] => some (scaledBy 0)
    | c :: more => if c = 'e' ∨ c = 'E' then (readExponent? more).map scaledBy else none

/-- Reads a double without its sign. -/
def readUnsigned? (negative : Bool) (cs : List Char) : Option Binary64 :=
  let name := String.ofList (cs.map Char.toLower)
  if name = "inf" ∨ name = "infinity" then some (infinity negative)
  else if name = "nan" then some nan
  else readMagnitude? negative cs

/-- Reads a double. -/
def read? (s : String) : Option Binary64 :=
  match s.toList with
  | '-' :: cs => readUnsigned? true cs
  | '+' :: cs => readUnsigned? false cs
  | cs => readUnsigned? false cs

example : (read? "100").map text = some "100.0" := by decide +kernel
example : (read? "1e-05").map text = some "1e-05" := by decide +kernel
example : (read? "1e999").map text = some "inf" := by decide +kernel

end Binary64
end Intertype
