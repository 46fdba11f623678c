/-
# What plain scalars stand for

A plain scalar may be the word for nothing or for a truth value, or a number. Whole numbers are written
in decimal, after `0b` in binary, after a zero in octal and after `0x` in hexadecimal digits; other
numbers have a point, and an exponent with a sign. Both may be written in sixties, with colons between
the parts, and underscores may stand among the digits. Whatever is none of this is text. Two marks have
a meaning of their own, and no value.

Key definitions: `Yaml.integer?`, `Yaml.double?`, `Yaml.value?`.
-/
import Intertype.Data
import Intertype.Decimal.Reading
import Intertype.Yaml.Quoted

namespace Intertype
namespace Yaml

open Decimal (isDigit)

/-- The words for nothing. -/
def nullWords : List String := ["", "~", "null", "Null", "NULL"]

/-- The words for yes. -/
def trueWords : List String :=
  ["yes", "Yes", "YES", "true", "True", "TRUE", "on", "On", "ON"]

/-- The words for no. -/
def falseWords : List String :=
  ["no", "No", "NO", "false", "False", "FALSE", "off", "Off", "OFF"]

/-- Takes a sign off; whether it is a minus. -/
def unsigned : List Char → Bool × List Char
  | '-' :: cs => (true, cs)
  | '+' :: cs => (false, cs)
  | cs => (false, cs)

/-- Whether all characters are underscores or digits below `base`. -/
def areDigits (base : Nat) (cs : List Char) : Bool :=
  cs.all fun c => c = '_' || (hexValue? c).any (· < base)

/-- The number that digits stand for, underscores left out. -/
def numeral (base : Nat) (cs : List Char) : Nat :=
  (cs.filterMap hexValue?).foldl (base * · + ·) 0

/-- Whether the text is decimal digits and underscores after a first digit. -/
def isNumeral (cs : List Char) : Bool :=
  cs.head?.any isDigit && areDigits 10 cs

/-- Reads the sixtieths that follow a number: a colon and one digit, or two of which the first is below
six, any number of times. -/
def sixtieths? (value : Nat) : List Char → Option Nat
  | [] => some value
  | ':' :: a :: more =>
    match more with
    | b :: rest =>
      if isDigit b then
        if '0' ≤ a ∧ a ≤ '5' then sixtieths? (60 * value + numeral 10 [a, b]) rest else none
      else if isDigit a then sixtieths? (60 * value + numeral 10 [a]) (b :: rest)
      else none
    | [] => if isDigit a then some (60 * value + numeral 10 [a]) else none
  | _ => none

/-- Reads a whole number without its sign. -/
def natural? (cs : List Char) : Option Nat :=
  match cs with
  | ['0'] => some 0
  | '0' :: 'b' :: ds => if ds ≠ [] ∧ areDigits 2 ds then some (numeral 2 ds) else none
  | '0' :: 'x' :: ds => if ds ≠ [] ∧ areDigits 16 ds then some (numeral 16 ds) else none
  | '0' :: ds => if areDigits 8 ds then some (numeral 8 ds) else none
  | _ =>
    let whole := cs.takeWhile (· ≠ ':')
    if isNumeral whole then sixtieths? (numeral 10 whole) (cs.dropWhile (· ≠ ':')) else none

/-- Reads a whole number. -/
def integer? (cs : List Char) : Option Int :=
  let (negative, body) := unsigned cs
  (natural? body).map fun n => if negative then -(n : Int) else n

/-- Whether the text is nothing or an exponent: a letter, a sign and digits. -/
def isExponent : List Char → Bool
  | [] => true
  | _ :: sign :: ds => (sign = '+' || sign = '-') && ds ≠ [] && ds.all isDigit
  | _ => false

/-- Reads a number in sixties, of which the last part has a point. -/
def sixties? (negative : Bool) (whole fraction : List Char) : Option Binary64 :=
  let first := whole.takeWhile (· ≠ ':')
  if isNumeral first ∧ areDigits 10 fraction then
    (sixtieths? (numeral 10 first) (whole.dropWhile (· ≠ ':'))).map fun n =>
      let ds := fraction.filter (· ≠ '_')
      let digits := n * Nat.pow 10 ds.length + numeral 10 ds
      Binary64.ofDecimal negative digits (Decimal.digits digits).length (-(ds.length : Int))
  else none

/-- Reads a number with a point. A number that starts with its point has no sign. -/
def pointed? (cs : List Char) : Option Binary64 :=
  let (negative, body) := unsigned cs
  let isLetter := fun c : Char => c = 'e' || c = 'E'
  let mantissa := body.takeWhile fun c => !isLetter c
  let exponent := body.dropWhile fun c => !isLetter c
  let whole := mantissa.takeWhile (· ≠ '.')
  match mantissa.dropWhile (· ≠ '.') with
  | [] => none
  | _ :: fraction =>
    if whole.contains ':' then
      if exponent = [] then sixties? negative whole fraction else none
    else if isExponent exponent ∧
        ((isNumeral whole ∧ areDigits 10 fraction) ∨
          (whole = [] ∧ body = cs ∧ isNumeral fraction)) then
      Binary64.readMagnitude? negative (mantissa.filter (· ≠ '_') ++ exponent)
    else none

/-- Reads a number with a point, an infinity or the mark of no number. -/
def double? (cs : List Char) : Option Binary64 :=
  let (negative, body) := unsigned cs
  if String.ofList body ∈ [".inf", ".Inf", ".INF"] then some (Binary64.infinity negative)
  else if String.ofList cs ∈ [".nan", ".NaN", ".NAN"] then some Binary64.nan
  else pointed? cs

/-- What a plain scalar stands for, unless it is one of the marks for merging and for a default. -/
def value? (cs : List Char) : Option Data :=
  let word := String.ofList cs
  if word ∈ nullWords then some .null
  else if word ∈ trueWords then some (.boolean true)
  else if word ∈ falseWords then some (.boolean false)
  else match integer? cs, double? cs with
    | some i, _ => some (.integer i)
    | none, some x => some (.double x)
    | none, none => if word = "<<" ∨ word = "=" then none else some (.text word)

example : integer? "-0x1_F".toList = some (-31) ∧ integer? "010".toList = some 8 ∧
    integer? "190:20:30".toList = some 685230 ∧ integer? "08".toList = none := by
  decide
example : (double? "1_000.5e+3".toList).map Binary64.text = some "1000500.0" := by decide
example : double? "1e3".toList = none ∧ double? "-.5".toList = none := by decide

end Yaml
end Intertype
