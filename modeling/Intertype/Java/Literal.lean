/-
# Java literals

How strings and integers are written as Java literals. A string stands between double quotes, with an
escape for the backslash, the double quote and the five control characters that have a letter; any
other character stands for itself. An integer beyond 32 bits takes the suffix of a long one. An
interpreter may limit how many digits it writes of a number; that limit is left out.

Key definitions: `Java.stringLiteral`, `Java.integerLiteral`.
-/
import Intertype.Decimal.Digits

namespace Intertype
namespace Java

/-- One character of a string literal. -/
def escape (c : Char) : List Char :=
  if c = '\\' then ['\\', '\\']
  else if c = '"' then ['\\', '"']
  else if c = '\n' then ['\\', 'n']
  else if c = '\r' then ['\\', 'r']
  else if c = '\t' then ['\\', 't']
  else if c = '\u0008' then ['\\', 'b']
  else if c = '\u000c' then ['\\', 'f']
  else [c]

/-- The characters of a string literal, quotes included. -/
def stringChars (cs : List Char) : List Char :=
  '"' :: (cs.flatMap escape ++ ['"'])

/-- A string literal. -/
def stringLiteral (s : String) : String :=
  String.ofList (stringChars s.toList)

/-- Whether the integer has a place in 32 bits. -/
def fitsInt (i : Int) : Bool :=
  -(Int.pow 2 31) ≤ i && i < Int.pow 2 31

/-- An integer literal, with a minus sign if it is negative. -/
def integerLiteral (i : Int) : String :=
  if fitsInt i then Decimal.ofInt i else Decimal.ofInt i ++ "L"

/-- No line ends inside a string literal. -/
theorem newline_notMem_escape (c : Char) : '\n' ∉ escape c := by
  unfold escape
  repeat' split
  all_goals simp_all [eq_comm]

example : stringLiteral "a\"\\\n" = "\"a\\\"\\\\\\n\"" := by decide
example : integerLiteral 2147483648 = "2147483648L" ∧ integerLiteral (-2147483648) = "-2147483648" := by
  decide

end Java
end Intertype
