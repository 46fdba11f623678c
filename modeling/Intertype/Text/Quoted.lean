/-
# Quoted text in messages

A message quotes text between single quotes, or between double quotes when the text holds a single
quote and no double one. Inside, the quote in use and the backslash get a backslash, line feed,
return and tab are written with a letter, and any other character that is not printable is written
by its code point in two, four or eight hexadecimal digits.

Key definition: `Text.quoted`.
-/
import Intertype.Text.Printable

namespace Intertype
namespace Text

/-- The hexadecimal digit of a number below sixteen. -/
def hexDigit (n : Nat) : Char :=
  if n < 10 then Char.ofNat ('0'.toNat + n) else Char.ofNat ('a'.toNat + (n - 10))

/-- The last `width` hexadecimal digits of a number, the most significant first. -/
def hexDigits : Nat → Nat → List Char
  | 0, _ => []
  | width + 1, n => hexDigits width (n / 16) ++ [hexDigit (n % 16)]

/-- A code point in the shortest of the three forms that holds it. -/
def escapeCode (n : Nat) : List Char :=
  if n < 0x100 then '\\' :: 'x' :: hexDigits 2 n
  else if n < 0x10000 then '\\' :: 'u' :: hexDigits 4 n
  else '\\' :: 'U' :: hexDigits 8 n

/-- One character inside a quotation that uses the given quote. -/
def escapeIn (quote c : Char) : List Char :=
  if c = quote ∨ c = '\\' then ['\\', c]
  else if c = '\n' then ['\\', 'n']
  else if c = '\r' then ['\\', 'r']
  else if c = '\t' then ['\\', 't']
  else if isPrintable c then [c]
  else escapeCode c.toNat

/-- The quote that a text is put between. -/
def quoteFor (cs : List Char) : Char :=
  if '\'' ∈ cs ∧ '"' ∉ cs then '"' else '\''

/-- The text between quotes, with what cannot be shown escaped. -/
def quoted (s : String) : String :=
  let quote := quoteFor s.toList
  String.ofList (quote :: (s.toList.flatMap (escapeIn quote) ++ [quote]))

example : quoted "it's" = "\"it's\"" := by decide
example : quoted "both'\"" = "'both\\'\"'" := by decide
example : quoted "\u00a0x\n" = "'\\xa0x\\n'" := by decide

end Text
end Intertype
