/-
# Quoted scalars

Between single quotes a quote is written twice, and everything else stands for itself. Between double
quotes a backslash starts an escape: a letter that names a character, or `x`, `u` or `U` with two, four
or eight hexadecimal digits, or the end of a line that is to be left out.

A quoted scalar may go over several lines. Spaces around the end of a line are left out; one end of
line is read as a space, and of several all but the first are kept.

Key definitions: `Yaml.quoted?`, `Yaml.escaped?`, `Yaml.emptyLines?`.
-/
import Intertype.Yaml.Cursor

namespace Intertype
namespace Yaml

/-- What a single letter stands for after a backslash. -/
def escapedLetter? (c : Char) : Option Char :=
  match c with
  | '0' => some '\x00'
  | 'a' => some '\x07'
  | 'b' => some '\x08'
  | 't' => some '\t'
  | '\t' => some '\t'
  | 'n' => some '\n'
  | 'v' => some '\x0B'
  | 'f' => some '\x0C'
  | 'r' => some '\r'
  | 'e' => some '\x1B'
  | ' ' => some ' '
  | '"' => some '"'
  | '\\' => some '\\'
  | '/' => some '/'
  | 'N' => some '\u0085'
  | '_' => some '\u00A0'
  | 'L' => some '\u2028'
  | 'P' => some '\u2029'
  | _ => none

/-- How many hexadecimal digits follow a letter after a backslash. -/
def escapeWidth? (c : Char) : Option Nat :=
  match c with
  | 'x' => some 2
  | 'u' => some 4
  | 'U' => some 8
  | _ => none

/-- The number that a hexadecimal digit stands for. -/
def hexValue? (c : Char) : Option Nat :=
  if '0' ≤ c ∧ c ≤ '9' then some (c.toNat - 48)
  else if 'a' ≤ c ∧ c ≤ 'f' then some (c.toNat - 87)
  else if 'A' ≤ c ∧ c ≤ 'F' then some (c.toNat - 55)
  else none

/-- Reads so many hexadecimal digits; their value, counted on from the digits before them, and what
follows. -/
def hexDigits? : Nat → Nat → List Char → Option (Nat × List Char)
  | 0, value, cs => some (value, cs)
  | _ + 1, _, [] => none
  | n + 1, value, c :: rest =>
    (hexValue? c).bind fun d => hexDigits? n (16 * value + d) rest

/-- The character at a code point, if there is one. -/
def charAt? (n : Nat) : Option Char :=
  if n.isValidChar then some (Char.ofNat n) else none

/-- Reads what follows a backslash, where that is no end of line. -/
def escaped? : List Char → Option (Char × List Char)
  | [] => none
  | c :: rest =>
    match escapedLetter? c, escapeWidth? c with
    | some e, _ => some (e, rest)
    | none, some width =>
      (hexDigits? width 0 rest).bind fun p => (charAt? p.1).map fun e => (e, p.2)
    | none, none => none

/-- Reads spaces and empty lines, at the start of a line or within one; the ends of the empty lines, and
what follows. The mark of a document must not be among them. -/
def emptyLines? (atStart : Bool) : List Char → Option (List Char × List Char)
  | [] => some ([], [])
  | c :: rest =>
    if atStart ∧ marksDocument (c :: rest) then none
    else if isSpace c then emptyLines? false rest
    else if isBreak c then (emptyLines? true rest).map fun p => (keptBreak c :: p.1, p.2)
    else some ([], c :: rest)

/-- What the end of a line stands for, followed by the ends of empty lines. -/
def folded (c : Char) (breaks : List Char) : List Char :=
  if keptBreak c ≠ '\n' then keptBreak c :: breaks
  else if breaks = [] then [' ']
  else breaks

/-- Puts text in front of what is read next. -/
def before (text : List Char) : Option (List Char × List Char) → Option (List Char × List Char) :=
  Option.map fun p => (text ++ p.1, p.2)

/-- Reads a quoted scalar after its first quote, in a text of at most so many characters; its text, and
what follows its last quote. -/
def quotedWithin? (double : Bool) : Nat → List Char → Option (List Char × List Char)
  | 0, _ => none
  | _ + 1, [] => none
  | n + 1, c :: rest =>
    if double ∧ c = '"' then some ([], rest)
    else if double ∧ c = '\\' then
      match rest with
      | b :: more =>
        if isBreak b then
          (emptyLines? true more).bind fun p => before p.1 (quotedWithin? double n p.2)
        else (escaped? rest).bind fun p => before [p.1] (quotedWithin? double n p.2)
      | [] => none
    else if !double ∧ c = '\'' then
      match rest with
      | '\'' :: more => before ['\''] (quotedWithin? double n more)
      | _ => some ([], rest)
    else if isSpace c ∨ isBreak c then
      match (c :: rest).dropWhile isSpace with
      | [] => none
      | b :: more =>
        if isBreak b then
          (emptyLines? true more).bind fun p => before (folded b p.1) (quotedWithin? double n p.2)
        else before ((c :: rest).takeWhile isSpace) (quotedWithin? double n (b :: more))
    else before [c] (quotedWithin? double n rest)

/-- Reads a quoted scalar after its first quote; its text, and what follows its last quote. -/
def quoted? (double : Bool) (cs : List Char) : Option (List Char × List Char) :=
  quotedWithin? double cs.length cs

example : quoted? true "\\t\\x41\\u00e9\\\"\": 1".toList = some ("\tAé\"".toList, ": 1".toList) := by
  decide
example : quoted? true "\\q\"".toList = none ∧ quoted? false "x\n".toList = none := by
  decide

end Yaml
end Intertype
