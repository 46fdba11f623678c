/-
# Plain scalars

A scalar without quotes goes on until a colon that ends a word, a comment after a space, or, among
brackets, a mark that has a meaning there. It may go over several lines as long as they are indented far
enough; the end of a line is read as it is between quotes. Only spaces may stand within it, no tabs.

Key definitions: `Yaml.startsPlain`, `Yaml.plainWord`, `Yaml.plain`.
-/
import Intertype.Yaml.Quoted

namespace Intertype
namespace Yaml

/-- The marks with which no plain scalar starts, whatever follows. -/
def indicators : List Char :=
  [',', '[', ']', '\x7b', '\x7d', '#', '&', '*', '!', '|', '>', '\'', '"', '%', '@', '\u0060']

/-- Whether a plain scalar starts with this character where that follows. A dash, and outside brackets
also a question mark and a colon, start one unless a word ends after them. -/
def startsPlain (inBrackets : Bool) (c : Char) (rest : List Char) : Bool :=
  if c = '-' then !endsWord rest
  else if c = '?' ∨ c = ':' then !inBrackets && !endsWord rest
  else !(endsWord [c]) && !(indicators.contains c)

/-- Whether a colon before this text ends what stands before it. -/
def endsKey (inBrackets : Bool) (rest : List Char) : Bool :=
  endsWord rest ||
    (inBrackets && rest.head?.any fun c => [',', '[', ']', '\x7b', '\x7d'].contains c)

/-- Cuts off a word of a plain scalar. -/
def plainWord (inBrackets : Bool) : List Char → List Char × List Char
  | [] => ([], [])
  | c :: rest =>
    if endsWord (c :: rest) ∨ (c = ':' ∧ endsKey inBrackets rest) ∨
        (inBrackets ∧ [',', '?', '[', ']', '\x7b', '\x7d'].contains c) then ([], c :: rest)
    else
      let p := plainWord inBrackets rest
      (c :: p.1, p.2)

/-- What stands between two words: what it is read as, unless nothing can follow; what comes after it,
and whether a line ended. -/
structure Gap where
  text : Option (List Char)
  rest : List Char
  endsLine : Bool

/-- Reads empty lines at the start of a line or within one, up to a word or the mark of a document; the
ends of the lines, unless there is such a mark, and what follows. -/
def linesBetween (atStart : Bool) : List Char → Option (List Char) × List Char
  | [] => (some [], [])
  | c :: rest =>
    if atStart ∧ marksDocument (c :: rest) then (none, c :: rest)
    else if c = ' ' then linesBetween false rest
    else if isBreak c then
      let p := linesBetween true rest
      (p.1.map (keptBreak c :: ·), p.2)
    else (some [], c :: rest)

/-- Reads what stands between two words of a plain scalar. -/
def gap (cs : List Char) : Gap :=
  match cs.dropWhile (· = ' ') with
  | [] => ⟨some (cs.takeWhile (· = ' ')), [], false⟩
  | c :: rest =>
    if isBreak c then
      let p := linesBetween true rest
      ⟨p.1.map (folded c), p.2, true⟩
    else ⟨some (cs.takeWhile (· = ' ')), c :: rest, false⟩

/-- A plain scalar that was read. -/
structure Plain where
  text : List Char
  /-- The place after it and the spaces that follow. -/
  after : Cursor
  /-- Whether a line ended after its last word. -/
  endsLine : Bool

/-- Reads a plain scalar of at most so many words, after the text already read and the gap that follows
it; outside brackets all its lines but the first are indented to the given column at least. -/
def plainWithin (inBrackets : Bool) (indent : Nat) :
    Nat → List Char → List Char → Bool → Cursor → Plain
  | 0, text, _, endsLine, c => ⟨text, c, endsLine⟩
  | n + 1, text, between, endsLine, c =>
    match plainWord inBrackets c.rest with
    | ([], _) => ⟨text, c, endsLine⟩
    | (word, rest) =>
      let text := text ++ between ++ word
      let g := gap rest
      let after := c.skipTo g.rest
      match g.text with
      | none => ⟨text, after, g.endsLine⟩
      | some between =>
        if between = [] ∨ after.rest.head? = some '#' ∨ (!inBrackets ∧ after.column < indent) then
          ⟨text, after, g.endsLine⟩
        else plainWithin inBrackets indent n text between g.endsLine after

/-- Reads a plain scalar. -/
def plain (inBrackets : Bool) (indent : Nat) (c : Cursor) : Plain :=
  plainWithin inBrackets indent (c.rest.length + 1) [] [] false c

example : (plain false 1 ⟨"a b\n  c: d".toList, 0, 0, 0⟩).text = "a b c".toList := by decide
example : (plain true 0 ⟨"a:b, c".toList, 0, 0, 0⟩).text = "a:b".toList := by decide

end Yaml
end Intertype
