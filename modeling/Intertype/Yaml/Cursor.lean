/-
# Places in a document

A document is read from the front, and what its characters mean depends on the line and the column
where they stand: indentation is a column, and a key and its colon stand on one line. A cursor is the
text still to be read, with its place.

Key definitions: `Yaml.Cursor`, `Yaml.Cursor.step`, `Yaml.Cursor.skipTo`, `Yaml.isBreak`,
`Yaml.marksDocument`.
-/

namespace Intertype
namespace Yaml

/-- Whether the character ends a line. -/
def isBreak (c : Char) : Bool :=
  c = '\n' || c = '\u0085' || c = '\u2028' || c = '\u2029'

/-- Whether the character is a space or a tab. -/
def isSpace (c : Char) : Bool :=
  c = ' ' || c = '\t'

/-- The end of a line as it is kept in a scalar: a line feed, unless it is a separator of lines or
paragraphs. -/
def keptBreak (c : Char) : Char :=
  if c = '\u0085' then '\n' else c

/-- Whether a word ends before this text: at the end of the document or at a space, a tab or the end of
a line. -/
def endsWord : List Char → Bool
  | [] => true
  | c :: _ => isSpace c || isBreak c

/-- Whether this text, at the start of a line, marks where a document starts or ends. -/
def marksDocument : List Char → Bool
  | '-' :: '-' :: '-' :: rest => endsWord rest
  | '.' :: '.' :: '.' :: rest => endsWord rest
  | _ => false

/-- A place in a document. -/
structure Cursor where
  /-- What is still to be read. -/
  rest : List Char
  /-- How many characters were read. -/
  offset : Nat := 0
  /-- How many lines were ended. -/
  line : Nat := 0
  /-- How many characters of this line were read, byte order marks not counted. -/
  column : Nat := 0

namespace Cursor

/-- The place after the next character. -/
def step (c : Cursor) : Cursor :=
  match c.rest with
  | [] => c
  | char :: rest =>
    if isBreak char then ⟨rest, c.offset + 1, c.line + 1, 0⟩
    else ⟨rest, c.offset + 1, c.line, if char = '\uFEFF' then c.column else c.column + 1⟩

/-- The place after so many characters. -/
def advance : Nat → Cursor → Cursor
  | 0, c => c
  | n + 1, c => advance n c.step

/-- The place where this is what is still to be read. -/
def skipTo (rest : List Char) (c : Cursor) : Cursor :=
  c.advance (c.rest.length - rest.length)

end Cursor

example : marksDocument "--- a".toList = true ∧ marksDocument "----".toList = false := by
  decide

end Yaml
end Intertype
