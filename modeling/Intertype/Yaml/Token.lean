/-
# The tokens of a document

Scalars and the marks between them, and where block collections start and end. A block collection has
no brackets: it starts at a dash or a key that stands in a column of its own, and ends where a token
stands further to the left. Among brackets indentation means nothing.

What is a key shows only at the colon after it, which must stand on the same line; until then the place
where a key may have started is remembered, and the marks that belong before it are put there. Where
nothing else may stand, a colon must follow.

Tags, anchors, aliases, directives and scalars in blocks are not read: a document that has one is
refused like one that is malformed.

Key definitions: `Yaml.Token`, `Yaml.Scan`, `Yaml.Scan.step?`, `Yaml.tokens?`.
-/
import Intertype.Yaml.Plain

namespace Intertype
namespace Yaml

/-- A token of a document. -/
inductive Token
  /-- The mark at which a document starts. -/
  | documentStart
  /-- The mark at which it ends. -/
  | documentEnd
  | blockSequence
  | blockMapping
  /-- The end of a block collection. -/
  | blockEnd
  | flowSequence
  | flowSequenceEnd
  | flowMapping
  | flowMappingEnd
  /-- The dash before an entry of a block sequence. -/
  | entry
  /-- The comma between entries among brackets. -/
  | comma
  /-- The mark of a key, written or not. -/
  | key
  /-- The colon before a value. -/
  | value
  | plain (text : List Char)
  | quoted (text : List Char)
  deriving DecidableEq, Repr

/-- Where a key may have started. -/
structure Candidate where
  /-- How many tokens are before it. -/
  index : Nat
  /-- Whether nothing but a key may stand there. -/
  isRequired : Bool
  offset : Nat
  line : Nat
  column : Nat

/-- A document of which some tokens were read. -/
structure Scan where
  cursor : Cursor
  /-- The columns of the block collections that are open, the innermost first. -/
  columns : List Nat := []
  /-- The candidates for a key among the brackets around, the innermost first. -/
  around : List (Option Candidate) := []
  /-- The candidate among the innermost brackets. -/
  candidate : Option Candidate := none
  /-- Whether a key may start at the next token. -/
  mayStartKey : Bool := true
  /-- The tokens, the last first. -/
  tokens : List Token := []

namespace Scan

/-- How far a key may be from its colon. -/
def keyLimit : Nat := 1024

/-- Whether the next token stands among brackets. -/
def inBrackets (s : Scan) : Bool :=
  !s.around.isEmpty

/-- Whether a column is beyond those of the block collections that are open. -/
def isBeyond (s : Scan) (column : Nat) : Bool :=
  s.columns.head?.all (· < column)

/-- With one more token. -/
def push (s : Scan) (t : Token) : Scan :=
  { s with tokens := t :: s.tokens }

/-- With a token put in where so many are before it. -/
def insert (s : Scan) (index : Nat) (t : Token) : Scan :=
  { s with tokens := s.tokens.insertIdx (s.tokens.length - index) t }

/-- After so many characters. -/
def advance (s : Scan) (n : Nat) : Scan :=
  { s with cursor := s.cursor.advance n }

/-- After a token of so many characters. -/
def take (s : Scan) (n : Nat) (t : Token) : Scan :=
  (s.push t).advance n

/-- Opens a block collection at a column, unless one is open there. -/
def openBlock (s : Scan) (index column : Nat) (start : Token) : Scan :=
  if s.isBeyond column then
    { s with columns := column :: s.columns }.insert index start
  else s

/-- Closes the block collections whose column is at least `column`. -/
def closeBlocks (column : Nat) : List Nat → List Token → List Nat × List Token
  | [], tokens => ([], tokens)
  | c :: columns, tokens =>
    if column ≤ c then closeBlocks column columns (.blockEnd :: tokens) else (c :: columns, tokens)

/-- Closes the block collections that a token at a column does not belong to. -/
def unwind (s : Scan) (column : Nat) : Scan :=
  if s.inBrackets then s
  else
    let p := closeBlocks column s.columns s.tokens
    { s with columns := p.1, tokens := p.2 }

/-- Gives the candidate up, which is a fault where nothing but a key may stand. -/
def dropCandidate? (s : Scan) : Option Scan :=
  if s.candidate.any Candidate.isRequired then none else some { s with candidate := none }

/-- Whether a colon at this place is too far from a candidate. -/
def isStale (c : Cursor) (k : Candidate) : Bool :=
  k.line ≠ c.line || c.offset - k.offset > keyLimit

/-- Gives up the candidates that are too far away, which is a fault for one that is required. -/
def dropStale? (s : Scan) : Option Scan :=
  let stale := fun k : Option Candidate => k.any (isStale s.cursor)
  if (s.candidate :: s.around).any fun k => stale k && k.any Candidate.isRequired then none
  else
    let keep := fun k => if stale k then none else k
    some { s with candidate := keep s.candidate, around := s.around.map keep }

/-- Remembers the next token as a candidate for a key, if one may start there. -/
def remember? (s : Scan) : Option Scan :=
  if s.mayStartKey then
    s.dropCandidate?.map fun s =>
      { s with
        candidate := some
          { index := s.tokens.length
            isRequired := !s.inBrackets && s.columns.head? = some s.cursor.column
            offset := s.cursor.offset, line := s.cursor.line, column := s.cursor.column } }
  else some s

/-- Skips spaces, comments and ends of lines, of which there are at most so many. -/
def skipWithin : Nat → Scan → Scan
  | 0, s => s
  | n + 1, s =>
    let rest := s.cursor.rest.dropWhile (· = ' ')
    let rest := if rest.head? = some '#' then rest.dropWhile fun c => !isBreak c else rest
    let s := { s with cursor := s.cursor.skipTo rest }
    if rest.head?.any isBreak then
      skipWithin n { s.advance 1 with mayStartKey := s.mayStartKey || !s.inBrackets }
    else s

/-- Skips what stands before the next token; a byte order mark may stand before the first. -/
def skip (s : Scan) : Scan :=
  let s := if s.cursor.offset = 0 ∧ s.cursor.rest.head? = some '\uFEFF' then s.advance 1 else s
  skipWithin (s.cursor.rest.length + 1) s

/-- Reads the mark of a document. -/
def documentMark? (s : Scan) (t : Token) : Option Scan :=
  (s.unwind 0).dropCandidate?.map fun s => { s.take 3 t with mayStartKey := false }

/-- Reads an opening bracket. -/
def openBracket? (s : Scan) (t : Token) : Option Scan :=
  s.remember?.map fun s =>
    { s.take 1 t with around := s.candidate :: s.around, candidate := none, mayStartKey := true }

/-- Reads a closing bracket. -/
def closeBracket? (s : Scan) (t : Token) : Option Scan :=
  match s.around with
  | [] => none
  | outer :: around =>
    s.dropCandidate?.map fun s =>
      { s.take 1 t with around, candidate := outer, mayStartKey := false }

/-- Reads a comma. -/
def comma? (s : Scan) : Option Scan :=
  s.dropCandidate?.map fun s => { s.take 1 .comma with mayStartKey := true }

/-- Reads a mark that may open a block collection in its own column, if it may stand there. -/
def blockMark? (s : Scan) (start t : Token) (mayStartKey : Bool) : Option Scan :=
  if s.inBrackets then
    s.dropCandidate?.map fun s => { s.take 1 t with mayStartKey }
  else if s.mayStartKey then
    (s.openBlock s.tokens.length s.cursor.column start).dropCandidate?.map fun s =>
      { s.take 1 t with mayStartKey }
  else none

/-- Reads a colon before a value. If there is a candidate, it is the key. -/
def value? (s : Scan) : Option Scan :=
  match s.candidate with
  | some k =>
    let s := { s with candidate := none, mayStartKey := false }.insert k.index .key
    let s := if s.inBrackets then s else s.openBlock k.index k.column .blockMapping
    some (s.take 1 .value)
  | none => s.blockMark? .blockMapping .value !s.inBrackets

/-- Reads a scalar between quotes. -/
def quoted? (s : Scan) (double : Bool) : Option Scan :=
  s.remember?.bind fun s =>
    (Yaml.quoted? double (s.cursor.rest.drop 1)).map fun p =>
      { s.push (.quoted p.1) with cursor := s.cursor.skipTo p.2, mayStartKey := false }

/-- Reads a scalar without quotes. -/
def plain? (s : Scan) : Option Scan :=
  s.remember?.map fun s =>
    let indent := match s.columns with | [] => 0 | column :: _ => column + 1
    let p := Yaml.plain s.inBrackets indent s.cursor
    { s.push (.plain p.text) with cursor := p.after, mayStartKey := p.endsLine }

/-- Reads the next token, which starts with this character where that follows. -/
def token? (s : Scan) (c : Char) (rest : List Char) : Option Scan :=
  if s.cursor.column = 0 ∧ marksDocument (c :: rest) then
    s.documentMark? (if c = '-' then .documentStart else .documentEnd)
  else if c = '[' then s.openBracket? .flowSequence
  else if c = '\x7b' then s.openBracket? .flowMapping
  else if c = ']' then s.closeBracket? .flowSequenceEnd
  else if c = '\x7d' then s.closeBracket? .flowMappingEnd
  else if c = ',' then s.comma?
  else if c = '-' ∧ endsWord rest then s.blockMark? .blockSequence .entry true
  else if c = '?' ∧ (s.inBrackets ∨ endsWord rest) then
    s.blockMark? .blockMapping .key !s.inBrackets
  else if c = ':' ∧ (s.inBrackets ∨ endsWord rest) then s.value?
  else if c = '\'' then s.quoted? false
  else if c = '"' then s.quoted? true
  else if startsPlain s.inBrackets c rest then s.plain?
  else none

/-- Reads the next token; nothing is left to read at the end of the document. -/
def step? (s : Scan) : Option (Scan ⊕ List Token) :=
  let s := s.skip
  s.dropStale?.bind fun s =>
    match s.cursor.rest with
    | [] =>
      (s.unwind 0).dropCandidate?.map fun s => .inr s.tokens.reverse
    | c :: rest => ((s.unwind (s.cursor.column + 1)).token? c rest).map .inl

/-- Reads the tokens that are left, at most so many. -/
def runWithin? : Nat → Scan → Option (List Token)
  | 0, _ => none
  | n + 1, s =>
    match s.step? with
    | none => none
    | some (.inr tokens) => some tokens
    | some (.inl after) => runWithin? n after

end Scan

/-- The tokens of a document. -/
def tokens? (cs : List Char) : Option (List Token) :=
  Scan.runWithin? (cs.length + 1) { cursor := { rest := cs } }

example : tokens? "a: [b, c]\n".toList =
    some [.blockMapping, .key, .plain ['a'], .value, .flowSequence, .plain ['b'], .comma,
      .plain ['c'], .flowSequenceEnd, .blockEnd] := by decide
example : tokens? "- a: 1\n  b: 2".toList =
    some [.blockSequence, .entry, .blockMapping, .key, .plain ['a'], .value, .plain ['1'], .key,
      .plain ['b'], .value, .plain ['2'], .blockEnd, .blockEnd] := by decide

end Yaml
end Intertype
