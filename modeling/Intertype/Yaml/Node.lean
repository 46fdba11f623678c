/-
# The structure of a document

The tokens of a document make up one node: a scalar, a sequence of nodes, or a mapping from nodes to
nodes. A node that is left out is an empty scalar, but only where an entry, a key or a value was
announced. A sequence that is the value of a key may stand in the column of the key, without a block of
its own.

Among brackets an entry of a sequence may be a single key with its value, and a key of a mapping may
have none.

Key definitions: `Yaml.Node`, `Yaml.nodeWithin?`, `Yaml.document?`.
-/
import Intertype.Yaml.Token

namespace Intertype
namespace Yaml

/-- A node of a document. -/
inductive Node
  /-- A scalar without quotes. -/
  | plain (text : List Char)
  /-- A scalar between quotes. -/
  | quoted (text : List Char)
  | sequence (items : List Node)
  | mapping (entries : List (Node × Node))
  deriving Inhabited

/-- The node that is left out. -/
def Node.empty : Node := .plain []

/-- Where a node stands. -/
inductive Place
  /-- Among brackets. -/
  | flow
  /-- As an entry of a block sequence, or as a whole document. -/
  | block
  /-- As a key or a value of a block mapping. -/
  | blockEntry
  deriving DecidableEq, Repr

/-- Whether the next token is one of these. -/
def isNext (ts : List Token) (among : List Token) : Bool :=
  match ts with
  | [] => false
  | t :: _ => among.contains t

/-- The tokens after a comma. -/
def afterComma? : List Token → Option (List Token)
  | .comma :: rest => some rest
  | _ => none

mutual
/-- Reads a node, in at most so many steps; the node, and the tokens after it. -/
def nodeWithin? (fuel : Nat) (place : Place) (ts : List Token) : Option (Node × List Token) :=
  match fuel, ts with
  | 0, _ => none
  | _ + 1, [] => none
  | n + 1, t :: rest =>
    match t with
    | .plain text => some (.plain text, rest)
    | .quoted text => some (.quoted text, rest)
    | .flowSequence => (flowItems? n true rest).map fun p => (.sequence p.1, p.2)
    | .flowMapping => (flowEntries? n true rest).map fun p => (.mapping p.1, p.2)
    | .blockSequence =>
      if place = .flow then none
      else (items? n rest).map fun p => (.sequence p.1, p.2)
    | .blockMapping =>
      if place = .flow then none
      else (entries? n rest).map fun p => (.mapping p.1, p.2)
    | .entry =>
      if place = .blockEntry then (bareItems? n (t :: rest)).map fun p => (.sequence p.1, p.2)
      else none
    | _ => none

/-- Reads a node, or none before one of the tokens that may follow it. -/
def nodeBefore? (fuel : Nat) (place : Place) (followers : List Token) (ts : List Token) :
    Option (Node × List Token) :=
  match fuel with
  | 0 => none
  | n + 1 => if isNext ts followers then some (.empty, ts) else nodeWithin? n place ts

/-- Reads a value after its colon, or none where there is no colon. -/
def valueBefore? (fuel : Nat) (place : Place) (followers : List Token) (ts : List Token) :
    Option (Node × List Token) :=
  match fuel, ts with
  | 0, _ => none
  | n + 1, .value :: rest => nodeBefore? n place followers rest
  | _ + 1, ts => some (.empty, ts)

/-- Reads the entries of a block sequence up to the end of the block. -/
def items? (fuel : Nat) (ts : List Token) : Option (List Node × List Token) :=
  match fuel, ts with
  | 0, _ => none
  | n + 1, .entry :: rest =>
    (nodeBefore? n .block [.entry, .blockEnd] rest).bind fun p =>
      (items? n p.2).map fun q => (p.1 :: q.1, q.2)
  | _ + 1, .blockEnd :: rest => some ([], rest)
  | _ + 1, _ => none

/-- Reads the entries of a sequence in the column of its key. -/
def bareItems? (fuel : Nat) (ts : List Token) : Option (List Node × List Token) :=
  match fuel, ts with
  | 0, _ => none
  | n + 1, .entry :: rest =>
    (nodeBefore? n .block [.entry, .key, .value, .blockEnd] rest).bind fun p =>
      (bareItems? n p.2).map fun q => (p.1 :: q.1, q.2)
  | _ + 1, ts => some ([], ts)

/-- Reads the entries of a block mapping up to the end of the block. -/
def entries? (fuel : Nat) (ts : List Token) : Option (List (Node × Node) × List Token) :=
  match fuel, ts with
  | 0, _ => none
  | n + 1, .key :: rest =>
    (nodeBefore? n .blockEntry [.key, .value, .blockEnd] rest).bind fun k =>
      (valueBefore? n .blockEntry [.key, .value, .blockEnd] k.2).bind fun v =>
        (entries? n v.2).map fun q => ((k.1, v.1) :: q.1, q.2)
  | _ + 1, .blockEnd :: rest => some ([], rest)
  | _ + 1, _ => none

/-- Reads the entries of a bracketed sequence up to its closing bracket. -/
def flowItems? (fuel : Nat) (isFirst : Bool) (ts : List Token) : Option (List Node × List Token) :=
  match fuel, ts with
  | 0, _ => none
  | _ + 1, .flowSequenceEnd :: rest => some ([], rest)
  | n + 1, ts =>
    (if isFirst then some ts else afterComma? ts).bind fun ts =>
      match ts with
      | .flowSequenceEnd :: rest => some ([], rest)
      | .key :: rest =>
        (nodeBefore? n .flow [.value, .comma, .flowSequenceEnd] rest).bind fun k =>
          (valueBefore? n .flow [.comma, .flowSequenceEnd] k.2).bind fun v =>
            (flowItems? n false v.2).map fun q => (.mapping [(k.1, v.1)] :: q.1, q.2)
      | _ =>
        (nodeWithin? n .flow ts).bind fun p =>
          (flowItems? n false p.2).map fun q => (p.1 :: q.1, q.2)

/-- Reads the entries of a bracketed mapping up to its closing bracket. -/
def flowEntries? (fuel : Nat) (isFirst : Bool) (ts : List Token) :
    Option (List (Node × Node) × List Token) :=
  match fuel, ts with
  | 0, _ => none
  | _ + 1, .flowMappingEnd :: rest => some ([], rest)
  | n + 1, ts =>
    (if isFirst then some ts else afterComma? ts).bind fun ts =>
      match ts with
      | .flowMappingEnd :: rest => some ([], rest)
      | .key :: rest =>
        (nodeBefore? n .flow [.value, .comma, .flowMappingEnd] rest).bind fun k =>
          (valueBefore? n .flow [.comma, .flowMappingEnd] k.2).bind fun v =>
            (flowEntries? n false v.2).map fun q => ((k.1, v.1) :: q.1, q.2)
      | _ =>
        (nodeWithin? n .flow ts).bind fun p =>
          (flowEntries? n false p.2).map fun q => ((p.1, .empty) :: q.1, q.2)
end

/-- Takes the node of a document that nothing follows but marks of its end. -/
def only? (p : Node × List Token) : Option Node :=
  if p.2.all (· = .documentEnd) then some p.1 else none

/-- The node of a document; nothing at all is the empty node. No more than three steps go by until the
next token is taken. -/
def document? (ts : List Token) : Option Node :=
  let fuel := 3 * ts.length + 3
  match ts with
  | [] => some .empty
  | .documentStart :: rest =>
    if rest = [] then some .empty
    else (nodeBefore? fuel .block [.documentStart, .documentEnd] rest).bind only?
  | _ => (nodeWithin? fuel .block ts).bind only?

end Yaml
end Intertype
