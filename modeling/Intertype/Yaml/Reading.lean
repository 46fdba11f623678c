/-
# Reading data from YAML

A document is plain data: its scalars stand for values, its sequences for lists and its mappings for
mappings, in which a key that comes again takes the place of the value it had. Scalars between quotes
are text. A key has to be a scalar. Nothing is read of a document that is malformed anywhere, or that
another one follows, or that has a character which cannot be printed.

Key definitions: `Yaml.read?`, `Yaml.Node.data?`, `Yaml.isPrintable`.
-/
import Intertype.Text.Ranges
import Intertype.Yaml.Node
import Intertype.Yaml.Scalar

namespace Intertype
namespace Yaml

/-- The code points that may stand in a document. -/
def printableRanges : Text.Ranges :=
  [(0x9, 0xA), (0xD, 0xD), (0x20, 0x7E), (0x85, 0x85), (0xA0, 0xD7FF), (0xE000, 0xFFFD),
    (0x10000, 0x10FFFF)]

/-- Whether the character may stand in a document. -/
def isPrintable (c : Char) : Bool :=
  printableRanges.covers c.toNat

/-- The value of a key. The mark for a default is text here. -/
def Node.key? : Node → Option Data
  | .plain text => if text = ['='] then some (.text "=") else value? text
  | .quoted text => some (.text (String.ofList text))
  | .sequence _ => none
  | .mapping _ => none

mutual
/-- The data that a node stands for. -/
def Node.data? (node : Node) : Option Data :=
  match node with
  | .plain text => value? text
  | .quoted text => some (.text (String.ofList text))
  | .sequence items => (Node.items? items).map .list
  | .mapping entries => (Node.entries? [] entries).map .mapping

/-- The data that nodes stand for. -/
def Node.items? (nodes : List Node) : Option (List Data) :=
  match nodes with
  | [] => some []
  | node :: rest =>
    match node.data?, Node.items? rest with
    | some d, some ds => some (d :: ds)
    | _, _ => none

/-- The entries of a mapping, put to those before them. -/
def Node.entries? (before : List (Data × Data)) (nodes : List (Node × Node)) :
    Option (List (Data × Data)) :=
  match nodes with
  | [] => some before
  | (key, value) :: rest =>
    match key.key?, value.data? with
    | some k, some v => Node.entries? (Data.put k v before) rest
    | _, _ => none
end

/-- The data of a document. -/
def read? (cs : List Char) : Option Data :=
  if cs.all isPrintable then (tokens? cs).bind fun ts => (document? ts).bind Node.data? else none

end Yaml
end Intertype
