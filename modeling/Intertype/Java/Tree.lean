/-
# Syntax trees

What a parser makes of source text: nodes with a type, which is the name of a rule of the grammar or, for
a word or mark of its own, the text of it, and with the places in the source where their text begins and
ends. A node may fill a field of the node above it. The source is bytes, and the places count these.

Key definitions: `Java.Node`, `Java.Tree`, `Java.Parser`, `Java.Node.text`, `Java.Node.contains`.
-/
import Intertype.Text.Utf8

namespace Intertype
namespace Java

/-- A node of a syntax tree. -/
structure Node where
  /-- The rule that it is by, or its text if it is a word or mark of its own. -/
  type : String
  /-- The field that it fills of the node above. -/
  field : Option String := none
  /-- Whether it is by a rule with a name. -/
  isNamed : Bool := true
  /-- The place of the first byte of its text. -/
  start : Nat
  /-- The place behind the last byte of its text. -/
  stop : Nat
  /-- The nodes right below it, in order. -/
  children : List Node := []

/-- A syntax tree. -/
structure Tree where
  root : Node
  /-- Whether there is anything in the source that the grammar does not allow. -/
  hasError : Bool

/-- What makes syntax trees of source text. -/
abbrev Parser := List UInt8 → Tree

namespace Node

/-- The characters of the source from where a node begins to where it ends. -/
def chars (source : List UInt8) (n : Node) : List Char :=
  Text.Utf8.decodeReplacing ((source.drop n.start).take (n.stop - n.start))

/-- The text of a node in the source. -/
def text (source : List UInt8) (n : Node) : String :=
  String.ofList (n.chars source)

@[simp]
theorem toList_text (source : List UInt8) (n : Node) : (n.text source).toList = n.chars source :=
  String.toList_ofList

/-- The nodes right below it that are by a rule with a name. -/
def namedChildren (n : Node) : List Node :=
  n.children.filter (·.isNamed)

/-- The first of the nodes right below it that fills the field. -/
def inField? (n : Node) (field : String) : Option Node :=
  n.children.find? fun c => c.field = some field

mutual
/-- Whether there is a node of the type anywhere below it. -/
def contains (type : String) : Node → Bool
  | ⟨_, _, _, _, _, children⟩ => anyIn type children

/-- Whether one of the nodes is of the type, or there is one below it. -/
def anyIn (type : String) : List Node → Bool
  | [] => false
  | n :: rest => n.type = type || n.contains type || anyIn type rest
end

end Node
end Java
end Intertype
