/-
# Annotations

An annotation has a type and attributes with values: literals, class literals, enum constants, nested
annotations and arrays of those. Its source text is put together from left to right; a double without
a finite value and a value of any other kind have none, and the text ends in a fault at the first of
them. What comes before the fault is kept, since its type names have been spelled by then.

Key definitions: `Annotation`, `Annotation.Value`, `Annotation.Phrase`, `Annotation.phrase`,
`Annotation.byName`.
-/
import Intertype.Decimal.Shortest
import Intertype.Imports
import Intertype.Java.Literal

namespace Intertype

/-- The value of an attribute. -/
inductive Annotation.Value
  | string (s : String)
  | boolean (b : Bool)
  | integer (i : Int)
  | double (x : Binary64)
  /-- A class literal. -/
  | classOf (t : TypeRef)
  /-- A constant of an enum type. -/
  | enumConstant (type : TypeRef) (constant : String)
  /-- A nested annotation: its type and its attributes. -/
  | nested (type : TypeRef) (attributes : List (String × Annotation.Value))
  | array (items : List Annotation.Value)
  /-- A value of another kind, which no source text stands for, shown as in messages. -/
  | unsupported (shown : String)
  deriving Inhabited

/-- An annotation with its attributes in order; a name may occur twice. -/
structure Annotation where
  /-- The type of the annotation. -/
  type : TypeRef
  /-- The attributes, each a name and a value. -/
  attributes : List (String × Annotation.Value) := []
  deriving Inhabited

namespace Annotation

/-- Why a value has no source text. -/
inductive Fault
  /-- A double that is infinite or no number. -/
  | nonFinite (x : Binary64)
  /-- A value of a kind that no source text stands for. -/
  | unsupported (shown : String)
  deriving DecidableEq

/-- The wording of a fault. -/
def Fault.message : Fault → String
  | .nonFinite x => "Non-finite annotation attribute value: " ++ x.text
  | .unsupported shown => "Unsupported annotation attribute value: " ++ shown

/-- Source text up to the first value that has none. -/
structure Phrase where
  /-- The pieces of the text. -/
  pieces : List Piece
  /-- Why the text ends there, if it is not whole. -/
  fault : Option Fault := none

namespace Phrase

/-- A text that is whole. -/
def whole (pieces : List Piece) : Phrase :=
  { pieces }

/-- One text after the other, where the first is whole. -/
def append (a b : Phrase) : Phrase :=
  match a.fault with
  | none => ⟨a.pieces ++ b.pieces, b.fault⟩
  | some _ => a

instance : Append Phrase := ⟨append⟩

/-- Several texts as one, with the separator between each two. -/
def listed (separator : String) : List Phrase → Phrase
  | [] => whole []
  | [a] => a
  | a :: b :: more => a ++ (whole [.text separator] ++ listed separator (b :: more))

/-- The text with the type names in full. -/
def inFull (a : Phrase) : Except Fault String :=
  match a.fault with
  | none => .ok (Piece.spelledInFull a.pieces)
  | some f => .error f

/-- The text with the type names as the imports allow; names before a fault are spelled too. -/
def spell (im : Imports) (a : Phrase) : Except Fault String × Imports :=
  let spelled := im.spell a.pieces
  match a.fault with
  | none => (.ok spelled.1, spelled.2)
  | some f => (.error f, spelled.2)

end Phrase

/-- Attributes between parentheses: nothing where there are none, and a single one called `value`
without its name. -/
def attributeList : List (String × Phrase) → Phrase
  | [] => .whole []
  | [(name, v)] =>
    .whole [.text (if name = "value" then "(" else "(" ++ name ++ " = ")] ++ (v ++ .whole [.text ")"])
  | attributes =>
    .whole [.text "("] ++
      (Phrase.listed ", " (attributes.map fun (name, v) => .whole [.text (name ++ " = ")] ++ v) ++
        .whole [.text ")"])

mutual
/-- The source text of a value. -/
def Value.phrase : Value → Phrase
  | .string s => .whole [.text (Java.stringLiteral s)]
  | .boolean b => .whole [.text (if b then "true" else "false")]
  | .integer i => .whole [.text (Java.integerLiteral i)]
  | .double x => if x.isFinite then .whole [.text x.text] else ⟨[], some (.nonFinite x)⟩
  | .classOf t => .whole [.typeName t, .text (TypeRef.brackets t.dims ++ ".class")]
  | .enumConstant t constant => .whole [.typeName t, .text ("." ++ constant)]
  | .nested t attributes =>
    .whole [.text "@", .typeName t] ++ attributeList (attributePhrases attributes)
  | .array items =>
    .whole [.text "\x7b"] ++ (Phrase.listed ", " (itemPhrases items) ++ .whole [.text "\x7d"])
  | .unsupported shown => ⟨[], some (.unsupported shown)⟩

/-- The source texts of the items of an array. -/
def itemPhrases : List Value → List Phrase
  | [] => []
  | v :: rest => v.phrase :: itemPhrases rest

/-- The attributes with the source texts of their values. -/
def attributePhrases : List (String × Value) → List (String × Phrase)
  | [] => []
  | (name, v) :: rest => (name, v.phrase) :: attributePhrases rest
end

/-- The source text of an annotation. -/
def phrase (a : Annotation) : Phrase :=
  .whole [.text "@", .typeName a.type] ++ attributeList (attributePhrases a.attributes)

/-- A way to write annotations. -/
abbrev Form := Annotation → Phrase

/-- A form that shows no more of an annotation than the simple name of its type, behind a mark. -/
def byName (mark : String) : Form :=
  fun a => .whole [.text (mark ++ a.type.simpleName)]

/-- The source text with the type names in full. -/
def text (a : Annotation) : Except Fault String :=
  a.phrase.inFull

example : (text ⟨TypeRef.declared "a.B", [("value", .array [.integer 1, .string "x"])]⟩).toOption =
    some "@a.B(\x7b1, \"x\"\x7d)" := by decide

end Annotation
end Intertype
