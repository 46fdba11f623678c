/-
# Plain data

The values that settings are read from: what a configuration file or a caller hands over before
anything is known of its shape.

A key stands in a mapping once. Numbers that are equal are one key, whatever form they are in; a truth
value is the number zero or one.

Key definitions: `Data`, `Data.isTruthy`, `Data.typeName`, `Data.isSameKey`, `Data.put`.
-/
import Intertype.Decimal.Binary64

namespace Intertype

/-- A value of plain data. -/
inductive Data
  | null
  | boolean (b : Bool)
  | integer (i : Int)
  | double (x : Binary64)
  | text (s : String)
  | list (items : List Data)
  /-- Keys with their values, in order. -/
  | mapping (entries : List (Data × Data))
  /-- A value of another type, such as a date, of which no more is known than what the type is called and
  whether the value counts as given. -/
  | other (typeName : String) (isTruthy : Bool)
  deriving Inhabited

namespace Data

/-- Whether a value counts as given: nothing, zero, the empty text and empty collections do not. -/
def isTruthy : Data → Bool
  | .null => false
  | .boolean b => b
  | .integer i => i ≠ 0
  | .double x => !x.isZero
  | .text s => s ≠ ""
  | .list items => !items.isEmpty
  | .mapping entries => !entries.isEmpty
  | .other _ isTruthy => isTruthy

/-- What the type of a value is called in messages. -/
def typeName : Data → String
  | .null => "NoneType"
  | .boolean _ => "bool"
  | .integer _ => "int"
  | .double _ => "float"
  | .text _ => "str"
  | .list _ => "list"
  | .mapping _ => "dict"
  | .other typeName _ => typeName

/-- The text that a value is, if it is text. -/
def text? : Data → Option String
  | .text s => some s
  | _ => none

/-- The value at a textual key of a mapping. -/
def lookup (key : String) : List (Data × Data) → Option Data
  | [] => none
  | (.text k, v) :: rest => if k = key then some v else lookup key rest
  | _ :: rest => lookup key rest

/-- The number that a value is, a whole one wherever possible. -/
def number? : Data → Option (Int ⊕ Binary64)
  | .boolean b => some (.inl (if b then 1 else 0))
  | .integer i => some (.inl i)
  | .double x => some (match x.whole? with | some i => .inl i | none => .inr x)
  | _ => none

/-- Whether two values are one key. -/
def isSameKey : Data → Data → Bool
  | .null, .null => true
  | .text s, .text t => s = t
  | a, b =>
    match a.number?, b.number? with
    | some m, some n => m = n
    | _, _ => false

/-- The entries with a value at a key, in the place of the value there was. -/
def put (key value : Data) : List (Data × Data) → List (Data × Data)
  | [] => [(key, value)]
  | (k, v) :: rest =>
    if k.isSameKey key then (k, value) :: rest else (k, v) :: put key value rest

end Data
end Intertype
