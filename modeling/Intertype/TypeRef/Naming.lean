/-
# The names of a type

A fully qualified name is a package, the outermost type in it and types nested in that one, with dots
between them. The package of a declared type ends before the first segment with a capital initial, and
never takes the last segment; a type variable or a primitive type is in no package. What follows the
package is the relative name, its first segment the local name, under which the type or the type
around it is known in its own package, and its last segment the simple name.

Key definitions: `TypeRef.simpleName`, `TypeRef.packageName`, `TypeRef.relativeName`,
`TypeRef.localName`, `TypeRef.ownerName`.
-/
import Intertype.Text.Dotted
import Intertype.Text.Uppercase
import Intertype.TypeRef.Basic

namespace Intertype
namespace TypeRef

/-- Whether a segment starts with a capital, and so names a type. -/
def startsUpper : List Char → Bool
  | [] => false
  | c :: _ => Text.isUppercase c

/-- The package that a name shows: its leading segments without a capital initial, the last segment
left out. -/
def derivedPackage (name : List Char) : List Char :=
  Dotted.join ((Dotted.segments name).dropLast.takeWhile fun s => !startsUpper s)

/-- The last segment of the name. -/
def simpleName (t : TypeRef) : String :=
  String.ofList (Dotted.last t.name.toList)

/-- The package that the type is in, empty for the default package. -/
def packageName (t : TypeRef) : String :=
  match t.package with
  | some p => p
  | none => if t.kind = .declared then String.ofList (derivedPackage t.name.toList) else ""

/-- Whether the type is in the default package. -/
def isDefaultPackage (t : TypeRef) : Bool :=
  t.packageName = ""

/-- What is left of a name after a package and a dot, or all of it where it does not begin so. -/
def withoutPackage (package name : List Char) : List Char :=
  if package = [] then name
  else ((package ++ ['.']).isPrefixOf? name).getD name

/-- The name within the package. -/
def relativeName (t : TypeRef) : String :=
  String.ofList (withoutPackage t.packageName.toList t.name.toList)

/-- The outermost type of the relative name, as it is known in its package. -/
def localName (t : TypeRef) : String :=
  String.ofList (Dotted.head t.relativeName.toList)

/-- The fully qualified name of the outermost type. -/
def ownerName (t : TypeRef) : String :=
  if t.isDefaultPackage then t.localName else t.packageName ++ "." ++ t.localName

theorem raw_name (t : TypeRef) : t.raw.name = t.name := rfl

theorem raw_kind (t : TypeRef) : t.raw.kind = t.kind := rfl

/-- A derived reference to the declared type of the name. -/
def declared (name : String) : TypeRef := ⟨name, [], 0, .declared, none, none⟩

example : (declared "com.acme.Outer.Inner").packageName = "com.acme" ∧
    (declared "com.acme.Outer.Inner").relativeName = "Outer.Inner" ∧
    (declared "com.acme.Outer.Inner").ownerName = "com.acme.Outer" := by decide

end TypeRef
end Intertype
