/-
# Modifiers of members

A set of modifiers is an integer mask with the access flags of the virtual machine, read in two's
complement, so that a negative mask has all flags beyond its width. The keywords of a mask are written
in one order, whatever the order of the flags.

Key definitions: `Modifier`, `Modifier.isIn`, `Modifier.source`, `Modifier.isStatic`.
-/
import Intertype.Text.Joined

namespace Intertype

/-- A modifier, in the order in which the keywords are written. -/
inductive Modifier
  | publicFlag
  | protectedFlag
  | privateFlag
  | abstractFlag
  | staticFlag
  | finalFlag
  | transientFlag
  | volatileFlag
  | synchronizedFlag
  | nativeFlag
  | strictFlag
  | interfaceFlag
  deriving DecidableEq, Repr

namespace Modifier

/-- All modifiers in the order in which they are written. -/
def all : List Modifier :=
  [.publicFlag, .protectedFlag, .privateFlag, .abstractFlag, .staticFlag, .finalFlag,
    .transientFlag, .volatileFlag, .synchronizedFlag, .nativeFlag, .strictFlag, .interfaceFlag]

/-- The position of the flag in a mask. -/
def bit : Modifier → Nat
  | .publicFlag => 0
  | .privateFlag => 1
  | .protectedFlag => 2
  | .staticFlag => 3
  | .finalFlag => 4
  | .synchronizedFlag => 5
  | .volatileFlag => 6
  | .transientFlag => 7
  | .nativeFlag => 8
  | .interfaceFlag => 9
  | .abstractFlag => 10
  | .strictFlag => 11

/-- The keyword in source text. -/
def keyword : Modifier → String
  | .publicFlag => "public"
  | .protectedFlag => "protected"
  | .privateFlag => "private"
  | .abstractFlag => "abstract"
  | .staticFlag => "static"
  | .finalFlag => "final"
  | .transientFlag => "transient"
  | .volatileFlag => "volatile"
  | .synchronizedFlag => "synchronized"
  | .nativeFlag => "native"
  | .strictFlag => "strictfp"
  | .interfaceFlag => "interface"

/-- Whether the flag is set in the mask. -/
def isIn (m : Modifier) (mask : Int) : Bool :=
  mask / Int.pow 2 m.bit % 2 = 1

/-- The keywords of the flags set, with a space between each two. -/
def source (mask : Int) : String :=
  Text.joined " " ((all.filter (isIn · mask)).map keyword)

/-- Whether members with this mask are static. -/
def isStatic (mask : Int) : Bool :=
  Modifier.staticFlag.isIn mask

example : source 25 = "public static final" := by decide
example : source (-4097) = source 4095 := by decide
example : source (-4096) = "" := by decide

end Modifier
end Intertype
