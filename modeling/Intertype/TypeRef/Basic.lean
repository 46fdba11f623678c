/-
# References to Java types

A reference names a class, interface, enum or annotation type, a type variable or a primitive type,
with its type arguments, its array dimensions and, when it stands as a type argument, its wildcard.
The package is normally derived from the name (`TypeRef/Naming`), and may be given.

The four ways to build a reference are `of`, `primitive`, `typeVariable` and `wildcardOf`; `make` sets
every field. A reference has a name, no primitive has a name of its own choosing, and dimensions are
counted from zero: `Fault` lists what is refused.

Key definitions: `TypeRef`, `TypeRef.make`, `TypeRef.of`, `TypeRef.primitive`, `TypeRef.typeVariable`,
`TypeRef.wildcardOf`, `TypeRef.raw`, `TypeRef.Fault`.
-/

namespace Intertype

/-- What a reference names. -/
inductive Kind
  /-- A class, interface, enum or annotation type. -/
  | declared
  /-- A type variable. -/
  | typeVariable
  /-- A primitive type or `void`. -/
  | primitive
  deriving DecidableEq, Repr, Inhabited

/-- The wildcard of a type argument, whose bound, if there is one, is the reference that has it. -/
inductive Wildcard
  /-- Any type at all, written `?`. -/
  | unbounded
  /-- The type or a subtype of it, written `? extends T`. -/
  | upper
  /-- The type or a supertype of it, written `? super T`. -/
  | lower
  deriving DecidableEq, Repr, Inhabited

/-- A reference to a Java type. -/
structure TypeRef where
  /-- The fully qualified name. -/
  name : String
  /-- The type arguments. -/
  args : List TypeRef := []
  /-- The number of array dimensions. -/
  dims : Nat := 0
  /-- What the name stands for. -/
  kind : Kind := .declared
  /-- The wildcard, for a type argument that has one. -/
  wildcard : Option Wildcard := none
  /-- The package, where it is not the one that the name shows; empty for the default package. -/
  package : Option String := none
  deriving Inhabited

namespace TypeRef

mutual
/-- References are equal when all their fields are. -/
def decideEq (a b : TypeRef) : Decidable (a = b) :=
  match a, b with
  | ⟨n, as, d, k, w, p⟩, ⟨n', as', d', k', w', p'⟩ =>
    if h : n = n' ∧ d = d' ∧ k = k' ∧ w = w' ∧ p = p' then
      match decideEqAll as as' with
      | .isTrue hs => .isTrue (by obtain ⟨h1, h2, h3, h4, h5⟩ := h; rw [h1, h2, h3, h4, h5, hs])
      | .isFalse hs => .isFalse (fun e => hs (by injection e))
    else .isFalse (fun e => h (by injection e; exact ⟨‹_›, ‹_›, ‹_›, ‹_›, ‹_›⟩))

/-- Lists of references are equal when their members are, one by one. -/
def decideEqAll (as bs : List TypeRef) : Decidable (as = bs) :=
  match as, bs with
  | [], [] => .isTrue rfl
  | [], _ :: _ => .isFalse (fun e => by injection e)
  | _ :: _, [] => .isFalse (fun e => by injection e)
  | a :: as, b :: bs =>
    match decideEq a b, decideEqAll as bs with
    | .isTrue h, .isTrue hs => .isTrue (by rw [h, hs])
    | .isFalse h, _ => .isFalse (fun e => h (by injection e))
    | _, .isFalse hs => .isFalse (fun e => hs (by injection e))
end

instance : DecidableEq TypeRef := decideEq

/-- Why no reference can be built, or no two things compared. -/
inductive Fault
  /-- The name is empty. -/
  | noName
  /-- The type of this name would have fewer than no dimensions. -/
  | negativeDimensions (name : String)
  /-- The name is not one of a primitive type. -/
  | notPrimitive (name : String)
  /-- A reference is ordered against something that is none, of the type named. -/
  | incomparable (other : String)
  deriving DecidableEq, Repr

/-- The wording of a fault. -/
def Fault.message : Fault → String
  | .noName => "Fully qualified type name is required"
  | .negativeDimensions name => "Negative array dimensions for " ++ name
  | .notPrimitive name => "Not a primitive type: " ++ name
  | .incomparable other =>
    "'<' not supported between instances of 'TypeReference' and '" ++ other ++ "'"

/-- A reference with every field given: the name may not be empty nor the dimensions negative. -/
def make (name : String) (args : List TypeRef) (dims : Int) (kind : Kind)
    (wildcard : Option Wildcard) (package : Option String) : Except Fault TypeRef :=
  if name = "" then .error .noName
  else if dims < 0 then .error (.negativeDimensions name)
  else .ok ⟨name, args, dims.toNat, kind, wildcard, package⟩

/-- A declared type with its type arguments. -/
def of (name : String) (args : List TypeRef) : Except Fault TypeRef :=
  make name args 0 .declared none none

/-- The names of the primitive types, `void` among them. -/
def primitiveNames : List String :=
  ["boolean", "byte", "char", "short", "int", "long", "float", "double", "void"]

/-- A primitive type, or an array of it; it is in no package. -/
def primitive (name : String) (dims : Int) : Except Fault TypeRef :=
  if name ∈ primitiveNames then make name [] dims .primitive none (some "")
  else .error (.notPrimitive name)

/-- A type variable; it is in no package. -/
def typeVariable (name : String) : Except Fault TypeRef :=
  make name [] 0 .typeVariable none (some "")

/-- The wildcard without a bound, which stands for any object. -/
def anything : TypeRef :=
  ⟨"java.lang.Object", [], 0, .declared, some .unbounded, none⟩

/-- The wildcard with the given bound, upper or lower, or without a bound. -/
def wildcardOf (bound : Option TypeRef) (upper : Bool) : TypeRef :=
  match bound with
  | none => anything
  | some t => { t with wildcard := some (if upper then .upper else .lower) }

/-- The bare type: without arguments, dimensions and wildcard. -/
def raw (t : TypeRef) : TypeRef :=
  { name := t.name, kind := t.kind, package := t.package }

/-- Nothing at all. -/
def void : TypeRef := ⟨"void", [], 0, .primitive, none, some ""⟩

/-- The primitive type of truth values. -/
def boolean : TypeRef := ⟨"boolean", [], 0, .primitive, none, some ""⟩

/-- The primitive type of 32-bit integers. -/
def int : TypeRef := ⟨"int", [], 0, .primitive, none, some ""⟩

/-- The primitive type of 64-bit integers. -/
def long : TypeRef := ⟨"long", [], 0, .primitive, none, some ""⟩

/-- The type of all objects. -/
def object : TypeRef := ⟨"java.lang.Object", [], 0, .declared, none, none⟩

/-- The type of character strings. -/
def string : TypeRef := ⟨"java.lang.String", [], 0, .declared, none, none⟩

example : primitive "void" 0 = .ok void := rfl
example : primitive "String" 0 = .error (.notPrimitive "String") := rfl
example : make "a.B" [] (-1) .declared none none = .error (.negativeDimensions "a.B") := rfl

/-- References are ordered by their names alone, code point by code point. -/
def precedes (a b : TypeRef) : Bool :=
  decide (a.name < b.name)

/-- The order in which references are sorted; equal names keep their places. -/
def notAfter (a b : TypeRef) : Bool :=
  !precedes b a

/-- References in ascending order of their names. -/
def sorted (ts : List TypeRef) : List TypeRef :=
  ts.mergeSort notAfter

theorem sorted_perm (ts : List TypeRef) : (sorted ts).Perm ts :=
  List.mergeSort_perm ts notAfter

end TypeRef
end Intertype
