/-
# Members

Fields, constructors and methods as an aspect introduces them into a type. The types of the parameters
and their names are separate lists, whose lengths are compared only when the member is written.

Two constructors clash, and so do two methods of one name, when their parameter types have the same
names and dimensions one by one; type arguments, wildcards and annotations make no difference. The
signature key holds what is compared.

Key definitions: `Field`, `Callable`, `Method`, `Callable.signatureKey`, `Method.signatureKey`.
-/
import Intertype.Annotation

namespace Intertype

/-- A field. -/
structure Field where
  name : String
  type : TypeRef
  /-- The modifier mask. -/
  modifiers : Int := 0
  /-- The initial value as source text. -/
  initializer : Option String := none
  annotations : List Annotation := []

/-- The type of a parameter with the annotations on it. -/
structure ParameterType where
  type : TypeRef
  annotations : List Annotation := []

/-- What constructors and methods have in common; a constructor is this alone. -/
structure Callable where
  /-- The modifier mask. -/
  modifiers : Int := 0
  parameterTypes : List ParameterType := []
  parameterNames : List String := []
  annotations : List Annotation := []
  /-- The statements as source text, with their indentation and the end of the last line. -/
  body : String := ""

/-- A method. -/
structure Method extends Callable where
  name : String
  returnType : TypeRef
  /-- The types of the exceptions it declares. -/
  throws : List TypeRef := []

/-- What tells a parameter type from others: its name and its dimensions. -/
def ParameterType.key (p : ParameterType) : String :=
  p.type.name ++ TypeRef.brackets p.type.dims

/-- What tells a constructor from others of its type. -/
def Callable.signatureKey (c : Callable) : List String :=
  c.parameterTypes.map ParameterType.key

/-- What tells a method from others of its type. -/
def Method.signatureKey (m : Method) : List String :=
  m.name :: m.toCallable.signatureKey

/-- Parameters given as types and names in pairs. -/
def Callable.withParameters (c : Callable) (pairs : List (TypeRef × String)) : Callable :=
  { c with
    parameterTypes := pairs.map fun p => { type := p.1 }
    parameterNames := pairs.map Prod.snd }

end Intertype
