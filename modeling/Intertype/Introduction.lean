/-
# Introductions

An introduction is everything that one aspect declares for one target type: supertypes, annotations on
the type and on members it has, and new members. Built up one part at a time, it takes no field,
constructor, method or supertype twice; `Introduction.Fault` says what was repeated, and a refused part
leaves the introduction as it was.

Key definitions: `Introduction`, `Introduction.hasContent`, `Introduction.addField`,
`Introduction.addConstructor`, `Introduction.addMethod`, `Introduction.addExtended`,
`Introduction.addImplemented`, `Introduction.addImport`.
-/
import Intertype.Member

namespace Intertype

/-- An annotation declared for a field that the target has. -/
structure FieldAnnotation where
  field : Field
  annotation : Annotation

/-- An annotation declared for a method that the target has. -/
structure MethodAnnotation where
  method : Method
  annotation : Annotation

/-- What an aspect introduces into a type. -/
structure Introduction where
  /-- The type introduced into. -/
  target : TypeRef
  /-- The aspect. -/
  aspect : TypeRef
  /-- Whether the aspect may use what is private to the target. -/
  privileged : Bool := false
  /-- Types to be imported before anything is written, where that is legal. -/
  imports : List TypeRef := []
  typeAnnotations : List Annotation := []
  fieldAnnotations : List FieldAnnotation := []
  methodAnnotations : List MethodAnnotation := []
  /-- The superclasses. -/
  extended : List TypeRef := []
  /-- The superinterfaces. -/
  implemented : List TypeRef := []
  fields : List Field := []
  constructors : List Callable := []
  methods : List Method := []

namespace Introduction

/-- Whether there is anything to declare, imports aside. -/
def hasContent (i : Introduction) : Bool :=
  !(i.extended.isEmpty && i.implemented.isEmpty && i.typeAnnotations.isEmpty &&
    i.fieldAnnotations.isEmpty && i.methodAnnotations.isEmpty && i.fields.isEmpty &&
    i.constructors.isEmpty && i.methods.isEmpty)

/-- How a supertype is inherited from. -/
inductive Inheritance
  | extension
  | implementation
  deriving DecidableEq, Repr

/-- The keyword before the supertype. -/
def Inheritance.keyword : Inheritance → String
  | .extension => "extends"
  | .implementation => "implements"

/-- What was introduced before. -/
inductive Fault
  /-- A field of this name, into the target named. -/
  | repeatedField (name target : String)
  /-- A constructor with these parameter types. -/
  | repeatedConstructor (key : List String)
  /-- A method of this name with these parameter types. -/
  | repeatedMethod (name : String) (key : List String)
  /-- A supertype of this name. -/
  | repeatedSupertype (inheritance : Inheritance) (name : String)
  deriving DecidableEq, Repr

/-- The wording of a fault. -/
def Fault.message : Fault → String
  | .repeatedField name target => "Field '" ++ name ++ "' already introduced into " ++ target
  | .repeatedConstructor key => "Constructor (" ++ Text.joined ", " key ++ ") already introduced"
  | .repeatedMethod name key =>
    "Method " ++ name ++ "(" ++ Text.joined ", " key ++ ") already introduced"
  | .repeatedSupertype inheritance name =>
    "Duplicate '" ++ inheritance.keyword ++ "' type " ++ name

/-- Adds a field whose name is new. -/
def addField (i : Introduction) (f : Field) : Except Fault Introduction :=
  if i.fields.any (·.name = f.name) then .error (.repeatedField f.name i.target.name)
  else .ok { i with fields := i.fields ++ [f] }

/-- Adds a constructor whose parameter types are new. -/
def addConstructor (i : Introduction) (c : Callable) : Except Fault Introduction :=
  if i.constructors.any (·.signatureKey = c.signatureKey) then
    .error (.repeatedConstructor c.signatureKey)
  else .ok { i with constructors := i.constructors ++ [c] }

/-- Adds a method whose name with its parameter types is new. -/
def addMethod (i : Introduction) (m : Method) : Except Fault Introduction :=
  if i.methods.any (·.signatureKey = m.signatureKey) then
    .error (.repeatedMethod m.name m.toCallable.signatureKey)
  else .ok { i with methods := i.methods ++ [m] }

/-- Adds a superclass whose name is new. -/
def addExtended (i : Introduction) (t : TypeRef) : Except Fault Introduction :=
  if i.extended.any (·.name = t.name) then .error (.repeatedSupertype .extension t.name)
  else .ok { i with extended := i.extended ++ [t] }

/-- Adds a superinterface whose name is new. -/
def addImplemented (i : Introduction) (t : TypeRef) : Except Fault Introduction :=
  if i.implemented.any (·.name = t.name) then .error (.repeatedSupertype .implementation t.name)
  else .ok { i with implemented := i.implemented ++ [t] }

/-- Adds an annotation for the target. -/
def addTypeAnnotation (i : Introduction) (a : Annotation) : Introduction :=
  { i with typeAnnotations := i.typeAnnotations ++ [a] }

/-- Adds an annotation for a field of the target. -/
def addFieldAnnotation (i : Introduction) (a : FieldAnnotation) : Introduction :=
  { i with fieldAnnotations := i.fieldAnnotations ++ [a] }

/-- Adds an annotation for a method of the target. -/
def addMethodAnnotation (i : Introduction) (a : MethodAnnotation) : Introduction :=
  { i with methodAnnotations := i.methodAnnotations ++ [a] }

/-- Adds an import, unless there is one of a type of that name. -/
def addImport (i : Introduction) (t : TypeRef) : Introduction :=
  if i.imports.any (·.name = t.name) then i else { i with imports := i.imports ++ [t] }

end Introduction
end Intertype
