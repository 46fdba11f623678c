/-
# The parts of an introduction

What an introduction is put together from comes in nine kinds: fields, constructors, methods, types
extended and implemented, annotations for the target, its fields and its methods, and imports. All but
the imports are written into the body of the aspect, each on its own and in the order of the sections;
`Introduction.chunks_eq` has the body as its opening, these parts and its end.

Key definitions: `Introduction.Part`, `Introduction.Part.chunks`, `Introduction.parts`,
`Introduction.partChunks`.
Key theorems: `Introduction.chunks_eq`.
-/
import Intertype.Introduction.Sections

namespace Intertype
namespace Introduction

/-- What an introduction can have. -/
inductive Part
  | field (f : Field)
  | constructor (c : Callable)
  | method (m : Method)
  | extended (t : TypeRef)
  | implemented (t : TypeRef)
  | onType (a : Annotation)
  | onField (a : FieldAnnotation)
  | onMethod (a : MethodAnnotation)
  | imported (t : TypeRef)

/-- What is written for the part into the body of the aspect, for a target of that name. -/
def Part.chunks (form : Annotation.Form) (target : String) : Part → List Chunk
  | .field f => fieldEntry form target f
  | .constructor c => constructorEntry form target c
  | .method m => methodEntry form target m
  | .extended t => supertypeEntry target Inheritance.extension.keyword t
  | .implemented t => supertypeEntry target Inheritance.implementation.keyword t
  | .onType a => typeAnnotationEntry form target a
  | .onField a => fieldAnnotationEntry form target a
  | .onMethod a => methodAnnotationEntry form target a
  | .imported _ => []

/-- The parts that are written into the body of the aspect, in the order of the sections. -/
def parts (i : Introduction) : List Part :=
  i.extended.map .extended ++ i.implemented.map .implemented ++
    i.typeAnnotations.map .onType ++ i.fieldAnnotations.map .onField ++
    i.methodAnnotations.map .onMethod ++ i.fields.map .field ++
    i.constructors.map .constructor ++ i.methods.map .method

/-- What is written for each part of the aspect. -/
def partChunks (form : Annotation.Form) (i : Introduction) : List (List Chunk) :=
  i.parts.map (Part.chunks form i.target.simpleName)

/-- The body of an aspect is its opening, its parts and its end. -/
theorem chunks_eq (form : Annotation.Form) (i : Introduction) :
    i.chunks form = opening i.privileged i.aspect i.target ++
      ((i.partChunks form).flatten ++ [.conclude]) := by
  simp only [chunks, partChunks, parts, List.map_append, List.map_map, List.flatten_append, List.append_assoc]
  rfl

end Introduction
end Intertype
