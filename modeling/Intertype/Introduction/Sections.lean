/-
# The sections of an aspect

An aspect is written section by section: its opening, the supertypes, the annotations declared for the
target, for its fields and for its methods, and then the new fields, constructors and methods. Each
entry of a section ends with a blank line. The target is called by its simple name throughout.

Key definitions: `Introduction.opening`, `Introduction.supertypeEntry`, `Introduction.fieldEntry`,
`Introduction.constructorEntry`, `Introduction.methodEntry`, `Introduction.chunks`.
-/
import Intertype.Emission
import Intertype.Introduction
import Intertype.Modifier

namespace Intertype
namespace Introduction

open Annotation

/-- The modifiers of a mask, each with a space behind it. -/
def modifiersBefore (mask : Int) : String :=
  if Modifier.source mask = "" then "" else Modifier.source mask ++ " "

/-- The end of an entry that stands on one line. -/
def entryEnd : List Chunk :=
  [.text ";", .endLine, .blankLine]

/-- The opening of an aspect, which has to be in the package of its target. -/
def opening (privileged : Bool) (aspect target : TypeRef) : List Chunk :=
  (if target.packageName = aspect.packageName then []
    else [.stop (.differentPackages aspect.name target.name)]) ++
  [.margin, .text ((if privileged then "privileged " else "") ++ "aspect " ++ aspect.simpleName ++
      " \x7b"), .endLine, .indent, .blankLine]

/-- A supertype declared for the target. -/
def supertypeEntry (target : String) (inheritance : String) (t : TypeRef) : List Chunk :=
  [.margin, .text ("declare parents: " ++ target ++ " " ++ inheritance ++ " "), .supertype t] ++
    entryEnd

/-- An annotation declared for the target. -/
def typeAnnotationEntry (form : Annotation.Form) (target : String) (a : Annotation) : List Chunk :=
  [.margin, .text ("declare @type: " ++ target ++ ": "), .phrase (form a)] ++ entryEnd

/-- An annotation declared for a field of the target. -/
def fieldAnnotationEntry (form : Annotation.Form) (target : String) (a : FieldAnnotation) :
    List Chunk :=
  [.margin, .text ("declare @field: * " ++ target ++ "." ++ a.field.name ++ ": "),
    .phrase (form a.annotation)] ++ entryEnd

/-- An annotation declared for a method of the target: the method is picked out by its return type in
full and its parameter types, between which no spaces stand. -/
def methodAnnotationEntry (form : Annotation.Form) (target : String) (a : MethodAnnotation) :
    List Chunk :=
  [.margin, .text ("declare @method: " ++ modifiersBefore a.method.modifiers ++
      a.method.returnType.text ++ " " ++ target ++ "." ++ a.method.name ++ "("),
    .phrase (.whole (Piece.listed "," (a.method.parameterTypes.map fun p => p.type.pieces))),
    .text "): ", .phrase (form a.annotation)] ++ entryEnd

/-- Annotations on lines of their own. -/
def annotationLines (form : Annotation.Form) (annotations : List Annotation) : List Chunk :=
  annotations.map fun a => .line (form a)

/-- A new field. -/
def fieldEntry (form : Annotation.Form) (target : String) (f : Field) : List Chunk :=
  annotationLines form f.annotations ++
  [.margin, .text (modifiersBefore f.modifiers), .type f.type, .text (" " ++ target ++ "." ++ f.name),
    .text (match f.initializer with
      | some value => " = " ++ value
      | none => "")] ++ entryEnd

/-- Stops where a member has more parameter names than types or fewer. -/
def parameterCheck (member : String) (c : Callable) : List Chunk :=
  if c.parameterTypes.length = c.parameterNames.length then []
  else [.stop (.parameterCounts member c.parameterNames.length c.parameterTypes.length)]

/-- A parameter: its annotations, its type and its name. -/
def parameterPhrase (form : Annotation.Form) (p : ParameterType) (name : String) :
    Annotation.Phrase :=
  Phrase.listed " "
    (p.annotations.map form ++ [.whole p.type.pieces, .whole [.text name]])

/-- The parameters between parentheses. -/
def parametersPhrase (form : Annotation.Form) (c : Callable) : Annotation.Phrase :=
  .whole [.text "("] ++
    (Phrase.listed ", "
      (List.zipWith (parameterPhrase form) c.parameterTypes c.parameterNames) ++
      .whole [.text ")"])

/-- The end of a signature, the body as it is, and the end of the member. -/
def bodyEnd (body : String) : List Chunk :=
  [.text " \x7b", .endLine, .indent, .text body, .dedent, .line (.whole [.text "\x7d"]), .blankLine]

/-- A new constructor. -/
def constructorEntry (form : Annotation.Form) (target : String) (c : Callable) : List Chunk :=
  parameterCheck (target ++ ".new") c ++ annotationLines form c.annotations ++
  [.margin, .text (modifiersBefore c.modifiers ++ target ++ ".new"),
    .phrase (parametersPhrase form c)] ++ bodyEnd c.body

/-- The exceptions that a method declares. -/
def throwsClause (types : List TypeRef) : List Chunk :=
  if types = [] then []
  else [.text " throws ", .phrase (.whole (Piece.listed ", " (types.map TypeRef.pieces)))]

/-- A new method. -/
def methodEntry (form : Annotation.Form) (target : String) (m : Method) : List Chunk :=
  parameterCheck (target ++ "." ++ m.name) m.toCallable ++ annotationLines form m.annotations ++
  [.margin, .text (modifiersBefore m.modifiers),
    .phrase (.whole (m.returnType.returnPieces (Modifier.isStatic m.modifiers))),
    .text (" " ++ target ++ "." ++ m.name), .phrase (parametersPhrase form m.toCallable)] ++
  throwsClause m.throws ++ bodyEnd m.body

/-- All that is written for an introduction, in order. -/
def chunks (form : Annotation.Form) (i : Introduction) : List Chunk :=
  let target := i.target.simpleName
  opening i.privileged i.aspect i.target ++
    i.extended.flatMap (supertypeEntry target Inheritance.extension.keyword) ++
    i.implemented.flatMap (supertypeEntry target Inheritance.implementation.keyword) ++
    i.typeAnnotations.flatMap (typeAnnotationEntry form target) ++
    i.fieldAnnotations.flatMap (fieldAnnotationEntry form target) ++
    i.methodAnnotations.flatMap (methodAnnotationEntry form target) ++
    i.fields.flatMap (fieldEntry form target) ++
    i.constructors.flatMap (constructorEntry form target) ++
    i.methods.flatMap (methodEntry form target) ++ [.conclude]

end Introduction
end Intertype
