/-
# Composing the source of an aspect

The body of the aspect is written first, since which imports there are is known only when all its
names are spelled; the header with the package and the imports is put before it. The names of the
target and of the aspect are reserved from the start, and the imports asked for are registered before
anything is written, those that are legal.

Key definitions: `Composition`, `Introduction.compose`, `Introduction.source?`, `Composition.output`.
-/
import Intertype.Introduction.Sections
import Intertype.Settings

namespace Intertype

/-- The source of an aspect. -/
structure Composition where
  /-- The package and the imports. -/
  header : String
  /-- The aspect itself. -/
  body : String
  /-- Whether the aspect declares anything. -/
  hasContent : Bool
  deriving DecidableEq, Repr

namespace Composition

/-- Why there is no source. -/
inductive Fault
  /-- There is nothing to compose. -/
  | noIntroduction
  /-- The aspect cannot be written. -/
  | emission (fault : Emission.Fault)
  deriving DecidableEq

/-- The wording of a fault. -/
def Fault.message : Fault → String
  | .noIntroduction => "Introduction spec is required"
  | .emission fault => fault.message

/-- The whole source. -/
def output (c : Composition) : String :=
  c.header ++ c.body

/-- The line that imports a type. -/
def importLine (newline : String) (t : TypeRef) : String :=
  "import " ++ t.name ++ ";" ++ newline

/-- The package declaration and the imports, a blank line after each of the two. -/
def headerOf (newline : String) (aspect : TypeRef) (imports : List TypeRef) : String :=
  (if aspect.isDefaultPackage then ""
    else "package " ++ aspect.packageName ++ ";" ++ newline ++ newline) ++
  (if imports = [] then "" else Text.joined "" (imports.map (importLine newline)) ++ newline)

end Composition

/-- Registers the import of a type if it is legal. -/
def Imports.preregister (im : Imports) (t : TypeRef) : Imports :=
  if im.isLegal t then im.register t else im

namespace Introduction

/-- The imports before anything is written. -/
def startImports (implicitPackages : List String) (i : Introduction) : Imports :=
  i.imports.foldl Imports.preregister
    (.start i.aspect.packageName implicitPackages [i.target, i.aspect])

/-- The body of the aspect written, with the imports it needs. -/
def emit (settings : Settings) (form : Annotation.Form) (i : Introduction) :
    Option Emission.Fault × Emission :=
  Emission.run ⟨{ layout := settings.toLayout }, i.startImports settings.implicitPackages⟩
    (i.chunks form)

/-- The source of the aspect, with annotations in the given form. -/
def compose (settings : Settings) (form : Annotation.Form) (i : Introduction) :
    Except Composition.Fault Composition :=
  match i.emit settings form with
  | (some f, _) => .error (.emission f)
  | (none, e) =>
    .ok { header := Composition.headerOf settings.newline i.aspect e.imports.sorted
          body := e.buffer.text
          hasContent := i.hasContent }

/-- The source of the aspect, with annotations as Java has them, if it declares anything. -/
def source? (settings : Settings) (i : Introduction) : Except Composition.Fault (Option String) :=
  match i.compose settings Annotation.phrase with
  | .error f => .error f
  | .ok c => .ok (if c.hasContent then some c.output else none)

end Introduction

/-- The source of an introduction that may be missing. -/
def Composition.ofGiven (settings : Settings) (form : Annotation.Form) :
    Option Introduction → Except Composition.Fault Composition
  | none => .error .noIntroduction
  | some i => i.compose settings form

/-- The source of an introduction that may be missing, if it declares anything. -/
def Composition.sourceOfGiven (settings : Settings) :
    Option Introduction → Except Composition.Fault (Option String)
  | none => .error .noIntroduction
  | some i => i.source? settings

end Intertype
