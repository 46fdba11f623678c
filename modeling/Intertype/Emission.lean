/-
# Emitting source text

What is to be written is a list of chunks that know nothing of the layout: text, type names to be
spelled, the ends of lines, changes of depth. `Emission.run` carries them out in order, on a buffer
and the imports of the unit, and stops at the first that fails. What was written and imported before
the failure remains.

Key definitions: `Chunk`, `Emission`, `Emission.step`, `Emission.run`, `Emission.Fault`.
-/
import Intertype.Annotation
import Intertype.Layout

namespace Intertype

/-- Why emission stops. -/
inductive Emission.Fault
  /-- The aspect and the target, of these names, are in different packages. -/
  | differentPackages (aspect target : String)
  /-- The member has so many parameter names but so many parameter types. -/
  | parameterCounts (member : String) (names types : Nat)
  /-- A value in an annotation has no source text. -/
  | unwritable (fault : Annotation.Fault)
  /-- The depth cannot change as asked. -/
  | layout (fault : Buffer.Fault)
  deriving DecidableEq

/-- The wording of a fault. -/
def Emission.Fault.message : Emission.Fault → String
  | .differentPackages aspect target =>
    "Aspect and introduction must be in identical packages (" ++ aspect ++ " vs " ++ target ++ ")"
  | .parameterCounts member names types =>
    "Mismatched parameter names against parameter types in " ++ member ++ " (" ++
      Decimal.ofNat names ++ " names, " ++ Decimal.ofNat types ++ " types)"
  | .unwritable fault => fault.message
  | .layout fault => fault.message

/-- A part of what is to be written. -/
inductive Chunk
  /-- The indentation of the current depth. -/
  | margin
  /-- Text whose type names are spelled first; if it ends in a fault, none of it is written. -/
  | phrase (a : Annotation.Phrase)
  /-- A whole line of such text. -/
  | line (a : Annotation.Phrase)
  /-- A type as a supertype. -/
  | supertype (t : TypeRef)
  /-- The end of a line. -/
  | endLine
  /-- A blank line. -/
  | blankLine
  /-- One level deeper from here on. -/
  | indent
  /-- One level less deep from here on. -/
  | dedent
  /-- The end of the outermost block. -/
  | conclude
  /-- Nothing can be written from here on. -/
  | stop (fault : Emission.Fault)

namespace Chunk

/-- Text to be written as it is. -/
def text (s : String) : Chunk :=
  .phrase (.whole [.text s])

/-- A type to be written as the imports allow. -/
def type (t : TypeRef) : Chunk :=
  .phrase (.whole t.pieces)

end Chunk

/-- Text being written together with the imports it needs. -/
structure Emission where
  buffer : Buffer
  imports : Imports

namespace Emission

/-- Carries out one chunk. -/
def step (e : Emission) : Chunk → Option Fault × Emission
  | .margin => (none, { e with buffer := e.buffer.appendMargin })
  | .phrase a =>
    match a.spell e.imports with
    | (.ok s, after) => (none, ⟨e.buffer.append s, after⟩)
    | (.error f, after) => (some (.unwritable f), { e with imports := after })
  | .line a =>
    match a.spell e.imports with
    | (.ok s, after) => (none, ⟨e.buffer.appendLine s, after⟩)
    | (.error f, after) => (some (.unwritable f), { e with imports := after })
  | .supertype t =>
    let spelled := e.imports.spellSupertype t
    (none, ⟨e.buffer.append spelled.1, spelled.2⟩)
  | .endLine => (none, { e with buffer := e.buffer.endLine })
  | .blankLine => (none, { e with buffer := e.buffer.blankLine })
  | .indent => (none, { e with buffer := e.buffer.indent })
  | .dedent =>
    match e.buffer.dedent with
    | .ok b => (none, { e with buffer := b })
    | .error f => (some (.layout f), e)
  | .conclude =>
    match e.buffer.conclude with
    | .ok b => (none, { e with buffer := b })
    | .error f => (some (.layout f), e)
  | .stop f => (some f, e)

/-- Carries out chunks in order up to the first that fails. -/
def run (e : Emission) : List Chunk → Option Fault × Emission
  | [] => (none, e)
  | c :: rest =>
    match e.step c with
    | (none, after) => after.run rest
    | (some f, after) => (some f, after)

end Emission
end Intertype
