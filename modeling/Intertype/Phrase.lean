/-
# Source text before its type names are spelled

How a type name is written in a compilation unit, short or in full, depends on the imports the unit
has by then. Source text is therefore first put together from pieces, which leave the name of a
declared type open, and spelled afterwards: in full (`Piece.inFull`), or one piece after the other as
the imports allow (`Imports.spell`). So what is written and how its names are spelled are decided
apart, and the names that a text mentions can be read off its pieces.

Key definitions: `Piece`, `Piece.spelledInFull`, `Piece.listed`.
-/
import Intertype.TypeRef.Naming
import Intertype.Text.Joined

namespace Intertype

/-- A piece of source text. -/
inductive Piece
  /-- Text to be written as it is. -/
  | text (s : String)
  /-- The name of a type variable. -/
  | typeVariable (name : String)
  /-- The name of the type referred to, without its arguments and dimensions. -/
  | typeName (t : TypeRef)
  deriving DecidableEq

namespace Piece

/-- The piece with its type name in full. -/
def inFull : Piece → String
  | text s => s
  | typeVariable name => name
  | typeName t => t.name

/-- The pieces, one after the other, with their type names in full. -/
def spelledInFull : List Piece → String
  | [] => ""
  | p :: rest => p.inFull ++ spelledInFull rest

theorem spelledInFull_append (a b : List Piece) :
    spelledInFull (a ++ b) = spelledInFull a ++ spelledInFull b := by
  induction a with
  | nil => simp [spelledInFull]
  | cons p rest ih => rw [List.cons_append, spelledInFull, ih, spelledInFull, String.append_assoc]

/-- Several texts as one, with the separator between each two. -/
def listed (separator : String) : List (List Piece) → List Piece
  | [] => []
  | [ps] => ps
  | ps :: qs :: more => ps ++ text separator :: listed separator (qs :: more)

theorem spelledInFull_listed (separator : String) (pss : List (List Piece)) :
    spelledInFull (listed separator pss) = Text.joined separator (pss.map spelledInFull) := by
  induction pss with
  | nil => rfl
  | cons ps rest ih =>
    cases rest with
    | nil => rfl
    | cons qs more =>
      rw [listed, spelledInFull_append, spelledInFull, ih]
      rfl

end Piece
end Intertype
