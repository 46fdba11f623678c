/-
# Types as source text

A reference is written as its name, its arguments between angle brackets and a pair of brackets for
each dimension, after `? extends` or `? super` if it has a bound wildcard. A wildcard without a bound
is a question mark and nothing else; a primitive type shows neither arguments nor wildcard.

The static form is for the return type of a static member: there the type variables used have to be
declared in front.

Key definitions: `TypeRef.pieces`, `TypeRef.typeVariables`, `TypeRef.staticPieces`, `TypeRef.text`.
-/
import Intertype.Phrase

namespace Intertype
namespace TypeRef

/-- A pair of brackets for each dimension. -/
def brackets (dims : Nat) : String :=
  Text.repeated "[]" dims

/-- What stands before the bound of a wildcard. -/
def wildcardText : Option Wildcard → String
  | none => ""
  | some .unbounded => "?"
  | some .upper => "? extends "
  | some .lower => "? super "

/-- The name alone: a type variable by its simple name, a declared type left open. -/
def namePiece (t : TypeRef) : Piece :=
  if t.kind = .typeVariable then .typeVariable t.simpleName else .typeName t

mutual
/-- The source text of a reference. -/
def pieces (t : TypeRef) : List Piece :=
  match t with
  | ⟨name, args, dims, kind, wildcard, _⟩ =>
    if wildcard = some .unbounded then [.text "?"]
    else if kind = .primitive then [.text (name ++ brackets dims)]
    else
      .text (wildcardText wildcard) :: t.namePiece ::
        (if args = [] then [.text (brackets dims)]
        else .text "<" :: (argumentPieces args ++ [.text (">" ++ brackets dims)]))

/-- The source text of a list of arguments, with commas between them. -/
def argumentPieces (ts : List TypeRef) : List Piece :=
  match ts with
  | [] => []
  | [t] => pieces t
  | t :: u :: more => pieces t ++ .text ", " :: argumentPieces (u :: more)
end

theorem argumentPieces_eq_listed (ts : List TypeRef) :
    argumentPieces ts = Piece.listed ", " (ts.map pieces) := by
  induction ts with
  | nil => rfl
  | cons t rest ih =>
    cases rest with
    | nil => simp [argumentPieces, Piece.listed]
    | cons u more =>
      rw [argumentPieces, ih]
      rfl

/-- The names not yet among those seen, each once, after those seen. -/
def addNew (seen : List String) : List String → List String
  | [] => seen
  | x :: rest => addNew (if x ∈ seen then seen else seen ++ [x]) rest

mutual
/-- The type variables that the reference uses, each once, in the order of their first use. -/
def typeVariables (t : TypeRef) : List String :=
  match t with
  | ⟨_, args, _, kind, wildcard, _⟩ =>
    if wildcard = some .unbounded then []
    else addVariables (if kind = .typeVariable then [t.simpleName] else []) args

/-- The variables seen and those of the references that are not among them. -/
def addVariables (seen : List String) (ts : List TypeRef) : List String :=
  match ts with
  | [] => seen
  | t :: rest => addVariables (addNew seen (typeVariables t)) rest
end

/-- The declaration of the type variables that the reference uses, empty if it uses none. -/
def variableDeclaration (t : TypeRef) : String :=
  if t.typeVariables = [] then "" else "<" ++ Text.joined ", " t.typeVariables ++ "> "

/-- The source text of the return type of a static member. -/
def staticPieces (t : TypeRef) : List Piece :=
  .text t.variableDeclaration :: t.pieces

/-- The source text of the return type of a member, static or not. -/
def returnPieces (t : TypeRef) (static : Bool) : List Piece :=
  if static then t.staticPieces else t.pieces

/-- The source text with every name in full. -/
def text (t : TypeRef) : String :=
  Piece.spelledInFull t.pieces

/-- The static form with every name in full. -/
def staticText (t : TypeRef) : String :=
  Piece.spelledInFull t.staticPieces

example : text ⟨"java.util.Map", [⟨"K", [], 0, .typeVariable, none, some ""⟩,
    ⟨"java.util.List", [anything], 1, .declared, some .upper, none⟩], 1, .declared, none, none⟩ =
    "java.util.Map<K, ? extends java.util.List<?>[]>[]" := by decide

example : staticText ⟨"T", [], 1, .typeVariable, none, some ""⟩ = "<T> T[]" := by decide

end TypeRef
end Intertype
