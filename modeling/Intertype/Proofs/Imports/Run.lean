/-
# Runs of the imports

While a unit is written, its imports are asked for one thing after another: to register an import, to
decide how a type is written, to write a reference or an annotation, or to answer a question that
changes nothing. `Imports.perform` answers one request, `Imports.run` a sequence of them; a refusal
and an annotation without source text are answers too, and the run goes on after them.

Key definitions: `Imports.Step`, `Imports.Answer`, `Imports.perform`, `Imports.run`.
-/
import Intertype.Proofs.Annotation.Parts

namespace Intertype
namespace Imports

/-- What can be asked of the imports of a unit. -/
inductive Step
  /-- To register an import. -/
  | add (t : TypeRef)
  /-- Whether a type has to be written in full, and to claim its short name if not. -/
  | claim (t : TypeRef)
  /-- The name to write for a type. -/
  | resolve (t : TypeRef)
  /-- The source text of a reference, in the static form or the usual one. -/
  | render (t : TypeRef) (static : Bool)
  /-- The source text of an annotation. -/
  | annotate (a : Annotation)
  /-- Whether an import may be registered. -/
  | isLegal (t : TypeRef)
  /-- Whether a type has to be written in full. -/
  | needsFullName (t : TypeRef)
  /-- The imported types in ascending order. -/
  | sorted

/-- What is answered. -/
inductive Answer
  | done
  | refused (f : Fault)
  | truth (b : Bool)
  | text (s : String)
  | unwritable (f : Annotation.Fault)
  | types (ts : List TypeRef)
  deriving DecidableEq

/-- The types that a request is about, their arguments left out. -/
def Step.types : Step → List TypeRef
  | .add t => [t]
  | .claim t => [t]
  | .resolve t => [t]
  | .render t _ => [t]
  | .annotate a => a.types
  | .isLegal t => [t]
  | .needsFullName t => [t]
  | .sorted => []

/-- Answers one request. -/
def perform (im : Imports) : Step → Answer × Imports
  | .add t =>
    match im.add t with
    | .ok after => (.done, after)
    | .error f => (.refused f, im)
  | .claim t => (.truth (im.claim t).1, (im.claim t).2)
  | .resolve t => (.text (im.resolve t).1, (im.resolve t).2)
  | .render t static =>
    (.text (im.spell (t.returnPieces static)).1, (im.spell (t.returnPieces static)).2)
  | .annotate a =>
    match a.phrase.spell im with
    | (.ok s, after) => (.text s, after)
    | (.error f, after) => (.unwritable f, after)
  | .isLegal t => (.truth (im.isLegal t), im)
  | .needsFullName t => (.truth (im.needsFullName t), im)
  | .sorted => (.types im.sorted, im)

/-- Answers requests in order. -/
def run (im : Imports) : List Step → List Answer × Imports
  | [] => ([], im)
  | s :: rest =>
    let first := im.perform s
    let others := first.2.run rest
    (first.1 :: others.1, others.2)

theorem run_cons (im : Imports) (s : Step) (rest : List Step) :
    im.run (s :: rest) =
      ((im.perform s).1 :: ((im.perform s).2.run rest).1, ((im.perform s).2.run rest).2) := rfl

/-- The answer to a request of a run depends on the requests before it. -/
theorem run_getElem? {s : Step} : ∀ (im : Imports) (steps : List Step) (n : Nat), steps[n]? = some s →
    (im.run steps).1[n]? = some (((im.run (steps.take n)).2.perform s).1)
  | _, [], n, h => by simp at h
  | im, x :: rest, n, h => by
    rw [run_cons]
    cases n with
    | zero =>
      rw [List.getElem?_cons_zero] at h
      injection h with h
      subst h
      rfl
    | succ n =>
      rw [List.getElem?_cons_succ] at h ⊢
      rw [run_getElem? _ rest n h, List.take_succ_cons, run_cons]

end Imports
end Intertype
