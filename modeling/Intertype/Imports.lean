/-
# The imports of a compilation unit

A type of the home package, or of a package that is always in scope, is written by its relative name;
any other type is imported and then written by its simple name. Each short name stands for one owner
throughout the unit, since text already written is not revisited: whoever first claims it. A later
type with another owner is written in full.

Names are bound by what is reserved from the start, by `add`, and by `claim`, which decides how a type
is written and binds its short name where that name is free.

Key definitions: `Imports`, `Imports.start`, `Imports.isLegal`, `Imports.needsFullName`,
`Imports.add`, `Imports.claim`, `Imports.resolve`, `Imports.spell`, `Imports.sorted`.
Key theorems: `Imports.bind_owner`, `Imports.claim_snd`, `Imports.resolve_fst`, `Imports.spell_append`.
-/
import Intertype.TypeRef.Render

namespace Intertype

/-- The imports of a compilation unit so far, and what its short names stand for. -/
structure Imports where
  /-- The package of the unit. -/
  home : String
  /-- The packages whose types need no import. -/
  implicit : List String
  /-- The bare types imported, in the order of their registration. -/
  registered : List TypeRef := []
  /-- The short names in use, each with its owner, in the order of their first claims. -/
  bound : List (String × String) := []

namespace Imports

/-- The one way in which registering an import fails. -/
inductive Fault
  /-- The type of this name cannot be imported, or need not be, in this package. -/
  | illegal (name home : String)
  deriving DecidableEq, Repr

/-- The wording of a fault. -/
def Fault.message : Fault → String
  | .illegal name home => "Import of " ++ name ++ " is not legal in package '" ++ home ++ "'"

/-- The owner of a short name. -/
def owner (im : Imports) (short : String) : Option String :=
  im.bound.lookup short

/-- Gives a short name to an owner, unless it has one already. -/
def bind (im : Imports) (short owner : String) : Imports :=
  if (im.owner short).isSome then im else { im with bound := im.bound ++ [(short, owner)] }

/-- The imports at the start of a unit, with the local names of the reserved types bound. -/
def start (home : String) (implicit : List String) (reserved : List TypeRef) : Imports :=
  reserved.foldl (fun im t => im.bind t.localName t.ownerName) { home, implicit }

/-- Whether a type of this name is imported. -/
def isRegistered (im : Imports) (name : String) : Bool :=
  im.registered.any fun t => t.name = name

/-- Whether the type is in a package that needs no import. -/
def inScope (im : Imports) (t : TypeRef) : Bool :=
  t.packageName = im.home || t.packageName ∈ im.implicit

/-- Whether the short name is free or stands for the given owner. -/
def isFreeFor (im : Imports) (short owner : String) : Bool :=
  match im.owner short with
  | none => true
  | some o => o = owner

/-- Whether an import of the type may be registered: it is a declared type that has a package and is
not in scope, and its simple name stands for no other type. -/
def isLegal (im : Imports) (t : TypeRef) : Bool :=
  t.kind = .declared && t.wildcard ≠ some .unbounded && !t.isDefaultPackage && !im.inScope t &&
    im.isFreeFor t.simpleName t.name

/-- Whether the type has to be written in full: its short name is neither its own nor free. -/
def needsFullName (im : Imports) (t : TypeRef) : Bool :=
  t.kind = .declared && !im.isRegistered t.name &&
    !(if im.inScope t then im.isFreeFor t.localName t.ownerName else im.isLegal t)

/-- Imports the type, whose simple name then stands for it. -/
def register (im : Imports) (t : TypeRef) : Imports :=
  if im.isRegistered t.name then im
  else { im with registered := im.registered ++ [t.raw] }.bind t.simpleName t.name

/-- Imports the type if that is legal; one imported before is not imported again. -/
def add (im : Imports) (t : TypeRef) : Except Fault Imports :=
  if im.isLegal t then .ok (im.register t) else .error (.illegal t.name im.home)

/-- Whether the type has to be written in full; if not, its short name is its own from now on, and it
is imported where it is not in scope. -/
def claim (im : Imports) (t : TypeRef) : Bool × Imports :=
  if im.needsFullName t then (true, im)
  else if t.kind = .declared ∧ im.isRegistered t.name = false then
    (false, if im.inScope t then im.bind t.localName t.ownerName else im.register t)
  else (false, im)

/-- The name to write for the type, claimed if it is a short one. -/
def resolve (im : Imports) (t : TypeRef) : String × Imports :=
  if t.kind = .declared then
    match im.claim t with
    | (true, after) => (t.name, after)
    | (false, after) =>
      (if after.isRegistered t.name then t.simpleName else t.relativeName, after)
  else (t.simpleName, im)

/-- The piece with its type name as the imports allow. -/
def spellPiece (im : Imports) : Piece → String × Imports
  | .text s => (s, im)
  | .typeVariable name => (name, im)
  | .typeName t => im.resolve t

/-- The pieces, one after the other, with their type names as the imports allow. -/
def spell (im : Imports) : List Piece → String × Imports
  | [] => ("", im)
  | p :: rest =>
    let first := im.spellPiece p
    let others := first.2.spell rest
    (first.1 ++ others.1, others.2)

/-- A supertype as source text: one that has to be written in full keeps its arguments in full too. -/
def spellSupertype (im : Imports) (t : TypeRef) : String × Imports :=
  match im.claim t with
  | (true, after) => (t.text, after)
  | (false, after) => after.spell t.pieces

/-- The imported types in ascending order of their names. -/
def sorted (im : Imports) : List TypeRef :=
  TypeRef.sorted im.registered

theorem spell_append (im : Imports) (a b : List Piece) :
    im.spell (a ++ b) =
      ((im.spell a).1 ++ ((im.spell a).2.spell b).1, ((im.spell a).2.spell b).2) := by
  induction a generalizing im with
  | nil => simp [spell]
  | cons p rest ih =>
    rw [List.cons_append, spell, ih]
    simp [spell, String.append_assoc]

theorem owner_bind_self (im : Imports) (short owner : String) :
    (im.bind short owner).owner short = some ((im.owner short).getD owner) := by
  unfold bind
  by_cases h : (im.owner short).isSome
  · rw [if_pos h]
    obtain ⟨o, ho⟩ := Option.isSome_iff_exists.1 h
    rw [ho]
    rfl
  · rw [if_neg h]
    have hn : im.owner short = none := by simpa using h
    have hl : im.bound.lookup short = none := hn
    rw [hn]
    simp [Imports.owner, List.lookup_append, hl]

/-- Binding a name changes the owner of no other. -/
theorem owner_bind_of_ne (im : Imports) {short other : String} (owner : String)
    (h : other ≠ short) : (im.bind short owner).owner other = im.owner other := by
  unfold bind
  split
  · rfl
  · have hne : (other == short) = false := by simpa using h
    simp [Imports.owner, List.lookup_append, List.lookup_cons, hne]

theorem bind_owner (im : Imports) (short owner other : String) :
    (im.bind short owner).owner other =
      (im.owner other).or (if short = other then some owner else none) := by
  by_cases ho : short = other
  · rw [← ho, owner_bind_self, if_pos rfl]
    cases im.owner short <;> rfl
  · rw [owner_bind_of_ne im owner (Ne.symm ho), if_neg ho, Option.or_none]

theorem bind_registered (im : Imports) (short owner : String) :
    (im.bind short owner).registered = im.registered := by
  unfold bind
  split <;> rfl

theorem bind_home (im : Imports) (short owner : String) : (im.bind short owner).home = im.home := by
  unfold bind
  split <;> rfl

theorem bind_implicit (im : Imports) (short owner : String) :
    (im.bind short owner).implicit = im.implicit := by
  unfold bind
  split <;> rfl

theorem isRegistered_iff {im : Imports} {name : String} :
    im.isRegistered name = true ↔ name ∈ im.registered.map (·.name) := by
  simp [isRegistered, List.any_eq_true]

/-- A declared type that is not imported is written in full unless it may be bound, or imported. -/
theorem needsFullName_eq {im : Imports} {t : TypeRef} (hk : t.kind = .declared)
    (hr : im.isRegistered t.name = false) : im.needsFullName t =
      !(if im.inScope t then im.isFreeFor t.localName t.ownerName else im.isLegal t) := by
  simp [needsFullName, hk, hr]

theorem claim_fst (im : Imports) (t : TypeRef) : (im.claim t).1 = im.needsFullName t := by
  unfold claim
  by_cases hn : im.needsFullName t = true
  · rw [if_pos hn, hn]
  · rw [if_neg hn, Bool.eq_false_iff.mpr hn]
    split <;> rfl

/-- What claiming a type leaves: a type in scope binds its local name if that is free, any other declared
type is imported if that is legal, and one imported before changes nothing. -/
theorem claim_snd (im : Imports) (t : TypeRef) : (im.claim t).2 =
    if t.kind = .declared ∧ im.isRegistered t.name = false then
      if im.inScope t = true then
        if im.isFreeFor t.localName t.ownerName = true then im.bind t.localName t.ownerName else im
      else if im.isLegal t = true then im.register t else im
    else im := by
  unfold claim
  by_cases hk : t.kind = .declared ∧ im.isRegistered t.name = false
  · rw [needsFullName_eq hk.1 hk.2, if_pos hk, if_pos hk]
    by_cases hs : im.inScope t = true
    · rw [if_pos hs, if_pos hs, if_pos hs]
      cases im.isFreeFor t.localName t.ownerName <;> rfl
    · rw [if_neg hs, if_neg hs, if_neg hs]
      cases im.isLegal t <;> rfl
  · rw [if_neg hk, if_neg hk]
    split <;> rfl

/-- To find the name for a type is to claim it. -/
theorem resolve_snd (im : Imports) (t : TypeRef) : (im.resolve t).2 = (im.claim t).2 := by
  unfold resolve
  by_cases hk : t.kind = .declared
  · rw [if_pos hk]
    split <;> rename_i he <;> rw [he]
  · rw [if_neg hk]
    simp [claim, needsFullName, hk]

theorem resolve_fst (im : Imports) (t : TypeRef) : (im.resolve t).1 =
    if t.kind ≠ .declared then t.simpleName
    else if im.needsFullName t then t.name
    else if (im.claim t).2.isRegistered t.name then t.simpleName else t.relativeName := by
  unfold resolve
  rw [← claim_fst]
  by_cases hk : t.kind = .declared
  · rw [if_pos hk, if_neg (by simp [hk])]
    split <;> rename_i he <;> rw [he] <;> rfl
  · rw [if_neg hk, if_pos hk]

end Imports
end Intertype
