/-
# The ledger of claims

Whoever first claims a short name has it. A type of a package in scope claims its local name for the
outermost type around it, another one that is in a package its simple name for itself; a reserved type
claims its local name before anything else. The ledger is the list of all claims so far, granted or
not, and it alone decides how a type is written and what is imported: a claim is granted if the first
claim on that name was for the same owner.

`Scope.answer` answers requests from the ledger, with no other state.

Key definitions: `Claim`, `Scope`, `Scope.claimOf`, `Claim.firstOwner`, `Claim.isGranted`,
`Claim.imported`, `Scope.written`, `Scope.answer`, `Scope.answers`, `Scope.IsForeign`.
Key theorems: `Scope.claimOf_eq_some_iff`, `Claim.isGranted_iff`, `Claim.firstOwner_append_of_some`,
`Claim.importedNames_append`, `Claim.IsConsistent.isGranted_iff`.
-/
import Intertype.Proofs.Imports.Run

namespace Intertype

/-- A claim of a short name. -/
structure Claim where
  short : String
  /-- The fully qualified name that the short name is to stand for. -/
  owner : String
  /-- Whether the owner has to be imported for that. -/
  foreign : Bool
  deriving DecidableEq

namespace Claim

/-- The owner in the first claim on a name. -/
def firstOwner : List Claim → String → Option String
  | [], _ => none
  | c :: rest, short => if c.short = short then some c.owner else firstOwner rest short

/-- Whether a claim made after those in the ledger is granted: there was none on that name before, or
the first was for the same owner. -/
def isGranted (ledger : List Claim) (c : Claim) : Bool :=
  match firstOwner ledger c.short with
  | none => true
  | some owner => owner = c.owner

/-- The names imported: the owners to be imported whose claims were granted, in the order of their
first claims. -/
def importedNames (ledger : List Claim) : List String :=
  ((ledger.filter fun c => c.foreign && firstOwner ledger c.short = some c.owner).map
    (·.owner)).eraseDups

/-- The types imported. -/
def imported (ledger : List Claim) : List TypeRef :=
  (importedNames ledger).map TypeRef.declared

end Claim

/-- The packages whose types need no import. -/
structure Scope where
  home : String
  implicit : List String

namespace Scope

variable (sc : Scope)

/-- Whether the type is in one of the packages. -/
def covers (t : TypeRef) : Bool :=
  t.packageName = sc.home || t.packageName ∈ sc.implicit

/-- What a type claims when it is to be written: none but declared types claim anything, and of those
that are not in scope none in the default package. A wildcard without a bound cannot be imported. -/
def claimOf (t : TypeRef) : Option Claim :=
  if t.kind ≠ .declared then none
  else if sc.covers t then some ⟨t.localName, t.ownerName, false⟩
  else if t.isDefaultPackage ∨ t.wildcard = some .unbounded then none
  else some ⟨t.simpleName, t.name, true⟩

/-- What a type claims when it is to be imported. -/
def importClaimOf (t : TypeRef) : Option Claim :=
  (sc.claimOf t).filter (·.foreign)

/-- What a reserved type claims. -/
def reservedClaim (t : TypeRef) : Claim :=
  ⟨t.localName, t.ownerName, false⟩

/-- Whether the type is written by its short name. -/
def isShort (ledger : List Claim) (t : TypeRef) : Bool :=
  (sc.claimOf t).any (Claim.isGranted ledger)

/-- The name written for the type. -/
def written (ledger : List Claim) (t : TypeRef) : String :=
  if t.kind ≠ .declared then t.simpleName
  else if sc.isShort ledger t then
    if sc.covers t then t.relativeName else t.simpleName
  else t.name

/-- The claims made in writing a text, in order. -/
def claimsIn (ps : List Piece) : List Claim :=
  ps.flatMap fun
    | .typeName t => (sc.claimOf t).toList
    | _ => []

/-- The text written. -/
def spell : List Claim → List Piece → String
  | _, [] => ""
  | ledger, .text s :: rest => s ++ spell ledger rest
  | ledger, .typeVariable name :: rest => name ++ spell ledger rest
  | ledger, .typeName t :: rest =>
    sc.written ledger t ++ spell (ledger ++ (sc.claimOf t).toList) rest

/-- The claims made in answering a request. -/
def claimsOf : Imports.Step → List Claim
  | .add t => (sc.importClaimOf t).toList
  | .claim t => (sc.claimOf t).toList
  | .resolve t => (sc.claimOf t).toList
  | .render t static => sc.claimsIn (t.returnPieces static)
  | .annotate a => sc.claimsIn a.phrase.pieces
  | .isLegal _ => []
  | .needsFullName _ => []
  | .sorted => []

theorem claimsIn_eq (ps : List Piece) : sc.claimsIn ps = (Piece.typeNames ps).filterMap sc.claimOf := by
  induction ps with
  | nil => rfl
  | cons p rest ih =>
    cases p with
    | typeName t =>
      have hclaims : sc.claimsIn (.typeName t :: rest) = (sc.claimOf t).toList ++ sc.claimsIn rest := rfl
      have hnames : Piece.typeNames (.typeName t :: rest) = t :: Piece.typeNames rest := rfl
      rw [hclaims, hnames, ih, List.filterMap_cons]
      cases sc.claimOf t <;> rfl
    | _ => exact ih

/-- Writing a reference claims what its open nodes claim, in order. -/
theorem claimsOf_render (t : TypeRef) (static : Bool) :
    sc.claimsOf (.render t static) = t.openNodes.filterMap sc.claimOf := by
  rw [claimsOf, claimsIn_eq, TypeRef.typeNames_returnPieces]

/-- Writing an annotation claims what its types claim, in order, if none of its values has a fault. -/
theorem claimsOf_annotate {a : Annotation} (h : a.phrase.fault = none) :
    sc.claimsOf (.annotate a) = a.types.filterMap sc.claimOf := by
  rw [claimsOf, claimsIn_eq, a.names_phrase.all h]

/-- The answer to a request, by the claims before it. -/
def answer (ledger : List Claim) : Imports.Step → Imports.Answer
  | .add t =>
    if (sc.importClaimOf t).any (Claim.isGranted ledger) then .done
    else .refused (.illegal t.name sc.home)
  | .claim t => .truth (t.kind = .declared && !sc.isShort ledger t)
  | .resolve t => .text (sc.written ledger t)
  | .render t static => .text (sc.spell ledger (t.returnPieces static))
  | .annotate a =>
    match a.phrase.fault with
    | none => .text (sc.spell ledger a.phrase.pieces)
    | some f => .unwritable f
  | .isLegal t => .truth ((sc.importClaimOf t).any (Claim.isGranted ledger))
  | .needsFullName t => .truth (t.kind = .declared && !sc.isShort ledger t)
  | .sorted => .types (TypeRef.sorted (Claim.imported ledger))

/-- The answers to requests in order, each by the claims before it. -/
def answers : List Claim → List Imports.Step → List Imports.Answer
  | _, [] => []
  | ledger, s :: rest => sc.answer ledger s :: answers (ledger ++ sc.claimsOf s) rest

end Scope

/-! ### What a type claims -/

namespace Scope

/-- Whether the type is in none of the packages that need no import, nor in the default package. -/
def IsForeign (sc : Scope) (t : TypeRef) : Prop :=
  t.kind = .declared ∧ sc.covers t = false ∧ t.isDefaultPackage = false

instance (sc : Scope) (t : TypeRef) : Decidable (sc.IsForeign t) :=
  inferInstanceAs (Decidable (t.kind = .declared ∧ sc.covers t = false ∧ t.isDefaultPackage = false))

variable {sc : Scope} {t : TypeRef} {c : Claim}

/-- A type in scope claims its local name, a type outside that can be imported its simple name, and no
other type claims anything. -/
theorem claimOf_eq_some_iff : sc.claimOf t = some c ↔
    (t.kind = .declared ∧ sc.covers t = true ∧ c = ⟨t.localName, t.ownerName, false⟩) ∨
      (sc.IsForeign t ∧ t.wildcard ≠ some .unbounded ∧ c = ⟨t.simpleName, t.name, true⟩) := by
  unfold claimOf IsForeign
  by_cases hk : t.kind = .declared
  · cases hcov : sc.covers t with
    | true =>
      simp only [hk, ne_eq, not_true_eq_false, if_false, if_true, Option.some_inj, true_and,
        Bool.true_eq_false, false_and, or_false]
      exact eq_comm
    | false =>
      by_cases hn : t.isDefaultPackage = true ∨ t.wildcard = some .unbounded
      · rcases hn with hn | hn <;> simp [hk, hn]
      · rw [not_or, Bool.not_eq_true] at hn
        simp only [hk, hn.1, hn.2, ne_eq, not_true_eq_false, if_false, Bool.false_eq_true, or_self,
          Option.some_inj, false_and, and_false, true_and, not_false_eq_true, false_or]
        exact eq_comm
  · simp [hk]

/-- What a type claims to be imported is its simple name. -/
theorem importClaimOf_eq_some_iff : sc.importClaimOf t = some c ↔
    sc.IsForeign t ∧ t.wildcard ≠ some .unbounded ∧ c = ⟨t.simpleName, t.name, true⟩ := by
  rw [importClaimOf, Option.filter_eq_some_iff, claimOf_eq_some_iff]
  constructor
  · rintro ⟨⟨-, -, rfl⟩ | h, hf⟩
    · cases hf
    · exact h
  · rintro ⟨h, hw, rfl⟩
    exact ⟨Or.inr ⟨h, hw, rfl⟩, rfl⟩

theorem IsForeign.claimOf (h : sc.IsForeign t) (hw : t.wildcard ≠ some .unbounded) :
    sc.claimOf t = some ⟨t.simpleName, t.name, true⟩ :=
  claimOf_eq_some_iff.mpr (Or.inr ⟨h, hw, rfl⟩)

theorem IsForeign.importClaimOf (h : sc.IsForeign t) (hw : t.wildcard ≠ some .unbounded) :
    sc.importClaimOf t = some ⟨t.simpleName, t.name, true⟩ :=
  importClaimOf_eq_some_iff.mpr ⟨h, hw, rfl⟩

/-- A claim made from outside the scope is for the type itself. -/
theorem eq_of_claimOf (hcov : sc.covers t = false) (hc : sc.claimOf t = some c) :
    c = ⟨t.simpleName, t.name, true⟩ := by
  rcases claimOf_eq_some_iff.mp hc with ⟨-, hcov', -⟩ | ⟨-, -, h⟩
  · rw [hcov] at hcov'
    cases hcov'
  · exact h

end Scope

/-! ### First owners -/

namespace Claim

theorem firstOwner_append (short : String) : ∀ a b : List Claim,
    firstOwner (a ++ b) short = (firstOwner a short).or (firstOwner b short)
  | [], _ => rfl
  | c :: rest, b => by
    rw [List.cons_append, firstOwner, firstOwner]
    by_cases h : c.short = short
    · rw [if_pos h, if_pos h, Option.some_or]
    · rw [if_neg h, if_neg h, firstOwner_append short rest b]

theorem firstOwner_singleton (c : Claim) (short : String) :
    firstOwner [c] short = if c.short = short then some c.owner else none := rfl

theorem exists_firstOwner_of_mem {ledger : List Claim} {c : Claim} (h : c ∈ ledger) :
    ∃ owner, firstOwner ledger c.short = some owner := by
  induction ledger with
  | nil => exact absurd h List.not_mem_nil
  | cons d rest ih =>
    rw [firstOwner]
    by_cases hd : d.short = c.short
    · exact ⟨d.owner, if_pos hd⟩
    · rw [if_neg hd]
      rcases List.mem_cons.mp h with rfl | h
      · exact absurd rfl hd
      · exact ih h

/-- A claim is granted if with it in the ledger the first claim on its name is for its owner. -/
theorem isGranted_iff {ledger : List Claim} {c : Claim} :
    isGranted ledger c = true ↔ firstOwner (ledger ++ [c]) c.short = some c.owner := by
  rw [isGranted, firstOwner_append, firstOwner_singleton, if_pos rfl]
  cases firstOwner ledger c.short with
  | none => simp
  | some owner => simp

/-- A claim is refused if the first claim on its name was for another owner. -/
theorem exists_of_not_isGranted {ledger : List Claim} {c : Claim} (h : ¬ isGranted ledger c = true) :
    ∃ owner, firstOwner ledger c.short = some owner ∧ owner ≠ c.owner := by
  rw [isGranted] at h
  cases ho : firstOwner ledger c.short with
  | none => simp [ho] at h
  | some owner => exact ⟨owner, rfl, fun e => by simp [ho, e] at h⟩

/-- Who has a name keeps it. -/
theorem firstOwner_append_of_some {ledger : List Claim} {short owner : String}
    (h : firstOwner ledger short = some owner) (more : List Claim) :
    firstOwner (ledger ++ more) short = some owner := by
  rw [firstOwner_append, h, Option.some_or]

/-! ### Imported names -/

theorem mem_importedNames {ledger : List Claim} {name : String} :
    name ∈ importedNames ledger ↔
      ∃ c ∈ ledger, c.foreign = true ∧ firstOwner ledger c.short = some c.owner ∧ c.owner = name := by
  simp only [importedNames, List.mem_eraseDups, List.mem_map, List.mem_filter, Bool.and_eq_true,
    decide_eq_true_eq, and_assoc]

theorem eraseDups_append_singleton (xs : List String) (x : String) :
    (xs ++ [x]).eraseDups = if x ∈ xs then xs.eraseDups else xs.eraseDups ++ [x] := by
  rw [List.eraseDups_append]
  by_cases h : x ∈ xs
  · rw [if_pos h]
    simp [List.removeAll, h]
  · rw [if_neg h]
    simp [List.removeAll, h, List.eraseDups_cons]

/-- A new claim adds its owner if it is granted and the owner is to be imported and is not yet. -/
theorem importedNames_append (ledger : List Claim) (c : Claim) :
    importedNames (ledger ++ [c]) =
      if c.foreign = true ∧ isGranted ledger c = true ∧ c.owner ∉ importedNames ledger then
        importedNames ledger ++ [c.owner]
      else importedNames ledger := by
  have hold : ledger.filter (fun d => d.foreign &&
        decide (firstOwner (ledger ++ [c]) d.short = some d.owner)) =
      ledger.filter fun d => d.foreign && decide (firstOwner ledger d.short = some d.owner) := by
    refine List.filter_congr fun d hd => ?_
    obtain ⟨owner, ho⟩ := exists_firstOwner_of_mem hd
    rw [ho, firstOwner_append_of_some ho]
  unfold importedNames
  rw [List.filter_append, hold, List.map_append]
  by_cases hc : c.foreign = true ∧ isGranted ledger c = true
  · obtain ⟨hf, hg⟩ := hc
    have hlast : [c].filter (fun d => d.foreign &&
        decide (firstOwner (ledger ++ [c]) d.short = some d.owner)) = [c] := by
      simp [hf, isGranted_iff.mp hg]
    rw [hlast, List.map_singleton, eraseDups_append_singleton]
    simp only [hf, hg, true_and, List.mem_eraseDups, ite_not]
  · have hlast : [c].filter (fun d => d.foreign &&
        decide (firstOwner (ledger ++ [c]) d.short = some d.owner)) = [] := by
      rw [List.filter_eq_nil_iff]
      intro d hd hfg
      rw [List.mem_singleton.mp hd, Bool.and_eq_true, decide_eq_true_eq, ← isGranted_iff] at hfg
      exact hc hfg
    rw [hlast, List.map_nil, List.append_nil, if_neg fun h => hc ⟨h.1, h.2.1⟩]

theorem mem_importedNames_append {ledger : List Claim} {c : Claim} {name : String} :
    name ∈ importedNames (ledger ++ [c]) ↔ name ∈ importedNames ledger ∨
      (c.foreign = true ∧ isGranted ledger c = true ∧ c.owner = name) := by
  rw [importedNames_append]
  by_cases h : c.foreign = true ∧ isGranted ledger c = true ∧ c.owner ∉ importedNames ledger
  · rw [if_pos h, List.mem_append, List.mem_singleton]
    exact or_congr_right ⟨fun he => ⟨h.1, h.2.1, he.symm⟩, fun he => he.2.2.symm⟩
  · rw [if_neg h, iff_self_or]
    rintro ⟨hf, hg, ho⟩
    by_cases hm : c.owner ∈ importedNames ledger
    · rwa [← ho]
    · exact absurd ⟨hf, hg, hm⟩ h

theorem nodup_eraseDups : ∀ xs : List String, xs.eraseDups.Nodup
  | [] => List.nodup_nil
  | x :: rest => by
    rw [List.eraseDups_cons, List.nodup_cons]
    exact ⟨by simp, nodup_eraseDups _⟩
  termination_by xs => xs.length
  decreasing_by exact Nat.lt_succ_of_le (List.length_filter_le _ rest)

theorem importedNames_nodup (ledger : List Claim) : (importedNames ledger).Nodup :=
  nodup_eraseDups _

/-! ### Consistent ledgers -/

/-- Whether all claims of the ledger on one name are for one owner. -/
def IsConsistent (ledger : List Claim) : Prop :=
  ∀ c ∈ ledger, firstOwner ledger c.short = some c.owner

theorem mem_of_firstOwner {ledger : List Claim} {short owner : String}
    (h : firstOwner ledger short = some owner) : ∃ c ∈ ledger, c.short = short ∧ c.owner = owner := by
  induction ledger with
  | nil => cases h
  | cons c rest ih =>
    rw [firstOwner] at h
    by_cases hc : c.short = short
    · rw [if_pos hc] at h
      injection h with h
      exact ⟨c, List.mem_cons_self, hc, h⟩
    · rw [if_neg hc] at h
      obtain ⟨d, hd, hs⟩ := ih h
      exact ⟨d, List.mem_cons_of_mem c hd, hs⟩

namespace IsConsistent

variable {ledger : List Claim}

/-- A claim is granted if no claim on its name is for another owner. -/
theorem isGranted_iff (h : IsConsistent ledger) (c : Claim) :
    isGranted ledger c = true ↔ ∀ d ∈ ledger, d.short = c.short → d.owner = c.owner := by
  constructor
  · intro hg d hd hs
    have ho := h d hd
    rw [isGranted, ← hs, ho] at hg
    exact of_decide_eq_true hg
  · intro hall
    rw [isGranted]
    cases ho : firstOwner ledger c.short with
    | none => rfl
    | some owner =>
      obtain ⟨d, hd, hs, rfl⟩ := mem_of_firstOwner ho
      exact decide_eq_true (hall d hd hs)

/-- A claim that is granted leaves the ledger consistent. -/
theorem append (h : IsConsistent ledger) {c : Claim} (hg : isGranted ledger c = true) :
    IsConsistent (ledger ++ [c]) := by
  intro d hd
  rcases List.mem_append.mp hd with hd | hd
  · exact firstOwner_append_of_some (h d hd) _
  · rw [List.mem_singleton.mp hd]
    exact Claim.isGranted_iff.mp hg

theorem mem_importedNames (h : IsConsistent ledger) {name : String} :
    name ∈ importedNames ledger ↔ ∃ c ∈ ledger, c.foreign = true ∧ c.owner = name := by
  rw [Claim.mem_importedNames]
  exact ⟨fun ⟨c, hc, hf, _, hn⟩ => ⟨c, hc, hf, hn⟩, fun ⟨c, hc, hf, hn⟩ => ⟨c, hc, hf, h c hc, hn⟩⟩

end IsConsistent

end Claim

end Intertype
