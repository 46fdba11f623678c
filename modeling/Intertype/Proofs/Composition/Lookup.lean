/-
# What a name means in a source unit

In Java the first segment of a type's name is looked up among the imports, then in the package of the
unit, and then in the packages that are in scope without an import (`SourceUnit.owners`); the other
segments follow in the type found. A package declares what the unit shows that it declares, that is
the types mentioned, so that a name may have several meanings or none: it means a type if it has that
meaning and no other (`SourceUnit.Means`).

A name that is relative to its package means its type unless another type in scope takes the first
segment (`SourceUnit.Shadows`), or unless the type is in the default package and out of reach
(`SourceUnit.OutOfReach`).

Key definitions: `SourceUnit`, `SourceUnit.owners`, `SourceUnit.Means`, `SourceUnit.Shadows`,
`SourceUnit.OutOfReach`.
Key theorems: `SourceUnit.means_iff`, `SourceUnit.standsFor_iff`.
-/
import Intertype.Proofs.Imports.Ledger
import Intertype.Proofs.TypeRef.Names

namespace Intertype

/-- What a source unit says about the names in it: the packages in scope, the types imported, by their
names, and the types that it mentions anywhere. -/
structure SourceUnit extends Scope where
  imports : List String
  mentioned : List TypeRef

namespace SourceUnit

/-! ### Lookup -/

/-- The imports whose simple name is the given one. -/
def importedAs (u : SourceUnit) (short : String) : List String :=
  u.imports.filter fun f => (TypeRef.declared f).simpleName = short

/-- The outermost types of that name that some packages declare. -/
def declaredAs (u : SourceUnit) (package : String → Bool) (short : String) : List String :=
  (u.mentioned.filter fun t => t.kind = .declared ∧ package t.packageName = true ∧
    t.localName = short).map TypeRef.ownerName

/-- What a name without dots stands for: an import, or else a type of the home package, or else a type
of a package that is in scope without an import. -/
def owners (u : SourceUnit) (short : String) : List String :=
  if u.importedAs short ≠ [] then u.importedAs short
  else if u.declaredAs (· = u.home) short ≠ [] then u.declaredAs (· = u.home) short
  else u.declaredAs (· ∈ u.implicit) short

/-- What a name may mean: its first segment is looked up, and the others follow. -/
def meanings (u : SourceUnit) (printed : String) : List String :=
  (u.owners (String.ofList (Dotted.head printed.toList))).map
    (· ++ String.ofList (Dotted.afterHead printed.toList))

/-- Whether the name means the type with the given name in full, and nothing else. -/
def Means (u : SourceUnit) (printed full : String) : Prop :=
  u.meanings printed ≠ [] ∧ ∀ m ∈ u.meanings printed, m = full

instance (u : SourceUnit) (printed full : String) : Decidable (u.Means printed full) :=
  inferInstanceAs (Decidable (u.meanings printed ≠ [] ∧ ∀ m ∈ u.meanings printed, m = full))

/-- Whether the name without dots stands for the outermost type of that name in full, and for nothing
else. -/
def StandsFor (u : SourceUnit) (short owner : String) : Prop :=
  u.owners short ≠ [] ∧ ∀ o ∈ u.owners short, o = owner

/-- Whether the type is in scope without an import, and another type in scope is mentioned whose
outermost name is the same. -/
def Shadows (u : SourceUnit) (t : TypeRef) : Prop :=
  t.packageName ≠ u.home ∧ t.packageName ∈ u.implicit ∧
    ∃ v ∈ u.mentioned, v.kind = .declared ∧ u.covers v = true ∧ v.localName = t.localName ∧
      v.ownerName ≠ t.ownerName

/-- Whether the type is in the default package, and that is not in scope or an import takes the
outermost name. -/
def OutOfReach (u : SourceUnit) (t : TypeRef) : Prop :=
  t.packageName = "" ∧ (u.covers t = false ∨ u.importedAs t.localName ≠ [])

instance (u : SourceUnit) (t : TypeRef) : Decidable (u.Shadows t) :=
  inferInstanceAs (Decidable (t.packageName ≠ u.home ∧ t.packageName ∈ u.implicit ∧
    ∃ v ∈ u.mentioned, v.kind = .declared ∧ u.covers v = true ∧ v.localName = t.localName ∧
      v.ownerName ≠ t.ownerName))

instance (u : SourceUnit) (t : TypeRef) : Decidable (u.OutOfReach t) :=
  inferInstanceAs (Decidable (t.packageName = "" ∧
    (u.covers t = false ∨ u.importedAs t.localName ≠ [])))

variable {u : SourceUnit} {t v : TypeRef} {short owner : String}

/-! ### Names without dots -/

/-- A name means a type if its first segment stands for the outermost one around it. -/
theorem means_iff (u : SourceUnit) (printed owner : String) :
    u.Means printed (owner ++ String.ofList (Dotted.afterHead printed.toList)) ↔
      u.StandsFor (String.ofList (Dotted.head printed.toList)) owner := by
  unfold Means StandsFor meanings
  rw [List.forall_mem_map, ne_eq, List.map_eq_nil_iff]
  refine and_congr_right fun _ => forall_congr' fun o => forall_congr' fun _ => ?_
  constructor
  · intro h
    rw [← String.toList_inj, String.toList_append, String.toList_append] at h
    exact String.toList_inj.mp (List.append_cancel_right h)
  · rintro rfl
    rfl

theorem mem_importedAs {f : String} :
    f ∈ u.importedAs short ↔ f ∈ u.imports ∧ (TypeRef.declared f).simpleName = short := by
  rw [importedAs, List.mem_filter, decide_eq_true_iff]

theorem mem_declaredAs {package : String → Bool} {o : String} : o ∈ u.declaredAs package short ↔
    ∃ v ∈ u.mentioned, v.kind = .declared ∧ package v.packageName = true ∧ v.localName = short ∧
      v.ownerName = o := by
  simp only [declaredAs, List.mem_map, List.mem_filter, decide_eq_true_iff, and_assoc]

theorem covers_iff : u.covers t = true ↔ t.packageName = u.home ∨ t.packageName ∈ u.implicit := by
  simp [Scope.covers]

/-- What is not imported is declared in a package in scope. -/
theorem exists_of_mem_owners (hi : u.importedAs short = []) {o : String} (ho : o ∈ u.owners short) :
    ∃ v ∈ u.mentioned, v.kind = .declared ∧ u.covers v = true ∧ v.localName = short ∧
      v.ownerName = o := by
  rw [owners, if_neg (not_not_intro hi)] at ho
  have hcovers : ∀ {package : String → Bool}, (∀ p, package p = true → p = u.home ∨ p ∈ u.implicit) →
      o ∈ u.declaredAs package short → ∃ v ∈ u.mentioned, v.kind = .declared ∧ u.covers v = true ∧
        v.localName = short ∧ v.ownerName = o := by
    intro package hpackage hmem
    obtain ⟨v, hv, hk, hp, hl, ho⟩ := mem_declaredAs.mp hmem
    exact ⟨v, hv, hk, covers_iff.mpr (hpackage _ hp), hl, ho⟩
  split at ho
  · exact hcovers (fun p hp => Or.inl (of_decide_eq_true hp)) ho
  · exact hcovers (fun p hp => Or.inr (of_decide_eq_true hp)) ho

/-- What two types have for their outermost type tells their packages. -/
theorem packageName_eq_of_ownerName_eq (hl : v.localName = t.localName)
    (ho : v.ownerName = t.ownerName) : v.packageName = t.packageName := by
  rw [TypeRef.ownerName_eq, TypeRef.ownerName_eq, hl] at ho
  exact TypeRef.qualifiedName_left_inj ho

/-- In the home package a local name belongs to one type. -/
theorem ownerName_eq_of_home (hv : v.packageName = t.packageName) (hl : v.localName = t.localName) :
    v.ownerName = t.ownerName := by
  rw [TypeRef.ownerName_eq, TypeRef.ownerName_eq, hv, hl]

/-- Nothing is looked up before the home package, where a local name is its type's own. -/
theorem standsFor_of_home (ht : t ∈ u.mentioned) (hk : t.kind = .declared)
    (hp : t.packageName = u.home) (hi : u.importedAs t.localName = []) :
    u.StandsFor t.localName t.ownerName := by
  have hmem : t.ownerName ∈ u.declaredAs (· = u.home) t.localName :=
    mem_declaredAs.mpr ⟨t, ht, hk, decide_eq_true hp, rfl, rfl⟩
  have howners : u.owners t.localName = u.declaredAs (· = u.home) t.localName := by
    rw [owners, if_neg (not_not_intro hi), if_pos (List.ne_nil_of_mem hmem)]
  rw [StandsFor, howners]
  refine ⟨List.ne_nil_of_mem hmem, fun o ho => ?_⟩
  obtain ⟨v, -, -, hv, hl, rfl⟩ := mem_declaredAs.mp ho
  exact ownerName_eq_of_home ((of_decide_eq_true hv).trans hp.symm) hl

/-- A local name of a package that is in scope without an import is looked up after the home package,
and together with that of other such packages. -/
theorem standsFor_iff_of_implicit (ht : t ∈ u.mentioned) (hk : t.kind = .declared)
    (hhome : t.packageName ≠ u.home) (himplicit : t.packageName ∈ u.implicit)
    (hi : u.importedAs t.localName = []) :
    u.StandsFor t.localName t.ownerName ↔ ¬ u.Shadows t := by
  have hself : t.ownerName ∈ u.declaredAs (· ∈ u.implicit) t.localName :=
    mem_declaredAs.mpr ⟨t, ht, hk, decide_eq_true himplicit, rfl, rfl⟩
  rw [StandsFor, owners, if_neg (not_not_intro hi)]
  constructor
  · rintro ⟨-, hall⟩ ⟨-, -, v, hv, hvk, hvc, hl, hne⟩
    rcases covers_iff.mp hvc with hvp | hvp
    · have hown : v.ownerName ∈ u.declaredAs (· = u.home) t.localName :=
        mem_declaredAs.mpr ⟨v, hv, hvk, decide_eq_true hvp, hl, rfl⟩
      rw [if_pos (List.ne_nil_of_mem hown)] at hall
      exact hne (hall _ hown)
    · by_cases hown : u.declaredAs (· = u.home) t.localName = []
      · rw [if_neg (not_not_intro hown)] at hall
        exact hne (hall _ (mem_declaredAs.mpr ⟨v, hv, hvk, decide_eq_true hvp, hl, rfl⟩))
      · rw [if_pos hown] at hall
        obtain ⟨o, ho⟩ := List.exists_mem_of_ne_nil _ hown
        obtain ⟨w, -, -, hwp, hwl, rfl⟩ := mem_declaredAs.mp ho
        exact hhome ((packageName_eq_of_ownerName_eq hwl (hall _ ho)).symm.trans (of_decide_eq_true hwp))
  · intro hs
    have hsame : ∀ v ∈ u.mentioned, v.kind = .declared → u.covers v = true →
        v.localName = t.localName → v.ownerName = t.ownerName := fun v hv hvk hvc hl =>
      Decidable.byContradiction fun hne => hs ⟨hhome, himplicit, v, hv, hvk, hvc, hl, hne⟩
    have hown : u.declaredAs (· = u.home) t.localName = [] := by
      refine List.eq_nil_iff_forall_not_mem.mpr fun o ho => ?_
      obtain ⟨v, hv, hvk, hvp, hl, -⟩ := mem_declaredAs.mp ho
      have hsame := hsame v hv hvk (covers_iff.mpr (Or.inl (of_decide_eq_true hvp))) hl
      exact hhome ((packageName_eq_of_ownerName_eq hl hsame).symm.trans (of_decide_eq_true hvp))
    rw [if_neg (not_not_intro hown)]
    refine ⟨List.ne_nil_of_mem hself, fun o ho => ?_⟩
    obtain ⟨v, hv, hvk, hvp, hl, rfl⟩ := mem_declaredAs.mp ho
    exact hsame v hv hvk (covers_iff.mpr (Or.inr (of_decide_eq_true hvp))) hl

/-- **The local name of a type in scope stands for it** if no import takes the name, unless another
type in scope does. -/
theorem standsFor_iff_of_covers (ht : t ∈ u.mentioned) (hk : t.kind = .declared)
    (hc : u.covers t = true) (hi : u.importedAs t.localName = []) :
    u.StandsFor t.localName t.ownerName ↔ ¬ u.Shadows t := by
  by_cases hhome : t.packageName = u.home
  · exact iff_of_true (standsFor_of_home ht hk hhome hi) fun hs => hs.1 hhome
  · exact standsFor_iff_of_implicit ht hk hhome ((covers_iff.mp hc).resolve_left hhome) hi

/-- **When a local name stands for its type**: always, unless another type in scope takes it or it is
out of reach, provided that an import takes it only from a type of the default package and that the
packages of other types are in scope. -/
theorem standsFor_iff (ht : t ∈ u.mentioned) (hk : t.kind = .declared)
    (hc : t.packageName ≠ "" → u.covers t = true)
    (hi : ∀ f ∈ u.importedAs t.localName, t.packageName = "" ∧ f ≠ t.ownerName) :
    u.StandsFor t.localName t.ownerName ↔ ¬ (u.Shadows t ∨ u.OutOfReach t) := by
  by_cases himported : u.importedAs t.localName = []
  · by_cases hcovers : u.covers t = true
    · have hreach : ¬ u.OutOfReach t := by simp [OutOfReach, hcovers, himported]
      rw [standsFor_iff_of_covers ht hk hcovers himported, or_iff_left hreach]
    · have hdefault : t.packageName = "" := Decidable.byContradiction fun hne => hcovers (hc hne)
      have hreach : u.OutOfReach t := ⟨hdefault, Or.inl (Bool.eq_false_iff.mpr hcovers)⟩
      refine iff_of_false (fun ⟨hne, hall⟩ => ?_) (not_not_intro (Or.inr hreach))
      obtain ⟨o, ho⟩ := List.exists_mem_of_ne_nil _ hne
      obtain ⟨v, -, -, hvc, hl, rfl⟩ := exists_of_mem_owners himported ho
      have hpackage := packageName_eq_of_ownerName_eq hl (hall _ ho)
      rw [Scope.covers, hpackage] at hvc
      exact hcovers hvc
  · obtain ⟨f, hf⟩ := List.exists_mem_of_ne_nil _ himported
    obtain ⟨hdefault, hne⟩ := hi f hf
    refine iff_of_false (fun h => hne (h.2 f ?_)) (not_not_intro (Or.inr ⟨hdefault, Or.inr himported⟩))
    rwa [owners, if_pos himported]

end SourceUnit
end Intertype
