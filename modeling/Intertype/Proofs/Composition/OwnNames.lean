/-
# The names that an aspect has for its target and for itself

Throughout an aspect its target is called by its simple name, and the aspect is declared by its own.
What is kept free of imports are the local names of the two, those of the outermost types around them
(`Introduction.importedTypes_respect`). For a type that is not nested the two names are one, so no
header imports another type of that name; for a nested type they differ, and some aspect has an import
of a type with the name by which the nested one is called.

Key definitions: `Introduction.finalImports`, `Introduction.importedTypes`, `Introduction.KeepsOwnNames`.
Key theorems: `Introduction.importedTypes_respect`, `Introduction.exists_captured`,
`Introduction.ownNames_kept_iff`.
-/
import Intertype.Proofs.Composition.Offences
import Intertype.Proofs.Composition.Header
import Intertype.Proofs.Emission.Growth
import Mathlib.Data.Fintype.EquivFin

namespace Intertype

namespace Introduction

open Imports

variable {settings : Settings} {form : Annotation.Form} {i : Introduction} {target aspect : TypeRef}

/-! ### The types that the header imports -/

/-- The imports when the aspect is written. -/
def finalImports (settings : Settings) (form : Annotation.Form) (i : Introduction) : Imports :=
  ((i.begin settings).run (i.chunks form)).2.imports

/-- The types that the header of the aspect imports, in order. -/
def importedTypes (settings : Settings) (form : Annotation.Form) (i : Introduction) : List TypeRef :=
  (i.finalImports settings form).sorted

theorem header_eq {c : Composition} (h : i.compose settings form = .ok c) :
    c.header = Composition.headerOf settings.newline i.aspect (i.importedTypes settings form) := by
  obtain ⟨e, hrun, hheader, -⟩ := compose_ok h
  rw [hheader, importedTypes, finalImports, hrun]

theorem mem_importedTypes {t : TypeRef} : t ∈ i.importedTypes settings form ↔
    t ∈ (i.finalImports settings form).registered :=
  (TypeRef.sorted_perm _).mem_iff

/-- Before anything is written the imports grow by types that are asked for. -/
theorem grows_startImports {allowed : TypeRef → Prop} (implicitPackages : List String)
    (h : ∀ t ∈ i.imports, allowed t) :
    Grows allowed (.start i.aspect.packageName implicitPackages [i.target, i.aspect])
      (i.startImports implicitPackages) := by
  have hfold : ∀ (ts : List TypeRef) (im : Imports), (∀ t ∈ ts, allowed t) →
      im.Grows allowed (ts.foldl Imports.preregister im) := by
    intro ts
    induction ts with
    | nil => exact fun _ _ => .refl
    | cons t rest ih =>
      intro im ht
      have hfirst : im.Grows allowed (im.preregister t) := by
        unfold Imports.preregister
        split
        · rename_i hl
          exact .register hl (ht t List.mem_cons_self) .refl
        · exact .refl
      exact hfirst.trans (ih _ fun u hu => ht u (List.mem_cons_of_mem t hu))
  exact hfold i.imports _ h

/-- While the aspect is written the imports grow by types that its text names. -/
theorem grows_finalImports {allowed : TypeRef → Prop}
    (h : Chunk.NameOnly allowed (TypeRef.IsNamed allowed) (i.chunks form)) :
    Grows allowed (i.startImports settings.implicitPackages) (i.finalImports settings form) := by
  rw [finalImports]
  exact (i.begin settings).grows_run h

/-! ### What is reserved -/

theorem packageName_of_mem (hp : target.packageName = aspect.packageName) {r : TypeRef}
    (hr : r ∈ [target, aspect]) : r.packageName = target.packageName := by
  rcases List.mem_cons.mp hr with rfl | hr
  · rfl
  · rw [List.mem_singleton.mp hr, hp]

/-- At the start a short name is free, or it stands for what the package of the two types has under
it. -/
theorem isFreeFor_start (hp : target.packageName = aspect.packageName) (home : String)
    (implicit : List String) (short : String) :
    (Imports.start home implicit [target, aspect]).isFreeFor short
      (TypeRef.qualifiedName target.packageName short) = true := by
  rw [isFreeFor_iff]
  intro o ho
  rw [owner_start] at ho
  obtain ⟨r, hr, rfl⟩ := Option.map_eq_some_iff.mp ho
  have hshort : r.localName = short := by simpa using List.find?_some hr
  rw [TypeRef.ownerName_eq, packageName_of_mem hp (List.mem_of_find?_eq_some hr), hshort]

/-- At the start the local names of the target and the aspect stand for their outermost types. -/
theorem owner_start_of_mem (hp : target.packageName = aspect.packageName) (home : String)
    (implicit : List String) {r : TypeRef} (hr : r ∈ [target, aspect]) :
    (Imports.start home implicit [target, aspect]).owner r.localName = some r.ownerName := by
  have hfree := isFreeFor_iff.mp (isFreeFor_start hp home implicit r.localName)
  have hsome : ((Imports.start home implicit [target, aspect]).owner r.localName).isSome = true := by
    rw [owner_start, Option.isSome_map, List.find?_isSome]
    exact ⟨r, hr, decide_eq_true rfl⟩
  obtain ⟨o, ho⟩ := Option.isSome_iff_exists.mp hsome
  rw [ho, hfree o ho, TypeRef.ownerName_eq, packageName_of_mem hp hr]

/-- **No import takes the local name of the target or of the aspect**, whatever is imported or
written, unless it is of their outermost type. -/
theorem importedTypes_respect (hp : i.target.packageName = i.aspect.packageName) {t r : TypeRef}
    (ht : t ∈ i.importedTypes settings form) (hr : r ∈ [i.target, i.aspect])
    (hs : t.simpleName = r.localName) : t.name = r.ownerName := by
  have hstart : Grows (fun _ => True)
      (.start i.aspect.packageName settings.implicitPackages [i.target, i.aspect])
      (i.finalImports settings form) :=
    (grows_startImports _ fun _ _ => trivial).trans (grows_finalImports (Chunk.nameOnly_all _))
  have howner := hstart.owner_of_some (owner_start_of_mem hp _ _ hr)
  have hsound := hstart.isSound (isSound_start _ _ _)
  rw [← hs, hsound.owner t (mem_importedTypes.mp ht)] at howner
  exact Option.some.inj howner

/-! ### What is captured -/

/-- Whether no import takes the name by which the aspect calls its target or itself. -/
def KeepsOwnNames (settings : Settings) (form : Annotation.Form) (i : Introduction) : Prop :=
  ∀ t ∈ i.importedTypes settings form, ∀ r ∈ [i.target, i.aspect],
    t.simpleName = r.simpleName → t.name = r.name

/-- Where the only import asked for is legal, the header has it. -/
theorem mem_importedTypes_of_isLegal {t : TypeRef} (hi : i.imports = [t])
    (ht : (Imports.start i.aspect.packageName settings.implicitPackages
      [i.target, i.aspect]).isLegal t = true) : t.raw ∈ i.importedTypes settings form := by
  have hnew : (Imports.start i.aspect.packageName settings.implicitPackages
      [i.target, i.aspect]).isRegistered t.name = false := by
    rw [isRegistered, registered_start]
    rfl
  have hregistered : t.raw ∈ (i.startImports settings.implicitPackages).registered := by
    rw [startImports, hi, List.foldl_cons, List.foldl_nil, Imports.preregister, if_pos ht]
    exact raw_mem_register hnew
  have hgrows : Grows (fun _ => True) (i.startImports settings.implicitPackages)
      (i.finalImports settings form) := grows_finalImports (Chunk.nameOnly_all _)
  exact mem_importedTypes.mpr (hgrows.registered_kept.subset hregistered)

/-- **The name of a nested type can be captured**: by an import of what its package has under that
name, given for a type of yet another package. -/
theorem exists_captured (hp : target.packageName = aspect.packageName) (settings : Settings)
    {r : TypeRef} (hr : r ∈ [target, aspect]) (hne : r.ownerName ≠ r.name) :
    ∃ (i : Introduction) (c : Composition), i.target = target ∧ i.aspect = aspect ∧
      i.compose settings Annotation.phrase = .ok c ∧ ¬ i.KeepsOwnNames settings Annotation.phrase := by
  obtain ⟨package, hfresh⟩ := Infinite.exists_notMem_finset
    ("" :: aspect.packageName :: settings.implicitPackages).toFinset
  rw [List.mem_toFinset, List.mem_cons, List.mem_cons, not_or, not_or] at hfresh
  obtain ⟨hpackage, hhome, himplicit⟩ := hfresh
  let name := TypeRef.qualifiedName target.packageName r.simpleName
  let t : TypeRef := ⟨name, [], 0, .declared, none, some package⟩
  let i : Introduction := { target, aspect, imports := [t] }
  have hsimple : t.simpleName = r.simpleName :=
    TypeRef.simpleName_of_name_eq r.dot_notMem_simpleName rfl
  have hlegal : (Imports.start aspect.packageName settings.implicitPackages
      [target, aspect]).isLegal t = true := by
    have hgrows : Grows (fun _ => True) { home := aspect.packageName, implicit := settings.implicitPackages }
        (.start aspect.packageName settings.implicitPackages [target, aspect]) := grows_start _ _ _
    rw [isLegal_eq_true_iff, hgrows.inScope, hsimple]
    refine ⟨rfl, nofun, hpackage, ?_, isFreeFor_start hp _ _ _⟩
    exact Bool.or_eq_false_iff.mpr ⟨decide_eq_false hhome, decide_eq_false himplicit⟩
  obtain ⟨c, hc⟩ : ∃ c, i.compose settings Annotation.phrase = .ok c := by
    rw [exists_compose_iff, offences_eq_nil]
    exact ⟨hp, nofun, nofun, nofun⟩
  refine ⟨i, c, rfl, rfl, hc, fun hkeeps => hne ?_⟩
  have hname : name = r.name := hkeeps t.raw (mem_importedTypes_of_isLegal rfl hlegal) r hr hsimple
  refine TypeRef.ownerName_of_name_eq r.dot_notMem_simpleName ?_
  rw [packageName_of_mem hp hr]
  exact hname.symm

/-! ### Main result -/

/-- **The target and the aspect keep their names exactly if neither is nested.** No header of theirs
has an import that takes the local name of one, except of its outermost type; and the names by which
the two are called are safe from every import that could be asked for or come from a member, exactly if
both are the outermost types themselves. -/
theorem ownNames_kept_iff (hp : target.packageName = aspect.packageName) (settings : Settings) :
    (∀ (form : Annotation.Form) (i : Introduction) (c : Composition), i.target = target →
      i.aspect = aspect → i.compose settings form = .ok c →
      c.header = Composition.headerOf settings.newline aspect (i.importedTypes settings form) ∧
      ∀ t ∈ i.importedTypes settings form, ∀ r ∈ [target, aspect],
        t.simpleName = r.localName → t.name = r.ownerName) ∧
    ((∀ (form : Annotation.Form) (i : Introduction) (c : Composition), i.target = target →
      i.aspect = aspect → i.compose settings form = .ok c → i.KeepsOwnNames settings form) ↔
        target.ownerName = target.name ∧ aspect.ownerName = aspect.name) := by
  refine ⟨fun form i c ht ha hc => ?_, fun hsafe => ?_, fun ⟨htarget, haspect⟩ form i c ht ha hc => ?_⟩
  · subst ht ha
    exact ⟨header_eq hc, fun t ht r hr => importedTypes_respect hp ht hr⟩
  · have hall : ∀ r ∈ [target, aspect], r.ownerName = r.name := by
      intro r hr
      by_contra hne
      obtain ⟨i, c, ht, ha, hc, hcaptured⟩ := exists_captured hp settings hr hne
      exact hcaptured (hsafe _ i c ht ha hc)
    exact ⟨hall target List.mem_cons_self, hall aspect (List.mem_cons_of_mem _ List.mem_cons_self)⟩
  · subst ht ha
    intro t ht r hr hs
    have hr' : r.ownerName = r.name := by
      rcases List.mem_cons.mp hr with rfl | hr
      · exact htarget
      · rw [List.mem_singleton.mp hr, haspect]
    rw [← TypeRef.localName_eq_simpleName hr'] at hs
    rw [importedTypes_respect hp ht hr hs, hr']

/-- A target that is nested in another type can lose its name. -/
theorem ownNames_kept_iff_nested :
    let target : TypeRef := .declared "com.acme.Outer.Inner"
    let aspect : TypeRef := .declared "com.acme.Inner_Roo"
    target.packageName = aspect.packageName ∧
      ¬ ∀ (form : Annotation.Form) (i : Introduction) (c : Composition), i.target = target →
        i.aspect = aspect → i.compose {} form = .ok c → i.KeepsOwnNames {} form := by
  intro target aspect
  have hp : target.packageName = aspect.packageName := by decide +kernel
  refine ⟨hp, fun hsafe => ?_⟩
  have hnested := ((ownNames_kept_iff hp {}).2.mp hsafe).1
  exact absurd hnested (by decide +kernel)

/-- The type of a field takes the name of the nested target. -/
theorem nested_target_captured :
    let i : Introduction :=
      { target := .declared "com.acme.Outer.Inner", aspect := .declared "com.acme.Inner_Roo"
        fields := [{ name := "other", type := .declared "org.other.Inner" }] }
    (i.source? {}).toOption = some (some ("package com.acme;\n\nimport org.other.Inner;\n\n" ++
      "aspect Inner_Roo \x7b\n    \n    Inner Inner.other;\n    \n\x7d\n")) ∧
      ¬ i.KeepsOwnNames {} Annotation.phrase := by
  intro i
  refine ⟨by decide +kernel, fun hkeeps => ?_⟩
  have himported : TypeRef.declared "org.other.Inner" ∈ i.importedTypes {} Annotation.phrase := by
    decide +kernel
  have hname := hkeeps _ himported i.target List.mem_cons_self (by decide +kernel)
  exact absurd hname (by decide +kernel)

end Introduction
end Intertype
