/-
# What the names in an aspect mean

Every type name in an aspect that is written without its package means the type that it was written
for, with two exceptions (`Introduction.unqualified_means_iff`). A name is written once and for all when it is
first needed: a type of a package in scope keeps its short name also where a type of the home package
is mentioned later that takes it, and then the other one is written in full wherever it stands. And a
type in the default package has no other name than the short one, within reach or not.

Key definitions: `Introduction.mentioned`, `Introduction.sourceUnit`, `Introduction.Occurs`,
`TypeRef.WithPackage`.
Key theorems: `Introduction.spelled_of_occurs`, `Introduction.relativeName_means_iff`,
`Introduction.unqualified_means_iff`.
-/
import Intertype.Proofs.Composition.Lookup
import Intertype.Proofs.Composition.OwnNames

namespace Intertype

/-- Whether the type is named with its package. -/
def TypeRef.WithPackage (t : TypeRef) (printed : String) : Prop :=
  t.packageName ≠ "" ∧ printed = t.name

instance (t : TypeRef) (printed : String) : Decidable (t.WithPackage printed) :=
  inferInstanceAs (Decidable (t.packageName ≠ "" ∧ printed = t.name))

namespace Introduction

open Imports

/-! ### The names in an aspect -/

/-- The types that an introduction mentions anywhere: those it is about, those asked for and those of
its parts, with their arguments. -/
def mentioned (i : Introduction) : List TypeRef :=
  ([i.target, i.aspect] ++ i.imports ++ i.references ++
    i.fieldAnnotations.flatMap (fun a => a.field.references) ++
    i.methodAnnotations.flatMap (fun a => a.method.references)).flatMap TypeRef.nodes

/-- The aspect as a source unit. -/
def sourceUnit (settings : Settings) (i : Introduction) : SourceUnit :=
  { i.scope settings with
    imports := (i.importedTypes settings Annotation.phrase).map (·.name)
    mentioned := i.mentioned }

/-- Whether the body of the aspect has the type somewhere by the given name: where its text names it,
where it picks a method by the return type, or as the target or the aspect, if these are not nested in
other types. -/
inductive Occurs (settings : Settings) (i : Introduction) : TypeRef → String → Prop
  | written {t : TypeRef} {s : String} (h : (Piece.typeName t, s) ∈ i.writing settings) :
      Occurs settings i t s
  | returned {t : TypeRef} {a : MethodAnnotation} (ha : a ∈ i.methodAnnotations)
      (h : Piece.typeName t ∈ a.method.returnType.pieces) : Occurs settings i t t.name
  | own {t : TypeRef} (ht : t ∈ [i.target, i.aspect]) (h : t.ownerName = t.name) :
      Occurs settings i t t.simpleName

variable {settings : Settings} {i : Introduction} {t v : TypeRef} {s short f : String}

theorem mem_mentioned_of_reference (ht : t ∈ i.references) (hv : v ∈ t.nodes) : v ∈ i.mentioned := by
  refine List.mem_flatMap.mpr ⟨t, ?_, hv⟩
  simp [ht]

theorem mem_mentioned_of_import (ht : t ∈ i.imports) : t ∈ i.mentioned := by
  refine List.mem_flatMap.mpr ⟨t, ?_, t.self_mem_nodes⟩
  simp [ht]

theorem mem_mentioned_of_own (ht : t ∈ [i.target, i.aspect]) : t ∈ i.mentioned := by
  refine List.mem_flatMap.mpr ⟨t, ?_, t.self_mem_nodes⟩
  rw [List.append_assoc, List.append_assoc, List.append_assoc]
  exact List.mem_append_left _ ht

theorem mem_mentioned_of_returned {a : MethodAnnotation} (ha : a ∈ i.methodAnnotations)
    (ht : Piece.typeName t ∈ a.method.returnType.pieces) : t ∈ i.mentioned := by
  refine List.mem_flatMap.mpr ⟨a.method.returnType, ?_, (TypeRef.mem_pieces ht).1⟩
  exact List.mem_append_right _ (List.mem_flatMap.mpr
    ⟨a, ha, List.mem_append_right _ List.mem_cons_self⟩)

/-- What is written names only types mentioned. -/
theorem chunks_mentioned (i : Introduction) :
    Chunk.NameOnly (· ∈ i.mentioned) (TypeRef.IsNamed (· ∈ i.mentioned))
      (i.chunks Annotation.phrase) := by
  refine chunks_nameOnly fun t ht => TypeRef.IsNamed.isAllowed ⟨?_, fun u hu => ?_⟩
  · exact mem_mentioned_of_reference ht t.self_mem_nodes
  · exact mem_mentioned_of_reference ht (TypeRef.mem_pieces hu).1

/-! ### The imports in the end -/

/-- The imports grow by types mentioned, from the start to the end. -/
theorem grows_mentioned (settings : Settings) (i : Introduction) : Grows (· ∈ i.mentioned)
    (.start i.aspect.packageName settings.implicitPackages [i.target, i.aspect])
    (i.finalImports settings Annotation.phrase) :=
  (grows_startImports _ fun _ => mem_mentioned_of_import).trans (grows_finalImports i.chunks_mentioned)

theorem inScope_finalImports (settings : Settings) (i : Introduction) (t : TypeRef) :
    (i.finalImports settings Annotation.phrase).inScope t = (i.sourceUnit settings).covers t := by
  have hstart : Grows (fun _ => True)
      { home := i.aspect.packageName, implicit := settings.implicitPackages }
      (.start i.aspect.packageName settings.implicitPackages [i.target, i.aspect]) := grows_start _ _ _
  rw [(grows_mentioned settings i).inScope, hstart.inScope]
  rfl

theorem isSound_finalImports (settings : Settings) (i : Introduction) :
    (i.finalImports settings Annotation.phrase).IsSound :=
  (grows_mentioned settings i).isSound (isSound_start _ _ _)

theorem mem_importedAs : f ∈ (i.sourceUnit settings).importedAs short ↔
    ∃ v ∈ (i.finalImports settings Annotation.phrase).registered, v.simpleName = short ∧ v.name = f := by
  rw [SourceUnit.mem_importedAs]
  constructor
  · rintro ⟨hf, hs⟩
    obtain ⟨v, hv, rfl⟩ := List.mem_map.mp hf
    exact ⟨v, mem_importedTypes.mp hv, hs, rfl⟩
  · rintro ⟨v, hv, hs, rfl⟩
    exact ⟨List.mem_map_of_mem (mem_importedTypes.mpr hv), hs⟩

section Derived

variable (hd : ∀ t ∈ i.mentioned, t.IsDerived)

include hd

/-- What is imported is a declared type whose package is derived. -/
theorem isDerived_of_mem_registered (hv : v ∈ (i.finalImports settings Annotation.phrase).registered) :
    v.kind = .declared ∧ v.package = none := by
  have hk := ((isSound_finalImports settings i).bare v hv).2
  refine ⟨hk, ?_⟩
  rcases (grows_mentioned settings i).of_mem_registered hv with hv | ⟨t, ht, rfl⟩
  · rw [registered_start] at hv
    exact absurd hv List.not_mem_nil
  · exact hd t ht hk

/-- A type that is imported is not in scope, nor in the default package. -/
theorem outside_of_isRegistered (ht : t ∈ i.mentioned) (hk : t.kind = .declared)
    (hr : (i.finalImports settings Annotation.phrase).isRegistered t.name = true) :
    t.packageName ≠ "" ∧ (i.sourceUnit settings).covers t = false := by
  obtain ⟨v, hv, hn⟩ := List.mem_map.mp (Imports.isRegistered_iff.mp hr)
  obtain ⟨hvk, hvd⟩ := isDerived_of_mem_registered hd hv
  obtain ⟨hp, hs⟩ := (isSound_finalImports settings i).outside v hv
  have hpackage : v.packageName = t.packageName := TypeRef.packageName_congr hk (hd t ht hk) hvk hvd hn
  rw [inScope_finalImports, Scope.covers, hpackage] at hs
  exact ⟨hpackage ▸ hp, hs⟩

/-- No import takes the local name of a type in scope once it stands for that type. -/
theorem importedAs_of_owner (ht : t ∈ i.mentioned) (hk : t.kind = .declared)
    (hc : t.packageName ≠ "" → (i.sourceUnit settings).covers t = true ∧
      (i.finalImports settings Annotation.phrase).owner t.localName = some t.ownerName)
    (hf : f ∈ (i.sourceUnit settings).importedAs t.localName) :
    t.packageName = "" ∧ f ≠ t.ownerName := by
  obtain ⟨v, hv, hs, rfl⟩ := mem_importedAs.mp hf
  obtain ⟨hvk, hvd⟩ := isDerived_of_mem_registered hd hv
  have hsound := isSound_finalImports settings i
  obtain ⟨hp, hscope⟩ := hsound.outside v hv
  have hvp : v.isDefaultPackage = false := by simpa [TypeRef.isDefaultPackage] using hp
  have hdefault : t.packageName = "" := by
    by_contra hne
    obtain ⟨hcovers, howner⟩ := hc hne
    rw [← hs, hsound.owner v hv] at howner
    have htp : t.isDefaultPackage = false := by simpa [TypeRef.isDefaultPackage] using hne
    have hpackage := TypeRef.packageName_of_owner hk (hd t ht hk) htp hvk hvd (Option.some.inj howner)
    rw [inScope_finalImports, Scope.covers, hpackage] at hscope
    rw [Scope.covers, hscope] at hcovers
    cases hcovers
  refine ⟨hdefault, fun he => TypeRef.simpleName_ne_name hvk hvd hvp ?_⟩
  rw [hs, he, TypeRef.ownerName_eq, hdefault, TypeRef.qualifiedName, if_pos rfl]

/-- **What a relative name means**, where it stands for its type in the imports or has no package. -/
theorem relativeName_means_iff (ht : t ∈ i.mentioned) (hk : t.kind = .declared)
    (hc : t.packageName ≠ "" → (i.sourceUnit settings).covers t = true ∧
      (i.finalImports settings Annotation.phrase).owner t.localName = some t.ownerName) :
    (i.sourceUnit settings).Means t.relativeName t.name ↔
      ¬ ((i.sourceUnit settings).Shadows t ∨ (i.sourceUnit settings).OutOfReach t) := by
  have hmeans := (i.sourceUnit settings).means_iff t.relativeName t.ownerName
  rw [TypeRef.ownerName_append hk (hd t ht hk)] at hmeans
  exact hmeans.trans (SourceUnit.standsFor_iff ht hk (fun hp => (hc hp).1)
    fun f hf => importedAs_of_owner hd ht hk hc hf)

end Derived

/-- The simple name of a type that is imported means it. -/
theorem simpleName_means (hr : (i.finalImports settings Annotation.phrase).isRegistered t.name = true) :
    (i.sourceUnit settings).Means t.simpleName t.name := by
  obtain ⟨v, hv, hn⟩ := List.mem_map.mp (Imports.isRegistered_iff.mp hr)
  have hvs : v.simpleName = t.simpleName := by rw [TypeRef.simpleName, hn]; rfl
  have hsegments := Dotted.segments_of_notMem t.dot_notMem_simpleName
  have hhead : Dotted.head t.simpleName.toList = t.simpleName.toList := by
    rw [Dotted.head, hsegments]
    rfl
  have hafter : Dotted.afterHead t.simpleName.toList = [] := by
    have happend := Dotted.head_append_afterHead t.simpleName.toList
    rw [hhead] at happend
    exact List.append_cancel_left (happend.trans (List.append_nil _).symm)
  have hmem : t.name ∈ (i.sourceUnit settings).importedAs t.simpleName :=
    mem_importedAs.mpr ⟨v, hv, hvs, hn⟩
  have hmeans := (i.sourceUnit settings).means_iff t.simpleName t.name
  rw [hafter, hhead, String.ofList_toList, String.ofList_nil, String.append_empty] at hmeans
  rw [hmeans, SourceUnit.StandsFor, SourceUnit.owners, if_pos (List.ne_nil_of_mem hmem)]
  refine ⟨List.ne_nil_of_mem hmem, fun f hf => ?_⟩
  obtain ⟨w, hw, hws, rfl⟩ := mem_importedAs.mp hf
  rw [← hn, (isSound_finalImports settings i).eq_of_simpleName_eq hw hv (hws.trans hvs.symm)]

/-! ### How an occurrence is spelled -/

/-- **A name in the body is the name in full, an imported simple name, or a relative name** whose first
segment stands for its type. -/
theorem spelled_of_occurs (hp : i.target.packageName = i.aspect.packageName)
    (h : i.Occurs settings t s) (hk : t.kind = .declared) : t ∈ i.mentioned ∧
      (s = t.name ∨
        ((i.finalImports settings Annotation.phrase).isRegistered t.name = true ∧ s = t.simpleName) ∨
        ((i.sourceUnit settings).covers t = true ∧
          (i.finalImports settings Annotation.phrase).owner t.localName = some t.ownerName ∧ s = t.relativeName)) := by
  cases h with
  | returned ha hm => exact ⟨mem_mentioned_of_returned ha hm, Or.inl rfl⟩
  | own ht hn =>
    have howner := (grows_mentioned settings i).owner_of_some (owner_start_of_mem hp _ _ ht)
    have hcovers : (i.sourceUnit settings).covers t = true := by
      rw [SourceUnit.covers_iff, packageName_of_mem hp ht, hp]
      exact Or.inl rfl
    refine ⟨mem_mentioned_of_own ht, Or.inr (Or.inr ⟨hcovers, howner, ?_⟩)⟩
    rw [TypeRef.relativeName_eq_localName hn, TypeRef.localName_eq_simpleName hn]
  | written hw =>
    obtain ⟨ht, hspells⟩ := Emission.spells_of_mem_written i.chunks_mentioned hw
    refine ⟨ht, ?_⟩
    rcases hspells with hs | ⟨mid, hbefore, rfl, hafter⟩
    · exact Or.inl hs
    have hresolved : (mid.resolve t).2.Grows (· ∈ i.mentioned) (i.finalImports settings Annotation.phrase) := hafter
    rcases mid.resolve_cases hk with hs | ⟨hr, hs⟩ | ⟨hc, ho, hs⟩
    · exact Or.inl hs
    · exact Or.inr (Or.inl ⟨hresolved.isRegistered hr, hs⟩)
    · refine Or.inr (Or.inr ⟨?_, hresolved.owner_of_some ho, hs⟩)
      rw [← inScope_finalImports, hresolved.inScope, (mid.grows_resolve ht).inScope]
      exact hc

/-- In scope, a name without its package is relative, and its first segment stands for its type. -/
theorem owner_of_occurs (hd : ∀ t ∈ i.mentioned, t.IsDerived)
    (hp : i.target.packageName = i.aspect.packageName) (h : i.Occurs settings t s)
    (hk : t.kind = .declared) (hs : ¬ t.WithPackage s) (ht : t.packageName ≠ "")
    (hc : (i.sourceUnit settings).covers t = true) :
    (i.finalImports settings Annotation.phrase).owner t.localName = some t.ownerName := by
  obtain ⟨hm, hfull | ⟨hr, -⟩ | ⟨-, ho, -⟩⟩ := spelled_of_occurs hp h hk
  · exact absurd ⟨ht, hfull⟩ hs
  · rw [(outside_of_isRegistered hd hm hk hr).2] at hc
    cases hc
  · exact ho

/-! ### Main result -/

/-- **What the names in an aspect mean.** A type name in the body that is written without its package
means the type it was written for, unless the type is in a package that is in scope without an import
and another type in scope with the same outermost name is mentioned, or the type is in the default
package and out of reach. Of the types in scope that have one outermost name, those of one outermost
type only are ever written without their package. -/
theorem unqualified_means_iff {c : Composition} (hd : ∀ t ∈ i.mentioned, t.IsDerived)
    (h : i.compose settings Annotation.phrase = .ok c) :
    let u := i.sourceUnit settings
    c.header = Composition.headerOf settings.newline i.aspect
      (i.importedTypes settings Annotation.phrase) ∧
    c.body = Piece.written (i.writing settings) ∧
    (∀ t s, i.Occurs settings t s → t.kind = .declared → ¬ t.WithPackage s →
      (u.Means s t.name ↔ ¬ (u.Shadows t ∨ u.OutOfReach t))) ∧
    ∀ t s t' s', i.Occurs settings t s → i.Occurs settings t' s' →
      t.kind = .declared → t'.kind = .declared → ¬ t.WithPackage s → ¬ t'.WithPackage s' →
      t.packageName ≠ "" → t'.packageName ≠ "" → u.covers t = true → u.covers t' = true →
      t.localName = t'.localName → t.ownerName = t'.ownerName := by
  intro u
  obtain ⟨e, hrun, -, hbody⟩ := compose_ok h
  have hp := samePackage_of_run hrun
  refine ⟨header_eq h, ?_, fun t s ho hk hs => ?_, ?_⟩
  · have htext := (i.begin settings).run_text (i.chunks Annotation.phrase)
    rw [hrun] at htext
    rw [hbody, htext, begin, String.empty_append]
    rfl
  · obtain ⟨ht, hfull | ⟨hr, rfl⟩ | ⟨hc, howner, rfl⟩⟩ := spelled_of_occurs hp ho hk
    · -- only a type in the default package is written in full without its package
      have hdefault : t.packageName = "" := by
        by_contra hne
        exact hs ⟨hne, hfull⟩
      rw [hfull]
      have hmeans : u.Means t.relativeName t.name ↔ ¬ (u.Shadows t ∨ u.OutOfReach t) :=
        relativeName_means_iff hd ht hk fun hne => absurd hdefault hne
      rwa [TypeRef.relativeName_of_default hdefault] at hmeans
    · obtain ⟨hpackage, hc⟩ := outside_of_isRegistered hd ht hk hr
      refine iff_of_true (simpleName_means hr) ?_
      rintro (⟨-, himplicit, -⟩ | ⟨hdefault, -⟩)
      · have hcovers := (i.sourceUnit settings).covers_iff.mpr (Or.inr himplicit)
        rw [hc] at hcovers
        cases hcovers
      · exact hpackage hdefault
    · exact relativeName_means_iff hd ht hk fun _ => ⟨hc, howner⟩
  · intro t s t' s' ho ho' hk hk' hs hs' ht ht' hc hc' hl
    have howner := owner_of_occurs hd hp ho hk hs ht hc
    have howner' := owner_of_occurs hd hp ho' hk' hs' ht' hc'
    rw [hl, howner'] at howner
    exact (Option.some.inj howner).symm

/-- A list has its short name, and so has the string of the language, though the other one takes it. -/
theorem unqualified_means_iff_strings :
    let i : Introduction :=
      { target := .declared "com.acme.Widget", aspect := .declared "com.acme.Widget_Aspect"
        fields := [{ name := "names", type :=
            ⟨"java.util.List", [.declared "java.lang.String"], 0, .declared, none, none⟩ },
          { name := "other", type := .declared "com.acme.String" }] }
    (∀ t ∈ i.mentioned, t.IsDerived) ∧
      (i.compose {} Annotation.phrase).toOption.map (·.body) = some
        ("aspect Widget_Aspect \x7b\n    \n    List<String> Widget.names;\n    \n" ++
          "    com.acme.String Widget.other;\n    \n\x7d\n") ∧
      (i.sourceUnit {}).Means "List" "java.util.List" ∧
      ¬ (i.sourceUnit {}).Means "String" "java.lang.String" := by
  intro i
  have hd : ∀ t ∈ i.mentioned, t.IsDerived := by decide +kernel
  have hbody : (i.compose {} Annotation.phrase).toOption.map (·.body) = some
      ("aspect Widget_Aspect \x7b\n    \n    List<String> Widget.names;\n    \n" ++
        "    com.acme.String Widget.other;\n    \n\x7d\n") := by
    decide +kernel
  obtain ⟨c, hc, -⟩ := Option.map_eq_some_iff.mp hbody
  obtain ⟨-, -, hmeans, -⟩ := unqualified_means_iff hd (ok_of_toOption hc)
  let list : TypeRef := ⟨"java.util.List", [.declared "java.lang.String"], 0, .declared, none, none⟩
  have hlist := hmeans list "List" (.written (by decide +kernel)) rfl (by decide +kernel)
  have hstring := hmeans (.declared "java.lang.String") "String" (.written (by decide +kernel)) rfl
    (by decide +kernel)
  exact ⟨hd, hbody, hlist.mpr (by decide +kernel), fun h => hstring.mp h (by decide +kernel)⟩

/-- A string of the language that is written first keeps its short name, which means another type by
then. -/
theorem short_name_taken :
    let i : Introduction :=
      { target := .declared "com.acme.Widget", aspect := .declared "com.acme.Widget_Aspect"
        fields := [{ name := "a", type := .declared "java.lang.String" },
          { name := "b", type := .declared "com.acme.String" }] }
    (i.source? {}).toOption = some (some ("package com.acme;\n\naspect Widget_Aspect \x7b\n    \n" ++
        "    String Widget.a;\n    \n    com.acme.String Widget.b;\n    \n\x7d\n")) ∧
      (∀ t ∈ i.mentioned, t.IsDerived) ∧
      i.Occurs {} (.declared "java.lang.String") "String" ∧
      ¬ (TypeRef.declared "java.lang.String").WithPackage "String" ∧
      ¬ (i.sourceUnit {}).Means "String" "java.lang.String" := by
  intro i
  have hoccurs : i.Occurs {} (.declared "java.lang.String") "String" := .written (by decide +kernel)
  exact ⟨by decide +kernel, by decide +kernel, hoccurs, by decide +kernel, by decide +kernel⟩

end Introduction
end Intertype
