/-
# When composition fails

An aspect cannot be composed if it is in another package than its target, if a new constructor or
method has more parameter names than types or fewer, or if an annotation that is written has, at any
depth, a double without a finite value or no value at all. `Introduction.offences` lists what is wrong
in the order of emission, and composition fails with the first of it, and for no other reason
(`Introduction.compose_error_iff`).

The other checks on the way never fail. The depth is followed through all sections, so that no dedent
and no conclusion is refused, and a type is registered only where that is legal
(`Imports.claimChecked_eq`, `Imports.preregisterChecked_eq`).

Key definitions: `Introduction.offences`, `Introduction.annotationsWritten`, `Imports.preregisterChecked`.
Key theorems: `Introduction.chunks_fail`, `Introduction.compose_succeeds_iff`.
-/
import Intertype.Composition
import Intertype.Proofs.Annotation.Parts
import Intertype.Proofs.Emission.Faults
import Intertype.Proofs.Imports.Claiming

namespace Intertype

/-! ### Offences -/

namespace Annotation

/-- What is wrong with an annotation, in reading order. -/
def offences (a : Annotation) : List Emission.Fault :=
  a.faults.map .unwritable

/-- Nothing is wrong with an annotation exactly if its values all have source text. -/
theorem offences_eq_nil (a : Annotation) : a.offences = [] ↔
    ∀ v ∈ a.parts, (∀ x, v = .double x → x.isFinite = true) ∧ ∀ shown, v ≠ .unsupported shown := by
  rw [offences, List.map_eq_nil_iff, faults, List.filterMap_eq_nil_iff]
  refine forall_congr' fun v => forall_congr' fun _ => ?_
  cases v with
  | double x =>
    rw [Value.ownFault]
    by_cases hx : x.isFinite = true <;> simp [hx]
  | unsupported shown => simp [Value.ownFault]
  | _ => simp [Value.ownFault]

end Annotation

/-- The annotations on a constructor or method and on its parameters. -/
def Callable.annotationsWritten (c : Callable) : List Annotation :=
  c.annotations ++ c.parameterTypes.flatMap (·.annotations)

/-- What is wrong with a constructor or method: the numbers of its parameters come before its
annotations. -/
def Callable.offences (member : String) (c : Callable) : List Emission.Fault :=
  (if c.parameterTypes.length = c.parameterNames.length then []
    else [.parameterCounts member c.parameterNames.length c.parameterTypes.length]) ++
  c.annotationsWritten.flatMap Annotation.offences

namespace Introduction

/-- What is wrong with an introduction, in the order of emission. -/
def offences (i : Introduction) : List Emission.Fault :=
  let target := i.target.simpleName
  (if i.target.packageName = i.aspect.packageName then []
    else [.differentPackages i.aspect.name i.target.name]) ++
  i.typeAnnotations.flatMap Annotation.offences ++
  i.fieldAnnotations.flatMap (fun a => a.annotation.offences) ++
  i.methodAnnotations.flatMap (fun a => a.annotation.offences) ++
  i.fields.flatMap (·.annotations.flatMap Annotation.offences) ++
  i.constructors.flatMap (Callable.offences (target ++ ".new")) ++
  i.methods.flatMap fun m => m.toCallable.offences (target ++ "." ++ m.name)

/-- The annotations that are written into the aspect. -/
def annotationsWritten (i : Introduction) : List Annotation :=
  i.typeAnnotations ++ i.fieldAnnotations.map (fun a => a.annotation) ++
    i.methodAnnotations.map (fun a => a.annotation) ++
    i.fields.flatMap (·.annotations) ++ i.constructors.flatMap Callable.annotationsWritten ++
    i.methods.flatMap (·.toCallable.annotationsWritten)

end Introduction

/-! ### The first fault of a text -/

theorem head?_filterMap_eq {α β : Type} {f : α → Option β} {g : α → List β} : ∀ {xs : List α},
    (∀ x ∈ xs, f x = (g x).head?) → (xs.filterMap f).head? = (xs.flatMap g).head?
  | [], _ => rfl
  | x :: rest, h => by
    have hrest := head?_filterMap_eq fun y hy => h y (List.mem_cons_of_mem x hy)
    rw [List.filterMap_cons, List.flatMap_cons, List.head?_append, ← h x List.mem_cons_self]
    cases f x with
    | none => exact hrest
    | some y => rfl

namespace Annotation

theorem Phrase.listed_fault {separator : String} : ∀ as : List Phrase,
    (Phrase.listed separator as).fault = (as.filterMap Phrase.fault).head?
  | [] => rfl
  | [a] => by
    rw [List.filterMap_cons, List.filterMap_nil, Phrase.listed]
    cases a.fault <;> rfl
  | a :: b :: more => by
    rw [Phrase.listed, Phrase.append_fault, Phrase.append_fault, Phrase.listed_fault (b :: more)]
    show a.fault.or (((b :: more).filterMap Phrase.fault).head?) = _
    rw [List.filterMap_cons (a := a)]
    cases a.fault <;> rfl

end Annotation

namespace Introduction

open Chunk

theorem parameterPhrase_fault (p : ParameterType) (name : String) :
    (parameterPhrase Annotation.phrase p name).fault =
      (p.annotations.flatMap Annotation.faults).head? := by
  rw [parameterPhrase, Annotation.Phrase.listed_fault, List.filterMap_append, List.filterMap_map]
  have hrest : [.whole p.type.pieces, .whole [.text name]].filterMap Annotation.Phrase.fault = [] :=
    rfl
  rw [hrest, List.append_nil]
  exact head?_filterMap_eq fun a _ => Annotation.phrase_fault a

theorem zipWith_parameterPhrase_fault : ∀ {ps : List ParameterType} {names : List String},
    ps.length = names.length →
      ((List.zipWith (parameterPhrase Annotation.phrase) ps names).filterMap
        Annotation.Phrase.fault).head? =
      ((ps.flatMap (·.annotations)).flatMap Annotation.faults).head?
  | [], _, _ => rfl
  | p :: ps, [], h => by cases h
  | p :: ps, name :: names, h => by
    rw [List.zipWith_cons_cons, List.filterMap_cons, List.flatMap_cons, List.flatMap_append,
      List.head?_append, ← zipWith_parameterPhrase_fault (Nat.succ.inj h), parameterPhrase_fault]
    cases (p.annotations.flatMap Annotation.faults).head? <;> rfl

/-- The parameters have the faults of the annotations on them, if each has a name. -/
theorem parametersPhrase_fault {c : Callable}
    (h : c.parameterTypes.length = c.parameterNames.length) :
    (parametersPhrase Annotation.phrase c).fault =
      ((c.parameterTypes.flatMap (·.annotations)).flatMap Annotation.faults).head? := by
  rw [parametersPhrase, Annotation.Phrase.append_fault, Annotation.Phrase.append_fault,
    Annotation.Phrase.listed_fault, zipWith_parameterPhrase_fault h]
  cases ((c.parameterTypes.flatMap (·.annotations)).flatMap Annotation.faults).head? <;> rfl

/-! ### The sections -/

theorem entryEnd_fails : FailsWith entryEnd [] :=
  FailsWith.of_all_isPlain rfl

theorem bodyEnd_fails (body : String) : FailsWith (bodyEnd body) [] := by
  have hopen : FailsWith [.text " \x7b", .endLine] [] := FailsWith.of_all_isPlain rfl
  have hbody : FailsWith [Chunk.text body] [] := FailsWith.of_all_isPlain rfl
  have hclose : FailsWith [.line (.whole [.text "\x7d"]), .blankLine] [] :=
    FailsWith.of_all_isPlain rfl
  exact hopen.append (hbody.indented.append hclose)

/-- An annotation fails with the first of its faults. -/
theorem annotation_faults (a : Annotation) :
    (Chunk.phrase a.phrase).faults.head? = a.offences.head? ∧
      (Chunk.line a.phrase).faults.head? = a.offences.head? := by
  simp only [faults, Annotation.phrase_fault, Annotation.offences, List.head?_map]
  cases a.faults.head? <;> exact ⟨rfl, rfl⟩

theorem annotation_fails (a : Annotation) :
    FailsWith (.phrase a.phrase :: entryEnd) a.offences := by
  have := entryEnd_fails.cons (c := .phrase a.phrase) (fun _ => rfl) (annotation_faults a).1
  rwa [List.append_nil] at this

theorem annotationLines_fail (annotations : List Annotation) :
    FailsWith (annotationLines Annotation.phrase annotations)
      (annotations.flatMap Annotation.offences) := by
  rw [annotationLines, List.map_eq_flatMap]
  refine FailsWith.flatMap fun a _ => ?_
  have := FailsWith.nil.cons (c := .line a.phrase) (fun _ => rfl) (annotation_faults a).2
  rwa [List.append_nil] at this

theorem supertypeEntry_fails (target inheritance : String) (t : TypeRef) :
    FailsWith (supertypeEntry target inheritance t) [] :=
  FailsWith.of_all_isPlain rfl

theorem typeAnnotationEntry_fails (target : String) (a : Annotation) :
    FailsWith (typeAnnotationEntry Annotation.phrase target a) a.offences :=
  ((annotation_fails a).plain rfl).plain rfl

theorem fieldAnnotationEntry_fails (target : String) (a : FieldAnnotation) :
    FailsWith (fieldAnnotationEntry Annotation.phrase target a) a.annotation.offences :=
  ((annotation_fails a.annotation).plain rfl).plain rfl

theorem methodAnnotationEntry_fails (target : String) (a : MethodAnnotation) :
    FailsWith (methodAnnotationEntry Annotation.phrase target a) a.annotation.offences :=
  ((((annotation_fails a.annotation).plain rfl).plain rfl).plain rfl).plain rfl

theorem fieldEntry_fails (target : String) (f : Field) :
    FailsWith (fieldEntry Annotation.phrase target f) (f.annotations.flatMap Annotation.offences) := by
  have hlines := annotationLines_fail f.annotations
  rw [fieldEntry, List.append_assoc, ← List.append_nil (f.annotations.flatMap _)]
  exact hlines.append (FailsWith.of_all_isPlain rfl)

/-- A constructor or method, whatever is written before its parameters and after them: if the numbers
of its parameters differ it fails for that, and else with what is wrong with its annotations. -/
theorem callable_fails (member : String) (c : Callable) {head tail : List Chunk}
    (hhead : FailsWith head []) (htail : FailsWith tail []) :
    FailsWith (parameterCheck member c ++ (annotationLines Annotation.phrase c.annotations ++
      (head ++ .phrase (parametersPhrase Annotation.phrase c) :: tail))) (c.offences member) := by
  have hlines := annotationLines_fail c.annotations
  by_cases hl : c.parameterTypes.length = c.parameterNames.length
  · have hparameters : (Chunk.phrase (parametersPhrase Annotation.phrase c)).faults.head? =
        ((c.parameterTypes.flatMap (·.annotations)).flatMap Annotation.offences).head? := by
      have hmap : (c.parameterTypes.flatMap (·.annotations)).flatMap Annotation.offences =
          ((c.parameterTypes.flatMap (·.annotations)).flatMap Annotation.faults).map .unwritable := by
        rw [List.map_flatMap]
        rfl
      rw [hmap, List.head?_map, faults, parametersPhrase_fault hl]
      cases ((c.parameterTypes.flatMap (·.annotations)).flatMap Annotation.faults).head? <;> rfl
    have hrest := hlines.append
      (hhead.append (htail.cons (c := .phrase _) (fun _ => rfl) hparameters))
    rw [List.append_nil, List.nil_append, ← List.flatMap_append] at hrest
    rw [parameterCheck, if_pos hl, Callable.offences, if_pos hl]
    exact hrest
  · have hparameters : FailsWith (.phrase (parametersPhrase Annotation.phrase c) :: tail)
        ((Chunk.phrase (parametersPhrase Annotation.phrase c)).faults ++ []) :=
      htail.cons (fun _ => rfl) rfl
    rw [parameterCheck, if_neg hl, Callable.offences, if_neg hl]
    exact (hlines.append (hhead.append hparameters)).stop _ _

theorem constructorEntry_fails (target : String) (c : Callable) :
    FailsWith (constructorEntry Annotation.phrase target c) (c.offences (target ++ ".new")) := by
  have hhead : FailsWith [.margin, .text (modifiersBefore c.modifiers ++ target ++ ".new")] [] :=
    FailsWith.of_all_isPlain rfl
  have := callable_fails (target ++ ".new") c hhead (bodyEnd_fails c.body)
  rw [constructorEntry, List.append_assoc, List.append_assoc]
  exact this

theorem throwsClause_fails (types : List TypeRef) : FailsWith (throwsClause types) [] := by
  unfold throwsClause
  split
  · exact FailsWith.nil
  · exact FailsWith.of_all_isPlain rfl

theorem methodEntry_fails (target : String) (m : Method) :
    FailsWith (methodEntry Annotation.phrase target m)
      (m.toCallable.offences (target ++ "." ++ m.name)) := by
  have hhead : FailsWith [.margin, .text (modifiersBefore m.modifiers),
      .phrase (.whole (m.returnType.returnPieces (Modifier.isStatic m.modifiers))),
      .text (" " ++ target ++ "." ++ m.name)] [] :=
    FailsWith.of_all_isPlain rfl
  have := callable_fails (target ++ "." ++ m.name) m.toCallable hhead
    ((throwsClause_fails m.throws).append (bodyEnd_fails m.body))
  simp only [methodEntry, List.append_assoc]
  exact this

/-! ### The whole aspect -/

theorem supertypes_fail (target inheritance : String) (ts : List TypeRef) :
    FailsWith (ts.flatMap (supertypeEntry target inheritance)) [] := by
  have := FailsWith.flatMap (g := fun _ => []) fun t (_ : t ∈ ts) =>
    supertypeEntry_fails target inheritance t
  rwa [List.flatMap_eq_nil_iff.mpr fun _ _ => rfl] at this

/-- Balanced sections between the opening of an aspect and its end: the packages are compared first. -/
theorem enclosed_fail {sections : List Chunk} {fs : List Emission.Fault} (h : FailsWith sections fs)
    (privileged : Bool) (aspect target : TypeRef) :
    let cs := opening privileged aspect target ++ (sections ++ [.conclude])
    depthsAfter cs 0 = some 0 ∧ (cs.flatMap faults).head? =
      ((if target.packageName = aspect.packageName then []
        else [Emission.Fault.differentPackages aspect.name target.name]) ++ fs).head? := by
  intro cs
  have hopen : depthsAfter (opening privileged aspect target) 0 = some 1 := by
    unfold opening
    split <;> rfl
  have hfaults : (opening privileged aspect target).flatMap faults =
      if target.packageName = aspect.packageName then []
      else [.differentPackages aspect.name target.name] := by
    unfold opening
    split <;> rfl
  refine ⟨?_, ?_⟩
  · rw [depthsAfter_append, hopen, Option.bind_some, depthsAfter_append, h.depth]
    rfl
  · rw [List.flatMap_append, List.flatMap_append, hfaults, List.head?_append, List.head?_append,
      List.head?_append, h.first]
    cases fs <;> simp [faults]

/-- The chunks of an aspect begin and end at depth zero, and they fail with the first of what is wrong
with the introduction. -/
theorem chunks_fail (i : Introduction) :
    depthsAfter (i.chunks Annotation.phrase) 0 = some 0 ∧
      ((i.chunks Annotation.phrase).flatMap faults).head? = i.offences.head? := by
  have hsections :=
    (supertypes_fail i.target.simpleName Inheritance.extension.keyword i.extended).append
    ((supertypes_fail i.target.simpleName Inheritance.implementation.keyword i.implemented).append
    ((FailsWith.flatMap fun a (_ : a ∈ i.typeAnnotations) =>
      typeAnnotationEntry_fails i.target.simpleName a).append
    ((FailsWith.flatMap fun a (_ : a ∈ i.fieldAnnotations) =>
      fieldAnnotationEntry_fails i.target.simpleName a).append
    ((FailsWith.flatMap fun a (_ : a ∈ i.methodAnnotations) =>
      methodAnnotationEntry_fails i.target.simpleName a).append
    ((FailsWith.flatMap fun f (_ : f ∈ i.fields) => fieldEntry_fails i.target.simpleName f).append
    ((FailsWith.flatMap fun c (_ : c ∈ i.constructors) =>
      constructorEntry_fails i.target.simpleName c).append
    (FailsWith.flatMap fun m (_ : m ∈ i.methods) =>
      methodEntry_fails i.target.simpleName m)))))))
  have := enclosed_fail hsections i.privileged i.aspect i.target
  simp only [List.append_assoc, List.nil_append] at this
  simpa only [chunks, offences, List.append_assoc] using this

theorem callable_offences_eq_nil (member : String) (c : Callable) : c.offences member = [] ↔
    c.parameterTypes.length = c.parameterNames.length ∧ ∀ a ∈ c.annotationsWritten, a.offences = [] := by
  rw [Callable.offences, List.append_eq_nil_iff, List.flatMap_eq_nil_iff]
  refine and_congr_left' ?_
  split
  · rename_i hl
    exact iff_of_true rfl hl
  · rename_i hl
    exact iff_of_false (List.cons_ne_nil _ _) hl

/-- Nothing is wrong with an introduction exactly if the packages and the numbers of parameters agree
and nothing is wrong with the annotations that are written. -/
theorem offences_eq_nil (i : Introduction) : i.offences = [] ↔
    i.target.packageName = i.aspect.packageName ∧
      (∀ c ∈ i.constructors, c.parameterTypes.length = c.parameterNames.length) ∧
      (∀ m ∈ i.methods, m.parameterTypes.length = m.parameterNames.length) ∧
      ∀ a ∈ i.annotationsWritten, a.offences = [] := by
  have hpackage : (if i.target.packageName = i.aspect.packageName then []
      else [Emission.Fault.differentPackages i.aspect.name i.target.name]) = [] ↔
        i.target.packageName = i.aspect.packageName := by
    split
    · rename_i hp
      exact iff_of_true rfl hp
    · rename_i hp
      exact iff_of_false (List.cons_ne_nil _ _) hp
  simp only [offences, annotationsWritten, List.append_eq_nil_iff, hpackage, List.flatMap_eq_nil_iff,
    List.forall_mem_append, List.forall_mem_map, List.forall_mem_flatMap, callable_offences_eq_nil]
  constructor
  · rintro ⟨⟨⟨⟨⟨⟨hp, htype⟩, hfield⟩, hmethod⟩, hfields⟩, hconstructors⟩, hmethods⟩
    exact ⟨hp, fun c hc => (hconstructors c hc).1, fun m hm => (hmethods m hm).1,
      ⟨⟨⟨⟨htype, hfield⟩, hmethod⟩, hfields⟩, fun c hc => (hconstructors c hc).2⟩,
      fun m hm => (hmethods m hm).2⟩
  · rintro ⟨hp, hc, hm, ⟨⟨⟨⟨htype, hfield⟩, hmethod⟩, hfields⟩, hconstructors⟩, hmethods⟩
    exact ⟨⟨⟨⟨⟨⟨hp, htype⟩, hfield⟩, hmethod⟩, hfields⟩, fun c h => ⟨hc c h, hconstructors c h⟩⟩,
      fun m h => ⟨hm m h, hmethods m h⟩⟩

/-- What is wrong with an introduction is never the layout. -/
theorem layout_notMem_offences (i : Introduction) (f : Buffer.Fault) :
    Emission.Fault.layout f ∉ i.offences := by
  have hvalue : ∀ a : Annotation, Emission.Fault.layout f ∉ a.offences := by
    intro a ha
    obtain ⟨g, -, hg⟩ := List.mem_map.mp ha
    cases hg
  have hcallable : ∀ member (c : Callable), Emission.Fault.layout f ∉ c.offences member := by
    intro member c
    unfold Callable.offences
    split <;> simp [hvalue]
  unfold offences
  split <;> simp [hvalue, hcallable]

/-- Emission fails with the first of what is wrong, and with nothing else. -/
theorem emit_fault (settings : Settings) (i : Introduction) :
    (i.emit settings Annotation.phrase).1 = i.offences.head? := by
  obtain ⟨hdepth, hfirst⟩ := chunks_fail i
  rw [emit, Emission.run_fault hdepth, hfirst]

theorem compose_error_iff (settings : Settings) (i : Introduction) (f : Composition.Fault) :
    i.compose settings Annotation.phrase = .error f ↔
      ∃ g, i.offences.head? = some g ∧ f = .emission g := by
  rw [← emit_fault settings i, compose]
  rcases i.emit settings Annotation.phrase with ⟨g, e⟩
  cases g with
  | none => simp
  | some g => simp [eq_comm]

theorem exists_compose_iff (settings : Settings) (i : Introduction) :
    (∃ c, i.compose settings Annotation.phrase = .ok c) ↔ i.offences = [] := by
  rw [← List.head?_eq_none_iff, ← emit_fault settings i, compose]
  rcases i.emit settings Annotation.phrase with ⟨g, e⟩
  cases g with
  | none => simp
  | some g => simp

end Introduction

/-! ### Checks that never fail -/

namespace Imports

/-- The registering of an import that was asked for, checked to be legal once more. -/
def preregisterChecked (im : Imports) (t : TypeRef) : Except Fault Imports :=
  if im.isLegal t then im.add t else .ok im

theorem preregisterChecked_eq (im : Imports) (t : TypeRef) :
    im.preregisterChecked t = .ok (im.preregister t) := by
  unfold preregisterChecked preregister
  by_cases hl : im.isLegal t = true
  · rw [if_pos hl, if_pos hl, add, if_pos hl]
  · rw [if_neg hl, if_neg hl]

end Imports

namespace Introduction

/-! ### Main result -/

/-- **Composition fails exactly on what is documented.** It succeeds if and only if the packages agree,
every new constructor and method has as many parameter names as types, and no value in an annotation
that is written is of an unsupported kind or a double that is not finite; it fails with the first offence in the order
of emission. The layout is never refused, nor is any type registered where that is not legal. -/
theorem compose_succeeds_iff (settings : Settings) (i : Introduction) :
    ((∃ c, i.compose settings Annotation.phrase = .ok c) ↔
      i.target.packageName = i.aspect.packageName ∧
      (∀ c ∈ i.constructors, c.parameterTypes.length = c.parameterNames.length) ∧
      (∀ m ∈ i.methods, m.parameterTypes.length = m.parameterNames.length) ∧
      ∀ a ∈ i.annotationsWritten, ∀ v ∈ a.parts,
        (∀ x, v = .double x → x.isFinite = true) ∧ ∀ shown, v ≠ .unsupported shown) ∧
    (∀ f, i.compose settings Annotation.phrase = .error f ↔
      ∃ g, i.offences.head? = some g ∧ f = .emission g) ∧
    (∀ f, i.compose settings Annotation.phrase ≠ .error (.emission (.layout f))) ∧
    ∀ (im : Imports) (t : TypeRef), im.claimChecked t = .ok (im.claim t) ∧
      im.preregisterChecked t = .ok (im.preregister t) := by
  refine ⟨?_, compose_error_iff settings i, fun f hf => ?_, fun im t =>
    ⟨im.claimChecked_eq t, im.preregisterChecked_eq t⟩⟩
  · have hvalues := fun a : Annotation => a.offences_eq_nil
    rw [exists_compose_iff, offences_eq_nil]
    simp only [hvalues]
  · obtain ⟨g, hg, he⟩ := (compose_error_iff settings i _).mp hf
    injection he with he
    rw [← he] at hg
    exact layout_notMem_offences i f (List.mem_of_head? hg)

end Introduction
end Intertype
