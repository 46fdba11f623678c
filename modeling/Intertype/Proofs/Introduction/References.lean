/-
# The types that an introduction refers to

`Introduction.references` lists the types that an introduction has written into the aspect, in the
order of the sections, each with its arguments. `Introduction.named` lists, in the order of the text, the
types whose names are written there: the types of annotations, and the open nodes of all other types.
Where nothing in the chunks fails, the names that they leave open are those, one by one
(`Introduction.chunks_mention`); and in any case they belong to the types referred to. So what holds of
all these types holds of all that the chunks name (`Introduction.chunks_nameOnly`), and where all of them
can be written, so can all the chunks (`Introduction.clear_chunks`).

The return type of a method with a declared annotation is not among them. It is put into the text in
full, and its names are never spelled.

Key definitions: `Introduction.references`, `Introduction.named`, `Chunk.Mentions`, `Chunk.NamesOnly`.
Key theorems: `Introduction.chunks_mention`, `Introduction.chunks_nameOnly`,
`Introduction.clear_chunks`.
-/
import Intertype.Introduction.Sections
import Intertype.Proofs.Emission.Faults
import Intertype.Proofs.Emission.Written

namespace Intertype

/-! ### References -/

/-- The types named in an annotation on something, those of its values included. -/
def Annotation.typesOf (annotations : List Annotation) : List TypeRef :=
  annotations.flatMap Annotation.types

def ParameterType.references (p : ParameterType) : List TypeRef :=
  Annotation.typesOf p.annotations ++ [p.type]

def Field.references (f : Field) : List TypeRef :=
  Annotation.typesOf f.annotations ++ [f.type]

def Callable.references (c : Callable) : List TypeRef :=
  Annotation.typesOf c.annotations ++ c.parameterTypes.flatMap ParameterType.references

def Method.references (m : Method) : List TypeRef :=
  m.toCallable.references ++ m.returnType :: m.throws

/-- The types in the declaration of a method annotation, the return type of the method left out. -/
def MethodAnnotation.references (a : MethodAnnotation) : List TypeRef :=
  a.method.parameterTypes.map (·.type) ++ a.annotation.types

/-- The types that an introduction has written into the aspect. -/
def Introduction.references (i : Introduction) : List TypeRef :=
  i.extended ++ i.implemented ++ Annotation.typesOf i.typeAnnotations ++
    Annotation.typesOf (i.fieldAnnotations.map fun a => a.annotation) ++
    i.methodAnnotations.flatMap MethodAnnotation.references ++ i.fields.flatMap Field.references ++
    i.constructors.flatMap Callable.references ++ i.methods.flatMap Method.references

/-! ### The names in a text -/

/-- Whether the text names only such types. -/
def Piece.NameOnly (allowed : TypeRef → Prop) (ps : List Piece) : Prop :=
  ∀ t, Piece.typeName t ∈ ps → allowed t

/-- Whether the reference may stand anywhere: by its name, with its source text, and as a supertype. -/
def TypeRef.IsAllowed (allowed parent : TypeRef → Prop) (t : TypeRef) : Prop :=
  allowed t ∧ Piece.NameOnly allowed t.pieces ∧ parent t

/-- Whether the chunk names only such types, and only such a one as a supertype. -/
def Chunk.NamesOnly (allowed parent : TypeRef → Prop) : Chunk → Prop
  | .phrase a => Piece.NameOnly allowed a.pieces
  | .line a => Piece.NameOnly allowed a.pieces
  | .supertype t => parent t
  | _ => True

/-- Whether the chunks name only such types, and only such as supertypes. -/
def Chunk.NameOnly (allowed parent : TypeRef → Prop) (cs : List Chunk) : Prop :=
  ∀ c ∈ cs, c.NamesOnly allowed parent

variable {allowed parent : TypeRef → Prop}

/-! ### The names in order -/

def ParameterType.named (p : ParameterType) : List TypeRef :=
  Annotation.typesOf p.annotations ++ p.type.openNodes

def Field.named (f : Field) : List TypeRef :=
  Annotation.typesOf f.annotations ++ f.type.openNodes

def Callable.named (c : Callable) : List TypeRef :=
  Annotation.typesOf c.annotations ++ c.parameterTypes.flatMap ParameterType.named

def Method.named (m : Method) : List TypeRef :=
  Annotation.typesOf m.annotations ++ (m.returnType.openNodes ++
    (m.parameterTypes.flatMap ParameterType.named ++ m.throws.flatMap TypeRef.openNodes))

def MethodAnnotation.named (a : MethodAnnotation) : List TypeRef :=
  a.method.parameterTypes.flatMap (·.type.openNodes) ++ a.annotation.types

/-- The types whose names are written into the aspect, in the order of the text. -/
def Introduction.named (i : Introduction) : List TypeRef :=
  (i.extended ++ i.implemented).flatMap TypeRef.openNodes ++ Annotation.typesOf i.typeAnnotations ++
    Annotation.typesOf (i.fieldAnnotations.map fun a => a.annotation) ++
    i.methodAnnotations.flatMap MethodAnnotation.named ++ i.fields.flatMap Field.named ++
    i.constructors.flatMap Callable.named ++ i.methods.flatMap Method.named

/-- Whether each of the types is one of the others, or an open node of one. -/
def TypeRef.AreFrom (types others : List TypeRef) : Prop :=
  ∀ u ∈ types, ∃ t ∈ others, u = t ∨ u ∈ t.openNodes

namespace TypeRef.AreFrom

variable {ts us vs ws : List TypeRef}

theorem self (ts : List TypeRef) : AreFrom ts ts :=
  fun u hu => ⟨u, hu, Or.inl rfl⟩

theorem nodes {t : TypeRef} (ht : t ∈ ts) : AreFrom t.openNodes ts :=
  fun _ hu => ⟨t, ht, Or.inr hu⟩

theorem allNodes (h : us ⊆ ts) : AreFrom (us.flatMap openNodes) ts := by
  intro u hu
  obtain ⟨t, ht, hu⟩ := List.mem_flatMap.mp hu
  exact ⟨t, h ht, Or.inr hu⟩

theorem mono (h : AreFrom us ts) (hs : ts ⊆ ws) : AreFrom us ws :=
  fun u hu => (h u hu).imp fun _ ht => ⟨hs ht.1, ht.2⟩

theorem append (hu : AreFrom us ts) (hv : AreFrom vs ts) : AreFrom (us ++ vs) ts :=
  fun u h => (List.mem_append.mp h).elim (hu u) (hv u)

theorem flatMap {α : Type} {xs : List α} {f g : α → List TypeRef}
    (h : ∀ x ∈ xs, AreFrom (f x) (g x)) : AreFrom (xs.flatMap f) (xs.flatMap g) := by
  intro u hu
  obtain ⟨x, hx, hu⟩ := List.mem_flatMap.mp hu
  exact ((h x hx).mono fun t ht => List.mem_flatMap.mpr ⟨x, hx, ht⟩) u hu

end TypeRef.AreFrom

open TypeRef (AreFrom)

theorem ParameterType.named_areFrom (p : ParameterType) : AreFrom p.named p.references :=
  ((AreFrom.self _).mono (List.subset_append_left _ _)).append
    (.nodes (List.mem_append_right _ List.mem_cons_self))

theorem Field.named_areFrom (f : Field) : AreFrom f.named f.references :=
  ((AreFrom.self _).mono (List.subset_append_left _ _)).append
    (.nodes (List.mem_append_right _ List.mem_cons_self))

theorem Callable.parameters_areFrom (c : Callable) :
    AreFrom (c.parameterTypes.flatMap ParameterType.named) c.references :=
  (AreFrom.flatMap fun p _ => p.named_areFrom).mono (List.subset_append_right _ _)

theorem Callable.named_areFrom (c : Callable) : AreFrom c.named c.references :=
  ((AreFrom.self _).mono (List.subset_append_left _ _)).append c.parameters_areFrom

theorem Method.named_areFrom (m : Method) : AreFrom m.named m.references := by
  have hcallable : m.toCallable.references ⊆ m.references := List.subset_append_left _ _
  have hreturn : m.returnType ∈ m.references := List.mem_append_right _ List.mem_cons_self
  have hthrows : m.throws ⊆ m.references :=
    fun t ht => List.mem_append_right _ (List.mem_cons_of_mem _ ht)
  exact ((AreFrom.self _).mono (List.Subset.trans (List.subset_append_left _ _) hcallable)).append
    ((AreFrom.nodes hreturn).append
      ((m.toCallable.parameters_areFrom.mono hcallable).append (.allNodes hthrows)))

theorem MethodAnnotation.named_areFrom (a : MethodAnnotation) : AreFrom a.named a.references := by
  refine AreFrom.append (fun u hu => ?_) ((AreFrom.self _).mono (List.subset_append_right _ _))
  obtain ⟨p, hp, hu⟩ := List.mem_flatMap.mp hu
  exact ⟨p.type, List.mem_append_left _ (List.mem_map_of_mem hp), Or.inr hu⟩

/-- What is named belongs to what is referred to. -/
theorem Introduction.named_areFrom (i : Introduction) : AreFrom i.named i.references := by
  have both : ∀ {us vs ts ws : List TypeRef}, AreFrom us ts → AreFrom vs ws →
      AreFrom (us ++ vs) (ts ++ ws) := fun hu hv =>
    (hu.mono (List.subset_append_left _ _)).append (hv.mono (List.subset_append_right _ _))
  exact both (both (both (both (both (both (.allNodes (List.Subset.refl _)) (.self _)) (.self _))
    (.flatMap fun a _ => a.named_areFrom)) (.flatMap fun f _ => f.named_areFrom))
    (.flatMap fun c _ => c.named_areFrom)) (.flatMap fun m _ => m.named_areFrom)

/-! ### The names in the chunks -/

namespace Chunk

/-- The types whose names a chunk leaves open. -/
def typeNames : Chunk → List TypeRef
  | .phrase a => Piece.typeNames a.pieces
  | .line a => Piece.typeNames a.pieces
  | .supertype t => t.openNodes
  | _ => []

/-- The type that a chunk writes as a supertype. -/
def parents : Chunk → List TypeRef
  | .supertype t => [t]
  | _ => []

/-- The chunks write these as supertypes, and leave open the names of types among those only; of just
those, in order, if nothing in the chunks fails. -/
structure Mentions (cs : List Chunk) (supertypes types : List TypeRef) : Prop where
  parents : cs.flatMap Chunk.parents = supertypes
  only : cs.flatMap Chunk.typeNames ⊆ types
  all : cs.flatMap Chunk.faults = [] → cs.flatMap Chunk.typeNames = types

namespace Mentions

variable {c : Chunk} {cs ds : List Chunk} {a : Annotation.Phrase} {ps qs ts us : List TypeRef}

theorem nil : Mentions [] [] [] :=
  ⟨rfl, List.Subset.refl _, fun _ => rfl⟩

theorem append (hc : Mentions cs ps ts) (hd : Mentions ds qs us) :
    Mentions (cs ++ ds) (ps ++ qs) (ts ++ us) where
  parents := by rw [List.flatMap_append, hc.parents, hd.parents]
  only := by
    rw [List.flatMap_append]
    exact List.append_subset.mpr ⟨List.subset_append_of_subset_left _ hc.only,
      List.subset_append_of_subset_right _ hd.only⟩
  all h := by
    rw [List.flatMap_append, List.append_eq_nil_iff] at h
    rw [List.flatMap_append, hc.all h.1, hd.all h.2]

theorem flatMap {α : Type} {xs : List α} {f : α → List Chunk} {g h : α → List TypeRef}
    (hf : ∀ x ∈ xs, Mentions (f x) (g x) (h x)) :
    Mentions (xs.flatMap f) (xs.flatMap g) (xs.flatMap h) := by
  induction xs with
  | nil => exact nil
  | cons x rest ih =>
    rw [List.flatMap_cons, List.flatMap_cons, List.flatMap_cons]
    exact (hf x List.mem_cons_self).append (ih fun y hy => hf y (List.mem_cons_of_mem x hy))

/-- Sections without supertypes. -/
theorem sections {α : Type} {f : α → List Chunk} {g : α → List TypeRef} (xs : List α)
    (hf : ∀ x ∈ xs, Mentions (f x) [] (g x)) : Mentions (xs.flatMap f) [] (xs.flatMap g) := by
  have := flatMap hf
  rwa [List.flatMap_eq_nil_iff.mpr fun _ _ => rfl] at this

/-- A chunk that mentions nothing. -/
theorem quiet (h : Mentions cs ps ts) (hp : c.parents = []) (hn : c.typeNames = []) :
    Mentions (c :: cs) ps ts where
  parents := by rw [List.flatMap_cons, hp, List.nil_append, h.parents]
  only := by
    rw [List.flatMap_cons, hn, List.nil_append]
    exact h.only
  all hf := by
    rw [List.flatMap_cons, hn, List.nil_append]
    exact h.all (List.append_eq_nil_iff.mp hf).2

theorem text (h : Mentions cs ps ts) (s : String) : Mentions (.text s :: cs) ps ts :=
  h.quiet rfl rfl

theorem phrase (h : Mentions cs ps ts) (ha : a.Names us) : Mentions (.phrase a :: cs) ps (us ++ ts) where
  parents := h.parents
  only := by
    rw [List.flatMap_cons]
    exact List.append_subset.mpr ⟨List.subset_append_of_subset_left _ ha.only,
      List.subset_append_of_subset_right _ h.only⟩
  all hf := by
    obtain ⟨hfault, hrest⟩ := List.append_eq_nil_iff.mp hf
    have hwhole : a.fault = none := by
      cases hc : a.fault with
      | none => rfl
      | some f =>
        rw [Chunk.faults, hc] at hfault
        cases hfault
    rw [List.flatMap_cons, h.all hrest, Chunk.typeNames, ha.all hwhole]

/-- A text behind which nothing is mentioned. -/
theorem lastPhrase (h : Mentions cs ps []) (ha : a.Names us) : Mentions (.phrase a :: cs) ps us := by
  have := h.phrase ha
  rwa [List.append_nil] at this

/-- A line mentions what its text does. -/
theorem line (ha : a.Names us) : Mentions [.line a] [] us := by
  obtain ⟨hparents, honly, hall⟩ := nil.lastPhrase ha
  exact ⟨hparents, honly, hall⟩

theorem supertype (h : Mentions cs [] []) (t : TypeRef) :
    Mentions (.supertype t :: cs) [t] t.openNodes where
  parents := by
    rw [List.flatMap_cons, h.parents]
    rfl
  only := by
    rw [List.flatMap_cons]
    exact List.append_subset.mpr ⟨List.Subset.refl _, List.Subset.trans h.only (List.nil_subset _)⟩
  all hf := by
    rw [List.flatMap_cons, h.all hf]
    exact List.append_nil _

/-- Where the numbers of parameters differ, nothing is written. -/
theorem checked (h : Mentions cs ps ts) (member : String) {callable : Callable}
    (hall : callable.parameterTypes.length = callable.parameterNames.length → ts = us) (hs : ts ⊆ us) :
    Mentions (Introduction.parameterCheck member callable ++ cs) ps us := by
  unfold Introduction.parameterCheck
  split
  · rename_i heq
    exact hall heq ▸ h
  · exact ⟨h.parents, List.Subset.trans h.only hs, fun hf => by cases hf⟩

end Mentions
end Chunk

namespace Introduction

open Chunk
open Annotation (Phrase names_phrase typesOf)

theorem names_pieces (t : TypeRef) : (Phrase.whole t.pieces).Names t.openNodes :=
  t.typeNames_pieces ▸ Phrase.names_whole t.pieces

theorem names_listed (separator : String) (types : List TypeRef) :
    (Phrase.whole (Piece.listed separator (types.map TypeRef.pieces))).Names
      (types.flatMap TypeRef.openNodes) := by
  have hnames : Piece.typeNames (Piece.listed separator (types.map TypeRef.pieces)) =
      types.flatMap TypeRef.openNodes := by
    rw [Piece.typeNames_listed, List.flatMap_map]
    simp only [TypeRef.typeNames_pieces]
  exact hnames ▸ Phrase.names_whole _

theorem entryEnd_mentions : Mentions entryEnd [] [] :=
  ((Mentions.nil.quiet rfl rfl).quiet rfl rfl).text ";"

theorem bodyEnd_mentions (body : String) : Mentions (bodyEnd body) [] [] :=
  ((((((Mentions.nil.quiet rfl rfl).quiet rfl rfl).quiet rfl rfl).text body).quiet rfl rfl).quiet rfl
    rfl).text " \x7b"

theorem opening_mentions (privileged : Bool) (aspect target : TypeRef) :
    Mentions (opening privileged aspect target) [] [] := by
  have hrest : Mentions [.margin, .text ((if privileged then "privileged " else "") ++
      "aspect " ++ aspect.simpleName ++ " \x7b"), .endLine, .indent, .blankLine] [] [] :=
    ((((Mentions.nil.quiet rfl rfl).quiet rfl rfl).quiet rfl rfl).text _).quiet rfl rfl
  unfold opening
  split
  · exact hrest
  · exact hrest.quiet rfl rfl

theorem supertypes_mention (target inheritance : String) (types : List TypeRef) :
    Mentions (types.flatMap (supertypeEntry target inheritance)) types
      (types.flatMap TypeRef.openNodes) := by
  have hall : Mentions (types.flatMap (supertypeEntry target inheritance))
      (types.flatMap fun t => [t]) (types.flatMap TypeRef.openNodes) :=
    Mentions.flatMap fun t _ => ((entryEnd_mentions.supertype t).text _).quiet rfl rfl
  rwa [List.flatMap_singleton'] at hall

theorem typeAnnotationEntry_mentions (target : String) (a : Annotation) :
    Mentions (typeAnnotationEntry Annotation.phrase target a) [] a.types :=
  ((entryEnd_mentions.lastPhrase (names_phrase a)).text _).quiet rfl rfl

theorem fieldAnnotationEntry_mentions (target : String) (a : FieldAnnotation) :
    Mentions (fieldAnnotationEntry Annotation.phrase target a) [] a.annotation.types :=
  ((entryEnd_mentions.lastPhrase (names_phrase a.annotation)).text _).quiet rfl rfl

theorem methodAnnotationEntry_mentions (target : String) (a : MethodAnnotation) :
    Mentions (methodAnnotationEntry Annotation.phrase target a) [] a.named := by
  have hparameters := names_listed "," (a.method.parameterTypes.map (·.type))
  rw [List.map_map, List.flatMap_map] at hparameters
  exact ((((entryEnd_mentions.lastPhrase (names_phrase a.annotation)).text _).phrase hparameters).text
    _).quiet rfl rfl

theorem annotationLines_mention (annotations : List Annotation) :
    Mentions (annotationLines Annotation.phrase annotations) [] (typesOf annotations) := by
  rw [annotationLines, List.map_eq_flatMap]
  exact Mentions.sections _ fun a _ => Mentions.line (names_phrase a)

theorem fieldEntry_mentions (target : String) (f : Field) :
    Mentions (fieldEntry Annotation.phrase target f) [] f.named := by
  rw [fieldEntry, List.append_assoc]
  exact (annotationLines_mention f.annotations).append
    (((((entryEnd_mentions.text _).text _).lastPhrase (names_pieces f.type)).text _).quiet rfl rfl)

/-! ### Constructors and methods -/

theorem parameterPhrase_names (p : ParameterType) (name : String) :
    (parameterPhrase Annotation.phrase p name).Names p.named := by
  have hall := Phrase.Names.listed " " (f := Prod.fst) (g := Prod.snd)
    (p.annotations.map (fun a => (a.phrase, a.types)) ++
      [(.whole p.type.pieces, p.type.openNodes), (.whole [.text name], [])]) fun x hx => by
    rcases List.mem_append.mp hx with hx | hx
    · obtain ⟨a, -, rfl⟩ := List.mem_map.mp hx
      exact names_phrase a
    · rcases List.mem_pair.mp hx with rfl | rfl
      · exact names_pieces p.type
      · exact Phrase.names_whole _
  simpa [parameterPhrase, ParameterType.named, typesOf, List.flatMap_map, Function.comp_def] using hall

/-- The types named in the parameters that have both a type and a name. -/
def namedInParameters (c : Callable) : List TypeRef :=
  (c.parameterTypes.zip c.parameterNames).flatMap fun p => p.1.named

theorem namedInParameters_eq {c : Callable} (h : c.parameterTypes.length = c.parameterNames.length) :
    namedInParameters c = c.parameterTypes.flatMap ParameterType.named := by
  conv => rhs; rw [← List.map_fst_zip (Nat.le_of_eq h)]
  rw [List.flatMap_map]
  rfl

theorem namedInParameters_subset (c : Callable) :
    namedInParameters c ⊆ c.parameterTypes.flatMap ParameterType.named := by
  intro t ht
  obtain ⟨p, hp, ht⟩ := List.mem_flatMap.mp ht
  exact List.mem_flatMap.mpr ⟨p.1, (List.of_mem_zip hp).1, ht⟩

theorem parametersPhrase_names (c : Callable) :
    (parametersPhrase Annotation.phrase c).Names (namedInParameters c) := by
  have hlist := Phrase.Names.listed ", "
    (f := fun p : ParameterType × String => parameterPhrase Annotation.phrase p.1 p.2)
    (g := fun p => p.1.named) (c.parameterTypes.zip c.parameterNames)
    fun p _ => parameterPhrase_names p.1 p.2
  rw [List.map_zip_eq_zipWith] at hlist
  have := (Phrase.names_whole [.text "("]).append (hlist.append (Phrase.names_whole [.text ")"]))
  rwa [show Piece.typeNames [.text ")"] = [] from rfl, List.append_nil] at this

theorem constructorEntry_mentions (target : String) (c : Callable) :
    Mentions (constructorEntry Annotation.phrase target c) [] c.named := by
  have hlines := (annotationLines_mention c.annotations).append
    ((((bodyEnd_mentions c.body).lastPhrase (parametersPhrase_names c)).text
      (modifiersBefore c.modifiers ++ target ++ ".new")).quiet rfl rfl (c := .margin))
  rw [constructorEntry, List.append_assoc, List.append_assoc]
  exact hlines.checked _ (fun h => by rw [namedInParameters_eq h]; rfl)
    (List.append_subset.mpr ⟨List.subset_append_left _ _,
      List.subset_append_of_subset_right _ (namedInParameters_subset c)⟩)

theorem throwsClause_mentions (types : List TypeRef) :
    Mentions (throwsClause types) [] (types.flatMap TypeRef.openNodes) := by
  unfold throwsClause
  split
  · rename_i hnone
    rw [hnone]
    exact Mentions.nil
  · exact (Mentions.nil.lastPhrase (names_listed ", " types)).text _

theorem methodEntry_mentions (target : String) (m : Method) :
    Mentions (methodEntry Annotation.phrase target m) [] m.named := by
  have hreturn : (Phrase.whole (m.returnType.returnPieces (Modifier.isStatic m.modifiers))).Names
      m.returnType.openNodes :=
    m.returnType.typeNames_returnPieces _ ▸ Phrase.names_whole _
  have hend := (throwsClause_mentions m.throws).append (bodyEnd_mentions m.body)
  rw [List.append_nil, List.append_nil] at hend
  have hlines := (annotationLines_mention m.annotations).append
    (((((hend.phrase (parametersPhrase_names m.toCallable)).text (" " ++ target ++ "." ++ m.name)).phrase
      hreturn).text (modifiersBefore m.modifiers)).quiet rfl rfl (c := .margin))
  have hsplit : methodEntry Annotation.phrase target m = parameterCheck (target ++ "." ++ m.name)
      m.toCallable ++ (annotationLines Annotation.phrase m.annotations ++ (.margin ::
        .text (modifiersBefore m.modifiers) ::
        .phrase (.whole (m.returnType.returnPieces (Modifier.isStatic m.modifiers))) ::
        .text (" " ++ target ++ "." ++ m.name) ::
        .phrase (parametersPhrase Annotation.phrase m.toCallable) ::
        (throwsClause m.throws ++ bodyEnd m.body))) := by
    simp only [methodEntry, List.append_assoc, List.cons_append, List.nil_append]
  rw [hsplit]
  refine hlines.checked _ (fun h => by rw [namedInParameters_eq h]; rfl) ?_
  exact List.append_subset.mpr ⟨List.subset_append_left _ _,
    List.subset_append_of_subset_right _ (List.append_subset.mpr ⟨List.subset_append_left _ _,
      List.subset_append_of_subset_right _ (List.append_subset.mpr
        ⟨List.subset_append_of_subset_left _ (namedInParameters_subset m.toCallable),
          List.subset_append_right _ _⟩)⟩)⟩

/-! ### Main results -/

/-- **What the chunks name.** The supertypes are those of the introduction, and the names left open are
those of its types, in order, if nothing fails. -/
theorem chunks_mention (i : Introduction) :
    Mentions (i.chunks Annotation.phrase) (i.extended ++ i.implemented) i.named := by
  let target := i.target.simpleName
  have hsections := (opening_mentions i.privileged i.aspect i.target).append <|
    (supertypes_mention target Inheritance.extension.keyword i.extended).append <|
    (supertypes_mention target Inheritance.implementation.keyword i.implemented).append <|
    (Mentions.sections i.typeAnnotations fun a _ => typeAnnotationEntry_mentions target a).append <|
    (Mentions.sections i.fieldAnnotations fun a _ => fieldAnnotationEntry_mentions target a).append <|
    (Mentions.sections i.methodAnnotations fun a _ => methodAnnotationEntry_mentions target a).append <|
    (Mentions.sections i.fields fun f _ => fieldEntry_mentions target f).append <|
    (Mentions.sections i.constructors fun c _ => constructorEntry_mentions target c).append <|
    (Mentions.sections i.methods fun m _ => methodEntry_mentions target m).append <|
    Mentions.nil.quiet (c := .conclude) rfl rfl
  simpa only [chunks, named, typesOf, List.flatMap_append, List.flatMap_map, List.append_assoc,
    List.nil_append, List.append_nil] using hsections

/-- What is written of an introduction names only types that it refers to. -/
theorem chunks_nameOnly {i : Introduction} (h : ∀ t ∈ i.references, t.IsAllowed allowed parent) :
    NameOnly allowed parent (i.chunks Annotation.phrase) := by
  have hmentions := chunks_mention i
  have hnames : ∀ c ∈ i.chunks Annotation.phrase, ∀ u ∈ c.typeNames, allowed u := by
    intro c hc u hu
    obtain ⟨t, ht, hu⟩ := i.named_areFrom u (hmentions.only (List.mem_flatMap.mpr ⟨c, hc, hu⟩))
    rcases hu with rfl | hu
    · exact (h u ht).1
    · rw [← TypeRef.typeNames_pieces] at hu
      exact (h t ht).2.1 u (Piece.mem_typeNames.mp hu)
  intro c hc
  cases c with
  | phrase a => exact fun u hu => hnames _ hc u (Piece.mem_typeNames.mpr hu)
  | line a => exact fun u hu => hnames _ hc u (Piece.mem_typeNames.mpr hu)
  | supertype t =>
    have ht : t ∈ i.extended ++ i.implemented := by
      rw [← hmentions.parents]
      exact List.mem_flatMap.mpr ⟨_, hc, List.mem_singleton_self t⟩
    refine (h t ?_).2.2
    simp only [references, List.append_assoc] at ht ⊢
    rw [← List.append_assoc]
    exact List.mem_append_left _ ht
  | _ => exact trivial

end Introduction

/-! ### The names that are written -/

namespace Imports

theorem pieces_spelled (im : Imports) (ps : List Piece) : (im.spelled ps).map Prod.fst = ps := by
  induction ps generalizing im with
  | nil => rfl
  | cons p rest ih => rw [spelled, List.map_cons, ih]

theorem pieces_spelledSupertype (im : Imports) (t : TypeRef) :
    (im.spelledSupertype t).map Prod.fst = t.pieces := by
  unfold spelledSupertype
  split
  · rw [List.map_map]
    exact List.map_id _
  · exact pieces_spelled _ _

end Imports

namespace Emission

/-- A chunk that is written has no fault, and leaves nothing out. -/
theorem typeNames_spelled (e : Emission) {c : Chunk} (h : (e.step c).1 = none) :
    c.faults = [] ∧ Piece.typeNames ((e.spelled c).map Prod.fst) = c.typeNames := by
  cases c with
  | phrase a =>
    cases hf : a.fault with
    | none => exact ⟨by rw [Chunk.faults, hf]; rfl, by rw [spelled, if_pos hf, Imports.pieces_spelled]; rfl⟩
    | some f => simp [step, Annotation.Phrase.spell, hf] at h
  | line a =>
    cases hf : a.fault with
    | none =>
      refine ⟨by rw [Chunk.faults, hf]; rfl, ?_⟩
      rw [spelled, if_pos hf, List.map_cons, List.map_append, Imports.pieces_spelled,
        ← List.singleton_append, Piece.typeNames_append, Piece.typeNames_append]
      exact List.append_nil _
    | some f => simp [step, Annotation.Phrase.spell, hf] at h
  | supertype t =>
    exact ⟨rfl, by rw [spelled, Imports.pieces_spelledSupertype, TypeRef.typeNames_pieces]; rfl⟩
  | conclude =>
    refine ⟨rfl, ?_⟩
    rw [spelled]
    split <;> rfl
  | stop f => cases h
  | _ => exact ⟨rfl, rfl⟩

/-- Where nothing fails, the names of all chunks are written. -/
theorem typeNames_written {cs : List Chunk} {e : Emission} (h : (e.run cs).1 = none) :
    cs.flatMap Chunk.faults = [] ∧
      Piece.typeNames ((e.written cs).map Prod.fst) = cs.flatMap Chunk.typeNames := by
  induction cs generalizing e with
  | nil => exact ⟨rfl, rfl⟩
  | cons c rest ih =>
    rw [run] at h
    rcases hstep : e.step c with ⟨_ | f, after⟩
    · obtain ⟨hfaults, hnames⟩ := e.typeNames_spelled (c := c) (by rw [hstep])
      rw [hstep] at h
      obtain ⟨hrest, hmore⟩ := ih h
      rw [written, hstep, List.flatMap_cons, List.flatMap_cons, hfaults, hrest, List.map_append,
        Piece.typeNames_append, hnames, hmore]
      exact ⟨rfl, rfl⟩
    · rw [hstep] at h
      cases h

end Emission

/-! ### Chunks that can be written -/

/-- Whether the types that the chunks name can be written. -/
def Chunk.AreClear (cs : List Chunk) : Prop :=
  ∀ c ∈ cs, c.IsClear

/-- A reference that can be written may stand anywhere. -/
theorem TypeRef.IsClear.isAllowed {t : TypeRef} (h : t.IsClear) :
    t.IsAllowed (fun u => u.IsDerived ∧ u.wildcard ≠ some .unbounded) TypeRef.IsClear := by
  refine ⟨⟨h.1 t t.self_mem_nodes, h.2⟩, fun u hu => ?_, h⟩
  obtain ⟨hn, -, hw⟩ := TypeRef.mem_pieces hu
  exact ⟨h.1 u hn, hw⟩

/-- What is written of an introduction can be, if the types that it refers to can. -/
theorem Introduction.clear_chunks {i : Introduction} (h : ∀ t ∈ i.references, t.IsClear) :
    Chunk.AreClear (i.chunks Annotation.phrase) := by
  intro c hc
  have hnames := chunks_nameOnly (fun t ht => (h t ht).isAllowed) c hc
  cases c with
  | phrase a => exact hnames
  | line a => exact hnames
  | supertype t => exact hnames
  | _ => exact trivial

end Intertype
