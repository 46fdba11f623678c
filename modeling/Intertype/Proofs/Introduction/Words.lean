/-
# The words of an introduction

The names of types, members and parameters, the names of attributes and of enum constants and the
initializers of fields come into the source text as they are. Everything else that is written on a line
has no line feed whatever it stands for. So where none of the words of an introduction has one, no piece
of the text of its parts has, however the type names in it are spelled.

Key definitions: `TypeRef.words`, `Annotation.words`, `Introduction.Part.words`, `Introduction.words`,
`Piece.IsOneLine`.
Key theorems: `TypeRef.pieces_oneLine`, `Annotation.phrase_oneLine`,
`Introduction.parametersPhrase_oneLine`, `Imports.oneLine_spell`, `Imports.oneLine_spellSupertype`.
-/
import Intertype.Proofs.Annotation.Parts
import Intertype.Proofs.Emission.Written
import Intertype.Proofs.Introduction.Parts
import Intertype.Proofs.Text.Lined

namespace Intertype

open Text (OneLine)

/-! ### Words -/

/-- The names of the types in a reference. -/
def TypeRef.words (t : TypeRef) : List String :=
  t.nodes.map (·.name)

/-- The names in a value, those of its parts left out. -/
def Annotation.Value.ownWords : Annotation.Value → List String
  | .classOf t => [t.name]
  | .enumConstant t constant => [t.name, constant]
  | .nested t attributes => t.name :: attributes.map Prod.fst
  | _ => []

/-- The names in an annotation: of types, of attributes and of enum constants. -/
def Annotation.words (a : Annotation) : List String :=
  (Value.nested a.type a.attributes).parts.flatMap Value.ownWords

def Field.words (f : Field) : List String :=
  f.name :: (f.type.words ++ f.annotations.flatMap Annotation.words ++ f.initializer.toList)

def ParameterType.words (p : ParameterType) : List String :=
  p.type.words ++ p.annotations.flatMap Annotation.words

def Callable.words (c : Callable) : List String :=
  c.parameterTypes.flatMap ParameterType.words ++ c.parameterNames ++
    c.annotations.flatMap Annotation.words

def Method.words (m : Method) : List String :=
  m.name :: (m.toCallable.words ++ m.returnType.words ++ m.throws.flatMap TypeRef.words)

def FieldAnnotation.words (a : FieldAnnotation) : List String :=
  a.field.name :: a.annotation.words

def MethodAnnotation.words (a : MethodAnnotation) : List String :=
  a.method.name :: (a.method.returnType.words ++
    a.method.parameterTypes.flatMap (·.type.words) ++ a.annotation.words)

namespace Introduction

/-- The names and initializers that are written for the part. -/
def Part.words : Part → List String
  | .field f => f.words
  | .constructor c => c.words
  | .method m => m.words
  | .extended t => t.words
  | .implemented t => t.words
  | .onType a => a.words
  | .onField a => a.words
  | .onMethod a => a.words
  | .imported _ => []

/-- The names and initializers that are written into the aspect. -/
def words (i : Introduction) : List String :=
  i.target.name :: i.aspect.name :: i.parts.flatMap Part.words

end Introduction

/-! ### Names -/

namespace TypeRef

variable {t : TypeRef}

theorem oneLine_simpleName (h : OneLine t.name) : OneLine t.simpleName :=
  Text.oneLine_ofList fun hc => h (Dotted.last_subset t.name.toList hc)

theorem oneLine_relativeName (h : OneLine t.name) : OneLine t.relativeName := by
  refine Text.oneLine_ofList fun hc => h ?_
  unfold withoutPackage at hc
  split at hc
  · exact hc
  · cases hrest : (t.packageName.toList ++ ['.']).isPrefixOf? t.name.toList with
    | none => rwa [hrest] at hc
    | some rest =>
      rw [hrest] at hc
      rw [← List.isPrefixOf?_eq_some_iff_append_eq.mp hrest]
      exact List.mem_append_right _ hc

theorem mem_addNew {v : String} : ∀ {xs seen : List String}, v ∈ addNew seen xs → v ∈ seen ∨ v ∈ xs
  | [], _, h => Or.inl h
  | x :: rest, seen, h => by
    rw [addNew] at h
    rcases mem_addNew h with h | h
    · split at h
      · exact Or.inl h
      · rcases List.mem_append.mp h with h | h
        · exact Or.inl h
        · exact Or.inr (List.mem_singleton.mp h ▸ List.mem_cons_self)
    · exact Or.inr (List.mem_cons_of_mem x h)

theorem mem_addVariables {v : String} : ∀ {ts : List TypeRef} {seen : List String},
    v ∈ addVariables seen ts → v ∈ seen ∨ ∃ t ∈ ts, v ∈ t.typeVariables
  | [], _, h => Or.inl (by rwa [addVariables] at h)
  | t :: rest, seen, h => by
    rw [addVariables] at h
    rcases mem_addVariables h with h | ⟨u, hu, h⟩
    · exact (mem_addNew h).imp_right fun h => ⟨t, List.mem_cons_self, h⟩
    · exact Or.inr ⟨u, List.mem_cons_of_mem t hu, h⟩

/-- The type variables that a reference uses are called by the simple names of its nodes. -/
theorem exists_node_of_mem_typeVariables {v : String} (h : v ∈ t.typeVariables) :
    ∃ u ∈ t.nodes, v = u.simpleName := by
  induction t using inductionOn with
  | node t ih =>
    obtain ⟨name, args, dims, kind, wildcard, package⟩ := t
    rw [typeVariables] at h
    split at h
    · exact absurd h List.not_mem_nil
    · rcases mem_addVariables h with h | ⟨a, ha, h⟩
      · split at h
        · exact ⟨_, self_mem_nodes _, List.mem_singleton.mp h⟩
        · exact absurd h List.not_mem_nil
      · obtain ⟨u, hu, hv⟩ := ih a ha h
        exact ⟨u, mem_nodes_of_arg ha hu, hv⟩

end TypeRef

/-! ### Pieces -/

/-- Whether what the piece shows has no line feed, whatever its type name is spelled like. -/
def Piece.IsOneLine : Piece → Prop
  | .text s => OneLine s
  | .typeVariable name => OneLine name
  | .typeName t => OneLine t.name

/-- Whether what the pieces show has no line feed. -/
def Piece.AreOneLine (ps : List Piece) : Prop :=
  ∀ p ∈ ps, p.IsOneLine

namespace Piece.AreOneLine

theorem nil : AreOneLine [] :=
  fun _ hp => absurd hp List.not_mem_nil

theorem cons {p : Piece} {ps : List Piece} (hp : p.IsOneLine) (h : AreOneLine ps) :
    AreOneLine (p :: ps) :=
  fun _ hq => (List.mem_cons.mp hq).elim (fun he => he ▸ hp) (h _)

theorem text {s : String} (h : OneLine s) : AreOneLine [.text s] :=
  nil.cons h

theorem append {a b : List Piece} (ha : AreOneLine a) (hb : AreOneLine b) : AreOneLine (a ++ b) :=
  fun p hp => (List.mem_append.mp hp).elim (ha p) (hb p)

theorem listed {separator : String} (h : OneLine separator) : ∀ {pss : List (List Piece)},
    (∀ ps ∈ pss, AreOneLine ps) → AreOneLine (Piece.listed separator pss)
  | [], _ => nil
  | [ps], hps => hps ps List.mem_cons_self
  | ps :: _ :: _, hps =>
    (hps ps List.mem_cons_self).append
      (cons h (listed h fun qs hqs => hps qs (List.mem_cons_of_mem ps hqs)))

theorem inFull {ps : List Piece} (h : AreOneLine ps) : OneLine (Piece.spelledInFull ps) := by
  induction ps with
  | nil => exact Text.oneLine_empty
  | cons p rest ih =>
    have hp := h p List.mem_cons_self
    refine Text.OneLine.append ?_ (ih fun q hq => h q (List.mem_cons_of_mem p hq))
    cases p with
    | text s => exact hp
    | typeVariable name => exact hp
    | typeName t => exact hp

end Piece.AreOneLine

namespace TypeRef

variable {t : TypeRef}

theorem oneLine_brackets (n : Nat) : OneLine (brackets n) :=
  Text.oneLine_repeated (by decide) n

theorem oneLine_of_words (h : ∀ w ∈ t.words, OneLine w) {u : TypeRef} (hu : u ∈ t.nodes) :
    OneLine u.name :=
  h u.name (List.mem_map_of_mem hu)

theorem pieces_oneLine (h : ∀ w ∈ t.words, OneLine w) : Piece.AreOneLine t.pieces := by
  induction t using inductionOn with
  | node t ih =>
    have hname : OneLine t.name := oneLine_of_words h t.self_mem_nodes
    have hpiece : t.namePiece.IsOneLine := by
      unfold namePiece
      split
      · exact oneLine_simpleName hname
      · exact hname
    have hwildcard : OneLine (wildcardText t.wildcard) := by
      cases t.wildcard with
      | none => decide
      | some w => cases w <;> decide
    rw [pieces_eq]
    split
    · exact .text (by decide)
    split
    · exact .text (hname.append (oneLine_brackets _))
    refine .cons hwildcard (.cons hpiece ?_)
    split
    · exact .text (oneLine_brackets _)
    · have hargs : Piece.AreOneLine (Piece.listed ", " (t.args.map pieces)) := by
        refine .listed (by decide) fun ps hps => ?_
        obtain ⟨a, ha, rfl⟩ := List.mem_map.mp hps
        refine ih a ha fun w hw => ?_
        obtain ⟨u, hu, rfl⟩ := List.mem_map.mp hw
        exact oneLine_of_words h (mem_nodes_of_arg ha hu)
      have hopen : Piece.IsOneLine (.text "<") := by
        show OneLine "<"
        decide
      exact .cons hopen (hargs.append (.text (Text.OneLine.append (by decide) (oneLine_brackets _))))

theorem returnPieces_oneLine (h : ∀ w ∈ t.words, OneLine w) (static : Bool) :
    Piece.AreOneLine (t.returnPieces static) := by
  unfold returnPieces
  split
  · refine .cons ?_ (pieces_oneLine h)
    show OneLine t.variableDeclaration
    unfold variableDeclaration
    split
    · decide
    · have hvariables : OneLine (Text.joined ", " t.typeVariables) := by
        refine Text.oneLine_joined (by decide) fun v hv => ?_
        obtain ⟨u, hu, rfl⟩ := exists_node_of_mem_typeVariables hv
        exact oneLine_simpleName (oneLine_of_words h hu)
      exact (Text.OneLine.append (by decide) hvariables).append (by decide)
  · exact pieces_oneLine h

end TypeRef

/-! ### Annotations -/

namespace Annotation

theorem Phrase.append_oneLine {a b : Phrase} (ha : Piece.AreOneLine a.pieces)
    (hb : Piece.AreOneLine b.pieces) : Piece.AreOneLine (a ++ b).pieces :=
  fun p hp => (Phrase.mem_append_pieces hp).elim (ha p) (hb p)

theorem Phrase.listed_oneLine {separator : String} (h : OneLine separator) : ∀ {as : List Phrase},
    (∀ a ∈ as, Piece.AreOneLine a.pieces) → Piece.AreOneLine (Phrase.listed separator as).pieces
  | [], _ => .nil
  | [a], ha => ha a List.mem_cons_self
  | a :: _ :: _, ha =>
    append_oneLine (ha a List.mem_cons_self) (append_oneLine (.text h)
      (listed_oneLine h fun b hb => ha b (List.mem_cons_of_mem a hb)))

theorem attributeList_oneLine {attributes : List (String × Phrase)}
    (h : ∀ p ∈ attributes, OneLine p.1 ∧ Piece.AreOneLine p.2.pieces) :
    Piece.AreOneLine (attributeList attributes).pieces := by
  match attributes, h with
  | [], _ => exact .nil
  | [p], h =>
    obtain ⟨hname, hvalue⟩ := h p List.mem_cons_self
    refine Phrase.append_oneLine (.text ?_) (Phrase.append_oneLine hvalue (.text (by decide)))
    split
    · decide
    · exact (Text.OneLine.append (by decide) hname).append (by decide)
  | p :: q :: more, h =>
    refine Phrase.append_oneLine (.text (by decide))
      (Phrase.append_oneLine (Phrase.listed_oneLine (by decide) fun a ha => ?_) (.text (by decide)))
    obtain ⟨r, hr, rfl⟩ := List.mem_map.mp ha
    obtain ⟨hname, hvalue⟩ := h r hr
    exact Phrase.append_oneLine (.text (hname.append (by decide))) hvalue

/-- The words of a value are its own and those of its parts. -/
theorem value_oneLine (v : Value) (h : ∀ w ∈ v.parts.flatMap Value.ownWords, OneLine w) :
    Piece.AreOneLine v.phrase.pieces := by
  induction v using Value.inductionOn with
  | simple v hv =>
    cases v with
    | string s => exact .text (Text.oneLine_stringLiteral s)
    | boolean b => cases b <;> exact .text (by decide)
    | integer i => exact .text (Text.oneLine_integerLiteral i)
    | double x =>
      unfold Value.phrase
      split
      · exact .text (Text.oneLine_double x)
      · exact .nil
    | classOf t =>
      have ht : OneLine t.name := h t.name (by simp [Value.parts, Value.ownWords])
      exact .cons ht (.text ((TypeRef.oneLine_brackets _).append (by decide)))
    | enumConstant t constant =>
      have ht : OneLine t.name := h t.name (by simp [Value.parts, Value.ownWords])
      have hc : OneLine constant := h constant (by simp [Value.parts, Value.ownWords])
      exact .cons ht (.text (Text.OneLine.append (by decide) hc))
    | unsupported shown => exact .nil
    | nested t attributes => cases hv
    | array items => cases hv
  | nested t attributes ih =>
    rw [Value.parts, List.flatMap_cons, attributeParts_eq, List.flatMap_assoc] at h
    have hown : ∀ w ∈ Value.ownWords (.nested t attributes), OneLine w :=
      fun w hw => h w (List.mem_append_left _ hw)
    have htype : Piece.AreOneLine [.text "@", .typeName t] :=
      .cons (p := .text "@") (show OneLine "@" by decide)
        (.cons (p := .typeName t) (hown t.name List.mem_cons_self) .nil)
    refine Phrase.append_oneLine htype (attributeList_oneLine ?_)
    rw [attributePhrases_eq]
    intro p hp
    obtain ⟨q, hq, rfl⟩ := List.mem_map.mp hp
    refine ⟨hown q.1 (List.mem_cons_of_mem _ (List.mem_map_of_mem hq)), ih q hq fun w hw => ?_⟩
    exact h w (List.mem_append_right _ (List.mem_flatMap.mpr ⟨q, hq, hw⟩))
  | array items ih =>
    rw [Value.parts, List.flatMap_cons, itemParts_eq, List.flatMap_assoc] at h
    refine Phrase.append_oneLine (.text (by decide))
      (Phrase.append_oneLine (Phrase.listed_oneLine (by decide) ?_) (.text (by decide)))
    rw [itemPhrases_eq]
    intro a ha
    obtain ⟨v, hv, rfl⟩ := List.mem_map.mp ha
    exact ih v hv fun w hw => h w (List.mem_append_right _ (List.mem_flatMap.mpr ⟨v, hv, hw⟩))

theorem phrase_oneLine {a : Annotation} (h : ∀ w ∈ a.words, OneLine w) :
    Piece.AreOneLine a.phrase.pieces :=
  value_oneLine (.nested a.type a.attributes) h

end Annotation

/-! ### Members -/

namespace Introduction

open Annotation (phrase_oneLine Phrase.append_oneLine Phrase.listed_oneLine)

theorem oneLine_modifiersBefore (mask : Int) : OneLine (modifiersBefore mask) := by
  unfold modifiersBefore
  split
  · exact Text.oneLine_empty
  · exact (Text.oneLine_modifiers mask).append (by decide)

theorem parameterPhrase_oneLine {p : ParameterType} (h : ∀ w ∈ p.words, OneLine w) {name : String}
    (hname : OneLine name) :
    Piece.AreOneLine (parameterPhrase Annotation.phrase p name).pieces := by
  refine Phrase.listed_oneLine (by decide) fun a ha => ?_
  rcases List.mem_append.mp ha with ha | ha
  · obtain ⟨b, hb, rfl⟩ := List.mem_map.mp ha
    exact phrase_oneLine fun w hw =>
      h w (List.mem_append_right _ (List.mem_flatMap.mpr ⟨b, hb, hw⟩))
  · rcases List.mem_cons.mp ha with rfl | ha
    · exact TypeRef.pieces_oneLine fun w hw => h w (List.mem_append_left _ hw)
    · rw [List.mem_singleton.mp ha]
      exact .text hname

theorem parametersPhrase_oneLine {c : Callable} (h : ∀ w ∈ c.words, OneLine w) :
    Piece.AreOneLine (parametersPhrase Annotation.phrase c).pieces := by
  refine Phrase.append_oneLine (.text (by decide)) (Phrase.append_oneLine
    (Phrase.listed_oneLine (by decide) fun a ha => ?_) (.text (by decide)))
  obtain ⟨n, hn, rfl⟩ := List.mem_iff_getElem.mp ha
  rw [List.getElem_zipWith]
  refine parameterPhrase_oneLine (fun w hw => h w ?_) (h _ ?_)
  · exact List.mem_append_left _ (List.mem_append_left _
      (List.mem_flatMap.mpr ⟨_, List.getElem_mem _, hw⟩))
  · exact List.mem_append_left _ (List.mem_append_right _ (List.getElem_mem _))

end Introduction

/-! ### Spelled texts -/

namespace Imports

theorem oneLine_resolve (im : Imports) {t : TypeRef} (h : OneLine t.name) :
    OneLine (im.resolve t).1 := by
  rw [resolve_fst]
  split
  · exact TypeRef.oneLine_simpleName h
  split
  · exact h
  split
  · exact TypeRef.oneLine_simpleName h
  · exact TypeRef.oneLine_relativeName h

theorem oneLine_spell {ps : List Piece} (h : Piece.AreOneLine ps) (im : Imports) :
    OneLine (im.spell ps).1 := by
  induction ps generalizing im with
  | nil => exact Text.oneLine_empty
  | cons p rest ih =>
    have hp := h p List.mem_cons_self
    refine Text.OneLine.append ?_ (ih (fun q hq => h q (List.mem_cons_of_mem p hq)) _)
    cases p with
    | text s => exact hp
    | typeVariable name => exact hp
    | typeName t => exact im.oneLine_resolve hp

theorem oneLine_spellSupertype {t : TypeRef} (h : Piece.AreOneLine t.pieces) (im : Imports) :
    OneLine (im.spellSupertype t).1 := by
  rw [spellSupertype_eq]
  split
  · exact h.inFull
  · exact oneLine_spell h _

end Imports
end Intertype
