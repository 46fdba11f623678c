/-
# The parts of an annotation

The values in an annotation are those of its attributes and, at any depth, the items of arrays and the
attributes of nested annotations. `Value.parts` lists them in reading order, each before what is in
it; the types that an annotation names (`Annotation.types`) and the reasons why it has no source text
(`Annotation.faults`) are read off them. The text ends at the first of the faults (`phrase_fault`), and
the type names left open in it are those of the types, all of them if there is no fault (`names_phrase`).

Key definitions: `Annotation.Value.parts`, `Annotation.types`, `Annotation.faults`,
`Annotation.Phrase.Names`.
Key theorems: `Annotation.names_phrase`, `Annotation.phrase_fault`.
-/
import Intertype.Proofs.TypeRef.Tree
import Intertype.Annotation

namespace Intertype
namespace Annotation

mutual
/-- The value and the values in it. -/
def Value.parts : Value → List Value
  | .nested t attributes => .nested t attributes :: attributeParts attributes
  | .array items => .array items :: itemParts items
  | v => [v]

/-- The values in the items of an array. -/
def itemParts : List Value → List Value
  | [] => []
  | v :: rest => v.parts ++ itemParts rest

/-- The values in a list of attributes. -/
def attributeParts : List (String × Value) → List Value
  | [] => []
  | (_, v) :: rest => v.parts ++ attributeParts rest
end

/-- The values in an annotation. -/
def parts (a : Annotation) : List Value :=
  attributeParts a.attributes

/-- The type that a value names itself, its parts left out. -/
def Value.ownTypes : Value → List TypeRef
  | .classOf t => [t]
  | .enumConstant t _ => [t]
  | .nested t _ => [t]
  | _ => []

/-- The types that an annotation names. -/
def types (a : Annotation) : List TypeRef :=
  a.type :: a.parts.flatMap Value.ownTypes

/-- Why a value has no source text, its parts left out: it is a double without a finite value, or of
an unsupported kind. -/
def Value.ownFault : Value → Option Fault
  | .double x => if x.isFinite then none else some (.nonFinite x)
  | .unsupported shown => some (.unsupported shown)
  | _ => none

/-- Why an annotation has no source text, in reading order. -/
def faults (a : Annotation) : List Fault :=
  a.parts.filterMap Value.ownFault

/-! ### Induction -/

/-- Whether a value has no values in it. -/
def Value.isSimple : Value → Bool
  | .nested _ _ => false
  | .array _ => false
  | _ => true

/-- What holds of every value if it holds of its items and attributes, holds of every value. -/
@[elab_as_elim]
theorem Value.inductionOn {motive : Value → Prop} (v : Value)
    (simple : ∀ v : Value, v.isSimple = true → motive v)
    (nested : ∀ t attributes, (∀ p ∈ attributes, motive p.2) → motive (.nested t attributes))
    (array : ∀ items, (∀ v ∈ items, motive v) → motive (.array items)) : motive v := by
  refine @Value.rec motive (fun ps => ∀ p ∈ ps, motive p.2) (fun vs => ∀ v ∈ vs, motive v)
    (fun p => motive p.2)
    ?_ ?_ ?_ ?_ ?_ ?_ ?_ ?_ ?_ ?_ ?_ ?_ ?_ ?_ v
  · exact fun s => simple _ rfl
  · exact fun b => simple _ rfl
  · exact fun i => simple _ rfl
  · exact fun x => simple _ rfl
  · exact fun t => simple _ rfl
  · exact fun t c => simple _ rfl
  · exact nested
  · exact array
  · exact fun shown => simple _ rfl
  · exact fun p hp => absurd hp List.not_mem_nil
  · intro p rest hp hrest q hq
    rcases List.mem_cons.mp hq with rfl | hq
    · exact hp
    · exact hrest q hq
  · exact fun v hv => absurd hv List.not_mem_nil
  · intro v rest hv hrest w hw
    rcases List.mem_cons.mp hw with rfl | hw
    · exact hv
    · exact hrest w hw
  · exact fun name v hv => hv

theorem itemParts_eq : ∀ vs : List Value, itemParts vs = vs.flatMap Value.parts
  | [] => rfl
  | v :: rest => by rw [itemParts, itemParts_eq rest, List.flatMap_cons]

theorem attributeParts_eq : ∀ ps : List (String × Value),
    attributeParts ps = ps.flatMap fun p => p.2.parts
  | [] => rfl
  | (_, v) :: rest => by rw [attributeParts, attributeParts_eq rest, List.flatMap_cons]

theorem itemPhrases_eq : ∀ vs : List Value, itemPhrases vs = vs.map Value.phrase
  | [] => rfl
  | v :: rest => by rw [itemPhrases, itemPhrases_eq rest, List.map_cons]

theorem attributePhrases_eq : ∀ ps : List (String × Value),
    attributePhrases ps = ps.map fun p => (p.1, p.2.phrase)
  | [] => rfl
  | (_, v) :: rest => by rw [attributePhrases, attributePhrases_eq rest, List.map_cons]

/-! ### The names in a phrase -/

/-- The phrase leaves open the names of types among these only, and if it is whole of just these, in
order. -/
structure Phrase.Names (a : Phrase) (types : List TypeRef) : Prop where
  only : Piece.typeNames a.pieces ⊆ types
  all : a.fault = none → Piece.typeNames a.pieces = types

namespace Phrase

theorem append_fault (a b : Phrase) : (a ++ b).fault = a.fault.or b.fault := by
  show (append a b).fault = _
  unfold append
  cases ha : a.fault with
  | none => rfl
  | some f => exact ha

theorem mem_append_pieces {a b : Phrase} {p : Piece} (h : p ∈ (a ++ b).pieces) :
    p ∈ a.pieces ∨ p ∈ b.pieces := by
  change p ∈ (append a b).pieces at h
  unfold append at h
  split at h
  · exact List.mem_append.mp h
  · exact Or.inl h

theorem names_whole (ps : List Piece) : (whole ps).Names (Piece.typeNames ps) :=
  ⟨List.Subset.refl _, fun _ => rfl⟩

theorem Names.append {a b : Phrase} {types others : List TypeRef} (ha : a.Names types)
    (hb : b.Names others) : (a ++ b).Names (types ++ others) := by
  show (Phrase.append a b).Names _
  unfold Phrase.append
  cases hf : a.fault with
  | none =>
    refine ⟨?_, fun hb' => ?_⟩
    · rw [Piece.typeNames_append]
      exact List.append_subset.mpr ⟨List.subset_append_of_subset_left _ ha.only,
        List.subset_append_of_subset_right _ hb.only⟩
    · rw [Piece.typeNames_append, ha.all hf, hb.all hb']
  | some f =>
    refine ⟨List.subset_append_of_subset_left _ ha.only, fun hn => ?_⟩
    rw [hf] at hn
    cases hn

theorem Names.listed (separator : String) {α : Type} {f : α → Phrase} {g : α → List TypeRef} :
    ∀ xs : List α, (∀ x ∈ xs, (f x).Names (g x)) →
      (Phrase.listed separator (xs.map f)).Names (xs.flatMap g)
  | [], _ => names_whole []
  | [x], h => by simpa [Phrase.listed] using h x List.mem_cons_self
  | x :: y :: more, h => by
    have hrest := Names.listed separator (y :: more) fun z hz => h z (List.mem_cons_of_mem _ hz)
    exact (h x List.mem_cons_self).append ((names_whole [.text separator]).append hrest)

end Phrase

/-! ### What a phrase shows -/

/-- The phrase is the source text of the values: it ends at the first fault among them, and the type
names left open in it are theirs. -/
structure Phrase.Shows (a : Phrase) (vs : List Value) : Prop where
  fault : a.fault = (vs.filterMap Value.ownFault).head?
  names : a.Names (vs.flatMap Value.ownTypes)

namespace Phrase

theorem Shows.append {a b : Phrase} {vs ws : List Value} (ha : a.Shows vs) (hb : b.Shows ws) :
    (a ++ b).Shows (vs ++ ws) where
  fault := by rw [append_fault, ha.fault, hb.fault, List.filterMap_append, List.head?_append]
  names := by
    rw [List.flatMap_append]
    exact ha.names.append hb.names

/-- Text without type names shows nothing. -/
theorem shows_text (s : String) : (whole [.text s]).Shows [] :=
  ⟨rfl, names_whole _⟩

/-- A whole text shows a value without a fault if it leaves open the names of its types. -/
theorem shows_whole {ps : List Piece} {v : Value} (hf : v.ownFault = none)
    (hn : Piece.typeNames ps = v.ownTypes) : (whole ps).Shows [v] where
  fault := by simp [whole, hf]
  names := by
    rw [List.flatMap_singleton, ← hn]
    exact names_whole ps

/-- Where there is a fault nothing is written. -/
theorem shows_fault {v : Value} {f : Fault} (hf : v.ownFault = some f) (ht : v.ownTypes = []) :
    (⟨[], some f⟩ : Phrase).Shows [v] where
  fault := by simp [hf]
  names := by
    rw [List.flatMap_singleton, ht]
    exact ⟨List.Subset.refl _, fun _ => rfl⟩

theorem Shows.listed (separator : String) {α : Type} {f : α → Phrase} {g : α → List Value} :
    ∀ xs : List α, (∀ x ∈ xs, (f x).Shows (g x)) →
      (Phrase.listed separator (xs.map f)).Shows (xs.flatMap g)
  | [], _ => ⟨rfl, names_whole []⟩
  | [x], h => by simpa [Phrase.listed] using h x List.mem_cons_self
  | x :: y :: more, h => by
    have hrest := Shows.listed separator (y :: more)
      fun z hz => h z (List.mem_cons_of_mem _ hz)
    rw [List.flatMap_cons]
    exact (h x List.mem_cons_self).append ((shows_text separator).append hrest)

end Phrase

/-- A list of attributes shows the values of the attributes. -/
theorem shows_attributeList {attributes : List (String × Value)}
    (h : ∀ p ∈ attributes, p.2.phrase.Shows p.2.parts) :
    (attributeList (attributePhrases attributes)).Shows (attributeParts attributes) := by
  rw [attributePhrases_eq, attributeParts_eq]
  match attributes, h with
  | [], _ => exact ⟨rfl, Phrase.names_whole []⟩
  | [p], h =>
    have hp := h p List.mem_cons_self
    simpa [attributeList] using
      (Phrase.shows_text _).append (hp.append (Phrase.shows_text ")"))
  | p :: q :: more, h =>
    have hall := Phrase.Shows.listed ", "
      (f := fun p : String × Value => .whole [.text (p.1 ++ " = ")] ++ p.2.phrase)
      (g := fun p => p.2.parts) (p :: q :: more)
      fun r hr => (Phrase.shows_text (r.1 ++ " = ")).append (h r hr)
    have := (Phrase.shows_text "(").append (hall.append (Phrase.shows_text ")"))
    rw [List.append_nil, List.nil_append] at this
    simpa [attributeList, List.map_map, Function.comp_def] using this

theorem shows_phrase (v : Value) : v.phrase.Shows v.parts := by
  induction v using Value.inductionOn with
  | simple v hv =>
    cases v with
    | string s => exact Phrase.shows_whole rfl rfl
    | boolean b => exact Phrase.shows_whole rfl rfl
    | integer i => exact Phrase.shows_whole rfl rfl
    | double x =>
      unfold Value.phrase
      split
      · rename_i hx
        exact Phrase.shows_whole (by rw [Value.ownFault, if_pos hx]) rfl
      · rename_i hx
        exact Phrase.shows_fault (by rw [Value.ownFault, if_neg hx]) rfl
    | classOf t => exact Phrase.shows_whole rfl rfl
    | enumConstant t constant => exact Phrase.shows_whole rfl rfl
    | unsupported shown => exact Phrase.shows_fault rfl rfl
    | nested t attributes => cases hv
    | array items => cases hv
  | nested t attributes ih =>
    have ht : (Phrase.whole [.text "@", .typeName t]).Shows [Value.nested t attributes] :=
      Phrase.shows_whole rfl rfl
    exact ht.append (shows_attributeList ih)
  | array items ih =>
    have hopen : (Phrase.whole [.text "\x7b"]).Shows [Value.array items] :=
      Phrase.shows_whole rfl rfl
    have hitems := Phrase.Shows.listed ", " items ih
    rw [← itemPhrases_eq, ← itemParts_eq] at hitems
    have := hopen.append (hitems.append (Phrase.shows_text "\x7d"))
    rwa [List.append_nil] at this

/-! ### Main results -/

/-- The source text of an annotation ends at the first of its faults, and is whole if it has none. -/
theorem phrase_fault (a : Annotation) : a.phrase.fault = a.faults.head? :=
  (shows_phrase (.nested a.type a.attributes)).fault

/-- The type names left open in the source text of an annotation are of types that it names, and of all
of them, in order, if the text is whole. -/
theorem names_phrase (a : Annotation) : a.phrase.Names a.types :=
  (shows_phrase (.nested a.type a.attributes)).names

theorem mem_phrase {a : Annotation} {u : TypeRef} (h : Piece.typeName u ∈ a.phrase.pieces) :
    u ∈ a.types :=
  (names_phrase a).only (Piece.mem_typeNames.mpr h)

end Annotation
end Intertype
