/-
# Places in an annotation

A value stands at a place in an annotation: as the value of an attribute, as an item of an array, or
further inside one of those. `Place` is an annotation with such a place left open. The source text
before and behind the place does not depend on what fills it (`Place.surrounded`): before it stands the
text of what is around the place, which ends in an opening parenthesis, an opening brace or a space,
and behind it a comma, a closing parenthesis or a closing brace comes first.

Key definitions: `Annotation.Place`, `Annotation.FollowsValue`, `Annotation.sourceForm`.
Key theorems: `Annotation.Value.mem_parts_iff`, `Annotation.Place.surrounded`.
-/
import Intertype.Proofs.Annotation.Parts

namespace Intertype
namespace Annotation

/-! ### Phrases one after the other -/

namespace Phrase

theorem append_of_fault {a : Phrase} {f : Fault} (h : a.fault = some f) (b : Phrase) : a ++ b = a := by
  show append a b = a
  unfold append
  rw [h]

theorem append_of_whole {a : Phrase} (h : a.fault = none) (b : Phrase) :
    a ++ b = ⟨a.pieces ++ b.pieces, b.fault⟩ := by
  show append a b = _
  unfold append
  rw [h]

theorem append_assoc (a b c : Phrase) : a ++ b ++ c = a ++ (b ++ c) := by
  cases ha : a.fault with
  | some f => rw [append_of_fault ha, append_of_fault ha, append_of_fault ha]
  | none =>
    rw [append_of_whole ha, append_of_whole ha]
    cases hb : b.fault with
    | some f => rw [append_of_fault (f := f) rfl, append_of_fault hb, hb]
    | none => rw [append_of_whole rfl, append_of_whole hb, List.append_assoc]

@[simp] theorem nil_append (a : Phrase) : whole [] ++ a = a := rfl

@[simp] theorem append_nil (a : Phrase) : a ++ whole [] = a := by
  cases ha : a.fault with
  | some f => exact append_of_fault ha _
  | none =>
    rw [append_of_whole ha]
    show (⟨a.pieces ++ [], none⟩ : Phrase) = a
    rw [List.append_nil, ← ha]

/-- Phrases with the separator behind each. -/
def ahead (separator : String) : List Phrase → Phrase
  | [] => whole []
  | a :: rest => a ++ (whole [.text separator] ++ ahead separator rest)

/-- Phrases with the separator before each. -/
def behind (separator : String) : List Phrase → Phrase
  | [] => whole []
  | a :: rest => whole [.text separator] ++ (a ++ behind separator rest)

theorem listed_cons (separator : String) (a : Phrase) : ∀ rest : List Phrase,
    listed separator (a :: rest) = a ++ behind separator rest
  | [] => (append_nil a).symm
  | b :: more => by rw [listed, listed_cons separator b more, behind]

/-- A list of phrases around one of them. -/
theorem listed_append (separator : String) (a : Phrase) (rest : List Phrase) : ∀ before : List Phrase,
    listed separator (before ++ a :: rest) =
      ahead separator before ++ (a ++ behind separator rest)
  | [] => listed_cons separator a rest
  | b :: more => by
    have hmore := listed_append separator a rest more
    have hcons : ∃ c others, more ++ a :: rest = c :: others :=
      List.exists_cons_of_ne_nil (List.append_ne_nil_of_right_ne_nil _ (List.cons_ne_nil _ _))
    obtain ⟨c, others, hc⟩ := hcons
    rw [List.cons_append, hc, listed, ← hc, hmore, ahead, append_assoc, append_assoc]

end Phrase

/-! ### Places -/

/-- A value in which one place is left open. -/
inductive Place
  /-- The value itself is left open. -/
  | here
  /-- The place is in an item of an array. -/
  | inArray (before : List Value) (inside : Place) (after : List Value)
  /-- The place is in the value of an attribute of a nested annotation. -/
  | inNested (type : TypeRef) (before : List (String × Value)) (name : String) (inside : Place)
      (after : List (String × Value))

/-- The value with the place filled. -/
def Place.fill (v : Value) : Place → Value
  | here => v
  | inArray before inside after => .array (before ++ inside.fill v :: after)
  | inNested type before name inside after =>
    .nested type (before ++ (name, inside.fill v) :: after)

/-- An annotation as a value. -/
def value (a : Annotation) : Value :=
  .nested a.type a.attributes

theorem phrase_value (a : Annotation) : a.value.phrase = a.phrase := rfl

theorem Value.parts_of_isSimple {v : Value} (h : v.isSimple = true) : v.parts = [v] := by
  cases v with
  | nested t attributes => cases h
  | array items => cases h
  | _ => rfl

theorem Value.self_mem_parts (v : Value) : v ∈ v.parts := by
  cases v <;> simp [parts]

theorem Place.mem_parts_fill (v : Value) (p : Place) : v ∈ (p.fill v).parts := by
  induction p with
  | here => exact v.self_mem_parts
  | inArray before inside after ih =>
    rw [fill, Value.parts, itemParts_eq, List.flatMap_append, List.flatMap_cons]
    simp [ih]
  | inNested type before name inside after ih =>
    rw [fill, Value.parts, attributeParts_eq, List.flatMap_append, List.flatMap_cons]
    simp [ih]

/-- What stands in a value stands at a place of it. -/
theorem Value.mem_parts_iff {v w : Value} : w ∈ v.parts ↔ ∃ p : Place, p.fill w = v := by
  refine ⟨fun h => ?_, fun ⟨p, hp⟩ => hp ▸ p.mem_parts_fill w⟩
  induction v using Value.inductionOn with
  | simple v hv =>
    rw [parts_of_isSimple hv, List.mem_singleton] at h
    exact ⟨.here, h⟩
  | nested t attributes ih =>
    rw [parts, List.mem_cons, attributeParts_eq, List.mem_flatMap] at h
    rcases h with rfl | ⟨⟨name, v⟩, hv, h⟩
    · exact ⟨.here, rfl⟩
    · obtain ⟨p, rfl⟩ := ih _ hv h
      obtain ⟨before, after, rfl⟩ := List.append_of_mem hv
      exact ⟨.inNested t before name p after, rfl⟩
  | array items ih =>
    rw [parts, List.mem_cons, itemParts_eq, List.mem_flatMap] at h
    rcases h with rfl | ⟨v, hv, h⟩
    · exact ⟨.here, rfl⟩
    · obtain ⟨p, rfl⟩ := ih _ hv h
      obtain ⟨before, after, rfl⟩ := List.append_of_mem hv
      exact ⟨.inArray before p after, rfl⟩

/-! ### What stands around a place -/

/-- The characters that may stand right before a value. -/
def openers : List Char := ['(', ' ', '\x7b']

/-- The characters that may stand right behind a value. -/
def closers : List Char := [',', ')', '\x7d']

/-- The text begins with what may stand right behind a value. -/
def FollowsValue (r : List Char) : Prop :=
  ∃ c ∈ closers, ∃ rest, r = c :: rest

theorem FollowsValue.append {r : List Char} (h : FollowsValue r) (x : List Char) :
    FollowsValue (r ++ x) := by
  obtain ⟨c, hc, rest, rfl⟩ := h
  exact ⟨c, hc, rest ++ x, rfl⟩

namespace Phrase

/-- The phrase ends in what may stand right before a value. -/
def EndsOpen (a : Phrase) : Prop :=
  ∃ b o, a = b ++ whole [.text o] ∧ ∃ cs, ∃ c ∈ openers, o.toList = cs ++ [c]

/-- The phrase begins with what may stand right behind a value. -/
def BeginsClose (a : Phrase) : Prop :=
  ∃ o b, a = whole [.text o] ++ b ∧ FollowsValue o.toList

theorem EndsOpen.append {a : Phrase} (h : EndsOpen a) (b : Phrase) : EndsOpen (b ++ a) := by
  obtain ⟨x, o, rfl, ho⟩ := h
  exact ⟨b ++ x, o, (append_assoc b x _).symm, ho⟩

theorem BeginsClose.append {a : Phrase} (h : BeginsClose a) (b : Phrase) : BeginsClose (a ++ b) := by
  obtain ⟨o, x, rfl, ho⟩ := h
  exact ⟨o, x ++ b, append_assoc _ x b, ho⟩

theorem endsOpen_text (cs : List Char) {o : String} {c : Char} (ho : o.toList = cs ++ [c])
    (hc : c ∈ openers) : EndsOpen (whole [.text o]) :=
  ⟨whole [], o, rfl, cs, c, hc, ho⟩

theorem beginsClose_text (cs : List Char) {o : String} {c : Char} (ho : o.toList = c :: cs)
    (hc : c ∈ closers) : BeginsClose (whole [.text o]) :=
  ⟨o, whole [], rfl, c, hc, cs, ho⟩

theorem EndsOpen.append_ahead {a : Phrase} (h : EndsOpen a) (bs : List Phrase) :
    EndsOpen (a ++ ahead ", " bs) := by
  induction bs generalizing a with
  | nil => rwa [ahead, append_nil]
  | cons b rest ih =>
    have hsep : EndsOpen (a ++ (b ++ whole [.text ", "])) :=
      ((endsOpen_text [','] rfl (by decide)).append b).append a
    have := ih hsep
    rwa [append_assoc, append_assoc] at this

theorem BeginsClose.behind_append {a : Phrase} (h : BeginsClose a) (bs : List Phrase) :
    BeginsClose (behind ", " bs ++ a) := by
  cases bs with
  | nil => exact h
  | cons b rest =>
    exact ((beginsClose_text [' '] rfl (by decide)).append _).append a

end Phrase

theorem toList_named (name : String) : (name ++ " = ").toList = (name.toList ++ [' ', '=']) ++ [' '] := by
  rw [String.toList_append, List.append_assoc]
  rfl

/-- What stands around the value of an attribute does not depend on the value. -/
theorem attributeList_append (before : List (String × Phrase)) (name : String)
    (after : List (String × Phrase)) : ∃ ahead behind : Phrase, ahead.EndsOpen ∧ behind.BeginsClose ∧
      ∀ v, attributeList (before ++ (name, v) :: after) = ahead ++ (v ++ behind) := by
  have hclose : (Phrase.whole [.text ")"]).BeginsClose := Phrase.beginsClose_text [] rfl (by decide)
  by_cases hsingle : before = [] ∧ after = []
  · obtain ⟨rfl, rfl⟩ := hsingle
    refine ⟨_, _, ?_, hclose, fun v => rfl⟩
    split
    · exact Phrase.endsOpen_text [] rfl (by decide)
    · exact Phrase.endsOpen_text _ (toList_named ("(" ++ name)) (by decide)
  · -- the others and their names stand around it
    let f : String × Phrase → Phrase := fun p => .whole [.text (p.1 ++ " = ")] ++ p.2
    have hlist : ∀ v, attributeList (before ++ (name, v) :: after) =
        .whole [.text "("] ++ (Phrase.listed ", " ((before ++ (name, v) :: after).map f) ++
          .whole [.text ")"]) := by
      intro v
      match before, after, hsingle with
      | [], b :: rest, _ => rfl
      | [a], _, _ => rfl
      | a :: b :: rest, _, _ => rfl
      | [], [], h => exact absurd ⟨rfl, rfl⟩ h
    have hname : (Phrase.whole [.text (name ++ " = ")]).EndsOpen :=
      Phrase.endsOpen_text _ (toList_named name) (by decide)
    refine ⟨_, _, hname.append (.whole [.text "("] ++ Phrase.ahead ", " (before.map f)),
      hclose.behind_append (after.map f), fun v => ?_⟩
    rw [hlist, List.map_append, List.map_cons, Phrase.listed_append]
    simp only [f, Phrase.append_assoc]

/-- Whether the text is that of the value between two texts that do not depend on it and between which
a value may stand. -/
def Surrounded (g : Value → Phrase) : Prop :=
  ∃ ahead behind : Phrase, ahead.EndsOpen ∧ behind.BeginsClose ∧ ∀ v, g v = ahead ++ (v.phrase ++ behind)

/-- What stands around a place that is further inside stands around the text around that. -/
theorem Surrounded.of_inside {g : Value → Phrase} {inside : Place} {opening closing : Phrase}
    (ho : opening.EndsOpen) (hc : closing.BeginsClose)
    (hg : ∀ v, g v = opening ++ ((inside.fill v).phrase ++ closing))
    (hi : inside = .here ∨ Surrounded fun v => (inside.fill v).phrase) : Surrounded g := by
  rcases hi with rfl | ⟨ahead, behind, ha, hb, hi⟩
  · exact ⟨opening, closing, ho, hc, hg⟩
  · refine ⟨opening ++ ahead, behind ++ closing, ha.append opening, hb.append closing, fun v => ?_⟩
    have hinside : (inside.fill v).phrase = ahead ++ (v.phrase ++ behind) := hi v
    rw [hg, hinside]
    simp only [Phrase.append_assoc]

/-- **The text around a place** does not depend on what fills it. -/
theorem Place.surrounded {p : Place} (hp : p ≠ here) : Surrounded fun v => (p.fill v).phrase := by
  induction p with
  | here => exact absurd rfl hp
  | inArray before inside after ih =>
    have hopen : (Phrase.whole [.text "\x7b"] ++ Phrase.ahead ", " (itemPhrases before)).EndsOpen :=
      (Phrase.endsOpen_text [] rfl (by decide)).append_ahead _
    have hclose : (Phrase.behind ", " (itemPhrases after) ++ .whole [.text "\x7d"]).BeginsClose :=
      (Phrase.beginsClose_text [] rfl (by decide)).behind_append _
    refine Surrounded.of_inside hopen hclose (fun v => ?_) (Classical.or_iff_not_imp_left.mpr ih)
    show ((inArray before inside after).fill v).phrase = _
    rw [fill, Value.phrase, itemPhrases_eq, List.map_append, List.map_cons, Phrase.listed_append,
      ← itemPhrases_eq, ← itemPhrases_eq]
    simp only [Phrase.append_assoc]
  | inNested type before name inside after ih =>
    obtain ⟨opening, closing, hopen, hclose, hlist⟩ :=
      attributeList_append (attributePhrases before) name (attributePhrases after)
    refine Surrounded.of_inside (hopen.append (.whole [.text "@", .typeName type])) hclose
      (fun v => ?_) (Classical.or_iff_not_imp_left.mpr ih)
    show ((inNested type before name inside after).fill v).phrase = _
    rw [fill, Value.phrase, attributePhrases_eq, List.map_append, List.map_cons, ← attributePhrases_eq,
      ← attributePhrases_eq, hlist, Phrase.append_assoc]

/-! ### Source text -/

/-- The pieces as source text: with type names in full, or as the imports allow, which may grow. -/
def spelling : Option Imports → List Piece → String × Option Imports
  | none, ps => (Piece.spelledInFull ps, none)
  | some im, ps => ((im.spell ps).1, some (im.spell ps).2)

theorem spelling_append (resolver : Option Imports) (ps qs : List Piece) :
    (spelling resolver (ps ++ qs)).1 =
      (spelling resolver ps).1 ++ (spelling (spelling resolver ps).2 qs).1 := by
  cases resolver with
  | none => exact Piece.spelledInFull_append ps qs
  | some im => exact congrArg Prod.fst (im.spell_append ps qs)

theorem spelling_text (resolver : Option Imports) (s : String) :
    spelling resolver [.text s] = (s, resolver) := by
  cases resolver with
  | none => exact Prod.ext (String.append_empty) rfl
  | some im => exact Prod.ext (String.append_empty) rfl

/-- The source text of an annotation, with type names in full or as the imports allow. -/
def sourceForm (resolver : Option Imports) (a : Annotation) : Except Fault String :=
  match resolver with
  | none => a.text
  | some im => (a.phrase.spell im).1

theorem sourceForm_eq (resolver : Option Imports) (a : Annotation) : a.sourceForm resolver =
    match a.phrase.fault with
    | none => .ok (spelling resolver a.phrase.pieces).1
    | some f => .error f := by
  cases resolver with
  | none => rfl
  | some im =>
    show (a.phrase.spell im).1 = _
    unfold Phrase.spell
    cases a.phrase.fault <;> rfl

/-- Text that ends in what may stand before a value does so however its type names are written. -/
theorem Phrase.EndsOpen.spelled {a : Phrase} (h : a.EndsOpen) (ha : a.fault = none)
    (resolver : Option Imports) : ∃ cs, ∃ c ∈ openers,
      (spelling resolver a.pieces).1.toList = cs ++ [c] := by
  obtain ⟨b, o, rfl, cs, c, hc, ho⟩ := h
  have hb : b.fault = none := by
    rw [append_fault] at ha
    exact (Option.or_eq_none_iff.mp ha).1
  have hpieces : (b ++ whole [.text o]).pieces = b.pieces ++ [.text o] := by rw [append_of_whole hb]; rfl
  rw [hpieces, spelling_append, spelling_text, String.toList_append, ho, ← List.append_assoc]
  exact ⟨_, c, hc, rfl⟩

theorem Phrase.BeginsClose.spelled {a : Phrase} (h : a.BeginsClose) (resolver : Option Imports) :
    FollowsValue (spelling resolver a.pieces).1.toList := by
  obtain ⟨o, b, rfl, ho⟩ := h
  have hpieces : (whole [.text o] ++ b).pieces = [.text o] ++ b.pieces := rfl
  rw [hpieces, spelling_append, spelling_text, String.toList_append]
  exact ho.append _

/-- A value that is written without type names stands between texts that do not depend on it. -/
theorem sourceForm_fill (p : Place) (resolver : Option Imports) : ∃ cs, ∃ c ∈ openers, ∃ behind,
    FollowsValue behind ∧ ∀ (a : Annotation) (v : Value) (o text : String),
      v.phrase = .whole [.text o] → a.value = p.fill v → a.sourceForm resolver = .ok text →
        text.toList = (cs ++ [c]) ++ (o.toList ++ behind) := by
  by_cases hp : p = .here
  · -- an annotation is not written so
    refine ⟨[], '(', by decide, [')'], ⟨')', by decide, [], rfl⟩, fun a v o text hv ha _ => ?_⟩
    rw [hp] at ha
    have hpieces : Piece.text "@" :: Piece.typeName a.type :: _ = [.text o] :=
      congrArg Phrase.pieces ((congrArg Value.phrase ha).trans hv)
    cases hpieces
  obtain ⟨ahead, closing, hopen, hclose, hfill⟩ := p.surrounded hp
  have hphrase : ∀ (a : Annotation) (v : Value) (o : String), v.phrase = .whole [.text o] →
      a.value = p.fill v → a.phrase = ahead ++ (.whole [.text o] ++ closing) := by
    intro a v o hv ha
    rw [← phrase_value, ha, ← hv]
    exact hfill v
  cases hf : ahead.fault with
  | some f =>
    refine ⟨[], '(', by decide, [')'], ⟨')', by decide, [], rfl⟩, fun a v o text hv ha ht => ?_⟩
    rw [sourceForm_eq, hphrase a v o hv ha, Phrase.append_of_fault hf, hf] at ht
    cases ht
  | none =>
    obtain ⟨cs, c, hc, hcs⟩ := hopen.spelled hf resolver
    refine ⟨cs, c, hc, _, hclose.spelled (spelling resolver ahead.pieces).2, fun a v o text hv ha ht => ?_⟩
    rw [sourceForm_eq, hphrase a v o hv ha, Phrase.append_of_whole hf] at ht
    cases hcf : closing.fault with
    | some f =>
      rw [Phrase.append_of_whole rfl] at ht
      simp only [hcf] at ht
      cases ht
    | none =>
      rw [Phrase.append_of_whole rfl] at ht
      simp only [hcf] at ht
      rw [← Except.ok.inj ht, spelling_append, String.toList_append, hcs]
      have hwhole : (Phrase.whole [.text o]).pieces = [.text o] := rfl
      rw [hwhole, spelling_append, spelling_text, String.toList_append]

end Annotation
end Intertype
