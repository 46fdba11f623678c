/-
# Words, numbers and other tokens of annotations

Names in annotations are words, with dots between them. Words have none of the marks that an annotation
is put together with and begin with no digit, as is so of identifiers. A boolean, a number, a class literal
and an enum constant are written without what may stand behind a value, so they end where that begins
(`IsToken.append_inj`), and what is written tells the value.

Key definitions: `Annotation.isWord`, `Annotation.isQualified`, `Annotation.IsClassName`,
`Annotation.IsClassLiteral`, `Annotation.Value.IsLegible`, `Annotation.Value.chars`, `Annotation.IsToken`.
Key theorems: `Annotation.IsToken.append_inj`, `Annotation.IsToken.shapeOf_append`,
`Annotation.integerLiteral_injective`, `Annotation.classOf_injective`, `Annotation.enumConstant_injective`.
-/
import Intertype.Proofs.Annotation.Strings
import Intertype.Proofs.Java.IntegerReading
import Intertype.Proofs.TypeRef.Names
import Intertype.Proofs.TypeRef.Readable

namespace Intertype
namespace Annotation

open Decimal (isDigit)

/-! ### Words -/

/-- The marks that stand around words and numbers in annotations. -/
def isMark (c : Char) : Bool :=
  c ∈ ['.', ',', '(', ')', '[', ']', '\x7b', '\x7d', '@', '"', '-', ' ']

/-- Whether the text is a word: it begins, but with no digit, and has no marks. -/
def isWord (cs : List Char) : Bool :=
  cs.head?.any (fun c => !isDigit c) && cs.all fun c => !isMark c

/-- Whether the text is a qualified name: words with dots between them. -/
def isQualified (cs : List Char) : Bool :=
  (Dotted.segments cs).all isWord

theorem isWord_cons {c : Char} {rest : List Char} (h : isWord (c :: rest) = true) :
    isDigit c = false ∧ ∀ d ∈ c :: rest, isMark d = false := by
  obtain ⟨hhead, hall⟩ := Bool.and_eq_true_iff.mp h
  refine ⟨by simpa using hhead, fun d hd => ?_⟩
  simpa using List.all_eq_true.mp hall d hd

theorem isMark_of_isWord {cs : List Char} (h : isWord cs = true) : ∀ c ∈ cs, isMark c = false := by
  cases cs with
  | nil => exact fun c hc => absurd hc List.not_mem_nil
  | cons c rest => exact (isWord_cons h).2

theorem exists_cons_of_isWord {cs : List Char} (h : isWord cs = true) :
    ∃ c rest, cs = c :: rest ∧ isDigit c = false ∧ isMark c = false := by
  cases cs with
  | nil => cases h
  | cons c rest => exact ⟨c, rest, rfl, (isWord_cons h).1, (isWord_cons h).2 c List.mem_cons_self⟩

/-! ### Qualified names -/

theorem mem_segments {cs : List Char} {c : Char} (h : c ∈ cs) :
    c = '.' ∨ ∃ s ∈ Dotted.segments cs, c ∈ s := by
  rw [← Dotted.join_segments cs] at h
  generalize Dotted.segments cs = ss at h ⊢
  induction ss with
  | nil => cases h
  | cons s rest ih =>
    cases rest with
    | nil => exact Or.inr ⟨s, List.mem_cons_self, h⟩
    | cons t more =>
      rw [Dotted.join, List.mem_append, List.mem_cons] at h
      rcases h with h | h | h
      · exact Or.inr ⟨s, List.mem_cons_self, h⟩
      · exact Or.inl h
      · rcases ih h with hdot | ⟨u, hu, hc⟩
        · exact Or.inl hdot
        · exact Or.inr ⟨u, List.mem_cons_of_mem s hu, hc⟩

/-- A qualified name has no marks but dots. -/
theorem isMark_of_isQualified {cs : List Char} (h : isQualified cs = true) :
    ∀ c ∈ cs, c = '.' ∨ isMark c = false := by
  intro c hc
  rcases mem_segments hc with hdot | ⟨s, hs, hcs⟩
  · exact Or.inl hdot
  · exact Or.inr (isMark_of_isWord (List.all_eq_true.mp h s hs) c hcs)

theorem exists_cons_of_isQualified {cs : List Char} (h : isQualified cs = true) :
    ∃ c rest, cs = c :: rest ∧ isDigit c = false ∧ isMark c = false := by
  cases hs : Dotted.segments cs with
  | nil => exact absurd hs (Dotted.segments_ne_nil cs)
  | cons s more =>
    have hword : isWord s = true := List.all_eq_true.mp h s (by rw [hs]; exact List.mem_cons_self)
    obtain ⟨c, rest, rfl, hdigit, hmark⟩ := exists_cons_of_isWord hword
    have hjoin := Dotted.join_segments cs
    rw [hs] at hjoin
    cases more with
    | nil => exact ⟨c, rest, hjoin.symm, hdigit, hmark⟩
    | cons t more => exact ⟨c, _, hjoin.symm, hdigit, hmark⟩

/-! ### Types -/

/-- Whether the reference is to a class by its qualified name, and nothing else. -/
def IsClassName (t : TypeRef) : Prop :=
  t = TypeRef.declared t.name ∧ isQualified t.name.toList = true ∧ t.name ∉ TypeRef.primitiveNames

/-- Whether the reference is to a class or a primitive type, or to an array type over one of these. -/
def IsClassLiteral (t : TypeRef) : Prop :=
  isQualified t.name.toList = true ∧
    if t.name ∈ TypeRef.primitiveNames then t = ⟨t.name, [], t.dims, .primitive, none, some ""⟩
    else t = ⟨t.name, [], t.dims, .declared, none, none⟩

instance (t : TypeRef) : Decidable (IsClassName t) :=
  inferInstanceAs (Decidable (_ ∧ _))

instance (t : TypeRef) : Decidable (IsClassLiteral t) :=
  inferInstanceAs (Decidable (_ ∧ ite _ _ _))

/-- A class is told by its name. -/
theorem IsClassName.eq_of_name {t u : TypeRef} (ht : IsClassName t) (hu : IsClassName u)
    (h : t.name = u.name) : t = u := by
  rw [ht.1, hu.1, h]

/-- A class literal is told by the name of its element type and its dimensions. -/
theorem IsClassLiteral.eq_of_name {t u : TypeRef} (ht : IsClassLiteral t) (hu : IsClassLiteral u)
    (hn : t.name = u.name) (hd : t.dims = u.dims) : t = u := by
  obtain ⟨-, ht⟩ := ht
  obtain ⟨-, hu⟩ := hu
  by_cases h : t.name ∈ TypeRef.primitiveNames
  · rw [if_pos h] at ht
    rw [if_pos (hn ▸ h)] at hu
    rw [ht, hu, hn, hd]
  · rw [if_neg h] at ht
    rw [if_neg (hn ▸ h)] at hu
    rw [ht, hu, hn, hd]

/-! ### Values -/

/-- Whether the value can be read from its source text, its parts left out: its names are words and its
types are by name, a double is finite, and a constant is not called as the end of a class literal is. -/
def Value.IsLegible : Value → Prop
  | .double x => x.isFinite = true
  | .classOf t => IsClassLiteral t
  | .enumConstant t constant =>
    IsClassName t ∧ isWord constant.toList = true ∧ constant ≠ "class"
  | .nested t attributes => IsClassName t ∧ ∀ p ∈ attributes, isWord p.1.toList = true
  | .unsupported _ => False
  | _ => True

instance : ∀ v : Value, Decidable v.IsLegible
  | .string _ => .isTrue trivial
  | .boolean _ => .isTrue trivial
  | .integer _ => .isTrue trivial
  | .double x => inferInstanceAs (Decidable (x.isFinite = true))
  | .classOf t => inferInstanceAs (Decidable (IsClassLiteral t))
  | .enumConstant t constant =>
    inferInstanceAs (Decidable (IsClassName t ∧ isWord constant.toList = true ∧ constant ≠ "class"))
  | .nested t attributes =>
    inferInstanceAs (Decidable (IsClassName t ∧ ∀ p ∈ attributes, isWord p.1.toList = true))
  | .array _ => .isTrue trivial
  | .unsupported _ => .isFalse id

/-- The source text of a value with the names in full, up to a fault if there is one. -/
def Value.chars (v : Value) : List Char :=
  (Piece.spelledInFull v.phrase.pieces).toList

theorem chars_text {v : Value} {s : String} (h : v.phrase = .whole [.text s]) : v.chars = s.toList := by
  rw [Value.chars, h]
  simp [Phrase.whole, Piece.spelledInFull, Piece.inFull]

theorem chars_classOf (t : TypeRef) : (Value.classOf t).chars =
    t.name.toList ++ ((TypeRef.brackets t.dims).toList ++ '.' :: "class".toList) := by
  simp [Value.chars, Value.phrase, Phrase.whole, Piece.spelledInFull, Piece.inFull]

theorem chars_enumConstant (t : TypeRef) (constant : String) :
    (Value.enumConstant t constant).chars = t.name.toList ++ '.' :: constant.toList := by
  simp [Value.chars, Value.phrase, Phrase.whole, Piece.spelledInFull, Piece.inFull]

/-! ### What a text shows of a value -/

/-- What a value is, its contents left out. -/
inductive Shape
  | string | boolean | integer | double | classOf | enumConstant | nested | array
  deriving DecidableEq

/-- The shape of a value, if it is one. -/
def Value.shape : Value → Option Shape
  | .string _ => some .string
  | .boolean _ => some .boolean
  | .integer _ => some .integer
  | .double _ => some .double
  | .classOf _ => some .classOf
  | .enumConstant _ _ => some .enumConstant
  | .nested _ _ => some .nested
  | .array _ => some .array
  | .unsupported _ => none

/-- Whether the character ends a token. -/
def isStop (c : Char) : Bool :=
  c ∈ [',', ')', '\x7d', ' ']

/-- The shape of the value that a token is written for. -/
def tokenShape (cs : List Char) : Shape :=
  if cs.head?.any (fun c => isDigit c || c = '-') then
    if '.' ∈ cs ∨ 'e' ∈ cs then .double else .integer
  else if '.' ∉ cs then .boolean
  else if Dotted.last cs = "class".toList then .classOf
  else .enumConstant

/-- The shape of the value that a text begins with. -/
def shapeOf : List Char → Option Shape
  | [] => none
  | c :: rest =>
    if c = '"' then some .string
    else if c = '@' then some .nested
    else if c = '\x7b' then some .array
    else some (tokenShape ((c :: rest).takeWhile fun d => !isStop d))

/-- The text is a token for a value of the shape: it ends where a token does, and begins as nothing else
does. -/
structure IsToken (cs : List Char) (shape : Shape) : Prop where
  shape : tokenShape cs = shape
  stop : ∀ c ∈ cs, isStop c = false
  head : ∃ c rest, cs = c :: rest ∧ c ∉ ['"', '@', '\x7b', '\x7d']

/-- A token is told by its own characters. -/
theorem IsToken.append_inj {a b r s : List Char} {x y : Shape} (ha : IsToken a x) (hb : IsToken b y)
    (hr : ∀ c ∈ r.head?, isStop c = true) (hs : ∀ c ∈ s.head?, isStop c = true) (h : a ++ r = b ++ s) :
    a = b ∧ r = s :=
  Text.append_inj_of_stop ha.stop hb.stop hr hs h

theorem IsToken.shapeOf_append {a r : List Char} {x : Shape} (ha : IsToken a x)
    (hr : ∀ c ∈ r.head?, isStop c = true) : shapeOf (a ++ r) = some x := by
  have htake : (a ++ r).takeWhile (fun d => !isStop d) = a := by
    have hrest : r.takeWhile (fun d => !isStop d) = [] := by
      cases r with
      | nil => rfl
      | cons c rest => exact List.takeWhile_cons_of_neg (by simp [hr c rfl])
    rw [List.takeWhile_append_of_pos (fun c hc => by simp [ha.stop c hc]), hrest, List.append_nil]
  obtain ⟨c, rest, rfl, hc⟩ := ha.head
  simp only [List.mem_cons, List.not_mem_nil, or_false, not_or] at hc
  rw [List.cons_append, shapeOf, if_neg hc.1, if_neg hc.2.1, if_neg hc.2.2.1, ← List.cons_append, htake,
    ha.shape]

/-! ### Numbers -/

theorem isToken_boolean (b : Bool) : IsToken (Value.boolean b).chars .boolean := by
  cases b with
  | true => exact ⟨by decide, Text.of_mem_all (by decide), 't', _, rfl, by decide⟩
  | false => exact ⟨by decide, Text.of_mem_all (by decide), 'f', _, rfl, by decide⟩

theorem boolean_injective {a b : Bool} (h : (Value.boolean a).chars = (Value.boolean b).chars) : a = b := by
  have hne : (Value.boolean true).chars ≠ (Value.boolean false).chars := by decide
  cases a <;> cases b
  · rfl
  · exact absurd h.symm hne
  · exact absurd h hne
  · rfl

theorem not_mem_of_isDigit {c : Char} (h : isDigit c = true) :
    isStop c = false ∧ c ∉ ['"', '@', '\x7b', '\x7d', '.', 'e', 'L', '-'] := by
  have hall : ∀ n < 10, isStop (Decimal.digit n) = false ∧
      Decimal.digit n ∉ ['"', '@', '\x7b', '\x7d', '.', 'e', 'L', '-'] := by decide
  exact Decimal.of_isDigit (p := fun c => isStop c = false ∧ c ∉ _) hall h

/-- An integer is written in digits, perhaps after a minus sign. -/
theorem ofInt_chars (i : Int) : ∃ c rest, (Decimal.ofInt i).toList = c :: rest ∧
    (isDigit c = true ∨ c = '-') ∧ ∀ d ∈ rest, isDigit d = true := by
  have hdigits := Decimal.isDigit_of_mem_digits (n := i.natAbs)
  rw [Decimal.ofInt_toList]
  split
  · exact ⟨'-', _, rfl, Or.inr rfl, hdigits⟩
  · obtain ⟨c, rest, hc⟩ := List.exists_cons_of_ne_nil (Decimal.digits_ne_nil i.natAbs)
    rw [hc] at hdigits
    exact ⟨c, rest, hc, Or.inl (hdigits c List.mem_cons_self),
      fun d hd => hdigits d (List.mem_cons_of_mem c hd)⟩

/-- What begins with a digit or a minus sign is a token for a number: a double, if a point or an exponent
stands in it. -/
theorem isToken_number {c : Char} {rest : List Char} (hc : isDigit c = true ∨ c = '-')
    (hrest : ∀ d ∈ rest, isStop d = false) :
    IsToken (c :: rest) (if '.' ∈ rest ∨ 'e' ∈ rest then .double else .integer) := by
  have hfirst : isStop c = false ∧ c ∉ ['"', '@', '\x7b', '\x7d', '.', 'e'] := by
    rcases hc with hc | rfl
    · have := not_mem_of_isDigit hc
      simp_all
    · decide
  simp only [List.mem_cons, List.not_mem_nil, or_false, not_or] at hfirst
  have hhead : (c :: rest).head?.any (fun c => isDigit c || c = '-') = true := by
    rcases hc with hc | rfl
    · simp [hc]
    · rfl
  have hmark : ('.' ∈ c :: rest ∨ 'e' ∈ c :: rest) ↔ ('.' ∈ rest ∨ 'e' ∈ rest) := by
    rw [List.mem_cons, List.mem_cons, or_iff_right (Ne.symm hfirst.2.2.2.2.2.1),
      or_iff_right (Ne.symm hfirst.2.2.2.2.2.2)]
  refine ⟨?_, ?_, c, rest, rfl, ?_⟩
  · rw [tokenShape, if_pos hhead]
    simp only [hmark]
  · intro d hd
    rcases List.mem_cons.mp hd with rfl | hd
    · exact hfirst.1
    · exact hrest d hd
  · simp only [List.mem_cons, List.not_mem_nil, or_false, not_or]
    exact ⟨hfirst.2.1, hfirst.2.2.1, hfirst.2.2.2.1, hfirst.2.2.2.2.1⟩

theorem isToken_integer (i : Int) : IsToken (Value.integer i).chars .integer := by
  rw [chars_text rfl, Java.integerLiteral_toList]
  obtain ⟨c, rest, hchars, hc, hrest⟩ := ofInt_chars i
  rw [hchars]
  have hsuffix : ∀ d ∈ Java.longSuffix i, d = 'L' := by
    unfold Java.longSuffix
    split <;> simp
  -- behind the first character stand digits, and the suffix at the end
  have hlater : ∀ d ∈ rest ++ Java.longSuffix i, isStop d = false ∧ d ≠ '.' ∧ d ≠ 'e' := by
    intro d hd
    rcases List.mem_append.mp hd with hd | hd
    · have := not_mem_of_isDigit (hrest d hd)
      simp_all
    · rw [hsuffix d hd]
      decide
  have htoken := isToken_number hc fun d hd => (hlater d hd).1
  rwa [if_neg fun h => h.elim (fun hd => (hlater _ hd).2.1 rfl) (fun hd => (hlater _ hd).2.2 rfl)] at htoken

/-- Different integers are written as different literals, since a literal is read back. -/
theorem integerLiteral_injective {i j : Int} (h : Java.integerLiteral i = Java.integerLiteral j) :
    i = j := by
  have hread : ∀ i, Java.readInteger? ((Java.integerLiteral i).toList ++ [',']) =
      some (.written i, [',']) := fun i =>
    Java.readInteger?_integerLiteral i (by decide) []
  have hsame : some (Java.IntegerLiteral.written i, [',']) = some (.written j, [',']) := by
    rw [← hread i, h, hread j]
  calc i = (Java.IntegerLiteral.written i).value := (Java.IntegerLiteral.value_written i).symm
    _ = (Java.IntegerLiteral.written j).value :=
      congrArg (·.value) (congrArg Prod.fst (Option.some.inj hsame))
    _ = j := Java.IntegerLiteral.value_written j

theorem chars_double {x : Binary64} (hx : x.isFinite = true) : (Value.double x).chars = x.text.toList :=
  chars_text (if_pos hx)

theorem isToken_double {x : Binary64} (hx : x.isFinite = true) :
    IsToken (Value.double x).chars .double := by
  rw [chars_double hx]
  obtain ⟨c, rest, hchars, hc, hmark, hrest⟩ := Binary64.text_chars hx
  rw [hchars]
  have hstop : ∀ d ∈ rest, isStop d = false := by
    have hall : ∀ d ∈ ['.', 'e', '+', '-'], isStop d = false := Text.of_mem_all (by decide)
    intro d hd
    exact (Bool.or_eq_true_iff.mp (hrest d hd)).elim (fun h => (not_mem_of_isDigit h).1)
      (fun h => hall d (of_decide_eq_true h))
  have htoken := isToken_number hc hstop
  rwa [if_pos hmark] at htoken

/-! ### Class literals and constants -/

theorem isStop_of_isMark {c : Char} (h : isMark c = false) : isStop c = false := by
  have hall : ∀ c ∈ [',', ')', '\x7d', ' '], isMark c = true := Text.of_mem_all (by decide)
  rw [isStop, decide_eq_false_iff_not]
  intro hc
  rw [hall c hc] at h
  cases h

/-- Whether the text is made of square brackets. -/
def AreBrackets (cs : List Char) : Prop :=
  ∀ c ∈ cs, c = '[' ∨ c = ']'

theorem areBrackets (n : Nat) : AreBrackets (TypeRef.brackets n).toList := by
  induction n with
  | zero => exact fun c hc => absurd hc List.not_mem_nil
  | succ n ih =>
    intro c hc
    rw [TypeRef.brackets_succ_toList, List.mem_cons, List.mem_cons] at hc
    rcases hc with rfl | rfl | hc
    · exact Or.inl rfl
    · exact Or.inr rfl
    · exact ih c hc

/-- A qualified name and a word behind it, perhaps with brackets between them, are a token. -/
theorem isToken_dotted {name between word : List Char} (hn : isQualified name = true)
    (hb : AreBrackets between) (hw : isWord word = true) :
    IsToken (name ++ (between ++ '.' :: word))
      (if word = "class".toList then .classOf else .enumConstant) := by
  obtain ⟨c, rest, hname, hdigit, hmark⟩ := exists_cons_of_isQualified hn
  have hdot : '.' ∉ word := fun h => absurd (isMark_of_isWord hw '.' h) (by decide)
  have hmem : '.' ∈ name ++ (between ++ '.' :: word) :=
    List.mem_append_right _ (List.mem_append_right _ List.mem_cons_self)
  have hsign : c ≠ '-' := by
    rintro rfl
    exact absurd hmark (by decide)
  refine ⟨?_, ?_, c, rest ++ (between ++ '.' :: word), by rw [hname]; rfl, ?_⟩
  · have hhead : ¬ ((name ++ (between ++ '.' :: word)).head?.any
        (fun c => isDigit c || c = '-') = true) := by
      rw [hname]
      simp [hdigit, hsign]
    have hlast : Dotted.last (name ++ (between ++ '.' :: word)) = word := by
      rw [← List.append_assoc]
      exact Dotted.last_append hdot _
    rw [tokenShape, if_neg hhead, if_neg (not_not.mpr hmem), hlast]
  · intro d hd
    rw [List.mem_append, List.mem_append, List.mem_cons] at hd
    rcases hd with hd | hd | rfl | hd
    · rcases isMark_of_isQualified hn d hd with rfl | hd
      · decide
      · exact isStop_of_isMark hd
    · rcases hb d hd with rfl | rfl <;> decide
    · decide
    · exact isStop_of_isMark (isMark_of_isWord hw d hd)
  · intro hc
    have hall : ∀ c ∈ ['"', '@', '\x7b', '\x7d'], isMark c = true := Text.of_mem_all (by decide)
    rw [hall c hc] at hmark
    cases hmark

theorem isToken_classOf {t : TypeRef} (ht : IsClassLiteral t) :
    IsToken (Value.classOf t).chars .classOf := by
  rw [chars_classOf]
  exact isToken_dotted ht.1 (areBrackets t.dims) (by decide)

theorem isToken_enumConstant {t : TypeRef} {constant : String} (ht : IsClassName t)
    (hw : isWord constant.toList = true) (hc : constant ≠ "class") :
    IsToken (Value.enumConstant t constant).chars .enumConstant := by
  have hnone : AreBrackets [] := fun c hc => absurd hc List.not_mem_nil
  have h := isToken_dotted ht.2.1 hnone hw
  rw [if_neg (fun h => hc (String.toList_inj.mp h))] at h
  rwa [chars_enumConstant]

/-- A class literal is told by what it is written as. -/
theorem classOf_injective {t u : TypeRef} (ht : IsClassLiteral t) (hu : IsClassLiteral u)
    (h : (Value.classOf t).chars = (Value.classOf u).chars) : t = u := by
  have hstop : ∀ {t : TypeRef}, IsClassLiteral t → ∀ c ∈ t.name.toList, decide (c = '[') = false := by
    intro t ht c hc
    rw [decide_eq_false_iff_not]
    rintro rfl
    rcases isMark_of_isQualified ht.1 '[' hc with h | h <;> exact absurd h (by decide)
  have hbegin : ∀ n, ∀ c ∈ (TypeRef.brackets n).toList.head?, decide (c = '[') = true := by
    intro n c hc
    cases n with
    | zero => cases hc
    | succ n =>
      rw [TypeRef.brackets_succ_toList] at hc
      cases hc
      rfl
  rw [chars_classOf, chars_classOf, ← List.append_assoc, ← List.append_assoc] at h
  have h := List.append_cancel_right h
  obtain ⟨hname, hdims⟩ := Text.append_inj_of_stop (p := fun c => decide (c = '[')) (hstop ht) (hstop hu)
    (hbegin t.dims) (hbegin u.dims) h
  have hdims : t.dims = u.dims :=
    (TypeRef.brackets_append_inj (r := []) (s := []) trivial trivial (by rw [hdims])).1
  exact ht.eq_of_name hu (String.toList_inj.mp hname) hdims

/-- A constant of an enum type is told by what it is written as. -/
theorem enumConstant_injective {t u : TypeRef} {c d : String} (ht : IsClassName t) (hu : IsClassName u)
    (hc : isWord c.toList = true) (hd : isWord d.toList = true)
    (h : (Value.enumConstant t c).chars = (Value.enumConstant u d).chars) : t = u ∧ c = d := by
  have hdot : ∀ {c : String}, isWord c.toList = true → '.' ∉ c.toList := fun hc hm =>
    absurd (isMark_of_isWord hc '.' hm) (by decide)
  rw [chars_enumConstant, chars_enumConstant] at h
  have hlast : c.toList = d.toList := by
    have := congrArg Dotted.last h
    rwa [Dotted.last_append (hdot hc), Dotted.last_append (hdot hd)] at this
  rw [hlast] at h
  have hname := List.append_cancel_right h
  exact ⟨ht.eq_of_name hu (String.toList_inj.mp hname), String.toList_inj.mp hlast⟩

end Annotation
end Intertype
