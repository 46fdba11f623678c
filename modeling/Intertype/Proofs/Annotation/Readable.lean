/-
# A text tells the annotation

The source text of an annotation can be read in one way. A value is followed by a comma or by the mark
that closes what it is in, and no value goes on with one of these: a string ends at its own quote, a
token where the first of them stands, and what is put together at its own closing mark. How a text begins
shows what sort of value it is (`shapeOf_append`); whether attributes are named is seen from what follows
the first word. So no text begins with two values, whatever may stand behind them (`told`), and two
annotations with the same text are the same (`text_eq_text_iff`).

Key definitions: `Annotation.IsReadable`, `Annotation.AreTold`, `Annotation.rowChars`.
Key theorems: `Annotation.shapeOf_append`, `Annotation.rowChars_append_inj`,
`Annotation.attributeChars_append_inj`, `Annotation.told`, `Annotation.text_eq_text_iff`.
-/
import Intertype.Proofs.Annotation.Tokens

namespace Intertype
namespace Annotation

/-! ### What can be read -/

/-- Whether the value and all values in it are legible. -/
def Value.IsReadable (v : Value) : Prop :=
  ∀ w ∈ v.parts, w.IsLegible

/-- Whether the annotation and all values in it are legible. -/
def IsReadable (a : Annotation) : Prop :=
  a.value.IsReadable

-- The list is named here, since the values that are no parts are not to be searched.
instance (a : Annotation) : Decidable a.IsReadable :=
  List.decidableBAll _ a.value.parts

namespace Value

theorem IsReadable.self {v : Value} (h : v.IsReadable) : v.IsLegible :=
  h v v.self_mem_parts

theorem IsReadable.item {items : List Value} (h : (Value.array items).IsReadable) :
    ∀ v ∈ items, v.IsReadable := by
  intro v hv w hw
  apply h w
  rw [parts, itemParts_eq]
  exact List.mem_cons_of_mem _ (List.mem_flatMap.mpr ⟨v, hv, hw⟩)

theorem IsReadable.attribute {t : TypeRef} {attributes : List (String × Value)}
    (h : (Value.nested t attributes).IsReadable) : ∀ p ∈ attributes, p.2.IsReadable := by
  intro p hp w hw
  apply h w
  rw [parts, attributeParts_eq]
  exact List.mem_cons_of_mem _ (List.mem_flatMap.mpr ⟨p, hp, hw⟩)

/-- What can be read is whole. -/
theorem IsReadable.fault {v : Value} (h : v.IsReadable) : v.phrase.fault = none := by
  have hfault : v.parts.filterMap ownFault = [] := by
    rw [List.filterMap_eq_nil_iff]
    intro w hw
    have hlegible := h w hw
    cases w with
    | double x => exact if_pos hlegible
    | unsupported shown => cases hlegible
    | _ => rfl
  rw [(shows_phrase v).fault, hfault]
  rfl

end Value

/-! ### Text put together -/

/-- The source text of a phrase with the names in full. -/
def Phrase.chars (a : Phrase) : List Char :=
  (Piece.spelledInFull a.pieces).toList

theorem Phrase.chars_append {a : Phrase} (h : a.fault = none) (b : Phrase) :
    (a ++ b).chars = a.chars ++ b.chars := by
  rw [append_of_whole h]
  show (Piece.spelledInFull (a.pieces ++ b.pieces)).toList = _
  rw [Piece.spelledInFull_append, String.toList_append]
  rfl

theorem Phrase.chars_text (s : String) : (whole [.text s]).chars = s.toList := by
  simp [chars, whole, Piece.spelledInFull, Piece.inFull]

section Row

variable {α : Type}

/-- The texts behind the first of a row, each after a comma and a space, and the mark that closes it. -/
def moreChars (close : Char) (f : α → List Char) : List α → List Char
  | [] => [close]
  | x :: rest => ',' :: ' ' :: (f x ++ moreChars close f rest)

/-- The texts of a row, and the mark that closes it. -/
def rowChars (close : Char) (f : α → List Char) : List α → List Char
  | [] => [close]
  | x :: rest => f x ++ moreChars close f rest

theorem Phrase.chars_behind {g : α → Phrase} {closing : String} {close : Char}
    (hc : closing.toList = [close]) : ∀ {xs : List α}, (∀ x ∈ xs, (g x).fault = none) →
      (behind ", " (xs.map g) ++ whole [.text closing]).chars = moreChars close (fun x => (g x).chars) xs
  | [], _ => by
    rw [List.map_nil, behind, nil_append, chars_text, hc]
    rfl
  | x :: rest, h => by
    have hrest := chars_behind hc fun y (hy : y ∈ rest) => h y (List.mem_cons_of_mem x hy)
    rw [List.map_cons, behind, append_assoc, append_assoc, chars_append rfl,
      chars_append (h x List.mem_cons_self), hrest, chars_text]
    rfl

theorem Phrase.chars_listed {g : α → Phrase} {closing : String} {close : Char}
    (hc : closing.toList = [close]) {xs : List α} (h : ∀ x ∈ xs, (g x).fault = none) :
    (listed ", " (xs.map g) ++ whole [.text closing]).chars = rowChars close (fun x => (g x).chars) xs := by
  cases xs with
  | nil =>
    rw [List.map_nil, listed, nil_append, chars_text, hc]
    rfl
  | cons x rest =>
    rw [List.map_cons, listed_cons, append_assoc, chars_append (h x List.mem_cons_self),
      chars_behind hc fun y hy => h y (List.mem_cons_of_mem x hy)]
    rfl

/-- Whether two texts are told apart, whatever may follow them. -/
def AreTold (f : α → List Char) (x y : α) : Prop :=
  ∀ r s, FollowsValue r → FollowsValue s → f x ++ r = f y ++ s → x = y ∧ r = s

theorem followsValue_moreChars {close : Char} (hc : close ∈ closers) (f : α → List Char) (xs : List α)
    (r : List Char) : FollowsValue (moreChars close f xs ++ r) := by
  cases xs with
  | nil => exact ⟨close, hc, r, rfl⟩
  | cons x rest => exact ⟨',', by decide, _, rfl⟩

/-- Rows that are not empty can be read in one way, their items one after the other. -/
theorem moreChars_append_inj {close : Char} (hc : close ∈ closers) (hcomma : close ≠ ',')
    {f : α → List Char} {r s : List Char} : ∀ {xs ys : List α} {x y : α},
      (∀ a ∈ x :: xs, ∀ b ∈ y :: ys, AreTold f a b) →
      f x ++ (moreChars close f xs ++ r) = f y ++ (moreChars close f ys ++ s) →
      x :: xs = y :: ys ∧ r = s
  | xs, ys, x, y, told, h => by
    obtain ⟨hxy, hrest⟩ := told x List.mem_cons_self y List.mem_cons_self _ _
      (followsValue_moreChars hc f xs r) (followsValue_moreChars hc f ys s) h
    match xs, ys with
    | [], [] => exact ⟨by rw [hxy], (List.cons.inj hrest).2⟩
    | [], _ :: _ => exact absurd (List.cons.inj hrest).1 hcomma
    | _ :: _, [] => exact absurd (List.cons.inj hrest).1.symm hcomma
    | a :: xs, b :: ys =>
      have hrest := (List.cons.inj (List.cons.inj hrest).2).2
      rw [List.append_eq, List.append_eq, List.append_assoc, List.append_assoc] at hrest
      obtain ⟨hitems, hrs⟩ := moreChars_append_inj hc hcomma (fun c hc' d hd =>
        told c (List.mem_cons_of_mem x hc') d (List.mem_cons_of_mem y hd)) hrest
      exact ⟨by rw [hxy, hitems], hrs⟩

/-- Whether a text begins, with what does not close a row. -/
def Begins (cs : List Char) : Prop :=
  ∃ c rest, cs = c :: rest ∧ c ∉ closers

/-- **A row can be read in one way** if what it is made of can. -/
theorem rowChars_append_inj {close : Char} (hc : close ∈ closers) (hcomma : close ≠ ',')
    {f : α → List Char} {r s : List Char} {xs ys : List α} (hx : ∀ x ∈ xs, Begins (f x))
    (hy : ∀ y ∈ ys, Begins (f y)) (told : ∀ x ∈ xs, ∀ y ∈ ys, AreTold f x y)
    (h : rowChars close f xs ++ r = rowChars close f ys ++ s) : xs = ys ∧ r = s := by
  -- a row that is empty begins with the mark that closes it
  have hne : ∀ {x : α} {a b : List Char}, Begins (f x) → close :: a ≠ f x ++ b := by
    rintro x a b ⟨c, rest, hx, hcl⟩ h
    rw [hx] at h
    exact hcl ((List.cons.inj h).1 ▸ hc)
  match xs, ys with
  | [], [] => exact ⟨rfl, (List.cons.inj h).2⟩
  | [], y :: others =>
    rw [rowChars, rowChars, List.append_assoc] at h
    exact absurd h (hne (hy y List.mem_cons_self))
  | x :: rest, [] =>
    rw [rowChars, rowChars, List.append_assoc] at h
    exact absurd h.symm (hne (hx x List.mem_cons_self))
  | x :: rest, y :: others =>
    rw [rowChars, rowChars, List.append_assoc, List.append_assoc] at h
    exact moreChars_append_inj hc hcomma told h

end Row

/-! ### Arrays and attributes -/

theorem chars_array {items : List Value} (h : ∀ v ∈ items, v.IsReadable) :
    (Value.array items).chars = '\x7b' :: rowChars '\x7d' Value.chars items := by
  show (Phrase.whole [.text "\x7b"] ++ (Phrase.listed ", " (itemPhrases items) ++
    .whole [.text "\x7d"])).chars = _
  rw [Phrase.chars_append rfl, itemPhrases_eq, Phrase.chars_listed
    (show "\x7d".toList = ['\x7d'] from rfl) fun v hv => (h v hv).fault, Phrase.chars_text]
  rfl

/-- The source text of an attribute with its name. -/
def namedChars (p : String × Value) : List Char :=
  p.1.toList ++ ' ' :: '=' :: ' ' :: p.2.chars

/-- The value that stands alone between the parentheses, if there is one. -/
def unnamed? : List (String × Value) → Option Value
  | [(name, v)] => if name = "value" then some v else none
  | _ => none

theorem eq_of_unnamed? {ps : List (String × Value)} {v : Value} (h : unnamed? ps = some v) :
    ps = [("value", v)] := by
  unfold unnamed? at h
  split at h
  · split at h
    · rename_i hname
      rw [hname, Option.some.inj h]
    · cases h
  · cases h

/-- The source text of attributes behind the opening parenthesis. -/
def insideChars (ps : List (String × Value)) : List Char :=
  match unnamed? ps with
  | some v => v.chars ++ [')']
  | none => rowChars ')' namedChars ps

theorem insideChars_some {ps : List (String × Value)} {v : Value} (h : unnamed? ps = some v) :
    insideChars ps = v.chars ++ [')'] := by
  rw [insideChars, h]

theorem insideChars_none {ps : List (String × Value)} (h : unnamed? ps = none) :
    insideChars ps = rowChars ')' namedChars ps := by
  rw [insideChars, h]

/-- The source text of a list of attributes. -/
def attributeChars (ps : List (String × Value)) : List Char :=
  if ps = [] then [] else '(' :: insideChars ps

theorem chars_named {p : String × Value} :
    (Phrase.whole [.text (p.1 ++ " = ")] ++ p.2.phrase).chars = namedChars p := by
  rw [Phrase.chars_append rfl, Phrase.chars_text, String.toList_append, List.append_assoc]
  rfl

theorem chars_attributeList {ps : List (String × Value)} (h : ∀ p ∈ ps, p.2.IsReadable) :
    (attributeList (attributePhrases ps)).chars = attributeChars ps := by
  have hnamed : ∀ p ∈ ps, (Phrase.whole [.text (p.1 ++ " = ")] ++ p.2.phrase).fault = none := by
    intro p hp
    rw [Phrase.append_fault, (h p hp).fault]
    rfl
  rw [attributePhrases_eq]
  match ps, h, hnamed with
  | [], _, _ => rfl
  | [(name, v)], h, _ =>
    have hv : v.phrase.fault = none := (h (name, v) List.mem_cons_self).fault
    show (Phrase.whole [.text (if name = "value" then "(" else "(" ++ name ++ " = ")] ++
      (v.phrase ++ .whole [.text ")"])).chars = _
    rw [Phrase.chars_append rfl, Phrase.chars_append hv, Phrase.chars_text, Phrase.chars_text,
      attributeChars, if_neg (List.cons_ne_nil _ _), insideChars, unnamed?]
    by_cases hname : name = "value"
    · rw [if_pos hname, if_pos hname]
      rfl
    · rw [if_neg hname, if_neg hname, String.toList_append, String.toList_append]
      simp [rowChars, moreChars, namedChars, Value.chars, Phrase.chars]
  | p :: q :: rest, _, hnamed =>
    have hlisted := Phrase.chars_listed (g := fun p : String × Value =>
      .whole [.text (p.1 ++ " = ")] ++ p.2.phrase) (show ")".toList = [')'] from rfl) hnamed
    show (Phrase.whole [.text "("] ++ (Phrase.listed ", " (((p :: q :: rest).map
      fun p => (p.1, p.2.phrase)).map fun p => .whole [.text (p.1 ++ " = ")] ++ p.2) ++
        .whole [.text ")"])).chars = _
    rw [List.map_map, Phrase.chars_append rfl, Phrase.chars_text]
    refine (congrArg ('(' :: ·) hlisted).trans ?_
    simp only [chars_named]
    rfl

theorem chars_nested {t : TypeRef} {ps : List (String × Value)} (h : ∀ p ∈ ps, p.2.IsReadable) :
    (Value.nested t ps).chars = '@' :: (t.name.toList ++ attributeChars ps) := by
  show (Phrase.whole [.text "@", .typeName t] ++ attributeList (attributePhrases ps)).chars = _
  rw [Phrase.chars_append rfl, chars_attributeList h]
  simp [Phrase.chars, Phrase.whole, Piece.spelledInFull, Piece.inFull]

/-! ### How a value begins -/

theorem isStop_head {c : Char} {rest : List Char} (h : isStop c = true) :
    ∀ d ∈ (c :: rest).head?, isStop d = true :=
  fun _ hd => Option.some.inj hd ▸ h

theorem isStop_of_mem_closers : ∀ c ∈ closers, isStop c = true :=
  Text.of_mem_all (by decide)

theorem FollowsValue.isStop {r : List Char} (h : FollowsValue r) : ∀ c ∈ r.head?, isStop c = true := by
  obtain ⟨c, hc, rest, rfl⟩ := h
  exact isStop_head (isStop_of_mem_closers c hc)

theorem followsValue_paren (x : List Char) : FollowsValue (')' :: x) :=
  ⟨')', by decide, x, rfl⟩

/-- A value is a token, or begins with the mark of its shape. -/
inductive Value.Opens : Value → Prop
  | token {v shape} : v.shape = some shape → IsToken v.chars shape → Opens v
  | string (s) : Opens (.string s)
  | nested {t attributes rest} : (Value.nested t attributes).chars = '@' :: rest →
      Opens (.nested t attributes)
  | array {items rest} : (Value.array items).chars = '\x7b' :: rest → Opens (.array items)

theorem chars_string (s : String) : (Value.string s).chars = Java.stringChars s.toList := by
  rw [chars_text rfl, stringLiteral_toList]

theorem Value.IsReadable.opens {v : Value} (h : v.IsReadable) : v.Opens := by
  have hv := h.self
  cases v with
  | string s => exact .string s
  | boolean b => exact .token rfl (isToken_boolean b)
  | integer i => exact .token rfl (isToken_integer i)
  | double x => exact .token rfl (isToken_double hv)
  | classOf t => exact .token rfl (isToken_classOf hv)
  | enumConstant t constant => exact .token rfl (isToken_enumConstant hv.1 hv.2.1 hv.2.2)
  | nested t attributes => exact .nested (chars_nested h.attribute)
  | array items => exact .array (chars_array h.item)
  | unsupported shown => cases hv

/-- The shape of a value is seen from how a text begins with it. -/
theorem shapeOf_append {v : Value} (h : v.Opens) {r : List Char} (hr : FollowsValue r) :
    shapeOf (v.chars ++ r) = v.shape := by
  cases h with
  | token hs ht => rw [ht.shapeOf_append hr.isStop, hs]
  | string s =>
    rw [chars_string]
    rfl
  | nested hc =>
    rw [hc]
    rfl
  | array hc =>
    rw [hc]
    rfl

theorem shape_eq_of_append {v w : Value} (hv : v.Opens) (hw : w.Opens) {r s : List Char}
    (hr : FollowsValue r) (hs : FollowsValue s) (h : v.chars ++ r = w.chars ++ s) : v.shape = w.shape := by
  rw [← shapeOf_append hv hr, h, shapeOf_append hw hs]

theorem Value.Opens.begins {v : Value} (h : v.Opens) : Begins v.chars := by
  cases h with
  | token hs ht =>
    obtain ⟨c, rest, hc, -⟩ := ht.head
    refine ⟨c, rest, hc, fun hm => ?_⟩
    have hstop := ht.stop c (hc ▸ List.mem_cons_self)
    rw [isStop_of_mem_closers c hm] at hstop
    cases hstop
  | string s =>
    rw [chars_string]
    exact ⟨'"', _, rfl, by decide⟩
  | nested hc => exact ⟨'@', _, hc, by decide⟩
  | array hc => exact ⟨'\x7b', _, hc, by decide⟩

/-- A value before what may follow it does not begin as a word before a space does. -/
theorem Value.Opens.append_ne {v : Value} (h : v.Opens) {word r x : List Char} (hw : isWord word = true)
    (hr : FollowsValue r) : v.chars ++ r ≠ word ++ ' ' :: x := by
  intro he
  have hmark : ∀ {c : Char} {rest : List Char}, isMark c = true → v.chars = c :: rest → False := by
    intro c rest hc hv
    obtain ⟨d, more, rfl, -, hd⟩ := exists_cons_of_isWord hw
    rw [hv] at he
    rw [(List.cons.inj he).1, hd] at hc
    cases hc
  cases h with
  | token hs ht =>
    have hstop : ∀ c ∈ word, isStop c = false := fun c hc => isStop_of_isMark (isMark_of_isWord hw c hc)
    have hrest := (Text.append_inj_of_stop ht.stop hstop hr.isStop (isStop_head (by decide)) he).2
    obtain ⟨c, hc, rest, rfl⟩ := hr
    have hspace : ' ' ∉ closers := by decide
    exact hspace ((List.cons.inj hrest).1 ▸ hc)
  | string s => exact hmark (by decide) (chars_string s)
  | nested hc => exact hmark (by decide) hc
  | array hc => exact hmark (by decide) hc

/-! ### Main results -/

/-- An attribute with its name is told by its text if its value is. -/
theorem told_named {p q : String × Value} (hp : isWord p.1.toList = true) (hq : isWord q.1.toList = true)
    (h : AreTold Value.chars p.2 q.2) : AreTold namedChars p q := by
  intro r s hr hs he
  rw [namedChars, namedChars, List.append_assoc, List.append_assoc] at he
  have hstop : ∀ {w : List Char}, isWord w = true → ∀ c ∈ w, isStop c = false :=
    fun hw c hc => isStop_of_isMark (isMark_of_isWord hw c hc)
  obtain ⟨hname, hrest⟩ := Text.append_inj_of_stop (hstop hp) (hstop hq) (isStop_head (by decide))
    (isStop_head (by decide)) he
  have hvalue := (List.cons.inj (List.cons.inj (List.cons.inj hrest).2).2).2
  obtain ⟨hv, hrs⟩ := h r s hr hs hvalue
  exact ⟨Prod.ext (String.toList_inj.mp hname) hv, hrs⟩

theorem begins_named {p : String × Value} (hp : isWord p.1.toList = true) : Begins (namedChars p) := by
  obtain ⟨c, rest, hc, -, hmark⟩ := exists_cons_of_isWord hp
  refine ⟨c, rest ++ ' ' :: '=' :: ' ' :: p.2.chars, by rw [namedChars, hc]; rfl, fun hm => ?_⟩
  have hall : ∀ c ∈ closers, isMark c = true := Text.of_mem_all (by decide)
  rw [hall c hm] at hmark
  cases hmark

/-- A value alone between parentheses does not read as attributes with names. -/
theorem unnamed_ne_rowChars {v : Value} (hv : v.Opens) {qs : List (String × Value)} (hne : qs ≠ [])
    (hq : ∀ q ∈ qs, isWord q.1.toList = true) (r s : List Char) :
    (v.chars ++ [')']) ++ r ≠ rowChars ')' namedChars qs ++ s := by
  obtain ⟨q, rest, rfl⟩ := List.exists_cons_of_ne_nil hne
  rw [rowChars, namedChars, List.append_assoc, List.append_assoc, List.append_assoc]
  exact hv.append_ne (hq q List.mem_cons_self) (followsValue_paren r)

theorem insideChars_append_inj {ps qs : List (String × Value)} {r s : List Char} (hps : ps ≠ [])
    (hqs : qs ≠ []) (hp : ∀ p ∈ ps, isWord p.1.toList = true ∧ p.2.Opens)
    (hq : ∀ q ∈ qs, isWord q.1.toList = true ∧ q.2.Opens)
    (told : ∀ p ∈ ps, ∀ q ∈ qs, AreTold Value.chars p.2 q.2)
    (h : insideChars ps ++ r = insideChars qs ++ s) : ps = qs ∧ r = s := by
  have hmem : ∀ {ps : List (String × Value)} {v}, unnamed? ps = some v → ("value", v) ∈ ps := by
    intro ps v hv
    rw [eq_of_unnamed? hv]
    exact List.mem_cons_self
  cases hpv : unnamed? ps with
  | some v =>
    rw [insideChars_some hpv] at h
    cases hqv : unnamed? qs with
    | some w =>
      rw [insideChars_some hqv, List.append_assoc, List.append_assoc] at h
      obtain ⟨hvw, hrs⟩ :=
        told _ (hmem hpv) _ (hmem hqv) _ _ (followsValue_paren r) (followsValue_paren s) h
      have hvw : v = w := hvw
      exact ⟨by rw [eq_of_unnamed? hpv, eq_of_unnamed? hqv, hvw], (List.cons.inj hrs).2⟩
    | none =>
      rw [insideChars_none hqv] at h
      exact absurd h (unnamed_ne_rowChars (hp _ (hmem hpv)).2 hqs (fun q hq' => (hq q hq').1) r s)
  | none =>
    rw [insideChars_none hpv] at h
    cases hqv : unnamed? qs with
    | some w =>
      rw [insideChars_some hqv] at h
      exact absurd h.symm (unnamed_ne_rowChars (hq _ (hmem hqv)).2 hps (fun p hp' => (hp p hp').1) s r)
    | none =>
      rw [insideChars_none hqv] at h
      have hclose : ')' ∈ closers ∧ ')' ≠ ',' := by decide
      exact rowChars_append_inj hclose.1 hclose.2 (fun p hp' => begins_named (hp p hp').1)
        (fun q hq' => begins_named (hq q hq').1)
        (fun p hp' q hq' => told_named (hp p hp').1 (hq q hq').1 (told p hp' q hq')) h

/-- **A list of attributes can be read in one way** if the values can. -/
theorem attributeChars_append_inj {ps qs : List (String × Value)} {r s : List Char}
    (hr : FollowsValue r) (hs : FollowsValue s) (hp : ∀ p ∈ ps, isWord p.1.toList = true ∧ p.2.Opens)
    (hq : ∀ q ∈ qs, isWord q.1.toList = true ∧ q.2.Opens)
    (told : ∀ p ∈ ps, ∀ q ∈ qs, AreTold Value.chars p.2 q.2)
    (h : attributeChars ps ++ r = attributeChars qs ++ s) : ps = qs ∧ r = s := by
  -- what follows a value opens no parenthesis, so it is seen whether there are attributes
  have hparen : ∀ {r : List Char}, FollowsValue r → ∀ x, r ≠ '(' :: x := by
    rintro r ⟨c, hc, rest, rfl⟩ x h
    have hnot : '(' ∉ closers := by decide
    exact hnot ((List.cons.inj h).1 ▸ hc)
  unfold attributeChars at h
  by_cases hps : ps = []
  · by_cases hqs : qs = []
    · rw [if_pos hps, if_pos hqs] at h
      exact ⟨hps.trans hqs.symm, h⟩
    · rw [if_pos hps, if_neg hqs] at h
      exact absurd h (hparen hr _)
  · by_cases hqs : qs = []
    · rw [if_neg hps, if_pos hqs] at h
      exact absurd h.symm (hparen hs _)
    · rw [if_neg hps, if_neg hqs] at h
      exact insideChars_append_inj hps hqs hp hq told (List.cons.inj h).2

/-- A string is told by its literal, which reads as the string. -/
theorem told_string (s t : String) : ∀ r r', FollowsValue r → FollowsValue r' →
    (Value.string s).chars ++ r = (Value.string t).chars ++ r' → s = t ∧ r = r' := by
  intro r r' hr hr' h
  rw [chars_text rfl, chars_text rfl] at h
  have hread := readString?_stringLiteral s hr
  rw [h, readString?_stringLiteral t hr'] at hread
  have hst : s = t := String.toList_inj.mp (Java.units_injective (Prod.ext_iff.mp (Option.some.inj hread)).1).symm
  rw [hst] at h
  exact ⟨hst, List.append_cancel_left h⟩

/-- Simple values are told: a string reads back, and a token ends where what follows it begins. -/
theorem told_simple {v w : Value} (hsimple : v.isSimple = true) (hv : v.IsLegible) (hw : w.IsLegible)
    (hshape : v.shape = w.shape) : AreTold Value.chars v w := by
  intro r s hr hs h
  have hcut : ∀ {x y : Shape}, IsToken v.chars x → IsToken w.chars y → v.chars = w.chars ∧ r = s :=
    fun hx hy => hx.append_inj hy hr.isStop hs.isStop h
  cases v with
  | string a =>
    cases w with
    | string b =>
      obtain ⟨hab, hrs⟩ := told_string a b r s hr hs h
      exact ⟨by rw [hab], hrs⟩
    | _ => cases hshape
  | boolean a =>
    cases w with
    | boolean b =>
      obtain ⟨hchars, hrs⟩ := hcut (isToken_boolean a) (isToken_boolean b)
      exact ⟨by rw [boolean_injective hchars], hrs⟩
    | _ => cases hshape
  | integer i =>
    cases w with
    | integer j =>
      obtain ⟨hchars, hrs⟩ := hcut (isToken_integer i) (isToken_integer j)
      rw [chars_text rfl, chars_text rfl] at hchars
      exact ⟨by rw [integerLiteral_injective (String.toList_inj.mp hchars)], hrs⟩
    | _ => cases hshape
  | double x =>
    cases w with
    | double y =>
      obtain ⟨hchars, hrs⟩ := hcut (isToken_double hv) (isToken_double hw)
      rw [chars_double hv, chars_double hw] at hchars
      exact ⟨by rw [Binary64.text_injective hv hw (String.toList_inj.mp hchars)], hrs⟩
    | _ => cases hshape
  | classOf t =>
    cases w with
    | classOf u =>
      obtain ⟨hchars, hrs⟩ := hcut (isToken_classOf hv) (isToken_classOf hw)
      exact ⟨by rw [classOf_injective hv hw hchars], hrs⟩
    | _ => cases hshape
  | enumConstant t c =>
    cases w with
    | enumConstant u d =>
      obtain ⟨hchars, hrs⟩ := hcut (isToken_enumConstant hv.1 hv.2.1 hv.2.2)
        (isToken_enumConstant hw.1 hw.2.1 hw.2.2)
      obtain ⟨htu, hcd⟩ := enumConstant_injective hv.1 hw.1 hv.2.1 hw.2.1 hchars
      exact ⟨by rw [htu, hcd], hrs⟩
    | _ => cases hshape
  | nested t ps => cases hsimple
  | array items => cases hsimple
  | unsupported shown => cases hv

/-- What stands behind the name of an annotation in a value, and what follows the value, goes on with no
name. -/
theorem isStop_attributeChars (ps : List (String × Value)) {r : List Char} (hr : FollowsValue r) :
    ∀ c ∈ (attributeChars ps ++ r).head?, (isMark c && c != '.') = true := by
  intro c hc
  unfold attributeChars at hc
  split at hc
  · obtain ⟨d, hd, rest, rfl⟩ := hr
    have hall : ∀ c ∈ closers, (isMark c && c != '.') = true := Text.of_mem_all (by decide)
    exact hall c (Option.some.inj hc ▸ hd)
  · rw [← Option.some.inj hc]
    decide

/-- Annotations in a value are told if their attributes are. -/
theorem told_nested {t u : TypeRef} {ps qs : List (String × Value)} (hv : (Value.nested t ps).IsReadable)
    (hw : (Value.nested u qs).IsReadable) (h : ∀ p ∈ ps, ∀ q ∈ qs, AreTold Value.chars p.2 q.2) :
    AreTold Value.chars (.nested t ps) (.nested u qs) := by
  intro r s hr hs he
  rw [chars_nested hv.attribute, chars_nested hw.attribute, List.cons_append, List.cons_append,
    List.append_assoc, List.append_assoc] at he
  have hname : ∀ {t : TypeRef}, IsClassName t → ∀ c ∈ t.name.toList, (isMark c && c != '.') = false := by
    intro t ht c hc
    rcases isMark_of_isQualified ht.2.1 c hc with rfl | hmark
    · decide
    · rw [hmark]
      rfl
  have hp : ∀ {t ps}, (Value.nested t ps).IsReadable → ∀ p ∈ ps, isWord p.1.toList = true ∧ p.2.Opens :=
    fun hv p hp => ⟨hv.self.2 p hp, (hv.attribute p hp).opens⟩
  obtain ⟨hnames, hrest⟩ := Text.append_inj_of_stop (hname hv.self.1) (hname hw.self.1)
    (isStop_attributeChars ps hr) (isStop_attributeChars qs hs) (List.cons.inj he).2
  obtain ⟨hattributes, hrs⟩ := attributeChars_append_inj hr hs (hp hv) (hp hw) h hrest
  have htypes : t = u := hv.self.1.eq_of_name hw.self.1 (String.toList_inj.mp hnames)
  exact ⟨by rw [htypes, hattributes], hrs⟩

/-- Arrays are told if their items are. -/
theorem told_array {vs ws : List Value} (hv : (Value.array vs).IsReadable)
    (hw : (Value.array ws).IsReadable) (h : ∀ v ∈ vs, ∀ w ∈ ws, AreTold Value.chars v w) :
    AreTold Value.chars (.array vs) (.array ws) := by
  intro r s hr hs he
  rw [chars_array hv.item, chars_array hw.item] at he
  have hclose : '\x7d' ∈ closers ∧ '\x7d' ≠ ',' := by decide
  obtain ⟨hitems, hrs⟩ := rowChars_append_inj hclose.1 hclose.2 (fun v hv' => (hv.item v hv').opens.begins)
    (fun w hw' => (hw.item w hw').opens.begins) h (List.cons.inj he).2
  exact ⟨by rw [hitems], hrs⟩

/-- **Unique readability.** A text that begins with a value, before what may follow one, begins with no
other, and what follows is the same. -/
theorem told {v w : Value} (hv : v.IsReadable) (hw : w.IsReadable) : AreTold Value.chars v w := by
  -- by induction on the first, whose parts are compared with those of the second
  induction v using Value.inductionOn generalizing w with
  | simple v hsimple =>
    intro r s hr hs h
    exact told_simple hsimple hv.self hw.self (shape_eq_of_append hv.opens hw.opens hr hs h) r s hr hs h
  | nested t ps ih =>
    intro r s hr hs h
    have hshape := shape_eq_of_append hv.opens hw.opens hr hs h
    cases w with
    | nested u qs =>
      exact told_nested hv hw (fun p hp q hq => ih p hp (hv.attribute p hp) (hw.attribute q hq)) r s hr hs h
    | _ => cases hshape
  | array vs ih =>
    intro r s hr hs h
    have hshape := shape_eq_of_append hv.opens hw.opens hr hs h
    cases w with
    | array ws =>
      exact told_array hv hw (fun v hv' w hw' => ih v hv' (hv.item v hv') (hw.item w hw')) r s hr hs h
    | _ => cases hshape

/-! ### Annotations -/

/-- The source text of an annotation is that of the annotation as a value. -/
theorem IsReadable.text {a : Annotation} (h : a.IsReadable) :
    a.text = .ok (String.ofList a.value.chars) := by
  have hfault : a.phrase.fault = none := Value.IsReadable.fault h
  show a.phrase.inFull = _
  rw [Phrase.inFull, hfault, Value.chars, String.ofList_toList]
  rfl

/-- **The text tells the annotation.** An annotation that can be read has a source text, and no other has
the same. -/
theorem text_eq_text_iff (a b : Annotation) (ha : a.IsReadable) (hb : b.IsReadable) :
    (∃ s, a.text = .ok s) ∧ (a.text = b.text ↔ a = b) := by
  refine ⟨⟨_, ha.text⟩, fun h => ?_, fun h => by rw [h]⟩
  rw [ha.text, hb.text] at h
  have hchars : a.value.chars = b.value.chars := String.ofList_injective (Except.ok.inj h)
  -- an annotation is read as a value before the end of what it could be in
  have hclose : FollowsValue [')'] := followsValue_paren []
  have hvalue : a.value = b.value := (told ha hb [')'] [')'] hclose hclose (by rw [hchars])).1
  obtain ⟨t, ps⟩ := a
  obtain ⟨u, qs⟩ := b
  cases hvalue
  rfl

/-- One string with a quote, a comma and a quote in it, and two strings with a comma between them, give
different texts. -/
theorem text_eq_text_iff_quoted :
    let more : List Value := [.classOf ⟨"int", [], 2, .primitive, none, some ""⟩,
      .enumConstant (TypeRef.declared "a.E") "ONE", .nested (TypeRef.declared "C") [("of", .boolean true)],
      .integer 2147483648, .double ⟨false, 1022, 0⟩]
    let joined : Annotation := ⟨TypeRef.declared "a.B", [("value", .array (.string "x\", \"y" :: more))]⟩
    let parted : Annotation :=
      ⟨TypeRef.declared "a.B", [("value", .array (.string "x" :: .string "y" :: more))]⟩
    joined.IsReadable ∧ parted.IsReadable ∧ joined.text ≠ parted.text ∧
      parted.text = .ok
        "@a.B(\x7b\"x\", \"y\", int[][].class, a.E.ONE, @C(of = true), 2147483648L, 0.5\x7d)" := by
  intro more joined parted
  have hjoined : joined.IsReadable := by decide
  have hparted : parted.IsReadable := by decide
  refine ⟨hjoined, hparted, fun h => ?_, ?_⟩
  · have heq : joined = parted := (text_eq_text_iff joined parted hjoined hparted).2.mp h
    have hvalues := congrArg Annotation.attributes heq
    simp [joined, parted] at hvalues
  · exact congrArg Except.ok (show Piece.spelledInFull parted.phrase.pieces = _ by decide)

end Annotation
end Intertype
