/-
# A text tells the reference

The source text of a reference can be read in one way. A name has none of the marks that a text is
put together with, so it ends where the first mark stands; behind it come its arguments, between angle
brackets, and its dimensions, and what may follow a reference begins with no mark that could belong to
it. So two references made of declared types, whatever their names are, have different texts
(`TypeRef.text_injective`), and one text is not the beginning of another either, unless the two are
told apart by what follows (`TypeRef.eq_of_text_append`).

Key definitions: `TypeRef.isMark`, `TypeRef.IsWord`, `TypeRef.IsPlain`.
Key theorems: `TypeRef.eq_of_text_append`, `TypeRef.text_injective`.
-/
import Intertype.Proofs.TypeRef.Tree
import Intertype.Text.Blank

namespace Intertype

/-- A text without certain marks ends where the first of them stands. -/
theorem Text.append_inj_of_stop {p : Char → Bool} {a b r s : List Char} (ha : ∀ c ∈ a, p c = false)
    (hb : ∀ c ∈ b, p c = false) (hr : ∀ c ∈ r.head?, p c = true) (hs : ∀ c ∈ s.head?, p c = true)
    (h : a ++ r = b ++ s) : a = b ∧ r = s := by
  induction a generalizing b with
  | nil =>
    cases b with
    | nil => exact ⟨rfl, h⟩
    | cons c rest =>
      have hc : p c = true := hr c (by rw [show r = c :: (rest ++ s) from h]; rfl)
      exact absurd hc (by rw [hb c List.mem_cons_self]; exact Bool.false_ne_true)
  | cons c rest ih =>
    cases b with
    | nil =>
      have hc : p c = true := hs c (by rw [show s = c :: (rest ++ r) from h.symm]; rfl)
      exact absurd hc (by rw [ha c List.mem_cons_self]; exact Bool.false_ne_true)
    | cons d more =>
      obtain ⟨hcd, h⟩ := List.cons.inj h
      obtain ⟨hrest, hrs⟩ := ih (fun x hx => ha x (List.mem_cons_of_mem _ hx))
        (fun x hx => hb x (List.mem_cons_of_mem _ hx)) h
      exact ⟨by rw [hcd, hrest], hrs⟩

namespace TypeRef

/-- The marks that stand around names in the text of a reference. -/
def isMark (c : Char) : Bool :=
  c ∈ ['<', '>', ',', '[', ']', '?']

/-- Whether the text can be a name: it is not empty and has no marks. -/
def IsWord (cs : List Char) : Prop :=
  cs ≠ [] ∧ ∀ c ∈ cs, isMark c = false

-- The list is named here: a search over all characters would decide this as well, but never ends.
instance (cs : List Char) : Decidable (IsWord cs) :=
  @instDecidableAnd _ _ _ (List.decidableBAll _ cs)

/-- A reference that is all told by its text: the wildcard without a bound, or a declared type with a
derived package and a name without marks, its arguments left out. -/
def IsPlain (t : TypeRef) : Prop :=
  t = anything ∨
    (t.kind = .declared ∧ t.package = none ∧ t.wildcard ≠ some .unbounded ∧ IsWord t.name.toList)

/-! ### What follows a name or a reference -/

/-- What may follow a name: nothing, or text that begins with a mark. -/
def EndsWord : List Char → Prop
  | [] => True
  | c :: _ => isMark c = true

/-- What may follow a reference: nothing, a comma or the end of the arguments. -/
def EndsRef : List Char → Prop
  | [] => True
  | c :: _ => c = ',' ∨ c = '>'

/-- A name ends where the first mark stands. -/
theorem word_append_inj {a b r s : List Char} (ha : ∀ c ∈ a, isMark c = false)
    (hb : ∀ c ∈ b, isMark c = false) (hr : EndsWord r) (hs : EndsWord s) (h : a ++ r = b ++ s) :
    a = b ∧ r = s := by
  have ends : ∀ {r : List Char}, EndsWord r → ∀ c ∈ r.head?, isMark c = true := by
    intro r hr c hc
    cases r with
    | nil => cases hc
    | cons d rest => exact Option.some.inj hc ▸ hr
  exact Text.append_inj_of_stop ha hb (ends hr) (ends hs) h

theorem brackets_succ_toList (n : Nat) :
    (brackets (n + 1)).toList = '[' :: ']' :: (brackets n).toList := by
  rw [brackets, Text.repeated_succ, String.toList_append]
  rfl

theorem unspaced_brackets (k : Nat) : Text.unspaced (brackets k).toList = (brackets k).toList := by
  induction k with
  | zero => rfl
  | succ k ih =>
    rw [brackets_succ_toList]
    exact congrArg (fun cs => '[' :: ']' :: cs) ih

/-- The dimensions end where what follows the reference begins. -/
theorem brackets_append_inj : ∀ {m n : Nat} {r s : List Char}, EndsRef r → EndsRef s →
    (brackets m).toList ++ r = (brackets n).toList ++ s → m = n ∧ r = s
  | 0, 0, r, s, _, _, h => ⟨rfl, h⟩
  | 0, n + 1, r, s, hr, _, h => by
    have h : r = '[' :: ']' :: ((brackets n).toList ++ s) := by
      rw [brackets_succ_toList] at h
      exact h
    rw [h] at hr
    rcases hr with hr | hr <;> cases hr
  | m + 1, 0, r, s, _, hs, h => by
    have h : '[' :: ']' :: ((brackets m).toList ++ r) = s := by
      rw [brackets_succ_toList] at h
      exact h
    rw [← h] at hs
    rcases hs with hs | hs <;> cases hs
  | m + 1, n + 1, r, s, hr, hs, h => by
    rw [brackets_succ_toList, brackets_succ_toList] at h
    injection h with _ h
    injection h with _ h
    obtain ⟨hmn, hrs⟩ := brackets_append_inj hr hs h
    exact ⟨by rw [hmn], hrs⟩

/-! ### The text of a plain reference -/

/-- The text behind the first of several arguments: the others and the end of the arguments. -/
def moreArguments : List TypeRef → List Char
  | [] => ['>']
  | b :: rest => ',' :: ' ' :: (b.text.toList ++ moreArguments rest)

/-- The text of the arguments, nothing where there are none. -/
def argumentChars : List TypeRef → List Char
  | [] => []
  | a :: rest => '<' :: (a.text.toList ++ moreArguments rest)

theorem joined_toList (a : TypeRef) : ∀ rest : List TypeRef,
    (Text.joined ", " ((a :: rest).map text)).toList ++ ['>'] = a.text.toList ++ moreArguments rest := by
  intro rest
  induction rest generalizing a with
  | nil => rfl
  | cons b more ih =>
    rw [List.map_cons, Text.joined_cons _ _ (by simp), String.toList_append, String.toList_append,
      List.append_assoc, List.append_assoc, ih b]
    rfl

/-- The text of a reference that is no primitive type. -/
theorem text_eq_of_not_primitive {t : TypeRef} (hk : t.kind ≠ .primitive)
    (hw : t.wildcard ≠ some .unbounded) :
    t.text = wildcardText t.wildcard ++ (t.namePiece.inFull ++
      (if t.args = [] then brackets t.dims
      else "<" ++ (Text.joined ", " (t.args.map text) ++ (">" ++ brackets t.dims)))) := by
  rw [text, pieces_eq, if_neg hw, if_neg hk]
  by_cases ha : t.args = []
  · rw [if_pos ha, if_pos ha]
    simp [Piece.spelledInFull, Piece.inFull]
  · rw [if_neg ha, if_neg ha]
    simp only [Piece.spelledInFull, Piece.inFull, Piece.spelledInFull_append,
      Piece.spelledInFull_listed, String.append_empty, List.map_map]
    rfl

/-- The text of a declared type. -/
theorem text_eq {t : TypeRef} (hk : t.kind = .declared) (hw : t.wildcard ≠ some .unbounded) :
    t.text = wildcardText t.wildcard ++ (t.name ++
      (if t.args = [] then brackets t.dims
      else "<" ++ (Text.joined ", " (t.args.map text) ++ (">" ++ brackets t.dims)))) := by
  have hname : t.namePiece = .typeName t := if_neg (by simp [hk])
  rw [text_eq_of_not_primitive (by simp [hk]) hw, hname]
  rfl

theorem text_toList_of_not_primitive {t : TypeRef} (hk : t.kind ≠ .primitive)
    (hw : t.wildcard ≠ some .unbounded) :
    t.text.toList = (wildcardText t.wildcard).toList ++
      (t.namePiece.inFull.toList ++ (argumentChars t.args ++ (brackets t.dims).toList)) := by
  rw [text_eq_of_not_primitive hk hw, String.toList_append, String.toList_append]
  cases t.args with
  | nil => rfl
  | cons a rest =>
    rw [if_neg (List.cons_ne_nil a rest), String.toList_append, String.toList_append,
      String.toList_append, argumentChars, List.cons_append, ← joined_toList, List.append_assoc]
    rfl

theorem text_toList {t : TypeRef} (hk : t.kind = .declared) (hw : t.wildcard ≠ some .unbounded) :
    t.text.toList = (wildcardText t.wildcard).toList ++
      (t.name.toList ++ (argumentChars t.args ++ (brackets t.dims).toList)) := by
  have hname : t.namePiece = .typeName t := if_neg (by simp [hk])
  rw [text_toList_of_not_primitive (by simp [hk]) hw, hname]
  rfl

theorem anything_text : anything.text.toList = ['?'] := rfl

/-- Behind a name stand the marks of its arguments and dimensions, or what follows the reference. -/
theorem endsWord_argumentChars (args : List TypeRef) (dims : Nat) {r : List Char} (hr : EndsRef r) :
    EndsWord (argumentChars args ++ ((brackets dims).toList ++ r)) := by
  cases args with
  | cons a rest => exact rfl
  | nil =>
    cases dims with
    | succ n =>
      rw [brackets_succ_toList]
      exact rfl
    | zero =>
      cases r with
      | nil => exact trivial
      | cons c rest =>
        show isMark c = true
        rcases hr with rfl | rfl <;> rfl

theorem IsWord.head_ne {c : Char} {rest : List Char} (h : IsWord (c :: rest)) : c ≠ '?' := by
  rintro rfl
  exact absurd (h.2 '?' List.mem_cons_self) (by decide)

/-- The wildcard before a name is told by the first characters. -/
theorem wildcardText_append_inj {w v : Option Wildcard} (hw : w ≠ some .unbounded)
    (hv : v ≠ some .unbounded) {a b x y : List Char} (ha : IsWord a) (hb : IsWord b)
    (h : (wildcardText w).toList ++ (a ++ x) = (wildcardText v).toList ++ (b ++ y)) :
    w = v ∧ a ++ x = b ++ y := by
  obtain ⟨c, a, rfl⟩ := List.exists_cons_of_ne_nil ha.1
  obtain ⟨d, b, rfl⟩ := List.exists_cons_of_ne_nil hb.1
  match w, v with
  | none, none => exact ⟨rfl, h⟩
  | some .upper, some .upper => exact ⟨rfl, List.append_cancel_left h⟩
  | some .lower, some .lower => exact ⟨rfl, List.append_cancel_left h⟩
  | none, some .upper => exact absurd (List.cons.inj h).1 ha.head_ne
  | none, some .lower => exact absurd (List.cons.inj h).1 ha.head_ne
  | some .upper, none => exact absurd (List.cons.inj h).1.symm hb.head_ne
  | some .lower, none => exact absurd (List.cons.inj h).1.symm hb.head_ne
  | some .upper, some .lower =>
    have h3 := (List.cons.inj (List.cons.inj (List.cons.inj h).2).2).1
    exact absurd h3 (by decide)
  | some .lower, some .upper =>
    have h3 := (List.cons.inj (List.cons.inj (List.cons.inj h).2).2).1
    exact absurd h3 (by decide)
  | some .unbounded, _ => exact absurd rfl hw
  | _, some .unbounded => exact absurd rfl hv

/-- The wildcard without a bound is told from a wildcard with one by what follows it. -/
theorem anything_append_ne {w : Option Wildcard} {a x r : List Char} (hw : w ≠ some .unbounded)
    (ha : IsWord a) (hr : EndsRef r) : ['?'] ++ r ≠ (wildcardText w).toList ++ (a ++ x) := by
  intro h
  obtain ⟨c, a, rfl⟩ := List.exists_cons_of_ne_nil ha.1
  have space : ∀ y, r ≠ ' ' :: y := by
    rintro y rfl
    rcases hr with hr | hr <;> exact absurd hr (by decide)
  match w with
  | none => exact ha.head_ne (List.cons.inj h).1.symm
  | some .upper => exact space _ (List.cons.inj h).2
  | some .lower => exact space _ (List.cons.inj h).2
  | some .unbounded => exact hw rfl

/-! ### Main results -/

/-- Whether the two references are told apart by their texts, whatever may follow them. -/
def AreTold (t u : TypeRef) : Prop :=
  ∀ r s : List Char, EndsRef r → EndsRef s → t.text.toList ++ r = u.text.toList ++ s → t = u ∧ r = s

/-- What follows the first of several arguments is what may follow a reference. -/
theorem endsRef_moreArguments (rest : List TypeRef) (r : List Char) :
    EndsRef (moreArguments rest ++ r) := by
  cases rest with
  | nil => exact Or.inr rfl
  | cons b more => exact Or.inl rfl

theorem moreArguments_append_inj {r s : List Char} : ∀ {as bs : List TypeRef},
    (∀ a ∈ as, ∀ b ∈ bs, AreTold a b) → moreArguments as ++ r = moreArguments bs ++ s →
      as = bs ∧ r = s
  | [], [], _, h => ⟨rfl, (List.cons.inj h).2⟩
  | [], b :: rest, _, h => absurd (List.cons.inj h).1 (by decide)
  | a :: rest, [], _, h => absurd (List.cons.inj h).1 (by decide)
  | a :: rest, b :: others, told, h => by
    rw [moreArguments, moreArguments, List.cons_append, List.cons_append, List.cons_append,
      List.cons_append, List.append_assoc, List.append_assoc] at h
    have h := (List.cons.inj (List.cons.inj h).2).2
    obtain ⟨hab, hrest⟩ := told a List.mem_cons_self b List.mem_cons_self _ _
      (endsRef_moreArguments rest r) (endsRef_moreArguments others s) h
    obtain ⟨hothers, hrs⟩ := moreArguments_append_inj (fun c hc d hd =>
      told c (List.mem_cons_of_mem _ hc) d (List.mem_cons_of_mem _ hd)) hrest
    exact ⟨by rw [hab, hothers], hrs⟩

/-- What follows the arguments of a reference begins with no angle bracket, so it is seen whether there
are any. -/
theorem dimensions_ne_angle (dims : Nat) {r x : List Char} (hr : EndsRef r) :
    (brackets dims).toList ++ r ≠ '<' :: x := by
  intro h
  cases dims with
  | succ n =>
    rw [brackets_succ_toList] at h
    exact absurd (List.cons.inj h).1 (by decide)
  | zero =>
    change r = '<' :: x at h
    rw [h] at hr
    rcases hr with hr | hr <;> exact absurd hr (by decide)

theorem argumentChars_append_inj {as bs : List TypeRef} {m n : Nat} {r s : List Char}
    (hr : EndsRef r) (hs : EndsRef s) (told : ∀ a ∈ as, ∀ b ∈ bs, AreTold a b)
    (h : argumentChars as ++ ((brackets m).toList ++ r) =
      argumentChars bs ++ ((brackets n).toList ++ s)) : as = bs ∧ m = n ∧ r = s := by
  match as, bs, told, h with
  | [], [], _, h => exact ⟨rfl, brackets_append_inj hr hs h⟩
  | [], b :: rest, _, h => exact absurd h (dimensions_ne_angle m hr)
  | a :: rest, [], _, h => exact absurd h.symm (dimensions_ne_angle n hs)
  | a :: rest, b :: others, told, h =>
    rw [argumentChars, argumentChars, List.cons_append, List.cons_append, List.append_assoc,
      List.append_assoc] at h
    obtain ⟨hab, hrest⟩ := told a List.mem_cons_self b List.mem_cons_self _ _
      (endsRef_moreArguments rest _) (endsRef_moreArguments others _) (List.cons.inj h).2
    obtain ⟨hothers, hdims⟩ := moreArguments_append_inj (fun c hc d hd =>
      told c (List.mem_cons_of_mem _ hc) d (List.mem_cons_of_mem _ hd)) hrest
    exact ⟨by rw [hab, hothers], brackets_append_inj hr hs hdims⟩

theorem eq_of_fields {t u : TypeRef} (hn : t.name = u.name) (ha : t.args = u.args)
    (hd : t.dims = u.dims) (hk : t.kind = u.kind) (hw : t.wildcard = u.wildcard)
    (hp : t.package = u.package) : t = u := by
  obtain ⟨name, args, dims, kind, wildcard, package⟩ := t
  obtain ⟨name', args', dims', kind', wildcard', package'⟩ := u
  simp only at hn ha hd hk hw hp
  rw [hn, ha, hd, hk, hw, hp]

/-- **Unique readability.** A text that begins with a reference begins with no other, and what follows
it is the same. -/
theorem eq_of_text_append {t u : TypeRef} (ht : ∀ v ∈ t.nodes, v.IsPlain)
    (hu : ∀ v ∈ u.nodes, v.IsPlain) : AreTold t u := by
  -- by induction on the first, whose arguments are compared with those of the second
  induction t using inductionOn generalizing u with
  | node t ih =>
    intro r s hr hs h
    rcases ht t t.self_mem_nodes with rfl | ⟨htk, htp, htw, htn⟩
    · rcases hu u u.self_mem_nodes with rfl | ⟨huk, hup, huw, hun⟩
      · exact ⟨rfl, (List.cons.inj h).2⟩
      · rw [anything_text, text_toList huk huw, List.append_assoc, List.append_assoc] at h
        exact absurd h (anything_append_ne huw hun hr)
    · rcases hu u u.self_mem_nodes with rfl | ⟨huk, hup, huw, hun⟩
      · rw [anything_text, text_toList htk htw, List.append_assoc, List.append_assoc] at h
        exact absurd h.symm (anything_append_ne htw htn hs)
      · rw [text_toList htk htw, text_toList huk huw] at h
        simp only [List.append_assoc] at h
        obtain ⟨hw, h⟩ := wildcardText_append_inj htw huw htn hun h
        obtain ⟨hn, h⟩ := word_append_inj htn.2 hun.2 (endsWord_argumentChars t.args t.dims hr)
          (endsWord_argumentChars u.args u.dims hs) h
        have told : ∀ a ∈ t.args, ∀ b ∈ u.args, AreTold a b := fun a ha b hb =>
          ih a ha (fun v hv => ht v (mem_nodes_of_arg ha hv)) fun v hv => hu v (mem_nodes_of_arg hb hv)
        obtain ⟨ha, hd, hrs⟩ := argumentChars_append_inj hr hs told h
        exact ⟨eq_of_fields (String.toList_inj.mp hn) ha hd (htk.trans huk.symm) hw
          (htp.trans hup.symm), hrs⟩

/-- References whose names are without marks are equal if their texts are. -/
theorem text_injective {t u : TypeRef} (ht : ∀ v ∈ t.nodes, v.IsPlain)
    (hu : ∀ v ∈ u.nodes, v.IsPlain) (h : t.text = u.text) : t = u :=
  (eq_of_text_append ht hu [] [] trivial trivial (by rw [h])).1

end TypeRef
end Intertype
