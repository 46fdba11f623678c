/-
# References that Java can read

The references that are built by `of`, `primitive`, `typeVariable` and `wildcardOf` and by adding
dimensions, with names that Java can read (`TypeRef.IsSource`): words with dots between them, which are
not the name of a primitive type, where a single word is a type variable exactly if it is listed as one.
Any identifier of Java is a word (`Java.isWord_of_isIdentifier`). The text of such a reference shows all
of it but the wildcards of primitive types (`TypeRef.shown_eq_self_iff`).

White space may be put into the text, anywhere but inside a word (`Java.Respaced`); without its white
space it is the same then.

Key definitions: `Java.isIdentifier`, `Java.IsName`, `Java.Respaced`, `TypeRef.IsSource`.
Key theorems: `Java.isName_of_identifiers`, `TypeRef.unspaced_text`, `TypeRef.shown_eq_self_iff`.
-/
import Intertype.Java.Identifier
import Intertype.Proofs.Java.TypeNodes
import Intertype.Proofs.TypeRef.Shown

namespace Intertype

open Text (unspaced)

/-! ### Names and spaces in Java -/

namespace Java

/-- Whether the text is an identifier: it starts with a character that may begin one, and goes on with
characters that may be part of one. -/
def isIdentifier : List Char → Bool
  | [] => false
  | c :: rest => isIdentifierStart c && rest.all isIdentifierPart

theorem isWordChar_of_isIdentifierPart {c : Char} (h : isIdentifierPart c = true) :
    isWordChar c = true := by
  have hblank : Text.isBlank c = false := by
    by_contra hb
    have hpart : isIdentifierPart c = false :=
      Text.of_toNat_mem (p := fun c => isIdentifierPart c = false) (by decide +kernel)
        (Text.toNat_mem_blankPoints (by simpa using hb))
    rw [h] at hpart
    cases hpart
  have hmark : typeMarks.contains c = false := by
    by_contra hm
    have hpart : ∀ d ∈ typeMarks, isIdentifierPart d = false := Text.of_mem_all (by decide)
    rw [hpart c (by simpa using hm)] at h
    cases h
  rw [isWordChar, hblank, hmark]
  rfl

/-- Every identifier is a word. -/
theorem isWord_of_isIdentifier {cs : List Char} (h : isIdentifier cs = true) : isWord cs = true := by
  cases cs with
  | nil => cases h
  | cons c rest =>
    obtain ⟨hstart, hrest⟩ := Bool.and_eq_true_iff.mp h
    refine List.all_eq_true.mpr fun d hd => isWordChar_of_isIdentifierPart ?_
    rcases List.mem_cons.mp hd with rfl | hd
    · exact isIdentifierPart_of_start hstart
    · exact List.all_eq_true.mp hrest d hd

/-- Whether the text is a qualified name: words with dots between them. -/
def IsName (cs : List Char) : Prop :=
  ∀ s ∈ Dotted.segments cs, isWord s = true

instance (cs : List Char) : Decidable (IsName cs) :=
  inferInstanceAs (Decidable (∀ s ∈ Dotted.segments cs, isWord s = true))

/-- Identifiers with dots between them are a qualified name. -/
theorem isName_of_identifiers {cs : List Char} (h : ∀ s ∈ Dotted.segments cs, isIdentifier s = true) :
    IsName cs :=
  fun s hs => isWord_of_isIdentifier (h s hs)

/-- Whether the character may stand in a qualified name. -/
def isNameChar (c : Char) : Bool :=
  isWordChar c || c = '.'

theorem isWordChar_of_isWord {cs : List Char} (h : isWord cs = true) : ∀ c ∈ cs, isWordChar c = true :=
  List.all_eq_true.mp (Bool.and_eq_true_iff.mp h).2

theorem exists_cons_of_isWord {cs : List Char} (h : isWord cs = true) :
    ∃ c rest, cs = c :: rest ∧ isWordChar c = true := by
  cases cs with
  | nil => cases h
  | cons c rest => exact ⟨c, rest, rfl, isWordChar_of_isWord h c List.mem_cons_self⟩

theorem isBlank_of_isWordChar {c : Char} (h : isWordChar c = true) : Text.isBlank c = false := by
  have := (Bool.and_eq_true_iff.mp h).1
  simpa using this

theorem isBlank_of_isNameChar {c : Char} (h : isNameChar c = true) : Text.isBlank c = false := by
  rcases Bool.or_eq_true_iff.mp h with h | h
  · exact isBlank_of_isWordChar h
  · rw [of_decide_eq_true h]
    decide

theorem isNameChar_of_isWord {cs : List Char} (h : isWord cs = true) : ∀ c ∈ cs, isNameChar c = true :=
  fun c hc => Bool.or_eq_true_iff.mpr (Or.inl (isWordChar_of_isWord h c hc))

theorem unspaced_of_isNameChar {cs : List Char} (h : ∀ c ∈ cs, isNameChar c = true) :
    unspaced cs = cs :=
  Text.unspaced_eq_self fun c hc => isBlank_of_isNameChar (h c hc)

theorem isNameChar_join {ss : List (List Char)} (h : ∀ s ∈ ss, isWord s = true) :
    ∀ c ∈ Dotted.join ss, isNameChar c = true := by
  induction ss with
  | nil => exact fun c hc => absurd hc List.not_mem_nil
  | cons s rest ih =>
    obtain ⟨hs, hrest⟩ := List.forall_mem_cons.mp h
    cases rest with
    | nil => exact isNameChar_of_isWord hs
    | cons t more =>
      intro c hc
      have hc : c ∈ s ++ '.' :: Dotted.join (t :: more) := hc
      rcases List.mem_append.mp hc with hc | hc
      · exact isNameChar_of_isWord hs c hc
      · rcases List.mem_cons.mp hc with rfl | hc
        · decide
        · exact ih hrest c hc

theorem IsName.isNameChar {cs : List Char} (h : IsName cs) : ∀ c ∈ cs, isNameChar c = true := by
  have := isNameChar_join h
  rwa [Dotted.join_segments] at this

/-- A name begins with a character of a word. -/
theorem IsName.exists_cons {cs : List Char} (h : IsName cs) :
    ∃ c rest, cs = c :: rest ∧ isWordChar c = true := by
  obtain ⟨s, ss, hs⟩ := List.exists_cons_of_ne_nil (Dotted.segments_ne_nil cs)
  obtain ⟨c, rest, rfl, hc⟩ := exists_cons_of_isWord (h s (by rw [hs]; exact List.mem_cons_self))
  have hjoin := Dotted.join_segments cs
  rw [hs] at hjoin
  cases ss with
  | nil => exact ⟨c, rest, hjoin.symm, hc⟩
  | cons t more => exact ⟨c, rest ++ '.' :: Dotted.join (t :: more), hjoin.symm, hc⟩

/-- Whether the place between the two texts is inside a word. -/
def insideWord (a b : List Char) : Bool :=
  a.getLast?.any isWordChar && b.head?.any isWordChar

/-- `Respaced text cs`: white space put into the text, or none, makes the other one; it may go anywhere,
the ends included, but inside a word. -/
inductive Respaced (text : List Char) : List Char → Prop
  | same : Respaced text text
  | insert {a gap b} : Respaced text (a ++ b) → (∀ c ∈ gap, Text.isWhiteSpace c = true) →
      insideWord a b = false → Respaced text (a ++ gap ++ b)

/-- Without white space the text is as it was. -/
theorem Respaced.unspaced_eq {text cs : List Char} (h : Respaced text cs) :
    unspaced cs = unspaced text := by
  induction h with
  | same => rfl
  | @insert a gap b _ hgap _ ih =>
    have hnone : unspaced gap = [] := List.filter_eq_nil_iff.mpr fun c hc => by
      rw [Text.isBlank_of_isWhiteSpace (hgap c hc)]
      exact Bool.false_ne_true
    rw [← ih, Text.unspaced_append, Text.unspaced_append, hnone, List.append_nil, Text.unspaced_append]

end Java

namespace TypeRef

/-! ### References that Java can read -/

/-- A reference as it is built, its arguments left out, with a name that Java can read where these are
the type variables. -/
structure IsProper (parameters : List String) (t : TypeRef) : Prop where
  name : t.kind ≠ .primitive → Java.IsName t.name.toList ∧ t.name ∉ primitiveNames
  /-- A declared type is in the package that its name shows, and not called like a type variable. -/
  declared : t.kind = .declared → t.package = none ∧ ('.' ∉ t.name.toList → t.name ∉ parameters)
  /-- Type variables and primitive types are in no package and have no arguments. -/
  bare : t.kind ≠ .declared → t.package = some "" ∧ t.args = []
  segment : t.kind = .typeVariable → '.' ∉ t.name.toList ∧ t.name ∈ parameters
  keyword : t.kind = .primitive → t.name ∈ primitiveNames
  unbounded : t.wildcard = some .unbounded → t = anything

instance (parameters : List String) (t : TypeRef) : Decidable (t.IsProper parameters) :=
  decidable_of_iff ((t.kind ≠ .primitive → Java.IsName t.name.toList ∧ t.name ∉ primitiveNames) ∧
      (t.kind = .declared → t.package = none ∧ ('.' ∉ t.name.toList → t.name ∉ parameters)) ∧
      (t.kind ≠ .declared → t.package = some "" ∧ t.args = []) ∧
      (t.kind = .typeVariable → '.' ∉ t.name.toList ∧ t.name ∈ parameters) ∧
      (t.kind = .primitive → t.name ∈ primitiveNames) ∧
      (t.wildcard = some .unbounded → t = TypeRef.anything))
    ⟨fun ⟨h1, h2, h3, h4, h5, h6⟩ => ⟨h1, h2, h3, h4, h5, h6⟩,
      fun ⟨h1, h2, h3, h4, h5, h6⟩ => ⟨h1, h2, h3, h4, h5, h6⟩⟩

/-- A reference as it is built, with its arguments to any depth, whose names Java can read where these
are the type variables. -/
def IsSource (parameters : List String) (t : TypeRef) : Prop :=
  ∀ u ∈ t.nodes, u.IsProper parameters

instance (parameters : List String) (t : TypeRef) : Decidable (t.IsSource parameters) :=
  inferInstanceAs (Decidable (∀ u ∈ t.nodes, u.IsProper parameters))

namespace IsSource

variable {parameters : List String} {t : TypeRef}

theorem proper (h : t.IsSource parameters) : t.IsProper parameters :=
  h t t.self_mem_nodes

theorem arg (h : t.IsSource parameters) {a : TypeRef} (ha : a ∈ t.args) : a.IsSource parameters :=
  (forall_nodes_iff.mp h).2 a ha

theorem of {name : String} {args : List TypeRef} (h : TypeRef.of name args = .ok t)
    (hn : Java.IsName name.toList ∧ name ∉ primitiveNames)
    (hv : '.' ∉ name.toList → name ∉ parameters) (ha : ∀ a ∈ args, a.IsSource parameters) :
    t.IsSource parameters := by
  rw [IsBuilt.of_make h]
  exact forall_nodes_iff.mpr ⟨⟨fun _ => hn, fun _ => ⟨rfl, hv⟩, fun hk => absurd rfl hk,
    fun hk => (by cases hk), fun hk => (by cases hk), fun hw => (by cases hw)⟩, ha⟩

theorem primitive {name : String} {dims : Int} (h : TypeRef.primitive name dims = .ok t) :
    t.IsSource parameters := by
  unfold TypeRef.primitive at h
  split at h
  · rename_i hm
    rw [IsBuilt.of_make h]
    exact forall_nodes_iff.mpr ⟨⟨fun hk => absurd rfl hk, fun hk => (by cases hk),
      fun _ => ⟨rfl, rfl⟩, fun hk => (by cases hk), fun _ => hm, fun hw => (by cases hw)⟩,
      fun a ha => absurd ha List.not_mem_nil⟩
  · cases h

theorem typeVariable {name : String} (h : TypeRef.typeVariable name = .ok t)
    (hn : Java.IsName name.toList ∧ name ∉ primitiveNames) (hd : '.' ∉ name.toList)
    (hv : name ∈ parameters) : t.IsSource parameters := by
  rw [IsBuilt.of_make h]
  exact forall_nodes_iff.mpr ⟨⟨fun _ => hn, fun hk => (by cases hk), fun _ => ⟨rfl, rfl⟩,
    fun _ => ⟨hd, hv⟩, fun hk => (by cases hk), fun hw => (by cases hw)⟩,
    fun a ha => absurd ha List.not_mem_nil⟩

theorem anything : TypeRef.anything.IsSource parameters := by
  have hname : Java.IsName TypeRef.anything.name.toList ∧ TypeRef.anything.name ∉ primitiveNames := by
    exact ⟨Java.isName_of_identifiers (by decide), by decide⟩
  have hdot : '.' ∈ TypeRef.anything.name.toList := by decide
  exact forall_nodes_iff.mpr ⟨⟨fun _ => hname, fun _ => ⟨rfl, fun hd => absurd hdot hd⟩,
    fun hk => absurd rfl hk, fun hk => (by cases hk), fun hk => (by cases hk), fun _ => rfl⟩,
    fun a ha => absurd ha List.not_mem_nil⟩

theorem wildcardOf {bound : Option TypeRef} (h : ∀ b ∈ bound, b.IsSource parameters) (upper : Bool) :
    (TypeRef.wildcardOf bound upper).IsSource parameters := by
  cases bound with
  | none => exact anything
  | some b =>
    obtain ⟨hp, ha⟩ := forall_nodes_iff.mp (h b rfl)
    exact forall_nodes_iff.mpr ⟨⟨hp.name, hp.declared, hp.bare, hp.segment, hp.keyword,
      fun hw => by cases upper <;> cases hw⟩, ha⟩

/-- An array of a reference that is no wildcard without a bound. -/
theorem array (h : t.IsSource parameters) (hw : t.wildcard ≠ some .unbounded) (dims : Nat) :
    IsSource parameters { t with dims } := by
  obtain ⟨hp, ha⟩ := forall_nodes_iff.mp h
  exact forall_nodes_iff.mpr ⟨⟨hp.name, hp.declared, hp.bare, hp.segment, hp.keyword,
    fun he => absurd he hw⟩, ha⟩

end IsSource

theorem isName_of_mem_primitiveNames : ∀ name ∈ primitiveNames, Java.IsName name.toList := by
  have hidentifiers : ∀ name ∈ primitiveNames, ∀ s ∈ Dotted.segments name.toList,
      Java.isIdentifier s = true := by decide
  exact fun name hname => Java.isName_of_identifiers (hidentifiers name hname)

namespace IsProper

variable {parameters : List String} {t : TypeRef}

/-- The name can be read, whatever the reference stands for. -/
theorem isName (h : t.IsProper parameters) : Java.IsName t.name.toList := by
  by_cases hk : t.kind = .primitive
  · exact isName_of_mem_primitiveNames t.name (h.keyword hk)
  · exact (h.name hk).1

/-- A reference is called like a primitive type if it is one. -/
theorem kind_eq (h : t.IsProper parameters) (hn : t.name ∈ primitiveNames) : t.kind = .primitive :=
  of_not_not fun hk => (h.name hk).2 hn

end IsProper

/-! ### The text of a reference -/

/-- The text of a reference, from its parts. -/
theorem text_toList_of_proper {parameters : List String} {t : TypeRef} (h : t.IsProper parameters)
    (hw : t.wildcard ≠ some .unbounded) :
    t.text.toList = (wildcardText t.writtenWildcard).toList ++
      (t.name.toList ++ (argumentChars t.args ++ (brackets t.dims).toList)) := by
  by_cases hk : t.kind = .primitive
  · have hbare : t.args = [] := (h.bare (by rw [hk]; decide)).2
    rw [text, pieces_eq, if_neg hw, if_pos hk, writtenWildcard, if_pos hk, hbare]
    simp [Piece.spelledInFull, Piece.inFull, wildcardText, argumentChars]
  · have hname : t.namePiece.inFull = t.name := by
      unfold namePiece
      by_cases hv : t.kind = .typeVariable
      · rw [if_pos hv]
        exact simpleName_of_segment (h.segment hv).1
      · rw [if_neg hv]
        rfl
    rw [text_toList_of_not_primitive hk hw, hname, writtenWildcard, if_neg hk]

/-- Without its white space a text is made of the same parts. -/
theorem unspaced_text {parameters : List String} {t : TypeRef} (h : t.IsProper parameters)
    (hw : t.wildcard ≠ some .unbounded) :
    unspaced t.text.toList = unspaced (wildcardText t.writtenWildcard).toList ++
      (t.name.toList ++ (unspaced (argumentChars t.args) ++ (brackets t.dims).toList)) := by
  rw [text_toList_of_proper h hw, Text.unspaced_append, Text.unspaced_append, Text.unspaced_append,
    Java.unspaced_of_isNameChar h.isName.isNameChar, unspaced_brackets]

/-! ### What the text shows -/

/-- All of a reference is shown but the wildcard of a primitive type. -/
theorem shown_eq_of_proper {parameters : List String} {t : TypeRef} (h : t.IsProper parameters) :
    t.shown = { t with args := t.args.map shown, wildcard := t.writtenWildcard } := by
  rw [shown_eq]
  by_cases hw : t.wildcard = some .unbounded
  · rw [if_pos hw, h.unbounded hw]
    rfl
  rw [if_neg hw]
  by_cases hk : t.kind = .primitive
  · obtain ⟨hpackage, hargs⟩ := h.bare (by rw [hk]; decide)
    have hwritten : t.writtenWildcard = none := if_pos hk
    have hreads : t.ReadsPrimitive := ⟨by rw [hk]; decide, hwritten, h.keyword hk⟩
    rw [if_pos hreads]
    exact eq_of_fields rfl (by rw [hargs]; rfl) rfl hk.symm hwritten.symm hpackage.symm
  · have hreads : ¬ t.ReadsPrimitive := fun hr => (h.name hk).2 hr.2.2
    rw [if_neg hreads]
    exact eq_of_fields rfl rfl rfl rfl (if_neg hk).symm rfl

theorem writtenWildcard_eq_iff {t : TypeRef} :
    t.writtenWildcard = t.wildcard ↔ (t.kind = .primitive → t.wildcard = none) := by
  unfold writtenWildcard
  by_cases hk : t.kind = .primitive
  · rw [if_pos hk]
    exact ⟨fun h _ => h.symm, fun h => (h hk).symm⟩
  · rw [if_neg hk]
    exact ⟨fun _ h => absurd h hk, fun _ => rfl⟩

theorem map_eq_self_iff {α : Type} {f : α → α} {xs : List α} :
    xs.map f = xs ↔ ∀ x ∈ xs, f x = x := by
  conv => lhs; rhs; rw [← List.map_id xs]
  exact List.map_inj_left

/-- Nothing of a reference is lost in its text exactly if no primitive type in it has a wildcard. -/
theorem shown_eq_self_iff {parameters : List String} {t : TypeRef} (h : t.IsSource parameters) :
    t.shown = t ↔ ∀ u ∈ t.nodes, u.kind = .primitive → u.wildcard = none := by
  induction t using inductionOn with
  | node t ih =>
    have hargs : t.args.map shown = t.args ↔
        ∀ a ∈ t.args, ∀ u ∈ a.nodes, u.kind = .primitive → u.wildcard = none := by
      rw [map_eq_self_iff]
      exact ⟨fun he a ha => (ih a ha (h.arg ha)).mp (he a ha),
        fun hn a ha => (ih a ha (h.arg ha)).mpr (hn a ha)⟩
    rw [forall_nodes_iff, ← hargs, ← writtenWildcard_eq_iff, shown_eq_of_proper h.proper]
    exact ⟨fun he => ⟨congrArg wildcard he, congrArg args he⟩,
      fun ⟨hw, ha⟩ => eq_of_fields rfl ha rfl rfl hw rfl⟩

end TypeRef
end Intertype
