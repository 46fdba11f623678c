/-
# Reading undoes writing

A reference that Java can read is read back from its text, with more white space in it or not, as far as
the text shows it (`TypeRef.readBy_respaced`): the wildcard of a primitive type is never written, and
nothing else is lost. So exactly the references without such wildcards are read back as they were.

Of the parser this takes that it makes the tree of the grammar of such a text, without an error
(`Tree.HoldsType`). The text of a reference has neither comments nor annotations in it, so the tree of
the type has no others but that of the reference (`TypeRef.readsBack`).

Key theorem: `TypeRef.readBy_respaced`.
-/
import Intertype.Proofs.TypeRef.ReadsBack
import Intertype.TypeRef.Reader

namespace Intertype

open Java (Node Parser isNameChar)
open Text (unspaced)

namespace TypeRef

variable {source : List UInt8} {parameters : List String} {n : Node} {t : TypeRef}

/-! ### The characters of a text -/

/-- Whether the character stands in the texts of references, spaces aside. -/
def isTextChar (c : Char) : Bool :=
  isNameChar c || ['<', '>', ',', '[', ']', '?'].contains c

theorem ne_of_isTextChar {c : Char} (h : isTextChar c = true) : c ≠ '/' ∧ c ≠ '@' := by
  constructor <;> rintro rfl <;> exact absurd h (by decide)

theorem isTextChar_of_isNameChar {cs : List Char} (h : ∀ c ∈ cs, isNameChar c = true) :
    ∀ c ∈ cs, isTextChar c = true :=
  fun c hc => by rw [isTextChar, h c hc, Bool.true_or]

theorem isTextChar_brackets (k : Nat) : ∀ c ∈ (brackets k).toList, isTextChar c = true := by
  induction k with
  | zero => exact fun c hc => absurd hc List.not_mem_nil
  | succ k ih =>
    rw [brackets_succ_toList]
    exact List.forall_mem_cons.mpr ⟨by decide, List.forall_mem_cons.mpr ⟨by decide, ih⟩⟩

theorem isTextChar_moreArguments {args : List TypeRef}
    (h : ∀ a ∈ args, ∀ c ∈ unspaced a.text.toList, isTextChar c = true) :
    ∀ c ∈ unspaced (moreArguments args), isTextChar c = true := by
  induction args with
  | nil => exact fun c hc => List.mem_singleton.mp (show c ∈ ['>'] from hc) ▸ by decide
  | cons a rest ih =>
    rw [unspaced_moreArguments]
    refine List.forall_mem_cons.mpr ⟨by decide, List.forall_mem_append.mpr ⟨h a List.mem_cons_self, ?_⟩⟩
    exact ih fun b hb => h b (List.mem_cons_of_mem a hb)

theorem isTextChar_of_isSource (h : t.IsSource parameters) :
    ∀ c ∈ unspaced t.text.toList, isTextChar c = true := by
  induction t using inductionOn with
  | node t ih =>
    have hargs : ∀ c ∈ unspaced (argumentChars t.args), isTextChar c = true := by
      have hall := fun a ha => ih a ha (h.arg ha)
      cases hc : t.args with
      | nil => exact fun c hc => absurd hc List.not_mem_nil
      | cons a rest =>
        rw [hc] at hall
        rw [unspaced_argumentChars]
        refine List.forall_mem_cons.mpr ⟨by decide, List.forall_mem_append.mpr ⟨hall a (by simp), ?_⟩⟩
        exact isTextChar_moreArguments fun b hb => hall b (List.mem_cons_of_mem a hb)
    have hbare : ∀ c ∈ t.name.toList ++ (unspaced (argumentChars t.args) ++ (brackets t.dims).toList),
        isTextChar c = true :=
      List.forall_mem_append.mpr ⟨isTextChar_of_isNameChar h.proper.isName.isNameChar,
        List.forall_mem_append.mpr ⟨hargs, isTextChar_brackets t.dims⟩⟩
    rcases unspaced_text_cases h.proper with ⟨-, htext⟩ | ⟨-, htext⟩ | ⟨upper, -, htext⟩
    · rw [htext]
      exact List.forall_mem_singleton.mpr (by decide)
    · rw [htext]
      exact hbare
    · rw [htext]
      have hkeyword : ∀ c ∈ keyword upper, isTextChar c = true := by
        cases upper <;> exact Text.of_mem_all (by decide)
      exact List.forall_mem_cons.mpr ⟨by decide, List.forall_mem_append.mpr ⟨hkeyword, hbare⟩⟩

/-- **Reading undoes writing.** Where the parser makes the tree of the grammar of its text, with more white
space in it or as it is, a reference that is no wildcard is read as far as the text shows it, and is read
back as it was exactly if no primitive type in it has a wildcard. -/
theorem readBy_respaced {parser : Parser} {text : String} (h : t.IsSource parameters)
    (hw : t.wildcard = none) (hr : Java.Respaced t.text.toList text.toList)
    (hparser : (parser (sourceOf text)).HoldsType (sourceOf text) (Text.trim text.toList)) :
    readBy parser text parameters = .ok t.shown ∧
      (readBy parser text parameters = .ok t ↔
        ∀ u ∈ t.nodes, u.kind = .primitive → u.wildcard = none) := by
  obtain ⟨n, hfound, hform, hderived, havoids, htext⟩ := exists_of_holdsType hparser
  have hspaced := hr.unspaced_eq
  have hdense : n.dense (sourceOf text) = unspaced t.text.toList := by
    rw [Node.dense, htext, Text.unspaced_trim, hspaced]
  have hclean : n.IsClean (sourceOf text) :=
    ⟨hderived, fun c hc => ne_of_isTextChar (isTextChar_of_isSource h c (hdense ▸ hc)), havoids⟩
  have hwritten : t.writtenWildcard = none := by
    rw [writtenWildcard, hw, ite_self]
  have hread : ofNode (sourceOf text) parameters n = .ok t.shown := by
    have he : n.dense (sourceOf text) ++ [] = t.name.toList ++ (unspaced (argumentChars t.args) ++
        ((brackets t.dims).toList ++ [])) := by
      rw [List.append_nil, List.append_nil, hdense, unspaced_text h.proper (by simp [hw]), hwritten]
      rfl
    have hends : EndsRef [] := trivial
    obtain ⟨-, hread⟩ := read_unwrapped ((readsBack hclean).2.1 hform) h hends hends he
    rw [hread, shown_eq_of_proper h.proper, hwritten]
    rfl
  have hnonblank : Text.trim text.toList ≠ [] := by
    intro htrim
    obtain ⟨c, cs, hcons, -⟩ := exists_cons_of_isProper h.proper
    rw [← hspaced, ← Text.unspaced_trim, htrim] at hcons
    cases hcons
  have hresult : readBy parser text parameters = .ok t.shown := by
    simp [readBy, hnonblank, hparser.noError, hfound, hread]
  refine ⟨hresult, ?_⟩
  rw [hresult, ← shown_eq_self_iff h]
  exact ⟨fun he => Except.ok.inj he, fun he => congrArg Except.ok he⟩

/-- A reference with a type variable, both wildcards and dimensions, read from its text with white space
before it, within a pair of brackets and between two words. -/
theorem readBy_respaced_map :
    let lists : TypeRef := ⟨"a.List", [anything], 1, .declared, some .lower, none⟩
    let variableT : TypeRef := ⟨"T", [], 0, .typeVariable, none, some ""⟩
    let t : TypeRef := ⟨"Map", [variableT, lists], 1, .declared, none, none⟩
    let text := "\nMap<T, ? super\t a.List<?>[ ]>[]"
    (t.IsSource ["T"] ∧ t.wildcard = none ∧ Java.Respaced t.text.toList text.toList ∧
        (Java.parse (sourceOf text)).HoldsType (sourceOf text) (Text.trim text.toList)) ∧
      readBy Java.parse text ["T"] = .ok t := by
  intro lists variableT t text
  have hsource : t.IsSource ["T"] := by decide +kernel
  have hspaced : Java.Respaced t.text.toList text.toList := by
    have h1 : t.text.toList = "Map<T, ? super a.List<?>[".toList ++ "]>[]".toList := by
      decide +kernel
    have h2 : "Map<T, ? super a.List<?>[".toList ++ [' '] ++ "]>[]".toList =
        "Map<T, ? super".toList ++ " a.List<?>[ ]>[]".toList := by
      decide +kernel
    have h3 : [] ++ ['\n'] ++ ("Map<T, ? super".toList ++ ['\t'] ++
        " a.List<?>[ ]>[]".toList) = text.toList := by
      decide +kernel
    rw [← h3]
    refine .insert ?_ (List.forall_mem_singleton.mpr rfl) (by decide +kernel)
    refine .insert ?_ (List.forall_mem_singleton.mpr rfl) (by decide +kernel)
    rw [← h2]
    refine .insert ?_ (List.forall_mem_singleton.mpr rfl) (by decide +kernel)
    rw [h1]
    exact .same
  have hparser : (Java.parse (sourceOf text)).HoldsType (sourceOf text) (Text.trim text.toList) := by
    decide +kernel
  exact ⟨⟨hsource, rfl, hspaced, hparser⟩,
    (readBy_respaced hsource rfl hspaced hparser).2.mpr (by decide +kernel)⟩

/-- The wildcard of a primitive type is lost, though the parser has made the tree of the text. -/
theorem bounded_primitive_not_read_back :
    let t : TypeRef := ⟨"java.util.List", [wildcardOf (some ⟨"int", [], 1, .primitive, none, some ""⟩) true],
      0, .declared, none, none⟩
    let text := "java.util.List<int[]>"
    (t.IsSource [] ∧ t.wildcard = none ∧ t.text = text ∧
        (Java.parse (sourceOf text)).HoldsType (sourceOf text) text.toList) ∧
      readBy Java.parse text [] ≠ .ok t := by
  decide +kernel

end TypeRef
end Intertype
