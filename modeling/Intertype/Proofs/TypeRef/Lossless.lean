/-
# What reading a type loses

A text that is read as a type is the text of the reference, white space aside, exactly if the return type
that is found is the whole of the text, nothing is passed over within it, and no wildcard of the reference
has a primitive type for its bound (`TypeRef.readBy_lossless_iff`). Otherwise something is lost: what
stands around a return type, as modifiers, annotations, type parameters, semicolons, comments and other
declarations do, comments and annotations within it, the marks of empty arguments, or such a wildcard
(`TypeRef.readBy_passes_over`).

Of the parser this takes that it finds an error in what the grammar does not allow, so that a tree without
an error is by the grammar: its methods are (`Tree.IsGrammatical`).

Key theorem: `TypeRef.readBy_lossless_iff`.
-/
import Intertype.Proofs.Java.Methods
import Intertype.Proofs.TypeRef.ReadFrom
import Intertype.TypeRef.Reader

namespace Intertype

open Java (Node Parser)
open Text (unspaced)

namespace TypeRef

variable {parser : Parser} {parameters : List String} {text : String} {t : TypeRef}

/-- Where a reference is read, it is read from a return type in a tree without an error. -/
theorem exists_of_readBy (h : readBy parser text parameters = .ok t) :
    (parser (sourceOf text)).hasError = false ∧
      ∃ n, findType? (sourceOf text) (parser (sourceOf text)).root = some n ∧
        ofNode (sourceOf text) parameters n = .ok t := by
  unfold readBy at h
  split at h
  · cases h
  · simp only at h
    split at h
    · cases h
    · rename_i herror
      refine ⟨Bool.eq_false_iff.mpr herror, ?_⟩
      split at h
      · cases h
      · rename_i n hn
        exact ⟨n, hn, h⟩

/-- **What reading keeps.** Where the parser finds no error in what the grammar allows only, a text that is
read is, white space aside, the text of the reference exactly if the return type that is found is all of
it, nothing is passed over within this, and no primitive type in the reference has a wildcard. -/
theorem readBy_lossless_iff
    (hparser : (parser (sourceOf text)).hasError = false →
      (parser (sourceOf text)).IsGrammatical (sourceOf text))
    (hread : readBy parser text parameters = .ok t) :
    unspaced text.toList = unspaced t.text.toList ↔
      ∃ n, findType? (sourceOf text) (parser (sourceOf text)).root = some n ∧
        n.dense (sourceOf text) = unspaced text.toList ∧ n.IsPlain ∧ t.IsKept := by
  obtain ⟨hnoError, n, hfound, hnode⟩ := exists_of_readBy hread
  obtain ⟨hform, hderived, p, q, hpiece⟩ := exists_text_of_findType? (hparser hnoError) hfound
  have forms : ∀ form ∈ Node.unannotatedForms, form ∈ Node.argumentForms := by decide
  have hleft := (isLeftOf hderived (forms n.type hform) t hnode).leaves
  constructor
  · intro he
    -- the text of the reference is part of that of the type, which is part of the text that is read
    have hlength := congrArg (fun cs => (Text.unbracketed cs).length) hpiece
    simp only [Text.unbracketed_append, List.length_append, he] at hlength
    have hle := hleft.length_le
    have hkept := hleft.kept_of_eq (hleft.sublist.eq_of_length (by omega))
    exact ⟨n, hfound, (hleft.eq_of_kept hkept).symm.trans he.symm, hkept⟩
  · rintro ⟨m, hm, hdense, hkept⟩
    obtain rfl : n = m := Option.some.inj (hfound.symm.trans hm)
    exact hdense.symm.trans (hleft.eq_of_kept hkept).symm

/-- Two arguments, one of them a wildcard with arguments and dimensions of its own. -/
theorem readBy_lossless_spaced_map :
    let lists : TypeRef := ⟨"a.List", [anything], 1, .declared, some .lower, none⟩
    let variableT : TypeRef := ⟨"T", [], 0, .typeVariable, none, some ""⟩
    let t : TypeRef := ⟨"Map", [variableT, lists], 1, .declared, none, none⟩
    let text := "\nMap<T, ? super\t a .List< ?>[ ]> []"
    (((Java.parse (sourceOf text)).hasError = false →
        (Java.parse (sourceOf text)).IsGrammatical (sourceOf text)) ∧
      readBy Java.parse text ["T"] = .ok t) ∧ unspaced text.toList = unspaced t.text.toList := by
  intro lists variableT t text
  have hgrammar : (Java.parse (sourceOf text)).IsGrammatical (sourceOf text) := by decide +kernel
  have hread : readBy Java.parse text ["T"] = .ok t := by decide +kernel
  have hfound : (findType? (sourceOf text) (Java.parse (sourceOf text)).root).any (fun n =>
      n.dense (sourceOf text) = unspaced text.toList ∧ n.IsPlain ∧ t.IsKept) = true := by decide +kernel
  obtain ⟨n, hn, hall⟩ := (Option.any_eq_true _ _).mp hfound
  exact ⟨⟨fun _ => hgrammar, hread⟩,
    (readBy_lossless_iff (fun _ => hgrammar) hread).mpr ⟨n, hn, of_decide_eq_true hall⟩⟩

/-- A modifier, an annotation, type parameters, a semicolon, another declaration, a comment, empty arguments
and a bracket in an annotation are passed over, where the parser keeps to the grammar. -/
theorem readBy_passes_over :
    let list : TypeRef := ⟨"List", [], 0, .declared, none, none⟩
    let table : TypeRef := ⟨"int", [], 2, .primitive, none, some ""⟩
    ∀ p ∈ [("public int", int), ("@A int", int), ("<T> int", int), ("; int", int),
        ("int __probe(); \x7d interface I \x7b int", int), ("int /**/", int), ("List<>", list),
        ("int @A(\"[\") []", table)],
      (Java.parse (sourceOf p.1)).IsGrammatical (sourceOf p.1) ∧
        readBy Java.parse p.1 [] = .ok p.2 ∧ unspaced p.1.toList ≠ unspaced p.2.text.toList := by
  decide +kernel

end TypeRef
end Intertype
