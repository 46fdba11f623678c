/-
# Strings in annotations

Wherever a string stands in an annotation, its literal stands at the same place of the source text, and
Java reads it there as it reads it alone: no escape before the literal goes on into it, and none goes
on behind it. What is read is the string (`string_read_back`).

Key theorem: `Annotation.string_read_back`.
-/
import Intertype.Proofs.Annotation.Places
import Intertype.Proofs.Java.StringReading

namespace Intertype
namespace Annotation

open Java

theorem isBoundary_of_mem_openers : ∀ c ∈ openers, isBoundary c = true :=
  Text.of_mem_all (by decide)

theorem ne_of_mem_closers : ∀ c ∈ closers, c ≠ '"' ∧ c ≠ '\\' :=
  Text.of_mem_all (by decide)

theorem stringLiteral_toList (s : String) : (stringLiteral s).toList = stringChars s.toList :=
  String.toList_ofList

/-- The literal of a string, before what may stand behind a value, is read as the string. -/
theorem readString?_stringLiteral (s : String) {r : List Char} (hr : FollowsValue r) :
    readString? (translate ((stringLiteral s).toList ++ r)) =
      some (s.toList.flatMap utf16, translate r) := by
  obtain ⟨c, hc, rest, rfl⟩ := hr
  rw [stringLiteral_toList]
  exact readString?_stringChars s.toList (ne_of_mem_closers c hc).1 (ne_of_mem_closers c hc).2 rest

/-- **A string survives Java's lexer.** Its literal, before whatever may stand behind a value, takes
exactly its own characters through both passes, is read as the string, and leaves the rest. No line ends
in it, and no quote in it but the last is without its backslash. Wherever the string stands in an
annotation, the source text is text that does not depend on the string, the literal, and such text
again; the first pass starts afresh at the literal, so that it is read there as it is read alone. -/
theorem string_read_back (s : String) (r : List Char) (hr : FollowsValue r) :
    (translate ((stringLiteral s).toList ++ r) = translate (stringLiteral s).toList ++ translate r ∧
      (translate (stringLiteral s).toList).flatMap InputChar.written = (stringLiteral s).toList ∧
      readString? (translate ((stringLiteral s).toList ++ r)) =
        some (s.toList.flatMap utf16, translate r)) ∧
    (∀ c ∈ (stringLiteral s).toList, c ≠ '\n' ∧ c ≠ '\r') ∧
    (∀ x y, (stringLiteral s).toList = x ++ '"' :: y → x ≠ [] → y ≠ [] → endsOdd x = true) ∧
    ∀ (p : Place) (resolver : Option Imports), ∃ ahead behind, FollowsValue behind ∧
      ∀ (a : Annotation) (s text : String), a.value = p.fill (.string s) →
        a.sourceForm resolver = .ok text →
          text.toList = ahead ++ ((stringLiteral s).toList ++ behind) ∧
          translate text.toList = translate ahead ++ translate ((stringLiteral s).toList ++ behind) ∧
          readString? ((translate text.toList).drop (translate ahead).length) =
            some (s.toList.flatMap utf16, translate behind) := by
  refine ⟨⟨?_, written_translate _, readString?_stringLiteral s hr⟩, ?_, ?_, fun p resolver => ?_⟩
  · rw [stringLiteral_toList, translate_stringChars, ← List.append_nil (stringChars s.toList),
      translate_stringChars]
    simp [Java.translate, translateFrom]
  · rw [stringLiteral_toList]
    exact fun c hc => ⟨fun h => (lineEnd_notMem_stringChars _).1 (h ▸ hc),
      fun h => (lineEnd_notMem_stringChars _).2 (h ▸ hc)⟩
  · rw [stringLiteral_toList]
    exact fun x y h hx hy => endsOdd_of_quote hx hy h
  · obtain ⟨cs, c, hc, behind, hb, hfill⟩ := sourceForm_fill p resolver
    refine ⟨cs ++ [c], behind, hb, fun a s text ha ht => ?_⟩
    have htext := hfill a (.string s) (stringLiteral s) text rfl ha ht
    have htranslate : translate text.toList =
        translate (cs ++ [c]) ++ translate ((stringLiteral s).toList ++ behind) := by
      rw [htext, List.append_assoc]
      exact translate_append (isBoundary_of_mem_openers c hc) cs _
    refine ⟨htext, htranslate, ?_⟩
    rw [htranslate, List.drop_left]
    exact readString?_stringLiteral s hb

/-- A text that looks like a Unicode escape, with a quote and a line end behind it, is read back alone
and as an item of an array. -/
theorem string_read_back_escape :
    let s := "\\u0022\"\n"
    let a : Annotation := ⟨TypeRef.declared "a.B", [("value", .array [.integer 1, .string s])]⟩
    FollowsValue ", b = 1)".toList ∧
      readString? (translate ((stringLiteral s).toList ++ ", b = 1)".toList)) =
        some (s.toList.flatMap utf16, translate ", b = 1)".toList) ∧
      a.sourceForm none = .ok "@a.B(\x7b1, \"\\\\u0022\\\"\\n\"\x7d)" ∧
      ∃ ahead behind,
        readString? ((translate "@a.B(\x7b1, \"\\\\u0022\\\"\\n\"\x7d)".toList).drop
          (translate ahead).length) = some (s.toList.flatMap utf16, translate behind) := by
  intro s a
  have hr : FollowsValue ", b = 1)".toList := ⟨',', by decide, _, rfl⟩
  have htext : a.sourceForm none = .ok "@a.B(\x7b1, \"\\\\u0022\\\"\\n\"\x7d)" :=
    congrArg Except.ok (show Piece.spelledInFull a.phrase.pieces = _ by decide)
  have h := string_read_back s ", b = 1)".toList hr
  refine ⟨hr, h.1.2.2, htext, ?_⟩
  obtain ⟨ahead, behind, -, hplace⟩ := h.2.2.2
    (.inNested a.type [] "value" (.inArray [.integer 1] .here []) []) none
  exact ⟨ahead, behind, (hplace a s _ rfl htext).2.2⟩

end Annotation
end Intertype
