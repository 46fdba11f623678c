/-
# Integers in annotations

Wherever an integer stands in an annotation, its literal stands at the same place of the source text, and
Java reads it there as it reads it alone. The literal has the value of the integer, and the suffix of a
long one exactly if 32 bits are too few for it. If 64 bits are too few as well, the literal is out of
range and stands for no number (`integer_read_back_iff`).

Such integers should be refused, as infinite doubles are. They are not: no fault of an annotation is about
an integer (`sourceForm_eq_error_iff`), and `integer_beyond_long` is an annotation that is written with a
literal for which there is no number.

Key theorems: `Annotation.sourceForm_eq_error_iff`, `Annotation.integer_read_back_iff`.
-/
import Intertype.Proofs.Annotation.Strings
import Intertype.Proofs.Java.IntegerReading

namespace Intertype
namespace Annotation

open Java

/-! ### What is refused -/

/-- An annotation is refused exactly if a double in it is infinite or no number, or a value is of an
unsupported kind; the fault is the first such value. -/
theorem sourceForm_eq_error_iff (resolver : Option Imports) (a : Annotation) (f : Fault) :
    a.sourceForm resolver = .error f ↔ a.faults.head? = some f := by
  rw [sourceForm_eq, phrase_fault]
  cases a.faults.head? with
  | none => exact iff_of_false nofun nofun
  | some g =>
    exact ⟨fun h => congrArg some (Except.error.inj h), fun h => congrArg Except.error (Option.some.inj h)⟩

/-- Nothing is refused for its integers: with another integer at a place the faults are the same. -/
theorem Place.faults_fill_integer (i j : Int) (p : Place) :
    (p.fill (.integer i)).parts.filterMap Value.ownFault =
      (p.fill (.integer j)).parts.filterMap Value.ownFault := by
  induction p with
  | here => rfl
  | inArray before inside after ih =>
    simp only [fill, Value.parts, itemParts_eq, List.flatMap_append, List.flatMap_cons,
      List.filterMap_cons, List.filterMap_append, ih, Value.ownFault]
  | inNested type before name inside after ih =>
    simp only [fill, Value.parts, attributeParts_eq, List.flatMap_append, List.flatMap_cons,
      List.filterMap_cons, List.filterMap_append, ih, Value.ownFault]

/-! ### What is read -/

theorem endsNumber_of_mem_closers : ∀ c ∈ closers, endsNumber c = true :=
  Text.of_mem_all (by decide)

/-- The literal of an integer, before what may stand behind a value, is read as written. -/
theorem readInteger?_of_followsValue (i : Int) {r : List Char} (hr : FollowsValue r) :
    readInteger? ((integerLiteral i).toList ++ r) = some (.written i, r) := by
  obtain ⟨c, hc, rest, rfl⟩ := hr
  exact readInteger?_integerLiteral i (endsNumber_of_mem_closers c hc) rest

/-- **Integers up to 64 bits are read back.** Whether an annotation is written does not depend on an
integer at a place of it. If it is, the source text is text that does not depend on the integer, its
literal, and such text again, and the first pass leaves the literal as it is. What is read there has the
value of the integer; it is a long literal if and only if the integer does not fit in 32 bits, and it
stands for a number, this integer, if and only if that fits in 64 bits. -/
theorem integer_read_back_iff (p : Place) (resolver : Option Imports) :
    ∃ before, ∃ opener ∈ openers, ∃ behind, FollowsValue behind ∧
      ∀ (a : Annotation) (i : Int), a.value = p.fill (.integer i) →
        (∀ (b : Annotation) (j : Int) (f : Fault), b.value = p.fill (.integer j) →
          (a.sourceForm resolver = .error f ↔ b.sourceForm resolver = .error f)) ∧
        ∀ text, a.sourceForm resolver = .ok text →
          text.toList = (before ++ [opener]) ++ ((integerLiteral i).toList ++ behind) ∧
          translate text.toList = translate (before ++ [opener]) ++
            ((integerLiteral i).toList.map .plain ++ translate behind) ∧
          ∃ l : IntegerLiteral, readInteger? ((integerLiteral i).toList ++ behind) = some (l, behind) ∧
            l.value = i ∧ (l.isLong = true ↔ ¬ (-2 ^ 31 ≤ i ∧ i < 2 ^ 31)) ∧
            l.number? = if -2 ^ 63 ≤ i ∧ i < 2 ^ 63 then some i else none := by
  obtain ⟨before, opener, hopener, behind, hbehind, hfill⟩ := sourceForm_fill p resolver
  refine ⟨before, opener, hopener, behind, hbehind, fun a i ha => ⟨fun b j f hb => ?_, fun text ht => ?_⟩⟩
  · have hfaults : a.faults = b.faults := by
      show a.value.parts.filterMap Value.ownFault = b.value.parts.filterMap Value.ownFault
      rw [ha, hb]
      exact p.faults_fill_integer i j
    rw [sourceForm_eq_error_iff, sourceForm_eq_error_iff, hfaults]
  · have htext := hfill a (.integer i) (integerLiteral i) text rfl ha ht
    have htranslate : translate text.toList = translate (before ++ [opener]) ++
        translate ((integerLiteral i).toList ++ behind) := by
      rw [htext, List.append_assoc]
      exact translate_append (isBoundary_of_mem_openers opener hopener) before _
    rw [translate_integerLiteral] at htranslate
    exact ⟨htext, htranslate, .written i, readInteger?_of_followsValue i hbehind,
      IntegerLiteral.value_written i, IntegerLiteral.isLong_written i, IntegerLiteral.number?_written i⟩

/-- The smallest integer of 64 bits, in an array of a nested annotation, is read back. -/
theorem integer_read_back_iff_smallest_long :
    let a : Annotation := ⟨TypeRef.declared "a.B",
      [("n", .nested (TypeRef.declared "a.C") [("value", .array [.integer 1, .integer (-2 ^ 63)])])]⟩
    a.sourceForm none = .ok "@a.B(n = @a.C(\x7b1, -9223372036854775808L\x7d))" ∧
      ∃ behind, FollowsValue behind ∧ ∃ l : IntegerLiteral,
        readInteger? ((integerLiteral (-2 ^ 63)).toList ++ behind) = some (l, behind) ∧
          l.number? = some (-2 ^ 63) := by
  intro a
  have htext : a.sourceForm none = .ok "@a.B(n = @a.C(\x7b1, -9223372036854775808L\x7d))" :=
    congrArg Except.ok (show Piece.spelledInFull a.phrase.pieces = _ by decide)
  let inside : Place := .inNested (TypeRef.declared "a.C") [] "value" (.inArray [.integer 1] .here []) []
  obtain ⟨before, opener, -, behind, hbehind, hplace⟩ :=
    integer_read_back_iff (.inNested a.type [] "n" inside []) none
  obtain ⟨-, -, l, hread, -, -, hnumber⟩ := (hplace a (-2 ^ 63) rfl).2 _ htext
  exact ⟨htext, behind, hbehind, l, hread, hnumber.trans (if_pos (by decide))⟩

/-- The integer behind the greatest of 64 bits is not refused: it is written as a long literal that is
out of range. -/
theorem integer_beyond_long :
    let a : Annotation := ⟨TypeRef.declared "a.B", [("value", .integer (2 ^ 63))]⟩
    a.sourceForm none = .ok "@a.B(9223372036854775808L)" ∧
      ∃ l : IntegerLiteral, readInteger? "9223372036854775808L)".toList = some (l, [')']) ∧
        l.value = 2 ^ 63 ∧ l.isLong = true ∧ l.number? = none := by
  refine ⟨congrArg Except.ok (show Piece.spelledInFull _ = _ by decide),
    ⟨false, 2 ^ 63, true⟩, ?_⟩
  decide

end Annotation
end Intertype
