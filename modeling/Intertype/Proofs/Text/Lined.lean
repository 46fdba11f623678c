/-
# Lines of text

`Text.lined` writes lines, each with a line feed behind it; a line is a text that has none
(`Text.OneLine`). Every numeral and every literal that is written is one, whatever characters a string
literal stands for.

Key definitions: `Text.OneLine`, `Text.lined`.
Key theorems: `Text.lined_append`, `Text.oneLine_stringLiteral`, `Text.oneLine_double`.
-/
import Intertype.Decimal.Shortest
import Intertype.Java.Literal
import Intertype.Modifier

namespace Intertype

open Decimal

namespace Text

/-- Whether the text has no line feed. -/
def OneLine (s : String) : Prop :=
  '\n' ∉ s.toList

instance : DecidablePred OneLine :=
  fun s => inferInstanceAs (Decidable ('\n' ∉ s.toList))

/-- The lines, each with a line feed behind it. -/
def lined : List String → String
  | [] => ""
  | l :: rest => l ++ ("\n" ++ lined rest)

theorem lined_append (a b : List String) : lined (a ++ b) = lined a ++ lined b := by
  induction a with
  | nil => rw [List.nil_append, lined, String.empty_append]
  | cons l rest ih =>
    rw [List.cons_append, lined, lined, ih, String.append_assoc, String.append_assoc]

theorem lined_singleton (l : String) : lined [l] = l ++ "\n" := by
  rw [lined, lined, String.append_empty]

/-! ### Texts without line feeds -/

theorem oneLine_empty : OneLine "" := by
  decide

theorem OneLine.append {s t : String} (hs : OneLine s) (ht : OneLine t) : OneLine (s ++ t) := by
  rw [OneLine, String.toList_append, List.mem_append, not_or]
  exact ⟨hs, ht⟩

theorem oneLine_ofList {cs : List Char} (h : '\n' ∉ cs) : OneLine (String.ofList cs) := by
  rwa [OneLine, String.toList_ofList]

theorem oneLine_repeated {s : String} (h : OneLine s) : ∀ n, OneLine (repeated s n)
  | 0 => oneLine_empty
  | n + 1 => h.append (oneLine_repeated h n)

theorem oneLine_joined {separator : String} (h : OneLine separator) : ∀ {ss : List String},
    (∀ s ∈ ss, OneLine s) → OneLine (joined separator ss)
  | [], _ => oneLine_empty
  | [s], hs => hs s List.mem_cons_self
  | s :: _ :: _, hs =>
    (hs s List.mem_cons_self).append
      (h.append (oneLine_joined h fun u hu => hs u (List.mem_cons_of_mem s hu)))

/-! ### Numerals and literals -/

theorem newline_notMem_digits (n : Nat) : '\n' ∉ digits n := by
  intro h
  have := isDigit_of_mem_digitsWithin (n + 1) n h
  exact absurd this (by decide)

theorem oneLine_stringLiteral (s : String) : OneLine (Java.stringLiteral s) := by
  refine oneLine_ofList ?_
  rw [Java.stringChars, List.mem_cons, List.mem_append, List.mem_flatMap]
  rintro (h | ⟨c, -, h⟩ | h)
  · exact absurd h (by decide)
  · exact Java.newline_notMem_escape c h
  · exact absurd (List.mem_singleton.mp h) (by decide)

theorem oneLine_ofInt (i : Int) : OneLine (Decimal.ofInt i) := by
  refine oneLine_ofList ?_
  split
  · rw [List.mem_cons, not_or]
    exact ⟨by decide, newline_notMem_digits _⟩
  · exact newline_notMem_digits _

theorem oneLine_integerLiteral (i : Int) : OneLine (Java.integerLiteral i) := by
  unfold Java.integerLiteral
  split
  · exact oneLine_ofInt i
  · exact (oneLine_ofInt i).append (by decide)

theorem newline_notMem_zeros (n : Nat) : '\n' ∉ Binary64.zeros n :=
  fun h => absurd (List.eq_of_mem_replicate h) (by decide)

theorem newline_notMem_exponentText (e : Int) : '\n' ∉ Binary64.exponentText e := by
  rw [Binary64.exponentText, List.mem_cons, List.mem_append]
  rintro (h | h | h)
  · split at h <;> exact absurd h (by decide)
  · exact newline_notMem_zeros _ h
  · exact newline_notMem_digits _ h

theorem newline_notMem_decimalText (d : Scaled) : '\n' ∉ Binary64.decimalText d := by
  have hdigits := newline_notMem_digits d.digits
  unfold Binary64.decimalText
  dsimp only
  generalize digits d.digits = ds at *
  split
  · -- positionally
    split
    · simp [hdigits, newline_notMem_zeros]
    · split
      · rw [List.mem_append, List.mem_cons]
        rintro (h | h | h)
        · exact hdigits (List.mem_of_mem_take h)
        · exact absurd h (by decide)
        · exact hdigits (List.mem_of_mem_drop h)
      · simp [hdigits, newline_notMem_zeros]
  · -- with an exponent
    split
    · exact List.not_mem_nil
    · rw [List.mem_singleton] at hdigits
      simp [hdigits, newline_notMem_exponentText]
    · rw [List.mem_cons, not_or] at hdigits
      simp [hdigits, newline_notMem_exponentText]

theorem oneLine_double (x : Binary64) : OneLine x.text := by
  have hmagnitude : '\n' ∉ (if x.isZero then ['0', '.', '0'] else
      Binary64.decimalText (trimmed 400 x.shortest)) := by
    split
    · decide
    · exact newline_notMem_decimalText _
  unfold Binary64.text
  split
  · refine oneLine_ofList ?_
    split
    · rw [List.mem_cons, not_or]
      exact ⟨by decide, hmagnitude⟩
    · exact hmagnitude
  · split
    · decide
    · split <;> decide

theorem oneLine_modifiers (mask : Int) : OneLine (Modifier.source mask) := by
  refine oneLine_joined (by decide) fun s hs => ?_
  obtain ⟨m, -, rfl⟩ := List.mem_map.mp hs
  cases m <;> decide

end Text
end Intertype
