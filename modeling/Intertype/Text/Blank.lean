/-
# White space

Java separates its tokens by white space, the characters with the Unicode property White_Space.
Text is trimmed of a little more: also of the four information separators, U+001C to U+001F.

Key definitions: `Text.isWhiteSpace`, `Text.isBlank`, `Text.trim`, `Text.unspaced`.
-/
import Intertype.Text.Ranges

namespace Intertype
namespace Text

/-- The code points with the property White_Space. -/
def whiteSpaceRanges : Ranges :=
  [(0x9, 0xD), (0x20, 0x20), (0x85, 0x85), (0xA0, 0xA0), (0x1680, 0x1680), (0x2000, 0x200A),
    (0x2028, 0x2029), (0x202F, 0x202F), (0x205F, 0x205F), (0x3000, 0x3000)]

/-- Whether the character separates tokens. -/
def isWhiteSpace (c : Char) : Bool :=
  whiteSpaceRanges.covers c.toNat

/-- Whether the character is trimmed off: white space or an information separator. -/
def isBlank (c : Char) : Bool :=
  isWhiteSpace c || (0x1C ≤ c.toNat && c.toNat ≤ 0x1F)

theorem isBlank_of_isWhiteSpace {c : Char} (h : isWhiteSpace c = true) : isBlank c = true := by
  simp [isBlank, h]

/-- The code points of the blanks. -/
def blankPoints : List Nat :=
  whiteSpaceRanges.points ++ List.range' 0x1C 4

theorem toNat_mem_blankPoints {c : Char} (h : isBlank c = true) : c.toNat ∈ blankPoints := by
  unfold blankPoints
  rcases Bool.or_eq_true_iff.mp h with h | h
  · exact List.mem_append_left _ (Ranges.mem_points h)
  · have h : 0x1C ≤ c.toNat ∧ c.toNat ≤ 0x1F := by simpa using h
    exact List.mem_append_right _ (List.mem_range'_1.mpr ⟨h.1, by omega⟩)

/-- The text without the blanks at its two ends. -/
def trim (cs : List Char) : List Char :=
  ((cs.dropWhile isBlank).reverse.dropWhile isBlank).reverse

/-- The text without any of its blanks. -/
def unspaced (cs : List Char) : List Char :=
  cs.filter fun c => !isBlank c

theorem unspaced_append (a b : List Char) : unspaced (a ++ b) = unspaced a ++ unspaced b :=
  List.filter_append a b

theorem unspaced_reverse (cs : List Char) : unspaced cs.reverse = (unspaced cs).reverse :=
  List.filter_reverse

theorem unspaced_dropWhile (cs : List Char) : unspaced (cs.dropWhile isBlank) = unspaced cs := by
  induction cs with
  | nil => rfl
  | cons c rest ih =>
    cases hc : isBlank c with
    | true =>
      rw [List.dropWhile_cons_of_pos hc, ih, unspaced, unspaced, List.filter_cons_of_neg (by simp [hc])]
    | false => rw [List.dropWhile_cons_of_neg (by simp [hc])]

theorem unspaced_trim (cs : List Char) : unspaced (trim cs) = unspaced cs := by
  rw [trim, unspaced_reverse, unspaced_dropWhile, unspaced_reverse, List.reverse_reverse,
    unspaced_dropWhile]

theorem unspaced_unspaced (cs : List Char) : unspaced (unspaced cs) = unspaced cs := by
  rw [unspaced, unspaced, List.filter_filter]
  simp only [Bool.and_self]

theorem unspaced_eq_self {cs : List Char} (h : ∀ c ∈ cs, isBlank c = false) : unspaced cs = cs :=
  List.filter_eq_self.mpr fun c hc => by rw [h c hc]; rfl

example : isBlank '\u001c' = true ∧ isWhiteSpace '\u001c' = false := by decide
example : isWhiteSpace '\u3000' = true ∧ isBlank '\u200b' = false := by decide

end Text
end Intertype
