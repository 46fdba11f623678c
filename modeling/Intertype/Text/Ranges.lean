/-
# Sets of characters as ranges

A property of characters is given by the ranges of code points that have it, which are ascending: the
look-up of a code point stops at the first range beyond it. What a look at each code point of some ranges
shows holds of every character that they cover.

Key definitions: `Ranges`, `Ranges.covers`, `Ranges.points`.
Key theorems: `Ranges.mem_points`, `Text.of_toNat_mem`, `Text.of_mem_all`.
-/

namespace Intertype
namespace Text

/-- Ranges of code points, both ends included, in ascending order. -/
abbrev Ranges := List (Nat × Nat)

namespace Ranges

/-- Whether the code point lies in one of the ranges. -/
def covers : Ranges → Nat → Bool
  | [], _ => false
  | (low, high) :: rest, n => if n < low then false else n ≤ high || covers rest n

/-- The code points in the ranges. -/
def points (r : Ranges) : List Nat :=
  r.flatMap fun p => List.range' p.1 (p.2 + 1 - p.1)

theorem mem_points {r : Ranges} {n : Nat} (h : r.covers n = true) : n ∈ r.points := by
  induction r with
  | nil => cases h
  | cons p rest ih =>
    unfold covers at h
    split at h
    · cases h
    · rename_i hlow
      rw [points, List.flatMap_cons, List.mem_append]
      rcases Bool.or_eq_true_iff.mp h with h | h
      · have hhigh : n ≤ p.2 := of_decide_eq_true h
        exact Or.inl (List.mem_range'_1.mpr ⟨by omega, by omega⟩)
      · exact Or.inr (ih h)

end Ranges

/-- What holds of the characters with the code points holds of each character with one of them. -/
theorem of_toNat_mem {p : Char → Prop} {points : List Nat} (h : ∀ n ∈ points, p (Char.ofNat n))
    {c : Char} (hc : c.toNat ∈ points) : p c := by
  have := h c.toNat hc
  rwa [Char.ofNat_toNat] at this

/-- What holds of the characters in a list by a look at each of them. The list is searched, since a
search over all characters would decide the same but never end. -/
theorem of_mem_all {p : Char → Prop} [DecidablePred p] {cs : List Char}
    (h : (cs.all fun c => decide (p c)) = true) : ∀ c ∈ cs, p c := fun c hc =>
  of_decide_eq_true (List.all_eq_true.mp h c hc)

end Text
end Intertype
