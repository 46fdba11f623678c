/-
# Dotted names

A qualified name is a run of segments with dots between them. `Dotted.segments` cuts a name at every
dot, so that a name without a dot has one segment and a name with `n` dots has `n + 1`, some of them
perhaps empty; `Dotted.join` puts dots between segments. Cutting loses nothing (`join_segments`).

Key definitions: `Dotted.segments`, `Dotted.join`, `Dotted.last`, `Dotted.head`.
Key theorems: `Dotted.join_segments`, `Dotted.segments_ne_nil`.
-/

namespace Intertype
namespace Dotted

/-- The parts of the text between its dots. -/
def segments : List Char → List (List Char)
  | [] => [[]]
  | c :: rest =>
    if c = '.' then [] :: segments rest
    else match segments rest with
      | [] => [[c]]
      | s :: more => (c :: s) :: more

/-- The segments with a dot between each two. -/
def join : List (List Char) → List Char
  | [] => []
  | [s] => s
  | s :: t :: more => s ++ '.' :: join (t :: more)

theorem segments_ne_nil (cs : List Char) : segments cs ≠ [] := by
  cases cs with
  | nil => simp [segments]
  | cons c rest =>
    unfold segments
    split
    · simp
    · split <;> simp

/-- Nothing is lost by cutting a name at its dots. -/
theorem join_segments (cs : List Char) : join (segments cs) = cs := by
  induction cs with
  | nil => rfl
  | cons c rest ih =>
    unfold segments
    by_cases hc : c = '.'
    · rw [if_pos hc]
      cases hs : segments rest with
      | nil => exact absurd hs (segments_ne_nil rest)
      | cons s more =>
        rw [hs] at ih
        simp [join, ih, hc]
    · rw [if_neg hc]
      cases hs : segments rest with
      | nil => exact absurd hs (segments_ne_nil rest)
      | cons s more =>
        rw [hs] at ih
        cases more <;> simp_all [join]

/-- The last segment. -/
def last (cs : List Char) : List Char :=
  (segments cs).getLastD []

/-- The first segment. -/
def head (cs : List Char) : List Char :=
  (segments cs).headD []

example : segments "a..B".toList = ["a".toList, [], "B".toList] := by decide
example : last "java.util.List".toList = "List".toList := by decide
example : head "Map.Entry".toList = "Map".toList := by decide

end Dotted
end Intertype
