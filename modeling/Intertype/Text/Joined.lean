/-
# Joining texts

Key definitions: `Text.joined`, `Text.repeated`.
-/

namespace Intertype
namespace Text

/-- The texts in order, with the separator between each two. -/
def joined (separator : String) : List String → String
  | [] => ""
  | [s] => s
  | s :: t :: more => s ++ (separator ++ joined separator (t :: more))

/-- So many copies of the text. -/
def repeated (s : String) : Nat → String
  | 0 => ""
  | n + 1 => s ++ repeated s n

theorem repeated_succ (s : String) (n : Nat) : repeated s (n + 1) = s ++ repeated s n := rfl

theorem repeated_add (s : String) (m n : Nat) :
    repeated s (m + n) = repeated s m ++ repeated s n := by
  induction m with
  | zero => simp [repeated]
  | succ m ih => rw [Nat.succ_add, repeated_succ, ih, repeated_succ, String.append_assoc]

theorem joined_cons (separator s : String) {more : List String} (h : more ≠ []) :
    joined separator (s :: more) = s ++ (separator ++ joined separator more) := by
  cases more with
  | nil => exact absurd rfl h
  | cons t rest => rfl

theorem joined_empty_cons (s : String) (more : List String) :
    joined "" (s :: more) = s ++ joined "" more := by
  cases more with
  | nil => simp [joined]
  | cons t rest => rw [joined, String.empty_append]

end Text
end Intertype
