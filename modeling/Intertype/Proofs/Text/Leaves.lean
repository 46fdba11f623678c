/-
# What is left of a text

Reading may lose some of a text, and what is written from what was read is, square brackets aside, a part
of it. Brackets are counted and not copied, and so they are left out where the two texts are compared.
What is told of the pieces of a text so holds of the whole (`Leaves.append`).

Key definitions: `Text.unbracketed`, `Text.Leaves`.
Key theorems: `Leaves.append`, `Leaves.lost`, `Leaves.trans`, `Leaves.filter`.
-/
import Mathlib.Data.List.Basic

namespace Intertype
namespace Text

/-- Whether the character is a square bracket. -/
def isBracket (c : Char) : Bool :=
  c = '[' || c = ']'

/-- The text without its square brackets. -/
def unbracketed (cs : List Char) : List Char :=
  cs.filter fun c => !isBracket c

theorem unbracketed_append (a b : List Char) :
    unbracketed (a ++ b) = unbracketed a ++ unbracketed b :=
  List.filter_append a b

/-- A text with another character than brackets in it. -/
theorem unbracketed_ne_nil {c : Char} {cs : List Char} (hc : c ∈ cs) (hb : isBracket c = false) :
    unbracketed cs ≠ [] :=
  List.ne_nil_of_mem (List.mem_filter.mpr ⟨hc, by rw [hb]; rfl⟩)

/-- What is left of a text: brackets aside a part of it, and all of it exactly if what there is to keep
is kept. -/
structure Leaves (cs out : List Char) (kept : Prop) : Prop where
  sublist : (unbracketed out).Sublist (unbracketed cs)
  kept_of_eq : unbracketed out = unbracketed cs → kept
  eq_of_kept : kept → out = cs

namespace Leaves

variable {a b x y : List Char} {p q : Prop}

theorem length_le (h : Leaves a x p) : (unbracketed x).length ≤ (unbracketed a).length :=
  h.sublist.length_le

theorem all (a : List Char) : Leaves a a True :=
  ⟨.refl _, fun _ => trivial, fun _ => rfl⟩

theorem congr (h : Leaves a x p) (hpq : p ↔ q) : Leaves a x q :=
  ⟨h.sublist, fun he => hpq.mp (h.kept_of_eq he), fun hq => h.eq_of_kept (hpq.mpr hq)⟩

theorem append (ha : Leaves a x p) (hb : Leaves b y q) : Leaves (a ++ b) (x ++ y) (p ∧ q) := by
  refine ⟨?_, fun he => ?_, fun ⟨hp, hq⟩ => by rw [ha.eq_of_kept hp, hb.eq_of_kept hq]⟩
  · rw [unbracketed_append, unbracketed_append]
    exact ha.sublist.append hb.sublist
  · rw [unbracketed_append, unbracketed_append] at he
    have hlength := congrArg List.length he
    rw [List.length_append, List.length_append] at hlength
    have hx := ha.length_le
    have hy := hb.length_le
    exact ⟨ha.kept_of_eq (ha.sublist.eq_of_length (by omega)),
      hb.kept_of_eq (hb.sublist.eq_of_length (by omega))⟩

/-- What is left of what is left. -/
theorem trans (ha : Leaves a b p) (hb : Leaves b x q) : Leaves a x (p ∧ q) := by
  refine ⟨hb.sublist.trans ha.sublist, fun he => ?_, fun ⟨hp, hq⟩ => by
    rw [hb.eq_of_kept hq, ha.eq_of_kept hp]⟩
  have hx := hb.length_le
  have hb' := ha.length_le
  rw [he] at hx
  have hmiddle : unbracketed b = unbracketed a := ha.sublist.eq_of_length (by omega)
  exact ⟨ha.kept_of_eq hmiddle, hb.kept_of_eq (he.trans hmiddle.symm)⟩

/-- A text with more in it than brackets is lost. -/
theorem none (h : unbracketed a ≠ []) : Leaves a [] False :=
  ⟨List.nil_sublist _, fun he => h he.symm, False.elim⟩

/-- Something before the text is lost. -/
theorem lost (h : Leaves b y q) (ha : unbracketed a ≠ []) : Leaves (a ++ b) y False :=
  ((none ha).append h).congr (iff_of_false And.left id)

/-- Of several texts those are left that are chosen. -/
theorem filter {α : Type} {f : α → List Char} {choose : α → Bool} {xs : List α}
    (h : ∀ x ∈ xs, choose x = false → unbracketed (f x) ≠ []) :
    Leaves (xs.flatMap f) ((xs.filter choose).flatMap f) (∀ x ∈ xs, choose x = true) := by
  induction xs with
  | nil => exact (all []).congr (iff_of_true trivial fun x hx => absurd hx List.not_mem_nil)
  | cons x rest ih =>
    have hrest := ih fun y hy => h y (List.mem_cons_of_mem x hy)
    rw [List.flatMap_cons]
    cases hx : choose x with
    | true =>
      rw [List.filter_cons_of_pos hx, List.flatMap_cons]
      refine ((all (f x)).append hrest).congr ?_
      rw [List.forall_mem_cons, true_and]
      exact (and_iff_right hx).symm
    | false =>
      rw [List.filter_cons_of_neg (by rw [hx]; exact Bool.false_ne_true)]
      refine (hrest.lost (h x List.mem_cons_self hx)).congr (iff_of_false id fun hall => ?_)
      rw [hall x List.mem_cons_self] at hx
      cases hx

end Leaves
end Text
end Intertype
