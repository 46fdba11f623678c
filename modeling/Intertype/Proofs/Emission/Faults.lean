/-
# How a run fails

A run can fail for what is to be written, or because the depth cannot change as asked. Where the depth
can be followed through the chunks (`Chunk.depthsAfter`), the second never happens, and the run fails
with the first of the faults that the chunks have in themselves (`Emission.run_fault`); if they have
none, everything is written.

A list of chunks that ends at the depth where it starts is balanced; what such chunks fail with is
put together from their parts (`Chunk.FailsWith`).

Key definitions: `Chunk.faults`, `Chunk.depthsAfter`, `Chunk.isPlain`, `Chunk.FailsWith`.
Key theorems: `Emission.run_fault`, `Chunk.FailsWith.append`, `Chunk.FailsWith.flatMap`.
-/
import Intertype.Emission

namespace Intertype

namespace Chunk

/-- What a chunk fails with, whatever the depth. -/
def faults : Chunk → List Emission.Fault
  | .phrase a => (a.fault.map .unwritable).toList
  | .line a => (a.fault.map .unwritable).toList
  | .stop f => [f]
  | _ => []

/-- The depth after a chunk, if it can change as asked. -/
def depthAfter : Chunk → Nat → Option Nat
  | .indent, d => some (d + 1)
  | .dedent, d => if d = 0 then none else some (d - 1)
  | .conclude, d => if d = 1 then some 0 else none
  | _, d => some d

/-- The depth after several chunks. -/
def depthsAfter : List Chunk → Nat → Option Nat
  | [], d => some d
  | c :: rest, d => (c.depthAfter d).bind (depthsAfter rest)

theorem depthsAfter_append (a b : List Chunk) (d : Nat) :
    depthsAfter (a ++ b) d = (depthsAfter a d).bind (depthsAfter b) := by
  induction a generalizing d with
  | nil => rfl
  | cons c rest ih =>
    rw [List.cons_append, depthsAfter, depthsAfter, Option.bind_assoc]
    congr
    funext d'
    exact ih d'

end Chunk

namespace Emission

/-- A chunk whose depth can be followed fails with its own fault, or else leads to that depth. -/
theorem step_fault (e : Emission) {c : Chunk} {d : Nat} (h : c.depthAfter e.buffer.depth = some d) :
    (e.step c).1 = c.faults.head? ∧ ((e.step c).1 = none → (e.step c).2.buffer.depth = d) := by
  cases c with
  | phrase a =>
    injection h with h
    simp only [step, Annotation.Phrase.spell, Chunk.faults]
    cases a.fault with
    | none => exact ⟨rfl, fun _ => h⟩
    | some f => exact ⟨rfl, fun hn => by cases hn⟩
  | line a =>
    injection h with h
    simp only [step, Annotation.Phrase.spell, Chunk.faults]
    cases a.fault with
    | none => exact ⟨rfl, fun _ => h⟩
    | some f => exact ⟨rfl, fun hn => by cases hn⟩
  | dedent =>
    rw [Chunk.depthAfter] at h
    simp only [step, Buffer.dedent]
    by_cases hd : e.buffer.depth = 0
    · rw [if_pos hd] at h
      cases h
    · rw [if_neg hd] at h ⊢
      injection h with h
      exact ⟨rfl, fun _ => h⟩
  | conclude =>
    rw [Chunk.depthAfter] at h
    simp only [step, Buffer.conclude]
    by_cases hd : e.buffer.depth = 1
    · rw [if_pos hd] at h ⊢
      injection h with h
      exact ⟨rfl, fun _ => h⟩
    · rw [if_neg hd] at h
      cases h
  | blankLine =>
    injection h with h
    refine ⟨rfl, fun _ => ?_⟩
    rw [step, Buffer.blankLine_eq]
    exact h
  | stop f => exact ⟨rfl, fun hn => by cases hn⟩
  | _ =>
    injection h with h
    exact ⟨rfl, fun _ => h⟩

/-- **A run fails with the first fault of its chunks**, if the depth can be followed through them. -/
theorem run_fault {cs : List Chunk} : ∀ {e : Emission} {d : Nat},
    Chunk.depthsAfter cs e.buffer.depth = some d →
      (e.run cs).1 = (cs.flatMap Chunk.faults).head? := by
  induction cs with
  | nil => exact fun _ => rfl
  | cons c rest ih =>
    intro e d h
    obtain ⟨d', hd', h⟩ := Option.bind_eq_some_iff.mp h
    obtain ⟨hfault, hdepth⟩ := e.step_fault hd'
    rw [run, List.flatMap_cons, List.head?_append, ← hfault]
    rcases hs : e.step c with ⟨f, after⟩
    rw [hs] at hdepth
    cases f with
    | none =>
      rw [← hdepth rfl] at h
      exact ih h
    | some f => rfl

end Emission

namespace Chunk

/-! ### Balanced chunks -/

/-- Whether a chunk neither changes the depth nor fails. -/
def isPlain : Chunk → Bool
  | .phrase a => a.fault.isNone
  | .line a => a.fault.isNone
  | .stop _ => false
  | .indent => false
  | .dedent => false
  | .conclude => false
  | _ => true

theorem depthAfter_of_isPlain {c : Chunk} (h : c.isPlain = true) (d : Nat) :
    c.depthAfter d = some d := by
  cases c with
  | indent => cases h
  | dedent => cases h
  | conclude => cases h
  | _ => rfl

theorem faults_of_isPlain {c : Chunk} (h : c.isPlain = true) : c.faults = [] := by
  cases c with
  | phrase a =>
    rw [faults, Option.isNone_iff_eq_none.mp h]
    rfl
  | line a =>
    rw [faults, Option.isNone_iff_eq_none.mp h]
    rfl
  | stop f => cases h
  | _ => rfl

/-- The chunks end at the depth where they start, and fail with the first of the faults. -/
structure FailsWith (cs : List Chunk) (fs : List Emission.Fault) : Prop where
  depth : ∀ d, depthsAfter cs d = some d
  first : (cs.flatMap faults).head? = fs.head?

namespace FailsWith

theorem nil : FailsWith [] [] :=
  ⟨fun _ => rfl, rfl⟩

theorem append {a b : List Chunk} {fs gs : List Emission.Fault} (ha : FailsWith a fs)
    (hb : FailsWith b gs) : FailsWith (a ++ b) (fs ++ gs) where
  depth d := by rw [depthsAfter_append, ha.depth, Option.bind_some, hb.depth]
  first := by rw [List.flatMap_append, List.head?_append, List.head?_append, ha.first, hb.first]

/-- A chunk that does not change the depth. -/
theorem cons {c : Chunk} {cs : List Chunk} {fs gs : List Emission.Fault} (h : FailsWith cs gs)
    (hd : ∀ d, c.depthAfter d = some d) (hf : c.faults.head? = fs.head?) :
    FailsWith (c :: cs) (fs ++ gs) where
  depth d := by rw [depthsAfter, hd, Option.bind_some, h.depth]
  first := by rw [List.flatMap_cons, List.head?_append, List.head?_append, hf, h.first]

/-- A plain chunk makes no difference. -/
theorem plain {c : Chunk} {cs : List Chunk} {fs : List Emission.Fault} (h : FailsWith cs fs)
    (hp : c.isPlain = true) : FailsWith (c :: cs) fs := by
  have hcons : FailsWith (c :: cs) ([] ++ fs) :=
    h.cons (depthAfter_of_isPlain hp) (by rw [faults_of_isPlain hp])
  exact hcons

theorem of_all_isPlain {cs : List Chunk} (h : cs.all isPlain = true) : FailsWith cs [] := by
  induction cs with
  | nil => exact nil
  | cons c rest ih =>
    rw [List.all_cons, Bool.and_eq_true] at h
    exact (ih h.2).plain h.1

/-- Nothing matters behind a chunk where everything stops. -/
theorem stop {cs : List Chunk} {fs : List Emission.Fault} (h : FailsWith cs fs) (f : Emission.Fault)
    (gs : List Emission.Fault) : FailsWith (.stop f :: cs) (f :: gs) where
  depth d := h.depth d
  first := rfl

theorem flatMap {α : Type} {f : α → List Chunk} {g : α → List Emission.Fault} : ∀ {xs : List α},
    (∀ x ∈ xs, FailsWith (f x) (g x)) → FailsWith (xs.flatMap f) (xs.flatMap g)
  | [], _ => nil
  | x :: rest, h => by
    rw [List.flatMap_cons, List.flatMap_cons]
    exact (h x List.mem_cons_self).append (flatMap fun y hy => h y (List.mem_cons_of_mem x hy))

/-- What is written deeper is balanced too. -/
theorem indented {cs : List Chunk} {fs : List Emission.Fault} (h : FailsWith cs fs) :
    FailsWith (.indent :: (cs ++ [.dedent])) fs where
  depth d := by
    rw [depthsAfter, depthAfter, Option.bind_some, depthsAfter_append, h.depth]
    rfl
  first := by
    rw [List.flatMap_cons, List.flatMap_append, List.head?_append, List.head?_append, h.first]
    cases fs <;> rfl

end FailsWith
end Chunk
end Intertype
