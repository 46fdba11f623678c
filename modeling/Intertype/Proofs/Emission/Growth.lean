/-
# The imports while a unit is written

Whatever is written, the imports only grow, by types that the text names (`Emission.grows_run`). Every
type name in the text is spelled in full, or as the imports of some moment on the way have it
(`Emission.spells_of_mem_written`): so what holds of the imports in the end, holds of what the names
were spelled for.

Key definitions: `TypeRef.IsNamed`, `Imports.Spells`.
Key theorems: `Emission.grows_run`, `Emission.spells_of_mem_written`.
-/
import Intertype.Proofs.Imports.Table
import Intertype.Proofs.Introduction.References

namespace Intertype

/-- Whether the reference and all that its source text names are allowed. -/
def TypeRef.IsNamed (allowed : TypeRef → Prop) (t : TypeRef) : Prop :=
  allowed t ∧ Piece.NameOnly allowed t.pieces

theorem TypeRef.IsNamed.isAllowed {allowed : TypeRef → Prop} {t : TypeRef} (h : t.IsNamed allowed) :
    t.IsAllowed allowed (TypeRef.IsNamed allowed) :=
  ⟨h.1, h.2, h⟩

/-- Where all is allowed, any chunks are. -/
theorem Chunk.nameOnly_all (cs : List Chunk) :
    Chunk.NameOnly (fun _ => True) (TypeRef.IsNamed fun _ => True) cs := by
  intro c _
  cases c with
  | phrase a => exact fun _ _ => trivial
  | line a => exact fun _ _ => trivial
  | supertype t => exact ⟨trivial, fun _ _ => trivial⟩
  | _ => exact trivial

variable {allowed : TypeRef → Prop} {t : TypeRef} {s : String}

namespace Imports

variable {im mid after later : Imports}

theorem grows_spellSupertype (im : Imports) (ht : t.IsNamed allowed) :
    im.Grows allowed (im.spellSupertype t).2 := by
  rw [spellSupertype_eq]
  split
  · exact .refl
  · exact (im.grows_claim ht.1).trans (grows_spell _ ht.2)

/-- Whether the name of the type is spelled so between two moments: in full, or as the imports of a
moment between the two have it. -/
def Spells (allowed : TypeRef → Prop) (im after : Imports) (t : TypeRef) (s : String) : Prop :=
  s = t.name ∨
    ∃ mid, im.Grows allowed mid ∧ (mid.resolve t).1 = s ∧ (mid.resolve t).2.Grows allowed after

theorem Spells.mono (h : Spells allowed mid after t s) (hb : im.Grows allowed mid)
    (ha : after.Grows allowed later) : Spells allowed im later t s :=
  h.imp_right fun ⟨now, hbefore, hs, hafter⟩ => ⟨now, hb.trans hbefore, hs, hafter.trans ha⟩

/-- A piece is spelled as the imports of a moment on the way have it. -/
theorem exists_of_mem_spelled {ps : List Piece} {p : Piece} (hps : Piece.NameOnly allowed ps)
    (h : (p, s) ∈ im.spelled ps) : p ∈ ps ∧ ∃ mid : Imports, im.Grows allowed mid ∧
      (mid.spellPiece p).1 = s ∧ (mid.spellPiece p).2.Grows allowed (im.spell ps).2 := by
  induction ps generalizing im with
  | nil => exact absurd h List.not_mem_nil
  | cons q rest ih =>
    have hrest : Piece.NameOnly allowed rest := fun u hu => hps u (List.mem_cons_of_mem q hu)
    have hfirst : im.Grows allowed (im.spellPiece q).2 := by
      refine im.grows_spellPiece fun u hu => hps u ?_
      rw [hu]
      exact List.mem_cons_self
    rw [spelled] at h
    rw [spell]
    rcases List.mem_cons.mp h with h | h
    · rw [Prod.mk.injEq] at h
      obtain ⟨rfl, rfl⟩ := h
      exact ⟨List.mem_cons_self, im, .refl, rfl, grows_spell _ hrest⟩
    · obtain ⟨hp, mid, hbefore, hs, hafter⟩ := ih hrest h
      exact ⟨List.mem_cons_of_mem q hp, mid, hfirst.trans hbefore, hs, hafter⟩

theorem spells_of_mem_spelled {ps : List Piece} (hps : Piece.NameOnly allowed ps)
    (h : (Piece.typeName t, s) ∈ im.spelled ps) :
    allowed t ∧ Spells allowed im (im.spell ps).2 t s := by
  obtain ⟨ht, hs⟩ := exists_of_mem_spelled hps h
  exact ⟨hps t ht, Or.inr hs⟩

theorem spells_of_mem_spelledSupertype {u : TypeRef} (hu : u.IsNamed allowed)
    (h : (Piece.typeName t, s) ∈ im.spelledSupertype u) :
    allowed t ∧ Spells allowed im (im.spellSupertype u).2 t s := by
  unfold spelledSupertype at h
  rw [spellSupertype_eq]
  split at h
  · obtain ⟨p, hp, he⟩ := List.mem_map.mp h
    rw [Prod.mk.injEq] at he
    obtain ⟨rfl, hs⟩ := he
    exact ⟨hu.2 t hp, Or.inl hs.symm⟩
  · rename_i hn
    rw [if_neg hn]
    obtain ⟨ht, hs⟩ := spells_of_mem_spelled hu.2 h
    exact ⟨ht, hs.mono (im.grows_claim hu.1) .refl⟩

end Imports

namespace Emission

open Imports

variable {c : Chunk} {cs : List Chunk}

theorem grows_step (e : Emission) (hc : c.NamesOnly allowed (TypeRef.IsNamed allowed)) :
    e.imports.Grows allowed (e.step c).2.imports := by
  cases c with
  | phrase a =>
    rw [(e.step_phrase_imports a).1]
    exact grows_spell _ hc
  | line a =>
    rw [(e.step_phrase_imports a).2]
    exact grows_spell _ hc
  | supertype t => exact grows_spellSupertype _ hc
  | _ =>
    rw [step_imports _ rfl]
    exact .refl

/-- **Whatever is written, the imports only grow**, by types that the text names. -/
theorem grows_run (e : Emission) (h : Chunk.NameOnly allowed (TypeRef.IsNamed allowed) cs) :
    e.imports.Grows allowed (e.run cs).2.imports := by
  induction cs generalizing e with
  | nil => exact .refl
  | cons c rest ih =>
    have hstep := e.grows_step (h c List.mem_cons_self)
    have hrest := fun after : Emission => ih after fun d hd => h d (List.mem_cons_of_mem c hd)
    rw [run]
    rcases hs : e.step c with ⟨f, after⟩
    rw [hs] at hstep
    cases f with
    | none => exact hstep.trans (hrest after)
    | some f => exact hstep

theorem spells_of_mem_step {e : Emission} (hc : c.NamesOnly allowed (TypeRef.IsNamed allowed))
    (h : (Piece.typeName t, s) ∈ e.spelled c) :
    allowed t ∧ Spells allowed e.imports (e.step c).2.imports t s := by
  cases c with
  | phrase a =>
    rw [(e.step_phrase_imports a).1]
    by_cases hf : a.fault = none
    · rw [spelled, if_pos hf] at h
      exact spells_of_mem_spelled hc h
    · rw [spelled, if_neg hf] at h
      exact absurd h List.not_mem_nil
  | line a =>
    rw [(e.step_phrase_imports a).2]
    by_cases hf : a.fault = none
    · rw [spelled, if_pos hf] at h
      refine spells_of_mem_spelled hc ?_
      simpa [Piece.plain] using h
    · rw [spelled, if_neg hf] at h
      exact absurd h List.not_mem_nil
  | supertype t => exact spells_of_mem_spelledSupertype hc h
  | conclude =>
    rw [spelled] at h
    split at h
    · simp [Piece.plain] at h
    · exact absurd h List.not_mem_nil
  | _ => simp [spelled, Piece.plain] at h

/-- **How a name in the text was spelled**: in full, or as the imports had it at some moment. -/
theorem spells_of_mem_written {e : Emission} (hcs : Chunk.NameOnly allowed (TypeRef.IsNamed allowed) cs)
    (h : (Piece.typeName t, s) ∈ e.written cs) :
    allowed t ∧ Spells allowed e.imports (e.run cs).2.imports t s := by
  induction cs generalizing e with
  | nil => exact absurd h List.not_mem_nil
  | cons c rest ih =>
    have hc := hcs c List.mem_cons_self
    have hrest : Chunk.NameOnly allowed (TypeRef.IsNamed allowed) rest :=
      fun d hd => hcs d (List.mem_cons_of_mem c hd)
    have hstep := e.grows_step hc
    rw [written] at h
    rw [run]
    rcases List.mem_append.mp h with h | h
    · obtain ⟨ht, hspells⟩ := spells_of_mem_step hc h
      refine ⟨ht, ?_⟩
      rcases hs : e.step c with ⟨f, after⟩
      rw [hs] at hspells
      cases f with
      | none => exact hspells.mono .refl (after.grows_run hrest)
      | some f => exact hspells
    · rcases hs : e.step c with ⟨f, after⟩
      rw [hs] at h hstep
      cases f with
      | none =>
        obtain ⟨ht, hspells⟩ := ih hrest h
        exact ⟨ht, hspells.mono hstep .refl⟩
      | some f => exact absurd h List.not_mem_nil

end Emission

end Intertype
