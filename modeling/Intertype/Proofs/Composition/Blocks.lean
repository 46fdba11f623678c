/-
# The blocks of an aspect

The body of an aspect is its opening line, a blank line, a block of text for each of its parts, and the
closing line (`Introduction.compose_blocks`). A block is what a part adds to the buffer when its turn
comes, so it depends on the imports that the blocks before it leave.

What holds of the text of every part, whatever state it is written in, holds of the blocks
(`Emission.run_blocks`): an invariant of the states between the parts is kept by each of them.

Key definitions: `Emission.blocks`, `Introduction.blocks`, `Introduction.openingText`.
Key theorems: `Emission.run_depth`, `Emission.run_blocks`, `Introduction.run_opening`,
`Introduction.compose_blocks`.
-/
import Intertype.Proofs.Composition.Header
import Intertype.Proofs.Emission.Faults
import Intertype.Proofs.Introduction.Parts

namespace Intertype

namespace Emission

/-! ### Runs without a failure -/

/-- Chunks that do not fail are carried out one after the other. -/
theorem run_cons_eq_none {e e' : Emission} {c : Chunk} {cs : List Chunk}
    (h : e.run (c :: cs) = (none, e')) :
    ∃ mid, e.step c = (none, mid) ∧ mid.run cs = (none, e') ∧
      e.written (c :: cs) = e.spelled c ++ mid.written cs := by
  rw [run] at h
  rw [written]
  rcases hs : e.step c with ⟨f, mid⟩
  rw [hs] at h
  cases f with
  | none => exact ⟨mid, rfl, h, rfl⟩
  | some f => cases h

theorem run_append_eq_none {e e' : Emission} {a b : List Chunk}
    (h : e.run (a ++ b) = (none, e')) :
    ∃ mid, e.run a = (none, mid) ∧ mid.run b = (none, e') ∧
      e.written (a ++ b) = e.written a ++ mid.written b := by
  induction a generalizing e with
  | nil => exact ⟨e, rfl, h, rfl⟩
  | cons c rest ih =>
    rw [List.cons_append] at h ⊢
    obtain ⟨first, hfirst, hrest, hwritten⟩ := run_cons_eq_none h
    obtain ⟨mid, hmid, hb, hboth⟩ := ih hrest
    refine ⟨mid, ?_, hb, ?_⟩
    · rw [run, hfirst]
      exact hmid
    · rw [hwritten, hboth, written, hfirst, List.append_assoc]

theorem step_layout (e : Emission) (c : Chunk) : (e.step c).2.buffer.layout = e.buffer.layout := by
  cases c with
  | phrase a =>
    rw [step]
    split <;> rfl
  | line a =>
    rw [step]
    split <;> rfl
  | blankLine => rw [step, Buffer.blankLine_eq, Buffer.append_layout]
  | dedent =>
    rw [step, Buffer.dedent]
    by_cases h : e.buffer.depth = 0
    · rw [if_pos h]
    · rw [if_neg h]
  | conclude =>
    rw [step, Buffer.conclude]
    by_cases h : e.buffer.depth = 1
    · rw [if_pos h]
      rfl
    · rw [if_neg h]
  | _ => rfl

/-- The layout stays as it is. -/
theorem run_layout (e : Emission) (cs : List Chunk) :
    (e.run cs).2.buffer.layout = e.buffer.layout := by
  induction cs generalizing e with
  | nil => rfl
  | cons c rest ih =>
    have hstep := e.step_layout c
    rw [run]
    rcases hs : e.step c with ⟨f, mid⟩
    rw [hs] at hstep
    cases f with
    | none => exact (ih mid).trans hstep
    | some f => exact hstep

/-- A run that does not fail ends at the depth that its chunks lead to. -/
theorem run_depth {cs : List Chunk} : ∀ {e e' : Emission} {d : Nat},
    Chunk.depthsAfter cs e.buffer.depth = some d → e.run cs = (none, e') → e'.buffer.depth = d := by
  induction cs with
  | nil =>
    intro e e' d hd h
    injection hd with hd
    injection h with _ h
    rw [← h, hd]
  | cons c rest ih =>
    intro e e' d hd h
    obtain ⟨mid, hmid, hrest, -⟩ := run_cons_eq_none h
    obtain ⟨d', hd', hd⟩ := Option.bind_eq_some_iff.mp hd
    have hdepth := (e.step_fault hd').2
    rw [hmid] at hdepth
    rw [← hdepth rfl] at hd
    exact ih hd hrest

/-- A conclusion that does not fail writes the closing line, and imports nothing. -/
theorem run_conclude {e e' : Emission} (h : e.run [.conclude] = (none, e')) :
    e'.imports = e.imports ∧
      Piece.written (e.written [.conclude]) = "\x7d" ++ e.buffer.layout.newline := by
  obtain ⟨mid, hmid, hrest, hwritten⟩ := run_cons_eq_none h
  injection hrest with _ hrest
  have himports := e.step_imports (c := .conclude) rfl
  rw [hmid] at himports
  refine ⟨hrest ▸ himports, ?_⟩
  have hdepth : e.buffer.depth = 1 := by
    by_contra hne
    rw [step, Buffer.conclude, if_neg hne] at hmid
    cases hmid
  rw [hwritten, spelled, if_pos hdepth]
  simp [Piece.written, Piece.plain, written]

/-! ### Blocks -/

/-- What lists of chunks write, each from where the one before it ends. -/
def blocks (e : Emission) : List (List Chunk) → List String
  | [] => []
  | cs :: rest => Piece.written (e.written cs) :: (e.run cs).2.blocks rest

/-- A run through what is written for several things: what each of them keeps holds at the end, and what
each of them writes is as it is known to be. -/
theorem run_blocks {α : Type} (f : α → List Chunk) (kept : Emission → Prop) (R : α → String → Prop)
    {xs : List α}
    (hstep : ∀ x ∈ xs, ∀ {e e' : Emission}, kept e → e.run (f x) = (none, e') →
      kept e' ∧ R x (Piece.written (e.written (f x)))) :
    ∀ {e e' : Emission}, kept e → e.run (xs.map f).flatten = (none, e') →
      kept e' ∧ List.Forall₂ R xs (e.blocks (xs.map f)) ∧
        Piece.written (e.written (xs.map f).flatten) = Text.joined "" (e.blocks (xs.map f)) := by
  induction xs with
  | nil =>
    intro e e' he h
    injection h with _ h
    exact ⟨h ▸ he, .nil, rfl⟩
  | cons x rest ih =>
    intro e e' he h
    rw [List.map_cons, List.flatten_cons] at h ⊢
    obtain ⟨mid, hmid, hrest, hwritten⟩ := run_append_eq_none h
    obtain ⟨hkept, hr⟩ := hstep x List.mem_cons_self he hmid
    obtain ⟨hend, hall, htext⟩ := ih (fun y hy => hstep y (List.mem_cons_of_mem x hy)) hkept hrest
    rw [blocks, hmid]
    refine ⟨hend, .cons hr hall, ?_⟩
    rw [hwritten, Piece.written_append, htext, Text.joined_empty_cons]

end Emission

namespace Introduction

/-- The opening of an aspect as it is laid out: its first line and a blank line. -/
def openingText (layout : Layout) (i : Introduction) : String :=
  (if i.privileged then "privileged " else "") ++ "aspect " ++ i.aspect.simpleName ++ " \x7b" ++
    layout.newline ++ ((if layout.indentBlankLines then layout.margin 1 else "") ++ layout.newline)

/-- Where the parts of an aspect start to be written. -/
def opened (settings : Settings) (i : Introduction) : Emission :=
  ((i.begin settings).run (opening i.privileged i.aspect i.target)).2

/-- The text written for each part of the aspect. -/
def blocks (settings : Settings) (i : Introduction) : List String :=
  (i.opened settings).blocks (i.partChunks Annotation.phrase)

variable {settings : Settings} {i : Introduction}

/-- The opening is written at depth zero and leads to depth one, and nothing is imported for it. -/
theorem run_opening (hp : i.target.packageName = i.aspect.packageName) (settings : Settings) :
    (i.begin settings).run (opening i.privileged i.aspect i.target) = (none, i.opened settings) ∧
      (i.opened settings).buffer.layout = settings.toLayout ∧
      (i.opened settings).buffer.depth = 1 ∧
      (i.opened settings).imports = i.startImports settings.implicitPackages ∧
      Piece.written ((i.begin settings).written (opening i.privileged i.aspect i.target)) =
        i.openingText settings.toLayout := by
  have hrun : ((i.begin settings).run (opening i.privileged i.aspect i.target)).1 = none := by
    rw [opening, if_pos hp]
    rfl
  refine ⟨Prod.ext hrun rfl, Emission.run_layout _ _, ?_, ?_, ?_⟩
  · refine Emission.run_depth ?_ (Prod.ext hrun rfl)
    rw [opening, if_pos hp]
    rfl
  · rw [opened, opening, if_pos hp]
    rfl
  · rw [opening, if_pos hp]
    simp [Emission.written, Emission.spelled, Emission.step, Chunk.text, begin, openingText,
      Piece.written, Piece.plain, Imports.spelled, Imports.spellPiece, Annotation.Phrase.whole,
      Annotation.Phrase.spell, Imports.spell, Buffer.appendMargin, Buffer.append, Buffer.endLine,
      Buffer.indent, Layout.margin, Text.repeated, String.append_assoc]

theorem compose_hasContent {form : Annotation.Form} {c : Composition}
    (h : i.compose settings form = .ok c) : c.hasContent = i.hasContent := by
  rw [compose] at h
  split at h
  · cases h
  · rw [← Except.ok.inj h]

/-- An aspect that is composed is its opening, its blocks and the line that closes it. -/
theorem compose_blocks {c : Composition} (h : i.compose settings Annotation.phrase = .ok c) :
    ∃ closed : Emission, (i.opened settings).run (i.partChunks Annotation.phrase).flatten = (none, closed) ∧
      c.header = Composition.headerOf settings.newline i.aspect closed.imports.sorted ∧
      c.body = i.openingText settings.toLayout ++ Text.joined "" (i.blocks settings) ++
        ("\x7d" ++ settings.newline) := by
  obtain ⟨e, hrun, hheader, hbody⟩ := compose_ok h
  obtain ⟨hopening, hopened, -, -, htext⟩ := run_opening (samePackage_of_run hrun) settings
  have hwhole := (i.begin settings).run_text (i.chunks Annotation.phrase)
  rw [hrun] at hwhole
  rw [chunks_eq] at hrun hwhole
  obtain ⟨e', he', hrest, hwritten⟩ := Emission.run_append_eq_none hrun
  rw [hopening, Prod.mk.injEq] at he'
  rw [← he'.2] at hrest hwritten
  obtain ⟨closed, hclosed, hend, hwritten'⟩ := Emission.run_append_eq_none hrest
  obtain ⟨-, -, hblocks⟩ := Emission.run_blocks
    (Part.chunks Annotation.phrase i.target.simpleName) (fun _ => True) (fun _ _ => True)
    (fun _ _ _ _ _ _ => ⟨trivial, trivial⟩) trivial hclosed
  obtain ⟨himports, hlast⟩ := Emission.run_conclude hend
  have hlayout : closed.buffer.layout = settings.toLayout := by
    have := (i.opened settings).run_layout (i.partChunks Annotation.phrase).flatten
    rwa [hclosed, hopened] at this
  refine ⟨closed, hclosed, ?_, ?_⟩
  · rw [hheader, himports]
  · rw [hbody, hwhole, hwritten, hwritten', Piece.written_append, Piece.written_append, htext,
      partChunks, hblocks, hlast, hlayout, begin, String.empty_append, ← String.append_assoc]
    rfl

end Introduction
end Intertype
