/-
# Drafts

What is written in one layout can be written in another. A draft has what was written so far as marks,
which know nothing of a layout: text as it is, the indentation of some depth, the end of a line, a blank
line at some depth. A layout makes text of marks (`Layout.lay`).

Chunks are carried out on a draft as they are on a buffer. The two go in step (`Draft.under_step`,
`Draft.under_run`): the buffer has the text that its layout makes of the marks, and the depth, the
imports and the failures are the same. So the layout has no say in them.

Key definitions: `Mark`, `Layout.lay`, `Draft`, `Draft.step`, `Draft.run`, `Draft.under`.
Key theorems: `Draft.under_step`, `Draft.under_run`.
-/
import Intertype.Emission

namespace Intertype

/-- A part of what is written, apart from any layout. -/
inductive Mark
  /-- Text as it is. -/
  | text (s : String)
  /-- The indentation of a depth. -/
  | margin (depth : Nat)
  /-- The end of a line. -/
  | endLine
  /-- A blank line, or the end of a line with the indentation that a blank line gets at a depth. -/
  | blankLine (depth : Nat)
  deriving DecidableEq, Repr

namespace Layout

/-- The text of a mark: the indentation is one copy of the unit for each level, the end of a line is the
newline, and a blank line has the indentation before its end if blank lines are indented. -/
def layMark (l : Layout) : Mark → String
  | .text s => s
  | .margin depth => l.margin depth
  | .endLine => l.newline
  | .blankLine depth => (if l.indentBlankLines then l.margin depth else "") ++ l.newline

/-- The text of marks, one after the other. -/
def lay (l : Layout) : List Mark → String
  | [] => ""
  | m :: rest => l.layMark m ++ l.lay rest

example :
    ({ indentUnit := "\t", newline := "\r\n", indentBlankLines := false } : Layout).lay
      [.margin 2, .text "x;", .endLine, .blankLine 2] = "\t\tx;\r\n\r\n" := by
  decide

variable (l : Layout)

theorem lay_append (a b : List Mark) : l.lay (a ++ b) = l.lay a ++ l.lay b := by
  induction a with
  | nil => exact String.empty_append.symm
  | cons m rest ih => rw [List.cons_append, lay, ih, lay, String.append_assoc]

theorem lay_singleton (m : Mark) : l.lay [m] = l.layMark m :=
  String.append_empty

/-- A line is the indentation, the text and the end. -/
theorem lay_line (depth : Nat) (s : String) :
    l.lay [.margin depth, .text s, .endLine] = l.margin depth ++ s ++ l.newline := by
  simp only [lay, layMark, String.append_empty, String.append_assoc]

theorem lay_flatMap {α : Type} (f : α → List Mark) (xs : List α) :
    l.lay (xs.flatMap f) = Text.joined "" (xs.map fun x => l.lay (f x)) := by
  induction xs with
  | nil => rfl
  | cons x rest ih =>
    rw [List.flatMap_cons, lay_append, ih, List.map_cons, Text.joined_empty_cons]

end Layout

/-- What is being written, apart from its layout, together with the imports it needs. -/
structure Draft where
  /-- The current level of indentation. -/
  depth : Nat := 0
  /-- What was written so far. -/
  marks : List Mark := []
  imports : Imports

namespace Draft

/-- Writes marks. -/
def write (d : Draft) (ms : List Mark) : Draft :=
  { d with marks := d.marks ++ ms }

/-- Carries out one chunk. -/
def step (d : Draft) : Chunk → Option Emission.Fault × Draft
  | .margin => (none, d.write [.margin d.depth])
  | .phrase a =>
    match a.spell d.imports with
    | (.ok s, after) => (none, { d.write [.text s] with imports := after })
    | (.error f, after) => (some (.unwritable f), { d with imports := after })
  | .line a =>
    match a.spell d.imports with
    | (.ok s, after) =>
      (none, { d.write [.margin d.depth, .text s, .endLine] with imports := after })
    | (.error f, after) => (some (.unwritable f), { d with imports := after })
  | .supertype t =>
    let spelled := d.imports.spellSupertype t
    (none, { d.write [.text spelled.1] with imports := spelled.2 })
  | .endLine => (none, d.write [.endLine])
  | .blankLine => (none, d.write [.blankLine d.depth])
  | .indent => (none, { d with depth := d.depth + 1 })
  | .dedent =>
    if d.depth = 0 then (some (.layout .belowColumnZero), d)
    else (none, { d with depth := d.depth - 1 })
  | .conclude =>
    if d.depth = 1 then
      (none, { d.write [.margin 0, .text "\x7d", .endLine] with depth := 0 })
    else (some (.layout (.notAtOne d.depth)), d)
  | .stop f => (some f, d)

/-- Carries out chunks in order up to the first that fails. -/
def run (d : Draft) : List Chunk → Option Emission.Fault × Draft
  | [] => (none, d)
  | c :: rest =>
    match d.step c with
    | (none, after) => after.run rest
    | (some f, after) => (some f, after)

/-- What is being written, in a layout. -/
def under (l : Layout) (d : Draft) : Emission :=
  ⟨{ layout := l, depth := d.depth, text := l.lay d.marks }, d.imports⟩

variable (l : Layout) (d : Draft)

theorem under_imports : (d.under l).imports = d.imports := rfl

theorem under_write (ms : List Mark) :
    (d.write ms).under l = { d.under l with buffer := (d.under l).buffer.append (l.lay ms) } := by
  simp only [under, write, Layout.lay_append, Buffer.append]

/-- **One chunk does the same in every layout**: it fails alike, and what is written afterwards is the
draft laid out. -/
theorem under_step (c : Chunk) :
    (d.under l).step c = ((d.step c).1, (d.step c).2.under l) := by
  cases c with
  | margin =>
    rw [step, under_write, Layout.lay_singleton]
    rfl
  | phrase a =>
    simp only [Emission.step, step, under_imports]
    rcases a.spell d.imports with ⟨s | s, after⟩
    · rfl
    · simp [under, write, Layout.lay_append, Layout.lay_singleton, Layout.layMark, Buffer.append]
  | line a =>
    simp only [Emission.step, step, under_imports]
    rcases a.spell d.imports with ⟨s | s, after⟩
    · rfl
    · simp [under, write, Layout.lay_append, Layout.lay_line, Buffer.appendLine_eq, Buffer.append]
  | supertype t =>
    simp [Emission.step, step, under, write, Layout.lay_append, Layout.lay_singleton,
      Layout.layMark, Buffer.append]
  | endLine =>
    rw [step, under_write, Layout.lay_singleton]
    rfl
  | blankLine =>
    rw [step, under_write, Layout.lay_singleton, Emission.step, Buffer.blankLine_eq]
    rfl
  | dedent =>
    rw [Emission.step, step, Buffer.dedent]
    by_cases h : d.depth = 0
    · have hb : (d.under l).buffer.depth = 0 := h
      rw [if_pos h, if_pos hb]
    · have hb : (d.under l).buffer.depth ≠ 0 := h
      rw [if_neg h, if_neg hb]
      rfl
  | conclude =>
    rw [Emission.step, step, Buffer.conclude]
    by_cases h : d.depth = 1
    · have hb : (d.under l).buffer.depth = 1 := h
      rw [if_pos h, if_pos hb]
      simp [under, write, Layout.lay_append, Layout.lay_line, Buffer.appendLine_eq, Buffer.append]
    · have hb : (d.under l).buffer.depth ≠ 1 := h
      rw [if_neg h, if_neg hb]
      rfl
  | _ => rfl

/-- **The chunks do the same in every layout**: they fail alike, with the same imports, and what was
written is the draft laid out. -/
theorem under_run (cs : List Chunk) :
    (d.under l).run cs = ((d.run cs).1, (d.run cs).2.under l) := by
  induction cs generalizing d with
  | nil => rfl
  | cons c rest ih =>
    rw [Emission.run, run, under_step]
    rcases d.step c with ⟨f, after⟩
    cases f with
    | none => exact ih after
    | some f => rfl

end Draft
end Intertype
