/-
# Writing a body

A body is written by one step after another: deeper, less deep where that is allowed, a line of text, a
blank line. Whatever the steps, its text is a sequence of lines that stand within the two levels of the
aspect and the member (`Body.lines_of_isWritten`).

At every moment the depth is that of the statements and one more for each step deeper that was not taken
back (`Body.depth_run`). It never falls below that of the statements (`Body.baseDepth_le_run`), so the
buffer always has indentation to take back where the body allows it. The text is what the single steps
write at the depths they find (`Body.text_run`).

Key definitions: `Body.Step`, `Body.perform`, `Body.run`, `Body.IsWritten`, `Layout.IsInside`,
`Body.indents`, `Body.removals`, `Body.Step.written`.
Key theorems: `Body.lines_of_isWritten`, `Body.depth_run`, `Body.text_run`, `Body.run_exact`.
-/
import Intertype.Body
import Intertype.Proofs.Text.Lined
import Mathlib.Data.List.Infix

namespace Intertype

open Text (OneLine lined)

/-! ### Lines and their indentation -/

namespace Layout

/-- What a blank line holds at the given depth. -/
def blank (l : Layout) (depth : Nat) : String :=
  if l.indentBlankLines then l.margin depth else ""

/-- Whether the line stands within so many levels of indentation: it begins with them, or blank lines
are not indented and it is one. -/
def IsInside (l : Layout) (depth : Nat) (line : String) : Prop :=
  (∃ rest, line = l.margin depth ++ rest) ∨ (l.indentBlankLines = false ∧ line = "")

/-- Whether the layout ends lines with a line feed, and with nothing else. -/
structure HasLines (l : Layout) : Prop where
  newline : l.newline = "\n"
  indentUnit : OneLine l.indentUnit

variable {l : Layout} {depth : Nat}

theorem isInside_margin (l : Layout) (depth : Nat) (s : String) :
    l.IsInside depth (l.margin depth ++ s) :=
  Or.inl ⟨s, rfl⟩

theorem isInside_blank (l : Layout) (depth : Nat) : l.IsInside depth (l.blank depth) := by
  unfold blank
  split
  · exact Or.inl ⟨"", (String.append_empty).symm⟩
  · rename_i h
    exact Or.inr ⟨Bool.eq_false_iff.mpr h, rfl⟩

theorem margin_add (l : Layout) (m n : Nat) : l.margin (m + n) = l.margin m ++ l.margin n :=
  Text.repeated_add l.indentUnit m n

/-- What stands within more levels stands within fewer. -/
theorem IsInside.mono {line : String} {d : Nat} (h : l.IsInside depth line) (hd : d ≤ depth) :
    l.IsInside d line := by
  refine h.imp_left fun ⟨rest, hrest⟩ => ⟨l.margin (depth - d) ++ rest, ?_⟩
  rw [hrest, ← String.append_assoc, ← margin_add, Nat.add_sub_cancel' hd]

theorem HasLines.margin (h : l.HasLines) (depth : Nat) : OneLine (l.margin depth) :=
  Text.oneLine_repeated h.indentUnit depth

theorem HasLines.blank (h : l.HasLines) (depth : Nat) : OneLine (l.blank depth) := by
  unfold Layout.blank
  split
  · exact h.margin depth
  · exact Text.oneLine_empty

end Layout

namespace Body

/-! ### Steps -/

/-- What can be done with a body. -/
inductive Step
  /-- To go one level deeper. -/
  | indent
  /-- To go one level less deep. -/
  | outdent
  /-- To write a line. -/
  | line (s : String)
  /-- To write a blank line. -/
  | blank

/-- The body after a step; a refused one leaves it as it is. -/
def perform (b : Body) : Step → Body
  | .indent => b.indent
  | .outdent =>
    match b.outdent with
    | .ok after => after
    | .error _ => b
  | .line s => b.appendLine s
  | .blank => b.blankLine

/-- The body after steps in order. -/
def run (b : Body) (steps : List Step) : Body :=
  steps.foldl perform b

/-- Whether the text is that of a body written in the layout, with lines that have no line feed. -/
def IsWritten (l : Layout) (text : String) : Prop :=
  ∃ steps, (∀ s, .line s ∈ steps → OneLine s) ∧ text = ((start l).run steps).text

/-! ### Depth -/

/-- Whether the step goes one level deeper. -/
def Step.isIndent : Step → Bool
  | .indent => true
  | _ => false

/-- How many of the steps go one level deeper. -/
def indents (steps : List Step) : Nat :=
  steps.countP Step.isIndent

/-- Whether the step takes a level back; a refused one takes none. -/
def takesBack (b : Body) : Step → Bool
  | .outdent => b.outdent.toBool
  | _ => false

/-- How many of the steps take a level back. -/
def removals (b : Body) : List Step → Nat
  | [] => 0
  | s :: rest => (b.perform s).removals rest + if b.takesBack s then 1 else 0

variable {b : Body}

/-- A step that is refused changes nothing. -/
theorem perform_outdent (b : Body) : b.perform .outdent =
    if b.buffer.depth ≤ baseDepth then b else ⟨{ b.buffer with depth := b.buffer.depth - 1 }⟩ := by
  rw [perform, outdent_eq]
  by_cases hd : b.buffer.depth ≤ baseDepth
  · rw [if_pos hd, if_pos hd]
  · rw [if_neg hd, if_neg hd]

theorem takesBack_outdent (b : Body) :
    b.takesBack .outdent = decide (baseDepth < b.buffer.depth) := by
  rw [takesBack, outdent_eq]
  by_cases hd : b.buffer.depth ≤ baseDepth
  · rw [if_pos hd, decide_eq_false (Nat.not_lt.mpr hd)]
    rfl
  · rw [if_neg hd, decide_eq_true (Nat.lt_of_not_le hd)]
    rfl

/-- No step leads below the depth of the statements. -/
theorem baseDepth_le_perform (h : baseDepth ≤ b.buffer.depth) (s : Step) :
    baseDepth ≤ (b.perform s).buffer.depth := by
  cases s with
  | indent => exact Nat.le_succ_of_le h
  | outdent =>
    rw [perform_outdent]
    by_cases hd : b.buffer.depth ≤ baseDepth
    · rw [if_pos hd]
      exact h
    · rw [if_neg hd]
      exact Nat.le_sub_one_of_lt (Nat.lt_of_not_le hd)
  | line s =>
    rw [perform, appendLine, Buffer.appendLine_eq]
    exact h
  | blank =>
    rw [perform, blankLine, Buffer.blankLine_eq]
    exact h

/-- A step changes the depth by one level at most. -/
theorem depth_perform (b : Body) (s : Step) :
    (b.perform s).buffer.depth + (if b.takesBack s then 1 else 0) =
      b.buffer.depth + if s.isIndent then 1 else 0 := by
  cases s with
  | indent => rfl
  | outdent =>
    have hstay : Step.outdent.isIndent = false := rfl
    rw [perform_outdent, takesBack_outdent, hstay, if_neg Bool.false_ne_true]
    by_cases hd : b.buffer.depth ≤ baseDepth
    · rw [if_pos hd, if_neg (by simpa using hd)]
    · have hdeep : baseDepth < b.buffer.depth := Nat.lt_of_not_le hd
      rw [if_neg hd, if_pos (by simpa using hdeep)]
      show b.buffer.depth - 1 + 1 = b.buffer.depth + 0
      omega
  | line s =>
    rw [perform, appendLine, Buffer.appendLine_eq]
    rfl
  | blank =>
    rw [perform, blankLine, Buffer.blankLine_eq]
    rfl

theorem baseDepth_le_run (h : baseDepth ≤ b.buffer.depth) (steps : List Step) :
    baseDepth ≤ (b.run steps).buffer.depth := by
  induction steps generalizing b with
  | nil => exact h
  | cons s rest ih => exact ih (baseDepth_le_perform h s)

/-- **The depth is what was gone deeper, less what was taken back.** -/
theorem depth_run (b : Body) (steps : List Step) :
    (b.run steps).buffer.depth + b.removals steps = b.buffer.depth + indents steps := by
  induction steps generalizing b with
  | nil => rfl
  | cons s rest ih =>
    have hstep := b.depth_perform s
    have hrest := ih (b.perform s)
    have hindents : indents (s :: rest) = indents rest + if s.isIndent then 1 else 0 := List.countP_cons
    show ((b.perform s).run rest).buffer.depth +
      ((b.perform s).removals rest + if b.takesBack s then 1 else 0) = _
    rw [hindents]
    omega

/-! ### Text -/

/-- What a step writes at the given depth. -/
def Step.written (l : Layout) (depth : Nat) : Step → String
  | .line s => l.margin depth ++ s ++ l.newline
  | .blank => l.blank depth ++ l.newline
  | _ => ""

/-- A step writes at the depth that it finds. -/
theorem text_perform (b : Body) (s : Step) :
    (b.perform s).text = b.text ++ s.written b.buffer.layout b.buffer.depth := by
  cases s with
  | indent => exact String.append_empty.symm
  | outdent =>
    have hsame : (b.perform .outdent).text = b.text := by
      rw [perform_outdent]
      split <;> rfl
    rw [hsame]
    exact String.append_empty.symm
  | line s =>
    rw [perform, appendLine, Buffer.appendLine_eq]
    rfl
  | blank =>
    rw [perform, blankLine, Buffer.blankLine_eq]
    rfl

theorem layout_perform (b : Body) (s : Step) : (b.perform s).buffer.layout = b.buffer.layout := by
  cases s with
  | indent => rfl
  | outdent =>
    rw [perform_outdent]
    split <;> rfl
  | line s =>
    rw [perform, appendLine, Buffer.appendLine_eq]
    rfl
  | blank =>
    rw [perform, blankLine, Buffer.blankLine_eq]
    rfl

/-- **The text is what the steps write, in their order**, each at the depth that the steps before it
lead to. -/
theorem text_run (b : Body) (steps : List Step) :
    (b.run steps).text = b.text ++ Text.joined "" (List.zipWith
      (fun before s => s.written b.buffer.layout (b.run before).buffer.depth) steps.inits steps) := by
  induction steps generalizing b with
  | nil => exact String.append_empty.symm
  | cons s rest ih =>
    have hrest := ih (b.perform s)
    rw [layout_perform, text_perform] at hrest
    rw [List.inits_cons, List.zipWith_cons_cons, List.zipWith_map_left, Text.joined_empty_cons,
      ← String.append_assoc]
    exact hrest

/-! ### The lines of a body -/

/-- Whether the text is a sequence of lines within the depth of the statements. -/
def IsInside (l : Layout) (text : String) : Prop :=
  ∃ lines, text = lined lines ∧ ∀ line ∈ lines, OneLine line ∧ l.IsInside baseDepth line

theorem isInside_empty (l : Layout) : IsInside l "" :=
  ⟨[], rfl, fun _ h => absurd h List.not_mem_nil⟩

theorem isInside_line {l : Layout} {line : String} (hline : OneLine line)
    (hinside : l.IsInside baseDepth line) : IsInside l (line ++ "\n") :=
  ⟨[line], (Text.lined_singleton line).symm, fun _ hm => List.mem_singleton.mp hm ▸ ⟨hline, hinside⟩⟩

theorem IsInside.append {l : Layout} {s t : String} (hs : IsInside l s) (ht : IsInside l t) :
    IsInside l (s ++ t) := by
  obtain ⟨before, rfl, hbefore⟩ := hs
  obtain ⟨after, rfl, hafter⟩ := ht
  refine ⟨before ++ after, (Text.lined_append before after).symm, fun m hm => ?_⟩
  exact (List.mem_append.mp hm).elim (hbefore m) (hafter m)

/-- What is written at the depth of the statements or deeper is lines within that depth. -/
theorem isInside_written {l : Layout} (hl : l.HasLines) {depth : Nat} (hd : baseDepth ≤ depth) {s : Step}
    (hs : ∀ line, s = .line line → OneLine line) : IsInside l (s.written l depth) := by
  cases s with
  | indent => exact isInside_empty l
  | outdent => exact isInside_empty l
  | line s =>
    rw [Step.written, hl.newline]
    exact isInside_line ((hl.margin depth).append (hs s rfl)) ((l.isInside_margin depth s).mono hd)
  | blank =>
    rw [Step.written, hl.newline]
    exact isInside_line (hl.blank depth) ((l.isInside_blank depth).mono hd)

/-- What holds of a body while it is written: it is at the depth of the statements or deeper, and what
it has are lines within that depth. -/
structure HasLines (l : Layout) (b : Body) : Prop where
  layout : b.buffer.layout = l
  depth : baseDepth ≤ b.buffer.depth
  lines : IsInside l b.text

namespace HasLines

variable {l : Layout} {b : Body}

theorem start (l : Layout) : HasLines l (Body.start l) :=
  ⟨rfl, Nat.le_refl _, isInside_empty l⟩

theorem perform (hl : l.HasLines) (h : HasLines l b) {s : Step}
    (hs : ∀ line, s = .line line → OneLine line) : HasLines l (b.perform s) := by
  refine ⟨(layout_perform b s).trans h.layout, baseDepth_le_perform h.depth s, ?_⟩
  rw [text_perform, h.layout]
  exact h.lines.append (isInside_written hl h.depth hs)

theorem run (hl : l.HasLines) (h : HasLines l b) {steps : List Step}
    (hs : ∀ s, .line s ∈ steps → OneLine s) : HasLines l (b.run steps) := by
  induction steps generalizing b with
  | nil => exact h
  | cons s rest ih =>
    exact ih (h.perform hl fun line hline => hs line (hline ▸ List.mem_cons_self))
      fun t ht => hs t (List.mem_cons_of_mem s ht)

end HasLines

/-- The text of a body is a sequence of lines within the levels of the aspect and the member. -/
theorem lines_of_isWritten {l : Layout} (hl : l.HasLines) {text : String} (h : IsWritten l text) :
    ∃ lines, text = lined lines ∧ ∀ line ∈ lines, OneLine line ∧ l.IsInside baseDepth line := by
  obtain ⟨steps, hs, rfl⟩ := h
  exact ((HasLines.start l).run hl hs).lines

/-! ### Main result -/

/-- **A body that is written from the start.** After any steps the depth is that of the statements, and
one more for each step deeper that was not taken back. One more level can be taken back if there is such
a step; otherwise, and for no other reason, that is refused and the body stays as it is. The text is
what the steps write in their order: a line behind as many units of indentation as the depth was when it
was written, or a blank line with or without them, as the layout has it. -/
theorem run_exact (l : Layout) (steps : List Step) :
    let b := (start l).run steps
    let level := fun before : List Step => baseDepth + indents before - (start l).removals before
    (start l).removals steps ≤ indents steps ∧
    b.buffer.depth = level steps ∧
    (∀ fault, b.outdent = .error fault ↔
      fault = .atBaseDepth ∧ indents steps ≤ (start l).removals steps) ∧
    b.perform .outdent =
      (if indents steps ≤ (start l).removals steps then b
        else ⟨{ b.buffer with depth := level steps - 1 }⟩) ∧
    b.text = Text.joined ""
      (List.zipWith (fun before s => s.written l (level before)) steps.inits steps) := by
  intro b level
  have hlevel : ∀ before, ((start l).run before).buffer.depth = level before := by
    intro before
    have hrun : ((start l).run before).buffer.depth + (start l).removals before =
        baseDepth + indents before := (start l).depth_run before
    exact Nat.eq_sub_of_add_eq hrun
  have hfloor : baseDepth ≤ b.buffer.depth := baseDepth_le_run (Nat.le_refl _) steps
  have hrun : b.buffer.depth + (start l).removals steps = baseDepth + indents steps :=
    (start l).depth_run steps
  have hrefused : b.buffer.depth ≤ baseDepth ↔ indents steps ≤ (start l).removals steps := by omega
  refine ⟨by omega, hlevel steps, fun fault => ?_, ?_, ?_⟩
  · rw [outdent_eq, ← hrefused]
    by_cases hd : b.buffer.depth ≤ baseDepth
    · rw [if_pos hd]
      exact ⟨fun h => ⟨(Except.error.inj h).symm, hd⟩, fun h => by rw [h.1]⟩
    · rw [if_neg hd]
      exact ⟨fun h => (by cases h), fun h => absurd h.2 hd⟩
  · rw [perform_outdent, ← hlevel steps]
    simp only [hrefused]
    rfl
  · have htext := (start l).text_run steps
    simp only [hlevel] at htext
    rw [htext]
    exact String.empty_append

/-- Of two levels only one was gone deeper, so the second is not taken back. -/
example : ((start {}).run [.line "if (a) \x7b", .indent, .line "b();", .outdent, .line "\x7d", .outdent,
    .blank]).text = "        if (a) \x7b\n            b();\n        \x7d\n        \n" := by decide

end Body
end Intertype
