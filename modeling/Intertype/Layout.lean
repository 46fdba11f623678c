/-
# Laying out source text

A layout says what a level of indentation and the end of a line are, and whether blank lines are
indented. A buffer is the text written so far and the depth at which the next line is indented. Text
written is never looked at again.

Key definitions: `Layout`, `Buffer`, `Buffer.append`, `Buffer.appendMargin`, `Buffer.appendLine`,
`Buffer.newLine`, `Buffer.indent`, `Buffer.dedent`, `Buffer.conclude`.
-/
import Intertype.Decimal.Digits
import Intertype.Text.Joined

namespace Intertype

/-- How source text is laid out. -/
structure Layout where
  /-- The text written once for each level of indentation. -/
  indentUnit : String := "    "
  /-- The text that ends a line. -/
  newline : String := "\n"
  /-- Whether a blank line is indented. -/
  indentBlankLines : Bool := true
  deriving DecidableEq, Repr, Inhabited

/-- The indentation at the given depth. -/
def Layout.margin (l : Layout) (depth : Nat) : String :=
  Text.repeated l.indentUnit depth

/-- Text being written. -/
structure Buffer where
  /-- How it is laid out. -/
  layout : Layout := {}
  /-- The current level of indentation. -/
  depth : Nat := 0
  /-- The text so far. -/
  text : String := ""
  deriving DecidableEq, Repr, Inhabited

namespace Buffer

/-- Why the depth cannot change as asked. -/
inductive Fault
  /-- There is no indentation to take back. -/
  | belowColumnZero
  /-- The text is to be concluded at a depth other than one. -/
  | notAtOne (depth : Nat)
  deriving DecidableEq, Repr

/-- The wording of a fault. -/
def Fault.message : Fault → String
  | .belowColumnZero => "Cannot dedent below column zero"
  | .notAtOne depth =>
    "Indent level must be 1 (not " ++ Decimal.ofNat depth ++ ") to conclude!"

/-- One level deeper. -/
def indent (b : Buffer) : Buffer :=
  { b with depth := b.depth + 1 }

/-- One level less deep. -/
def dedent (b : Buffer) : Except Fault Buffer :=
  if b.depth = 0 then .error .belowColumnZero else .ok { b with depth := b.depth - 1 }

/-- Writes text as it is, without indentation. -/
def append (b : Buffer) (s : String) : Buffer :=
  { b with text := b.text ++ s }

/-- Writes the indentation of the current depth. -/
def appendMargin (b : Buffer) : Buffer :=
  b.append (b.layout.margin b.depth)

/-- Ends the current line. -/
def endLine (b : Buffer) : Buffer :=
  b.append b.layout.newline

/-- Writes a blank line, or ends the current one with the indentation a blank line gets. -/
def blankLine (b : Buffer) : Buffer :=
  if b.layout.indentBlankLines then b.appendMargin.endLine else b.endLine

/-- Ends a line, as a blank line if it is to be indented. -/
def newLine (b : Buffer) (indented : Bool) : Buffer :=
  if indented then b.blankLine else b.endLine

/-- Writes a whole line. -/
def appendLine (b : Buffer) (s : String) : Buffer :=
  (b.appendMargin.append s).endLine

/-- Closes the outermost block, which has to be the only one open. -/
def conclude (b : Buffer) : Except Fault Buffer :=
  if b.depth = 1 then .ok ({ b with depth := 0 }.appendLine "\x7d") else .error (.notAtOne b.depth)

theorem append_layout (b : Buffer) (s : String) : (b.append s).layout = b.layout := rfl

theorem append_append (b : Buffer) (s t : String) : (b.append s).append t = b.append (s ++ t) := by
  simp [append, String.append_assoc]

/-- What a line adds to the text. -/
theorem appendLine_eq (b : Buffer) (s : String) :
    b.appendLine s = b.append (b.layout.margin b.depth ++ s ++ b.layout.newline) := by
  unfold appendLine endLine appendMargin
  rw [append_append, append_append, String.append_assoc]
  rfl

/-- What a blank line adds to the text. -/
theorem blankLine_eq (b : Buffer) :
    b.blankLine = b.append
      ((if b.layout.indentBlankLines then b.layout.margin b.depth else "") ++ b.layout.newline) := by
  unfold blankLine
  split
  · unfold endLine appendMargin
    rw [append_append]
    rfl
  · simp [endLine]

end Buffer
end Intertype
