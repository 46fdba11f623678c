/-
# Bodies of members

The body of a constructor or method is written into its aspect as it is, so its lines carry the
indentation they have there: two levels, one for the aspect and one for the member. A body can be
indented further and back, but never to less than those two levels.

Key definitions: `Body`, `Body.start`, `Body.indent`, `Body.outdent`, `Body.appendLine`,
`Body.blankLine`, `Body.text`.
-/
import Intertype.Layout

namespace Intertype

/-- A body being written. -/
structure Body where
  /-- The lines so far, and the depth of the next one. -/
  buffer : Buffer

namespace Body

/-- The depth of the statements of a member. -/
def baseDepth : Nat := 2

/-- Why the indentation of the body cannot be taken back. -/
inductive Fault
  /-- It is that of the statements. -/
  | atBaseDepth
  /-- The buffer has none to take back. -/
  | layout (fault : Buffer.Fault)
  deriving DecidableEq, Repr

/-- The wording of a fault. -/
def Fault.message : Fault → String
  | .atBaseDepth => "Cannot remove indentation below the member body level"
  | .layout fault => fault.message

/-- An empty body. -/
def start (layout : Layout) : Body :=
  ⟨{ layout, depth := baseDepth }⟩

/-- One level deeper. -/
def indent (b : Body) : Body :=
  ⟨b.buffer.indent⟩

/-- One level less deep, where that is not the first one. -/
def outdent (b : Body) : Except Fault Body :=
  if b.buffer.depth ≤ baseDepth then .error .atBaseDepth
  else
    match b.buffer.dedent with
    | .ok buffer => .ok ⟨buffer⟩
    | .error fault => .error (.layout fault)

/-- Writes a statement on a line of its own. -/
def appendLine (b : Body) (line : String) : Body :=
  ⟨b.buffer.appendLine line⟩

/-- Writes a blank line. -/
def blankLine (b : Body) : Body :=
  ⟨b.buffer.blankLine⟩

/-- The lines written. -/
def text (b : Body) : String :=
  b.buffer.text

/-- Where the body is deeper than its statements, the buffer has indentation to take back. -/
theorem outdent_eq (b : Body) : b.outdent =
    if b.buffer.depth ≤ baseDepth then .error .atBaseDepth
    else .ok ⟨{ b.buffer with depth := b.buffer.depth - 1 }⟩ := by
  unfold outdent
  split
  · rfl
  · rename_i hdeep
    have hdepth : b.buffer.depth ≠ 0 := by
      unfold baseDepth at hdeep
      omega
    rw [Buffer.dedent, if_neg hdepth]

end Body
end Intertype
