/-
# The lines of an aspect

With line feeds as the ends of lines, the body of an aspect is a sequence of lines: the opening, a blank
line, the lines of each part, and the closing brace (`Introduction.body_lines`). All lines in between
stand within the indentation of the aspect, and those of a body that was written in the same layout
within that of the member. No word of the introduction may have a line feed in it; what the strings in
annotations stand for may.

The text of a part depends on how its type names are spelled, but where its lines end does not: what
chunks write is followed from the depth where they start (`Emission.Writes`).

Key definitions: `Chunk.IsInline`, `Emission.Writes`, `Introduction.IsDeclaration`,
`Introduction.IsMember`, `Introduction.Part.LaidOut`.
Key theorems: `Emission.Writes.append`, `Introduction.writes_declaration`, `Introduction.writes_member`,
`Introduction.writes_part`, `Introduction.body_lines`.
-/
import Intertype.Proofs.Body.Running
import Intertype.Proofs.Composition.Blocks
import Intertype.Proofs.Introduction.Words

namespace Intertype

open Text (OneLine lined)

/-! ### Chunks within a line -/

/-- Whether the chunk writes no line feed and leaves the depth as it is. -/
def Chunk.IsInline : Chunk → Prop
  | .phrase a => Piece.AreOneLine a.pieces
  | .supertype t => Piece.AreOneLine t.pieces
  | _ => False

/-- Whether all the chunks stand within a line. -/
def Chunk.AreInline (cs : List Chunk) : Prop :=
  ∀ c ∈ cs, c.IsInline

namespace Chunk

theorem isInline_text {s : String} (h : OneLine s) : (Chunk.text s).IsInline :=
  Piece.AreOneLine.text h

namespace AreInline

theorem nil : AreInline [] :=
  fun _ hc => absurd hc List.not_mem_nil

theorem cons {c : Chunk} {cs : List Chunk} (hc : c.IsInline) (h : AreInline cs) :
    AreInline (c :: cs) :=
  fun _ hd => (List.mem_cons.mp hd).elim (fun he => he ▸ hc) (h _)

theorem append {a b : List Chunk} (ha : AreInline a) (hb : AreInline b) : AreInline (a ++ b) :=
  fun c hc => (List.mem_append.mp hc).elim (ha c) (hb c)

end AreInline
end Chunk

namespace Emission

/-! ### What chunks write -/

/-- Chunks that are written in the layout from one depth on lead to the other and write such a text,
unless they fail. -/
structure Writes (l : Layout) (d d' : Nat) (cs : List Chunk) (P : String → Prop) : Prop where
  out : ∀ {e e' : Emission}, e.buffer.layout = l → e.buffer.depth = d → e.run cs = (none, e') →
    e'.buffer.depth = d' ∧ P (Piece.written (e.written cs))

namespace Writes

variable {l : Layout} {d d' d'' : Nat} {a b cs : List Chunk} {P Q : String → Prop}

theorem nil : Writes l d d [] (· = "") := by
  refine ⟨fun _ hd h => ?_⟩
  injection h with _ h
  exact ⟨h ▸ hd, rfl⟩

theorem mono (h : Writes l d d' cs P) (hPQ : ∀ s, P s → Q s) : Writes l d d' cs Q :=
  ⟨fun hl hd hrun => (h.out hl hd hrun).imp_right (hPQ _)⟩

/-- One text after another. -/
theorem append (ha : Writes l d d' a P) (hb : Writes l d' d'' b Q) :
    Writes l d d'' (a ++ b) fun s => ∃ x y, P x ∧ Q y ∧ s = x ++ y := by
  refine ⟨fun {e _} hl hd hrun => ?_⟩
  obtain ⟨mid, hmid, hrest, hwritten⟩ := run_append_eq_none hrun
  have hlayout : mid.buffer.layout = l := by
    have := e.run_layout a
    rwa [hmid, hl] at this
  obtain ⟨hdepth, hx⟩ := ha.out hl hd hmid
  obtain ⟨hend, hy⟩ := hb.out hlayout hdepth hrest
  refine ⟨hend, _, _, hx, hy, ?_⟩
  rw [hwritten, Piece.written_append]

/-- What a single chunk writes. -/
theorem singleton {c : Chunk} (hc : c.depthAfter d = some d')
    (h : ∀ e : Emission, e.buffer.layout = l → e.buffer.depth = d → (e.step c).1 = none →
      P (Piece.written (e.spelled c))) :
    Writes l d d' [c] P := by
  refine ⟨fun {e _} hl hd hrun => ?_⟩
  obtain ⟨mid, hstep, -, hwritten⟩ := run_cons_eq_none hrun
  have hdepths : Chunk.depthsAfter [c] e.buffer.depth = some d' := by
    rw [hd, Chunk.depthsAfter, hc]
    rfl
  refine ⟨run_depth hdepths hrun, ?_⟩
  rw [hwritten, written, List.append_nil]
  exact h e hl hd (by rw [hstep])

/-- Texts that are known word for word. -/
theorem append_eq {x y : String} (ha : Writes l d d' a (· = x)) (hb : Writes l d' d'' b (· = y)) :
    Writes l d d'' (a ++ b) (· = x ++ y) :=
  (ha.append hb).mono fun _ ⟨_, _, hx, hy, hs⟩ => by rw [hs, hx, hy]

end Writes

variable {l : Layout} {d : Nat} {cs : List Chunk}

theorem writes_text (s : String) : Writes l d d [.text s] (· = s) :=
  .singleton rfl fun e _ _ _ => e.written_spelled_text s

theorem writes_margin : Writes l d d [.margin] (· = l.margin d) :=
  .singleton rfl fun e hl hd _ => by simp [spelled, Piece.written, Piece.plain, hl, hd]

theorem writes_endLine : Writes l d d [.endLine] (· = l.newline) :=
  .singleton rfl fun e hl _ _ => by simp [spelled, Piece.written, Piece.plain, hl]

theorem writes_blankLine : Writes l d d [.blankLine] (· = l.blank d ++ l.newline) :=
  .singleton rfl fun e hl hd _ => by
    simp [spelled, Piece.written, Piece.plain, hl, hd, Layout.blank]

theorem writes_indent : Writes l d (d + 1) [.indent] (· = "") :=
  .singleton rfl fun _ _ _ _ => rfl

theorem writes_dedent : Writes l (d + 1) d [.dedent] (· = "") :=
  .singleton rfl fun _ _ _ _ => rfl

/-- A line whose text has no line feed. -/
theorem writes_line {a : Annotation.Phrase} (h : Piece.AreOneLine a.pieces) :
    Writes l d d [.line a] fun s => ∃ t, OneLine t ∧ s = l.margin d ++ t ++ l.newline := by
  refine .singleton rfl fun e hl hd hstep => ?_
  have hfault : a.fault = none := by
    cases hf : a.fault with
    | none => rfl
    | some f => simp [step, Annotation.Phrase.spell, hf] at hstep
  refine ⟨_, Imports.oneLine_spell h e.imports, ?_⟩
  rw [spelled, if_pos hfault, Piece.written, Piece.written_append, Imports.written_spelled, hl, hd]
  simp [Piece.written, Piece.plain, String.append_assoc]

theorem writes_inline (h : Chunk.AreInline cs) : Writes l d d cs OneLine := by
  induction cs with
  | nil => exact Writes.nil.mono fun s hs => hs ▸ Text.oneLine_empty
  | cons c rest ih =>
    have hc := h c List.mem_cons_self
    have hfirst : Writes l d d [c] OneLine := by
      cases c with
      | phrase a =>
        refine .singleton rfl fun e _ _ _ => ?_
        rw [spelled]
        split
        · rw [Imports.written_spelled]
          exact Imports.oneLine_spell hc _
        · exact Text.oneLine_empty
      | supertype t =>
        refine .singleton rfl fun e _ _ _ => ?_
        rw [spelled, Imports.written_spelledSupertype]
        exact Imports.oneLine_spellSupertype hc _
      | _ => exact hc.elim
    refine (hfirst.append (ih fun b hb => h b (List.mem_cons_of_mem c hb))).mono ?_
    rintro s ⟨x, y, hx, hy, rfl⟩
    exact hx.append hy

end Emission

namespace Introduction

open Emission
open Annotation (phrase_oneLine)

variable {l : Layout}

/-! ### Declarations and members -/

/-- Whether the lines declare something: the declaration with a semicolon, and a blank line. -/
def IsDeclaration (l : Layout) (lines : List String) : Prop :=
  ∃ declaration, lines = [l.margin 1 ++ declaration ++ ";", l.blank 1]

/-- Whether the lines are those of a constructor or method with that body: the signature that opens the
body, the lines of the body within the two levels of a member, the closing brace, and a blank line. -/
def IsMember (l : Layout) (body : String) (lines : List String) : Prop :=
  ∃ signature statements,
    lines = (l.margin 1 ++ signature ++ " \x7b") ::
      (statements ++ [l.margin 1 ++ "\x7d", l.blank 1]) ∧
    lined statements = body ∧ ∀ line ∈ statements, l.IsInside Body.baseDepth line

/-- Whether so many annotations, on a line each, stand before lines like those. -/
def IsAnnotated (n : Nat) (P : List String → Prop) (lines : List String) : Prop :=
  ∃ annotations rest, lines = annotations ++ rest ∧ annotations.length = n ∧ P rest

/-- Whether the lines are how the part is laid out. -/
def Part.LaidOut (l : Layout) : Part → List String → Prop
  | .field f => IsAnnotated f.annotations.length (IsDeclaration l)
  | .constructor c => IsAnnotated c.annotations.length (IsMember l c.body)
  | .method m => IsAnnotated m.annotations.length (IsMember l m.body)
  | .imported _ => (· = [])
  | _ => IsDeclaration l

/-- Whether the body of the part, if it has one, was written in the layout. -/
def Part.HasWrittenBody (l : Layout) : Part → Prop
  | .constructor c => Body.IsWritten l c.body
  | .method m => Body.IsWritten l m.body
  | _ => True

/-- Whether the lines stand within the aspect, none of them with a line feed in it. -/
def AreInside (l : Layout) (lines : List String) : Prop :=
  ∀ line ∈ lines, OneLine line ∧ l.IsInside 1 line

theorem AreInside.nil : AreInside l [] :=
  fun _ h => absurd h List.not_mem_nil

theorem AreInside.cons {line : String} {lines : List String} (hline : OneLine line)
    (hinside : l.IsInside 1 line) (h : AreInside l lines) : AreInside l (line :: lines) :=
  fun _ hm => (List.mem_cons.mp hm).elim (fun he => he ▸ ⟨hline, hinside⟩) (h _)

theorem AreInside.append {a b : List String} (ha : AreInside l a) (hb : AreInside l b) :
    AreInside l (a ++ b) :=
  fun line hm => (List.mem_append.mp hm).elim (ha line) (hb line)

/-- Whether the text is that of such lines within the aspect. -/
def IsLines (l : Layout) (P : List String → Prop) (s : String) : Prop :=
  ∃ lines, P lines ∧ AreInside l lines ∧ s = lined lines

/-- Whether the chunks write such lines into the aspect. -/
def WritesLines (l : Layout) (cs : List Chunk) (P : List String → Prop) : Prop :=
  Writes l 1 1 cs (IsLines l P)

/-- The annotations of a member stand on a line each. -/
theorem writes_annotationLines (hl : l.HasLines) {annotations : List Annotation}
    (h : ∀ w ∈ annotations.flatMap Annotation.words, OneLine w) :
    WritesLines l (annotationLines Annotation.phrase annotations)
      (·.length = annotations.length) := by
  induction annotations with
  | nil => exact Writes.nil.mono fun s hs => ⟨[], rfl, .nil, hs⟩
  | cons a rest ih =>
    rw [List.flatMap_cons] at h
    have hfirst := writes_line (l := l) (d := 1)
      (phrase_oneLine fun w hw => h w (List.mem_append_left _ hw))
    refine (hfirst.append (ih fun w hw => h w (List.mem_append_right _ hw))).mono ?_
    rintro s ⟨x, y, ⟨t, ht, rfl⟩, ⟨lines, hlength, hinside, rfl⟩, rfl⟩
    refine ⟨(l.margin 1 ++ t) :: lines, ?_, ?_, ?_⟩
    · exact congrArg (· + 1) hlength
    · exact .cons ((hl.margin 1).append ht) (l.isInside_margin 1 t) hinside
    · rw [lined, hl.newline, ← String.append_assoc]

theorem writes_declaration (hl : l.HasLines) (cs : List Chunk) (h : Chunk.AreInline cs) :
    WritesLines l (.margin :: (cs ++ entryEnd)) (IsDeclaration l) := by
  have hend : Writes l 1 1 entryEnd (· = ";" ++ (l.newline ++ (l.blank 1 ++ l.newline))) :=
    (writes_text ";").append_eq (writes_endLine.append_eq writes_blankLine)
  refine ((writes_margin.append ((writes_inline h).append hend))).mono ?_
  rintro s ⟨x, y, rfl, ⟨declaration, z, hone, rfl, rfl⟩, rfl⟩
  refine ⟨[l.margin 1 ++ declaration ++ ";", l.blank 1], ⟨declaration, rfl⟩, ?_, ?_⟩
  · refine .cons (((hl.margin 1).append hone).append (by decide)) ?_
      (.cons (hl.blank 1) (l.isInside_blank 1) .nil)
    rw [String.append_assoc]
    exact l.isInside_margin 1 _
  · simp [lined, hl.newline, String.append_assoc]

theorem writes_member (hl : l.HasLines) {cs : List Chunk} (h : Chunk.AreInline cs) {body : String}
    (hbody : Body.IsWritten l body) :
    WritesLines l (.margin :: (cs ++ bodyEnd body)) (IsMember l body) := by
  obtain ⟨statements, hstatements, hinside⟩ := Body.lines_of_isWritten hl hbody
  have hclose : Writes l 1 1 [.line (.whole [.text "\x7d"])] (· = l.margin 1 ++ "\x7d" ++ l.newline) :=
    .singleton rfl fun e hlayout hdepth _ => by
      simp [spelled, Annotation.Phrase.whole, Imports.spelled, Imports.spellPiece, Piece.written,
        Piece.plain, hlayout, hdepth, String.append_assoc]
  have hend : Writes l 1 1 (bodyEnd body) (· = " \x7b" ++ (l.newline ++ ("" ++ (body ++ ("" ++
      (l.margin 1 ++ "\x7d" ++ l.newline ++ (l.blank 1 ++ l.newline))))))) :=
    (writes_text " \x7b").append_eq (writes_endLine.append_eq (writes_indent.append_eq
      ((writes_text body).append_eq (writes_dedent.append_eq (hclose.append_eq writes_blankLine)))))
  refine (writes_margin.append ((writes_inline h).append hend)).mono ?_
  rintro s ⟨x, y, rfl, ⟨signature, z, hone, rfl, rfl⟩, rfl⟩
  refine ⟨(l.margin 1 ++ signature ++ " \x7b") :: (statements ++ [l.margin 1 ++ "\x7d", l.blank 1]),
    ⟨signature, statements, rfl, hstatements.symm, fun line hline => (hinside line hline).2⟩,
    ?_, ?_⟩
  · have hsignature : l.IsInside 1 (l.margin 1 ++ signature ++ " \x7b") := by
      rw [String.append_assoc]
      exact l.isInside_margin 1 _
    have hlines : AreInside l statements :=
      fun line hline => (hinside line hline).imp_right (·.mono (by decide))
    exact .cons (((hl.margin 1).append hone).append (by decide)) hsignature
      (hlines.append (.cons ((hl.margin 1).append (by decide)) (l.isInside_margin 1 _)
        (.cons (hl.blank 1) (l.isInside_blank 1) .nil)))
  · simp only [lined, Text.lined_append, hl.newline, hstatements, String.append_assoc,
      String.empty_append, String.append_empty]

/-- Annotations on lines of their own before a declaration or a member. -/
theorem WritesLines.annotated (hl : l.HasLines) {cs : List Chunk} {P : List String → Prop}
    (h : WritesLines l cs P) (annotations : List Annotation)
    (ha : ∀ w ∈ annotations.flatMap Annotation.words, OneLine w) :
    WritesLines l (annotationLines Annotation.phrase annotations ++ cs)
      (IsAnnotated annotations.length P) := by
  refine ((writes_annotationLines hl ha).append h).mono ?_
  rintro s ⟨x, y, ⟨before, hlength, hbefore, rfl⟩, ⟨rest, hrest, hinside, rfl⟩, rfl⟩
  exact ⟨before ++ rest, ⟨before, rest, rfl, hlength, hrest⟩, hbefore.append hinside,
    (Text.lined_append _ _).symm⟩

/-- A constructor or method, whatever stands in its signature. -/
theorem writes_callable (hl : l.HasLines) (member : String) {c : Callable}
    (hwords : ∀ w ∈ c.words, OneLine w) (hbody : Body.IsWritten l c.body) {cs : List Chunk}
    (h : Chunk.AreInline cs) :
    WritesLines l (parameterCheck member c ++ (annotationLines Annotation.phrase c.annotations ++
      .margin :: (cs ++ bodyEnd c.body))) (IsAnnotated c.annotations.length (IsMember l c.body)) := by
  have hcheck : Writes l 1 1 (parameterCheck member c) (· = "") := by
    unfold parameterCheck
    split
    · exact Writes.nil
    · exact .singleton rfl fun _ _ _ hstep => absurd hstep (Option.some_ne_none _)
  have hmember := (writes_member hl h hbody).annotated hl c.annotations
    fun w hw => hwords w (List.mem_append_right _ hw)
  refine (hcheck.append hmember).mono ?_
  rintro s ⟨x, y, rfl, hy, rfl⟩
  rwa [String.empty_append]

/-! ### Parts -/

theorem writes_supertypeEntry (hl : l.HasLines) {target : String} (ht : OneLine target)
    (kind : Inheritance) {t : TypeRef} (h : ∀ w ∈ t.words, OneLine w) :
    WritesLines l (supertypeEntry target kind.keyword t) (IsDeclaration l) := by
  have hkeyword : OneLine kind.keyword := by cases kind <;> decide
  refine writes_declaration hl [.text _, .supertype t]
    (.cons (Chunk.isInline_text ?_) (.cons (TypeRef.pieces_oneLine h) .nil))
  exact (((Text.OneLine.append (by decide) ht).append (by decide)).append hkeyword).append (by decide)

theorem writes_typeAnnotationEntry (hl : l.HasLines) {target : String} (ht : OneLine target)
    {a : Annotation} (h : ∀ w ∈ a.words, OneLine w) :
    WritesLines l (typeAnnotationEntry Annotation.phrase target a) (IsDeclaration l) := by
  refine writes_declaration hl [.text _, .phrase a.phrase]
    (.cons (Chunk.isInline_text ?_) (.cons (phrase_oneLine h) .nil))
  exact (Text.OneLine.append (by decide) ht).append (by decide)

theorem writes_fieldAnnotationEntry (hl : l.HasLines) {target : String} (ht : OneLine target)
    {a : FieldAnnotation} (h : ∀ w ∈ a.words, OneLine w) :
    WritesLines l (fieldAnnotationEntry Annotation.phrase target a) (IsDeclaration l) := by
  have hname : OneLine a.field.name := h _ List.mem_cons_self
  refine writes_declaration hl [.text _, .phrase a.annotation.phrase]
    (.cons (Chunk.isInline_text ?_)
      (.cons (phrase_oneLine fun w hw => h w (List.mem_cons_of_mem _ hw)) .nil))
  exact ((((Text.OneLine.append (by decide) ht).append (by decide)).append hname).append (by decide))

theorem writes_methodAnnotationEntry (hl : l.HasLines) {target : String} (ht : OneLine target)
    {a : MethodAnnotation} (h : ∀ w ∈ a.words, OneLine w) :
    WritesLines l (methodAnnotationEntry Annotation.phrase target a) (IsDeclaration l) := by
  obtain ⟨hname, hwords⟩ := List.forall_mem_cons.mp h
  simp only [List.forall_mem_append] at hwords
  obtain ⟨⟨hreturn, hparameters⟩, hannotation⟩ := hwords
  have htypes : Piece.AreOneLine
      (Piece.listed "," (a.method.parameterTypes.map fun p => p.type.pieces)) := by
    refine .listed (by decide) fun ps hps => ?_
    obtain ⟨p, hp, rfl⟩ := List.mem_map.mp hps
    exact TypeRef.pieces_oneLine fun w hw => hparameters w (List.mem_flatMap.mpr ⟨p, hp, hw⟩)
  refine writes_declaration hl
    [.text _, .phrase (.whole _), .text "): ", .phrase a.annotation.phrase]
    (.cons (Chunk.isInline_text ?_) (.cons htypes (.cons (Chunk.isInline_text (by decide))
      (.cons (phrase_oneLine hannotation) .nil))))
  have hmodifiers := oneLine_modifiersBefore a.method.modifiers
  have htype : OneLine a.method.returnType.text := (TypeRef.pieces_oneLine hreturn).inFull
  exact (((((((Text.OneLine.append (by decide) hmodifiers).append htype).append (by decide)).append
    ht).append (by decide)).append hname).append (by decide))

theorem writes_fieldEntry (hl : l.HasLines) {target : String} (ht : OneLine target) {f : Field}
    (h : ∀ w ∈ f.words, OneLine w) :
    WritesLines l (fieldEntry Annotation.phrase target f)
      (IsAnnotated f.annotations.length (IsDeclaration l)) := by
  obtain ⟨hname, hwords⟩ := List.forall_mem_cons.mp h
  simp only [List.forall_mem_append] at hwords
  obtain ⟨⟨htype, hannotations⟩, hinitializer⟩ := hwords
  have hmember : OneLine (" " ++ target ++ "." ++ f.name) :=
    ((Text.OneLine.append (by decide) ht).append (by decide)).append hname
  rw [fieldEntry, List.append_assoc]
  refine WritesLines.annotated hl (writes_declaration hl
    [.text (modifiersBefore f.modifiers), .type f.type, .text _, .text _]
    (.cons (Chunk.isInline_text (oneLine_modifiersBefore _)) (.cons (TypeRef.pieces_oneLine htype)
      (.cons (Chunk.isInline_text hmember) (.cons (Chunk.isInline_text ?_) .nil)))))
    f.annotations hannotations
  cases hf : f.initializer with
  | none => exact Text.oneLine_empty
  | some value => exact Text.OneLine.append (by decide) (hinitializer value (hf ▸ List.mem_cons_self))

theorem writes_constructorEntry (hl : l.HasLines) {target : String} (ht : OneLine target)
    {c : Callable} (h : ∀ w ∈ c.words, OneLine w) (hbody : Body.IsWritten l c.body) :
    WritesLines l (constructorEntry Annotation.phrase target c)
      (IsAnnotated c.annotations.length (IsMember l c.body)) := by
  have hname : OneLine (modifiersBefore c.modifiers ++ target ++ ".new") :=
    ((oneLine_modifiersBefore _).append ht).append (by decide)
  simp only [constructorEntry, List.append_assoc]
  exact writes_callable hl (target ++ ".new") h hbody
    (.cons (Chunk.isInline_text hname) (.cons (parametersPhrase_oneLine h) .nil))

theorem throwsClause_inline {types : List TypeRef}
    (h : ∀ w ∈ types.flatMap TypeRef.words, OneLine w) : Chunk.AreInline (throwsClause types) := by
  have hlist : Piece.AreOneLine (Piece.listed ", " (types.map TypeRef.pieces)) := by
    refine .listed (by decide) fun ps hps => ?_
    obtain ⟨t, ht, rfl⟩ := List.mem_map.mp hps
    exact TypeRef.pieces_oneLine fun w hw => h w (List.mem_flatMap.mpr ⟨t, ht, hw⟩)
  unfold throwsClause
  split
  · exact .nil
  · exact .cons (Chunk.isInline_text (by decide)) (.cons hlist .nil)

theorem writes_methodEntry (hl : l.HasLines) {target : String} (ht : OneLine target) {m : Method}
    (h : ∀ w ∈ m.words, OneLine w) (hbody : Body.IsWritten l m.body) :
    WritesLines l (methodEntry Annotation.phrase target m)
      (IsAnnotated m.annotations.length (IsMember l m.body)) := by
  obtain ⟨hname, hwords⟩ := List.forall_mem_cons.mp h
  simp only [List.forall_mem_append] at hwords
  obtain ⟨⟨hcallable, hreturn⟩, hthrows⟩ := hwords
  have hmember : OneLine (" " ++ target ++ "." ++ m.name) :=
    ((Text.OneLine.append (by decide) ht).append (by decide)).append hname
  have hsignature : Chunk.AreInline ([.text (modifiersBefore m.modifiers),
      .phrase (.whole (m.returnType.returnPieces (Modifier.isStatic m.modifiers))),
      .text (" " ++ target ++ "." ++ m.name),
      .phrase (parametersPhrase Annotation.phrase m.toCallable)] ++ throwsClause m.throws) :=
    .append (.cons (Chunk.isInline_text (oneLine_modifiersBefore _))
      (.cons (TypeRef.returnPieces_oneLine hreturn _) (.cons (Chunk.isInline_text hmember)
        (.cons (parametersPhrase_oneLine hcallable) .nil)))) (throwsClause_inline hthrows)
  have := writes_callable hl (target ++ "." ++ m.name) hcallable hbody hsignature
  simp only [methodEntry, List.append_assoc]
  exact this

/-- Every part is laid out in lines of its own, all of them within the aspect. -/
theorem writes_part (hl : l.HasLines) {target : String} (ht : OneLine target) {p : Part}
    (h : ∀ w ∈ p.words, OneLine w) (hbody : p.HasWrittenBody l) :
    WritesLines l (p.chunks Annotation.phrase target) (p.LaidOut l) := by
  cases p with
  | field f => exact writes_fieldEntry hl ht h
  | constructor c => exact writes_constructorEntry hl ht h hbody
  | method m => exact writes_methodEntry hl ht h hbody
  | extended t => exact writes_supertypeEntry hl ht .extension h
  | implemented t => exact writes_supertypeEntry hl ht .implementation h
  | onType a => exact writes_typeAnnotationEntry hl ht h
  | onField a => exact writes_fieldAnnotationEntry hl ht h
  | onMethod a => exact writes_methodAnnotationEntry hl ht h
  | imported t => exact Writes.nil.mono fun s hs => ⟨[], rfl, .nil, hs⟩

/-! ### The whole aspect -/

theorem mem_parts_constructor {i : Introduction} {c : Callable} :
    .constructor c ∈ i.parts ↔ c ∈ i.constructors := by
  simp [parts]

theorem mem_parts_method {i : Introduction} {m : Method} : .method m ∈ i.parts ↔ m ∈ i.methods := by
  simp [parts]

/-- The first line of an aspect. -/
def openingLine (i : Introduction) : String :=
  (if i.privileged then "privileged " else "") ++ "aspect " ++ i.aspect.simpleName ++ " \x7b"

theorem openingText_lined (hl : l.HasLines) (i : Introduction) :
    openingText l i = lined [i.openingLine, l.blank 1] := by
  simp only [openingText, openingLine, lined, Layout.blank, hl.newline, String.append_assoc,
    String.append_empty]

theorem oneLine_openingLine {i : Introduction} (h : OneLine i.aspect.name) : OneLine i.openingLine := by
  have hprivileged : OneLine (if i.privileged then "privileged " else "") := by
    split <;> decide
  exact ((hprivileged.append (by decide)).append (TypeRef.oneLine_simpleName h)).append (by decide)

/-- Texts of which each is laid out in lines are laid out in lines all together. -/
theorem exists_groups {ps : List Part} {blocks : List String}
    (h : List.Forall₂ (fun p s => IsLines l (Part.LaidOut l p) s) ps blocks) :
    ∃ groups, List.Forall₂ (Part.LaidOut l) ps groups ∧ AreInside l groups.flatten ∧
      Text.joined "" blocks = lined groups.flatten := by
  induction h with
  | nil => exact ⟨[], .nil, .nil, rfl⟩
  | cons hfirst _ ih =>
    obtain ⟨lines, hlaid, hinside, rfl⟩ := hfirst
    obtain ⟨groups, hgroups, hrest, htext⟩ := ih
    refine ⟨lines :: groups, .cons hlaid hgroups, hinside.append hrest, ?_⟩
    rw [Text.joined_empty_cons, htext, List.flatten_cons, Text.lined_append]

/-- **The lines of an aspect.** Where line feeds end the lines, no word of the introduction has one,
and the bodies of its members were written in the same layout, a sequence of lines follows the header:
the opening, a blank line, the lines that lay out each part in its turn, and a closing brace. Each line
between the first and the last begins with the indentation of the aspect, or is a blank line where blank
lines are not indented; and each line of a body begins with that of a member. -/
theorem body_lines {settings : Settings} {i : Introduction} {c : Composition}
    (hl : settings.toLayout.HasLines) (hwords : ∀ w ∈ i.words, OneLine w)
    (hconstructors : ∀ k ∈ i.constructors, Body.IsWritten settings.toLayout k.body)
    (hmethods : ∀ m ∈ i.methods, Body.IsWritten settings.toLayout m.body)
    (hc : i.compose settings Annotation.phrase = .ok c) :
    ∃ groups : List (List String),
      c.output = c.header ++
        lined (i.openingLine :: (settings.blank 1 :: groups.flatten) ++ ["\x7d"]) ∧
      OneLine i.openingLine ∧
      List.Forall₂ (Part.LaidOut settings.toLayout) i.parts groups ∧
      AreInside settings.toLayout (settings.blank 1 :: groups.flatten) := by
  obtain ⟨htarget, hrest⟩ := List.forall_mem_cons.mp hwords
  obtain ⟨haspect, hparts⟩ := List.forall_mem_cons.mp hrest
  have hbodies : ∀ p ∈ i.parts, p.HasWrittenBody settings.toLayout := by
    intro p hp
    cases p with
    | constructor k => exact hconstructors k (mem_parts_constructor.mp hp)
    | method m => exact hmethods m (mem_parts_method.mp hp)
    | _ => trivial
  obtain ⟨e, hrun, -, -⟩ := compose_ok hc
  obtain ⟨-, hlayout, hdepth, -, -⟩ := run_opening (samePackage_of_run hrun) settings
  obtain ⟨closed, hclosed, -, hbody⟩ := compose_blocks hc
  let kept (e : Emission) : Prop := e.buffer.layout = settings.toLayout ∧ e.buffer.depth = 1
  have hstep : ∀ p ∈ i.parts, ∀ {e e' : Emission}, kept e →
      e.run (p.chunks Annotation.phrase i.target.simpleName) = (none, e') →
      kept e' ∧ IsLines settings.toLayout (p.LaidOut settings.toLayout)
        (Piece.written (e.written (p.chunks Annotation.phrase i.target.simpleName))) := by
    intro p hp e e' he hprun
    have hwrites := writes_part hl (TypeRef.oneLine_simpleName htarget)
      (fun w hw => hparts w (List.mem_flatMap.mpr ⟨p, hp, hw⟩)) (hbodies p hp)
    obtain ⟨hend, hlines⟩ := hwrites.out he.1 he.2 hprun
    have hkept := e.run_layout (p.chunks Annotation.phrase i.target.simpleName)
    rw [hprun] at hkept
    exact ⟨⟨hkept.trans he.1, hend⟩, hlines⟩
  obtain ⟨-, hblocks, -⟩ := Emission.run_blocks _ kept
    (fun p s => IsLines settings.toLayout (p.LaidOut settings.toLayout) s) hstep ⟨hlayout, hdepth⟩ hclosed
  obtain ⟨groups, hgroups, hinside, htext⟩ := exists_groups hblocks
  refine ⟨groups, ?_, oneLine_openingLine haspect, hgroups,
    .cons (hl.blank 1) (settings.toLayout.isInside_blank 1) hinside⟩
  rw [Composition.output, hbody, blocks, partChunks, htext, openingText_lined hl,
    ← Text.lined_append, hl.newline, ← Text.lined_singleton, ← Text.lined_append]
  simp only [List.cons_append, List.nil_append]

/-- A method with an annotation, whose string stands for two lines, and with a body that goes a level
deeper; blank lines are not indented. -/
theorem body_lines_annotated_method :
    let settings : Settings := { indentUnit := "  ", indentBlankLines := false }
    let steps : List Body.Step :=
      [.line "if (id == null) \x7b", .indent, .line "return 0;", .outdent, .line "\x7d", .blank]
    let note : Annotation := ⟨.declared "com.acme.Note", [("value", .string "one\ntwo")]⟩
    let m : Method :=
      { modifiers := 1, annotations := [note], name := "hash", returnType := .int
        body := ((Body.start settings.toLayout).run steps).text }
    let i : Introduction :=
      { target := .declared "com.acme.Widget", aspect := .declared "com.acme.Widget_Hash"
        privileged := true, methods := [m] }
    ∃ c : Composition, (i.compose settings Annotation.phrase).toOption = some c ∧
      c.body = lined ["privileged aspect Widget_Hash \x7b", "", "  @Note(\"one\\ntwo\")",
        "  public int Widget.hash() \x7b", "    if (id == null) \x7b", "      return 0;", "    \x7d", "",
        "  \x7d", "", "\x7d"] ∧
      ∃ groups, List.Forall₂ (Part.LaidOut settings.toLayout) i.parts groups ∧
        AreInside settings.toLayout ("" :: groups.flatten) ∧
        c.output = c.header ++ lined (i.openingLine :: ("" :: groups.flatten) ++ ["\x7d"]) := by
  intro settings steps note m i
  have htext : (i.compose settings Annotation.phrase).toOption.map (·.body) =
      some (lined ["privileged aspect Widget_Hash \x7b", "", "  @Note(\"one\\ntwo\")",
        "  public int Widget.hash() \x7b", "    if (id == null) \x7b", "      return 0;", "    \x7d", "",
        "  \x7d", "", "\x7d"]) := by
    decide
  obtain ⟨c, hc, hbody⟩ := Option.map_eq_some_iff.mp htext
  have hsteps : ∀ s, .line s ∈ steps → OneLine s := by
    intro s hs
    simp only [steps, List.mem_cons, Body.Step.line.injEq, reduceCtorEq, List.not_mem_nil, or_false,
      false_or] at hs
    rcases hs with rfl | rfl | rfl <;> decide
  have hmethods : ∀ k ∈ i.methods, Body.IsWritten settings.toLayout k.body :=
    fun k hk => List.mem_singleton.mp hk ▸ ⟨steps, hsteps, rfl⟩
  obtain ⟨groups, hlines, -, hgroups, hinside⟩ := body_lines
    ⟨rfl, by decide⟩ (by decide) (fun _ h => absurd h List.not_mem_nil) hmethods
    (ok_of_toOption hc)
  exact ⟨c, hc, hbody, groups, hgroups, hinside, hlines⟩

end Introduction
end Intertype
