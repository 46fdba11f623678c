/-
# Content

Whether an aspect has content is told from the introduction, not from the text, and it is by this that
an aspect is written or not. The text agrees: it is that of the same aspect with nothing but its imports
(`Introduction.bare`) exactly if there is no content.

Where there is content the text is longer, whatever the layout: some word of every part belongs to no
layout (`Introduction.exists_text_of_mem_parts`), so each block takes up room, be indentation and
newline empty; and the header does not shrink for it (`Composition.length_headerOf_le`), since in writing
the parts no import is given up.

Key definitions: `Introduction.bare`.
Key theorems: `Introduction.output_eq_bare_iff`, `Introduction.content_agrees_with_text`.
-/
import Intertype.Config.Source
import Intertype.Proofs.Composition.Blocks
import Intertype.Proofs.Composition.OwnNames
import Mathlib.Algebra.Order.BigOperators.Group.List
import Mathlib.Algebra.Order.Ring.Nat

namespace Intertype

/-! ### Lengths -/

theorem Text.length_joined_empty (ss : List String) :
    (Text.joined "" ss).length = (ss.map String.length).sum := by
  induction ss with
  | nil => rfl
  | cons s rest ih =>
    rw [Text.joined_empty_cons, String.length_append, ih, List.map_cons, List.sum_cons]

/-- Texts of which none is empty are at least as long together as there are many. -/
theorem Text.length_le_length_joined {α : Type} {xs : List α} {ss : List String}
    (h : List.Forall₂ (fun _ s => s ≠ "") xs ss) : xs.length ≤ (Text.joined "" ss).length := by
  induction h with
  | nil => exact Nat.zero_le _
  | @cons x s _ _ hs _ ih =>
    have hlength : s.length ≠ 0 := fun h0 => hs (String.length_eq_zero_iff.mp h0)
    rw [Text.joined_empty_cons, String.length_append, List.length_cons]
    omega

/-- A header with more imports is no shorter. -/
theorem Composition.length_headerOf_le (newline : String) (aspect : TypeRef) {few many : List TypeRef}
    (h : List.Subperm few many) :
    (headerOf newline aspect few).length ≤ (headerOf newline aspect many).length := by
  have hlines : (Text.joined "" (few.map (importLine newline))).length ≤
      (Text.joined "" (many.map (importLine newline))).length := by
    obtain ⟨some, hperm, hsub⟩ := h
    rw [Text.length_joined_empty, Text.length_joined_empty, List.map_map, List.map_map,
      ← (hperm.map _).sum_eq]
    exact (hsub.map _).sum_le_sum fun _ _ => Nat.zero_le _
  rw [headerOf, headerOf, String.length_append, String.length_append]
  refine Nat.add_le_add_left ?_ _
  by_cases hfew : few = []
  · rw [if_pos hfew]
    exact Nat.zero_le _
  · have hmany : many ≠ [] := fun he => hfew (List.subperm_nil.mp (he ▸ h))
    rw [if_neg hfew, if_neg hmany, String.length_append, String.length_append]
    exact Nat.add_le_add_right hlines _

/-- Chunks that do not fail write something if there is text among them. -/
theorem Emission.written_ne_empty {cs : List Chunk} {s : String} (hs : s ≠ "") (hmem : .text s ∈ cs)
    {e e' : Emission} (h : e.run cs = (none, e')) : Piece.written (e.written cs) ≠ "" := by
  obtain ⟨before, after, rfl⟩ := List.append_of_mem hmem
  obtain ⟨mid, -, hrest, hwritten⟩ := run_append_eq_none h
  obtain ⟨_, -, -, htext⟩ := run_cons_eq_none hrest
  rw [hwritten, htext, Piece.written_append, Piece.written_append, written_spelled_text]
  intro hempty
  exact hs (String.append_eq_empty_iff.mp (String.append_eq_empty_iff.mp hempty).2).1

namespace Introduction

variable {settings : Settings} {i : Introduction} {b c : Composition}

/-! ### Parts -/

/-- Every part that is written has text in it. -/
theorem exists_text_of_mem_parts (form : Annotation.Form) (target : String) {p : Part}
    (hp : p ∈ i.parts) : ∃ s, s ≠ "" ∧ Chunk.text s ∈ p.chunks form target := by
  cases p with
  | imported t => simp [parts] at hp
  | constructor k => exact ⟨" \x7b", by decide, by simp [Part.chunks, constructorEntry, bodyEnd]⟩
  | method m => exact ⟨" \x7b", by decide, by simp [Part.chunks, methodEntry, bodyEnd]⟩
  | field f => exact ⟨";", by decide, by simp [Part.chunks, fieldEntry, entryEnd]⟩
  | extended t => exact ⟨";", by decide, by simp [Part.chunks, supertypeEntry, entryEnd]⟩
  | implemented t => exact ⟨";", by decide, by simp [Part.chunks, supertypeEntry, entryEnd]⟩
  | onType a => exact ⟨";", by decide, by simp [Part.chunks, typeAnnotationEntry, entryEnd]⟩
  | onField a => exact ⟨";", by decide, by simp [Part.chunks, fieldAnnotationEntry, entryEnd]⟩
  | onMethod a => exact ⟨";", by decide, by simp [Part.chunks, methodAnnotationEntry, entryEnd]⟩

theorem hasContent_eq_false_iff : i.hasContent = false ↔ i.parts = [] := by
  simp [hasContent, parts, and_assoc]

/-- The same aspect for the same target, with the same imports asked for and nothing to declare. -/
def bare (i : Introduction) : Introduction :=
  { target := i.target, aspect := i.aspect, privileged := i.privileged, imports := i.imports }

theorem eq_bare (h : i.hasContent = false) : i = i.bare := by
  simp only [hasContent, Bool.not_eq_false', Bool.and_eq_true, List.isEmpty_iff] at h
  obtain ⟨⟨⟨⟨⟨⟨⟨he, hi⟩, ht⟩, hf⟩, hm⟩, hfields⟩, hconstructors⟩, hmethods⟩ := h
  cases i
  subst he hi ht hf hm hfields hconstructors hmethods
  rfl

/-! ### Text -/

/-- Of an aspect that is composed there is a block for each part, and none is empty. -/
theorem blocks_ne_empty (h : i.compose settings Annotation.phrase = .ok c) :
    List.Forall₂ (fun _ s => s ≠ "") i.parts (i.blocks settings) := by
  obtain ⟨closed, hclosed, -, -⟩ := compose_blocks h
  have hstep : ∀ p ∈ i.parts, ∀ {e e' : Emission}, True →
      e.run (p.chunks Annotation.phrase i.target.simpleName) = (none, e') →
      True ∧ Piece.written (e.written (p.chunks Annotation.phrase i.target.simpleName)) ≠ "" := by
    intro p hp e e' _ hrun
    obtain ⟨s, hs, hmem⟩ := exists_text_of_mem_parts Annotation.phrase i.target.simpleName hp
    exact ⟨trivial, Emission.written_ne_empty hs hmem hrun⟩
  exact (Emission.run_blocks _ (fun _ => True) (fun _ s => s ≠ "") hstep trivial hclosed).2.1

/-- The header is no shorter than that of the bare aspect: the imports it begins with are kept. -/
theorem length_header_le (hc : i.compose settings Annotation.phrase = .ok c)
    (hb : i.bare.compose settings Annotation.phrase = .ok b) : b.header.length ≤ c.header.length := by
  obtain ⟨closed, hclosed, hheader, -⟩ := compose_blocks hc
  obtain ⟨start, hstart, hbare, -⟩ := compose_blocks hb
  injection hstart with _ hstart
  have hgrows := (i.opened settings).grows_run
    (Chunk.nameOnly_all (i.partChunks Annotation.phrase).flatten)
  rw [hclosed] at hgrows
  have himports : List.Subperm start.imports.sorted closed.imports.sorted := by
    rw [← hstart]
    exact ((TypeRef.sorted_perm _).subperm.trans hgrows.registered_kept.sublist.subperm).trans
      (TypeRef.sorted_perm _).symm.subperm
  rw [hheader, hbare]
  exact Composition.length_headerOf_le settings.newline i.aspect himports

/-- **The text is that of the bare aspect exactly if there is no content.** -/
theorem output_eq_bare_iff (hc : i.compose settings Annotation.phrase = .ok c)
    (hb : i.bare.compose settings Annotation.phrase = .ok b) :
    c.output = b.output ↔ c.hasContent = false := by
  rw [compose_hasContent hc]
  constructor
  · intro h
    have hblocks := Text.length_le_length_joined (blocks_ne_empty hc)
    have hheader := length_header_le hc hb
    obtain ⟨-, -, -, hbody⟩ := compose_blocks hc
    obtain ⟨-, -, -, hbare⟩ := compose_blocks hb
    have hopening : i.bare.openingText settings.toLayout = i.openingText settings.toLayout := rfl
    have hnone : i.bare.blocks settings = [] := rfl
    have hlength := congrArg String.length h
    rw [Composition.output, Composition.output, hbody, hbare, hopening, hnone] at hlength
    simp only [String.length_append, Text.joined, String.length_empty] at hlength
    rw [hasContent_eq_false_iff, ← List.length_eq_zero_iff]
    omega
  · intro h
    rw [← eq_bare h, hc] at hb
    rw [Except.ok.inj hb]

/-! ### Main result -/

/-- **The content agrees with the text.** An introduction that is composed under some settings is so
under all, and so is the bare one. The text is that of the bare aspect exactly if the aspect is said to
have no content. And a source as configured is given out unless the text is that of the bare aspect; it
is the text then. -/
theorem content_agrees_with_text {anySettings : Settings} {d : Composition}
    (h : i.compose anySettings Annotation.phrase = .ok d) (settings : Settings) :
    ∃ c b, i.compose settings Annotation.phrase = .ok c ∧
      i.bare.compose settings Annotation.phrase = .ok b ∧
      (c.hasContent = false ↔ c.output = b.output) ∧
      ∀ (config : Config) (means : Config.Means),
        (config.readSettings means).result = .ok settings →
        ((config.source? means (some i)).result = .ok none ↔ c.output = b.output) ∧
        (c.output ≠ b.output →
          (config.source? means (some i)).result = .ok (some c.output)) := by
  have hoffences : i.offences = [] := (exists_compose_iff anySettings i).mp ⟨d, h⟩
  have hbare : i.bare.offences = [] := by
    rw [offences_eq_nil] at hoffences ⊢
    exact ⟨hoffences.1, by simp [bare, annotationsWritten]⟩
  obtain ⟨c, hc⟩ := (exists_compose_iff settings i).mpr hoffences
  obtain ⟨b, hb⟩ := (exists_compose_iff settings i.bare).mpr hbare
  have hiff := output_eq_bare_iff hc hb
  refine ⟨c, b, hc, hb, hiff.symm, fun config means hs => ?_⟩
  have hsource : (config.source? means (some i)).result =
      .ok (if c.hasContent then some c.output else none) := by
    simp [Config.source?, hs, source?, hc, Except.mapError]
  cases hcontent : c.hasContent with
  | false =>
    have heq : c.output = b.output := hiff.mpr hcontent
    rw [hsource, hcontent]
    exact ⟨iff_of_true rfl heq, fun hne => absurd heq hne⟩
  | true =>
    have hne : c.output ≠ b.output := fun he => by
      have hnone := hiff.mp he
      rw [hcontent] at hnone
      cases hnone
    rw [hsource, hcontent]
    exact ⟨iff_of_false (fun he => by cases he) hne, fun _ => rfl⟩

/-- A field is declared, and the configuration is that of the file that comes with the library. -/
theorem content_agrees_with_text_count :
    let i : Introduction :=
      { target := .declared "com.acme.Widget", aspect := .declared "com.acme.Widget_Count"
        imports := [.declared "java.util.Date"], fields := [{ name := "count", type := .int }] }
    ∃ c b, (i.compose {} Annotation.phrase).toOption = some c ∧
      (i.bare.compose {} Annotation.phrase).toOption = some b ∧ c.hasContent = true ∧
      c.output ≠ b.output ∧ (({} : Config).readSettings Config.standard).result = .ok {} ∧
      (({} : Config).source? Config.standard (some i)).result = .ok (some c.output) := by
  intro i
  have hcontent : (i.compose {} Annotation.phrase).toOption.map (·.hasContent) = some true := by
    decide +kernel
  have hread : (({} : Config).readSettings Config.standard).result = .ok {} :=
    ok_of_toOption (by decide +kernel)
  obtain ⟨d, hd, hdc⟩ := Option.map_eq_some_iff.mp hcontent
  obtain ⟨c, b, hc, hb, hiff, hconfig⟩ := content_agrees_with_text (ok_of_toOption hd) {}
  have hcd : c = d := by
    rw [ok_of_toOption hd] at hc
    exact (Except.ok.inj hc).symm
  have hne : c.output ≠ b.output := fun he => by
    have hnone := hiff.mpr he
    rw [hcd, hdc] at hnone
    cases hnone
  exact ⟨c, b, by rw [hc]; rfl, by rw [hb]; rfl, hcd ▸ hdc, hne, hread, (hconfig {} Config.standard hread).2 hne⟩

end Introduction
end Intertype
