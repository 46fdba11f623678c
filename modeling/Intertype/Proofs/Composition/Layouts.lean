/-
# The layout has no say in what is composed

A settings value has a layout and the packages that need no import. The packages decide, with the
introduction, whether there is a source, which types are imported, and what is written; the layout
decides how the levels of indentation, the ends of lines and the blank lines look, and nothing besides.
So the sources of one introduction in different layouts are the same marks laid out.

The body of the aspect is a draft laid out (`Introduction.emit_eq`), and so is the header
(`Composition.lay_headerMarks`), whose blank lines are ends of lines alone, never indented.

Key definitions: `Introduction.draft`, `Composition.headerMarks`, `Introduction.marks`.
Key theorems: `Introduction.emit_eq`, `Composition.lay_headerMarks`, `Introduction.compose_in_layouts`.
-/
import Intertype.Proofs.Composition.OwnNames
import Intertype.Proofs.Emission.Draft

namespace Intertype

namespace Composition

/-- The package declaration and the imports, a blank line after each of the two, apart from their
layout. -/
def headerMarks (aspect : TypeRef) (imports : List TypeRef) : List Mark :=
  (if aspect.isDefaultPackage then []
    else [.text ("package " ++ aspect.packageName ++ ";"), .endLine, .endLine]) ++
  (if imports = [] then []
    else imports.flatMap (fun t => [.text ("import " ++ t.name ++ ";"), .endLine]) ++ [.endLine])

/-- The header is its marks laid out. -/
theorem lay_headerMarks (l : Layout) (aspect : TypeRef) (imports : List TypeRef) :
    l.lay (headerMarks aspect imports) = headerOf l.newline aspect imports := by
  have hpackage : l.lay (if aspect.isDefaultPackage then []
      else [.text ("package " ++ aspect.packageName ++ ";"), .endLine, .endLine]) =
        if aspect.isDefaultPackage then ""
          else "package " ++ aspect.packageName ++ ";" ++ l.newline ++ l.newline := by
    split
    · rfl
    · simp only [Layout.lay, Layout.layMark, String.append_empty, String.append_assoc]
  have himport : ∀ t : TypeRef, l.lay [.text ("import " ++ t.name ++ ";"), .endLine] =
      importLine l.newline t := by
    intro t
    simp only [Layout.lay, Layout.layMark, importLine, String.append_empty]
  have himports : l.lay (if imports = [] then []
      else imports.flatMap (fun t => [.text ("import " ++ t.name ++ ";"), .endLine]) ++ [.endLine]) =
        if imports = [] then ""
          else Text.joined "" (imports.map (importLine l.newline)) ++ l.newline := by
    split
    · rfl
    · rw [Layout.lay_append, Layout.lay_flatMap, Layout.lay_singleton, Layout.layMark]
      simp only [himport]
  rw [headerMarks, Layout.lay_append, hpackage, himports, headerOf]

end Composition

namespace Introduction

/-- The body of the aspect written as a draft, where these packages need no import. -/
def draft (implicitPackages : List String) (form : Annotation.Form) (i : Introduction) :
    Option Emission.Fault × Draft :=
  Draft.run { imports := i.startImports implicitPackages } (i.chunks form)

/-- The types that the header imports, where these packages need no import. -/
def draftImports (implicitPackages : List String) (form : Annotation.Form) (i : Introduction) :
    List TypeRef :=
  (i.draft implicitPackages form).2.imports.sorted

/-- The source of the aspect apart from its layout. -/
def marks (implicitPackages : List String) (form : Annotation.Form) (i : Introduction) : List Mark :=
  Composition.headerMarks i.aspect (i.draftImports implicitPackages form) ++
    (i.draft implicitPackages form).2.marks

variable (settings : Settings) (form : Annotation.Form) (i : Introduction)

/-- Before anything is written the draft has no marks. -/
theorem begin_eq :
    i.begin settings =
      Draft.under settings.toLayout { imports := i.startImports settings.implicitPackages } := rfl

/-- The body of the aspect is the draft laid out. -/
theorem emit_eq :
    i.emit settings form = ((i.draft settings.implicitPackages form).1,
      (i.draft settings.implicitPackages form).2.under settings.toLayout) := by
  have hemit : i.emit settings form = (i.begin settings).run (i.chunks form) := rfl
  rw [hemit, begin_eq, Draft.under_run, draft]

theorem importedTypes_eq :
    i.importedTypes settings form = i.draftImports settings.implicitPackages form := by
  rw [importedTypes, finalImports, begin_eq, Draft.under_run, Draft.under_imports, draftImports, draft]

/-- What is composed, by what the draft comes to. -/
theorem compose_eq :
    i.compose settings form =
      match (i.draft settings.implicitPackages form).1 with
      | some f => .error (.emission f)
      | none => .ok
        { header := Composition.headerOf settings.newline i.aspect
            (i.draftImports settings.implicitPackages form)
          body := settings.toLayout.lay (i.draft settings.implicitPackages form).2.marks
          hasContent := i.hasContent } := by
  rw [compose, emit_eq, draftImports]
  cases (i.draft settings.implicitPackages form).1 with
  | some f => rfl
  | none => simp only [Draft.under]

/-! ### Main result -/

/-- **The layout has no say in what is composed.** With the packages that need no import given, either
there is a fault that composition ends in whatever the layout, or there are imports and marks such that
in every layout the source is composed, with these imports and these marks laid out, and with content or
without alike. -/
theorem compose_in_layouts (implicitPackages : List String) :
    (∃ fault, ∀ settings : Settings, settings.implicitPackages = implicitPackages →
      i.compose settings form = .error fault) ∨
    ∃ (imports : List TypeRef) (ms : List Mark), ∀ settings : Settings,
      settings.implicitPackages = implicitPackages →
        ∃ c, i.compose settings form = .ok c ∧ c.hasContent = i.hasContent ∧
          i.importedTypes settings form = imports ∧
          c.header = Composition.headerOf settings.newline i.aspect imports ∧
          c.output = settings.toLayout.lay ms := by
  cases hfault : (i.draft implicitPackages form).1 with
  | some f =>
    refine Or.inl ⟨.emission f, fun settings hs => ?_⟩
    rw [compose_eq, hs, hfault]
  | none =>
    refine Or.inr ⟨i.draftImports implicitPackages form, i.marks implicitPackages form,
      fun settings hs => ?_⟩
    have hcompose := compose_eq settings form i
    have himports := importedTypes_eq settings form i
    rw [hs] at hcompose himports
    rw [hfault] at hcompose
    refine ⟨_, hcompose, rfl, himports, rfl, ?_⟩
    rw [Composition.output, marks, Layout.lay_append, Composition.lay_headerMarks]

end Introduction
end Intertype
