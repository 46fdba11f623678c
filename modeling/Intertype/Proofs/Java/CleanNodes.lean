/-
# Types without comments and annotations

The nodes of a type with neither comments nor annotations in it and in which no identifier is called like
a primitive type (`Node.IsClean`), as those are that a reference can be read back from. All nodes below
such a one are parts of it, so its text is put together from theirs.

A name has words and dots only, unless it goes on with a dot behind a type with arguments
(`Node.IsClean.name_cases`), which is refused where it is read.

Key definition: `Node.IsClean`.
Key theorems: `Node.IsClean.dense_eq`, `Node.IsClean.name_cases`.
-/
import Intertype.Proofs.Java.Methods
import Intertype.Proofs.TypeRef.ReadFrom
import Intertype.Proofs.TypeRef.Source

namespace Intertype

open Text (unspaced)

namespace Java
namespace Node

variable {source : List UInt8} {n c : Node}

/-- Whether a node is as the grammar has it, with neither comments nor annotations in it, and no identifier
called like a primitive type. -/
structure IsClean (source : List UInt8) (n : Node) : Prop where
  derived : n.IsDerived source
  marks : ∀ c ∈ n.dense source, c ≠ '/' ∧ c ≠ '@'
  avoids : n.AvoidsPrimitives source

namespace IsClean

theorem head?_ne (h : n.IsClean source) {c : Char} (hc : c = '/' ∨ c = '@') :
    (n.chars source).head? ≠ some c := by
  intro hhead
  have hblank : Text.isBlank c = false := by
    rcases hc with rfl | rfl <;> decide
  have hmem : c ∈ n.dense source :=
    List.mem_filter.mpr ⟨List.mem_of_mem_head? hhead, by rw [hblank]; rfl⟩
  rcases hc with rfl | rfl
  · exact (h.marks _ hmem).1 rfl
  · exact (h.marks _ hmem).2 rfl

theorem notMem_triviaForms (h : n.IsClean source) : n.type ∉ "annotated_type" :: triviaForms := by
  intro hn
  by_cases hc : n.type ∈ commentForms
  · exact h.head?_ne (Or.inl rfl) (h.derived.written.comment hc)
  · refine h.head?_ne (Or.inr rfl) (h.derived.written.annotation ?_)
    rcases List.mem_cons.mp hn with hn | hn
    · rw [hn]
      exact List.mem_cons_self
    · exact List.mem_cons_of_mem _ ((List.mem_append.mp hn).resolve_left hc)

theorem child (h : n.IsClean source) (hn : n.type ∈ compoundForms) (hc : c ∈ n.children) :
    c.IsClean source := by
  refine ⟨h.derived.child hc, fun d hd => h.marks d ?_, fun u hu => h.avoids u ?_⟩
  · rw [h.derived.written.compound hn]
    exact List.mem_flatMap.mpr ⟨c, hc, hd⟩
  · rw [nodes_eq]
    exact List.mem_cons_of_mem _ (List.mem_flatMap.mpr ⟨c, hc, hu⟩)

theorem children_eq (h : n.IsClean source) (hn : n.type ∈ compoundForms) : n.children = n.parts :=
  (parts_eq_children fun _ hc ht =>
    (h.child hn hc).notMem_triviaForms (List.mem_cons_of_mem _ ht)).symm

theorem part (h : n.IsClean source) (hn : n.type ∈ compoundForms) (hc : c ∈ n.parts) :
    c.IsClean source :=
  h.child hn (mem_parts.mp hc).1

theorem dense_eq (h : n.IsClean source) (hn : n.type ∈ compoundForms) :
    n.dense source = n.parts.flatMap (dense source) := by
  rw [h.derived.written.compound hn, h.children_eq hn]

end IsClean

theorem contains_eq (type : String) (n : Node) :
    n.contains type = n.children.any fun c => c.type = type || c.contains type := by
  have all : ∀ ns : List Node, anyIn type ns = ns.any fun c => c.type = type || c.contains type := by
    intro ns
    induction ns with
    | nil => rfl
    | cons c rest ih => rw [anyIn, ih, List.any_cons]
  obtain ⟨t, field, isNamed, start, stop, children⟩ := n
  rw [contains, all]

/-- The forms that no name may have below it. -/
def refusedForms : List String := ["generic_type", "annotation", "marker_annotation"]

theorem not_contains_of_leaf (h : n.IsDerived source)
    (hn : n.type ∈ "super" :: "type_identifier" :: markForms) (form : String) :
    n.contains form = false := by
  rw [contains_eq, h.shaped.leaf hn]
  rfl

/-- An identifier is a word. -/
theorem IsDerived.dense_identifier (h : n.IsDerived source) (hn : n.type = "type_identifier") :
    n.dense source = n.chars source ∧ isWord (n.dense source) = true := by
  have hword := h.written.identifier hn
  have hself : n.dense source = n.chars source :=
    unspaced_of_isNameChar (isNameChar_of_isWord hword)
  exact ⟨hself, hself ▸ hword⟩

/-- A name has words and dots only, unless it goes on with a dot behind a type with arguments. -/
theorem IsClean.name_cases (h : n.IsClean source) (hn : n.type ∈ nameForms) :
    ((∀ form ∈ refusedForms, n.contains form = false) ∧ ∀ c ∈ n.dense source, isNameChar c = true) ∨
      ∃ g ∈ n.nodes, g.type = "generic_type" ∧ g.IsClean source ∧
        ∃ more, n.dense source = g.dense source ++ '.' :: more := by
  induction n using inductionOn with
  | node n ih =>
    rcases List.mem_pair.mp hn with hn | hn
    · -- an identifier
      refine Or.inl ⟨fun form _ => not_contains_of_leaf h.derived (by rw [hn]; decide) form, ?_⟩
      exact isNameChar_of_isWord (h.derived.dense_identifier hn).2
    · -- a name with a dot
      have hcompound : n.type ∈ compoundForms := by
        rw [hn]
        decide
      obtain ⟨form, hform, htypes⟩ := h.derived.shaped.dotted hn
      obtain ⟨outer, dot, last, hparts, rfl, hdot, hlast⟩ := exists_three htypes
      have hmem : ∀ c ∈ [outer, dot, last], c ∈ n.children := fun c hc =>
        (mem_parts.mp (hparts ▸ hc)).1
      have hclean : ∀ c ∈ [outer, dot, last], c.IsClean source := fun c hc =>
        h.child hcompound (hmem c hc)
      have hdense : n.dense source = outer.dense source ++ '.' :: last.dense source := by
        rw [h.dense_eq hcompound, hparts, List.flatMap_cons, List.flatMap_cons, List.flatMap_singleton,
          (hclean dot (by simp)).derived.dense_mark hdot (by decide)]
        rfl
      have hbelow : ∀ g ∈ outer.nodes, g ∈ n.nodes := fun g hg =>
        nodes_trans (mem_nodes_of_child (hmem outer (by simp))) hg
      rcases List.mem_cons.mp hform with hgeneric | hname
      · exact Or.inr ⟨outer, hbelow outer outer.self_mem_nodes, hgeneric, hclean outer (by simp),
          last.dense source, hdense⟩
      rcases ih outer (hmem outer (by simp)) outer outer.self_mem_nodes (hclean outer (by simp)) hname
        with ⟨hnone, hchars⟩ | ⟨g, hg, hgeneric, hgclean, more, hmore⟩
      · refine Or.inl ⟨fun form hform => ?_, fun c hc => ?_⟩
        · have hne : ∀ f ∈ "." :: nameForms, ∀ g ∈ refusedForms, f ≠ g := by decide
          rw [contains_eq, h.children_eq hcompound, hparts]
          simp [hnone form hform, not_contains_of_leaf (hclean dot (by simp)).derived
              (by rw [hdot]; decide), not_contains_of_leaf (hclean last (by simp)).derived
              (by rw [hlast]; decide), hdot, hlast, hne "." (by decide) form hform,
            hne "type_identifier" (by decide) form hform,
            hne outer.type (List.mem_cons_of_mem _ hname) form hform]
        · rw [hdense, List.mem_append, List.mem_cons] at hc
          rcases hc with hc | rfl | hc
          · exact hchars c hc
          · decide
          · exact isNameChar_of_isWord ((hclean last (by simp)).derived.dense_identifier hlast).2 c hc
      · refine Or.inr ⟨g, hbelow g hg, hgeneric, hgclean, more ++ '.' :: last.dense source, ?_⟩
        rw [hdense, hmore, List.append_assoc]
        rfl

end Node
end Java
end Intertype
