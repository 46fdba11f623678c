/-
# The nodes of types

What the grammar of Java says of the nodes that a type is made of, for those who rely on a parser: which
words and marks there are, which nodes may stand right below a node of each form and in which order, and
that a node has no text, white space aside, but that of the nodes below it. Comments may stand anywhere,
and annotations in several places; both are left out when the others are counted (`Node.parts`).

All of this is said of a node and those right below it (`Node.IsWritten`, `Node.IsShaped`), and of a whole
type by saying it of every node in it (`Node.IsDerived`).

Key definitions: `Java.isWord`, `Node.dense`, `Node.nodes`, `Node.IsWritten`, `Node.IsShaped`,
`Node.IsDerived`.
Key theorems: `Node.inductionOn`, `Node.IsShaped.arguments_cases`.
-/
import Intertype.TypeRef.Reading
import Mathlib.Data.List.Basic

namespace Intertype
namespace Java

/-! ### Words -/

/-- The marks that stand in types, and those that annotations and comments begin with. -/
def typeMarks : List Char := ['.', ',', '<', '>', '?', '[', ']', '@', '/']

/-- Whether the character may stand in a word. -/
def isWordChar (c : Char) : Bool :=
  !Text.isBlank c && !typeMarks.contains c

/-- Whether the text is a word: it is not empty, and has neither white space nor marks in it. -/
def isWord (cs : List Char) : Bool :=
  !cs.isEmpty && cs.all isWordChar

namespace Node

/-! ### Nodes below a node -/

mutual
/-- The node and all nodes below it. -/
def nodes : Node → List Node
  | ⟨type, field, isNamed, start, stop, children⟩ =>
    ⟨type, field, isNamed, start, stop, children⟩ :: nodesOfAll children

/-- The nodes and all nodes below them. -/
def nodesOfAll : List Node → List Node
  | [] => []
  | n :: rest => n.nodes ++ nodesOfAll rest
end

theorem nodesOfAll_eq_flatMap : ∀ ns : List Node, nodesOfAll ns = ns.flatMap nodes
  | [] => rfl
  | n :: rest => by rw [nodesOfAll, nodesOfAll_eq_flatMap rest, List.flatMap_cons]

theorem nodes_eq (n : Node) : n.nodes = n :: n.children.flatMap nodes := by
  obtain ⟨type, field, isNamed, start, stop, children⟩ := n
  rw [nodes, nodesOfAll_eq_flatMap]

theorem self_mem_nodes (n : Node) : n ∈ n.nodes := by
  rw [nodes_eq]
  exact List.mem_cons_self

theorem mem_nodes_of_child {n c : Node} (hc : c ∈ n.children) : c ∈ n.nodes := by
  rw [nodes_eq]
  exact List.mem_cons_of_mem _ (List.mem_flatMap.mpr ⟨c, hc, c.self_mem_nodes⟩)

/-- What holds of every node that it holds below of, holds of every node. -/
@[elab_as_elim]
theorem inductionOn {motive : Node → Prop} (n : Node)
    (node : ∀ n : Node, (∀ c ∈ n.children, ∀ u ∈ c.nodes, motive u) → motive n) : motive n := by
  have all : ∀ u ∈ n.nodes, motive u := by
    refine @Node.rec (fun n => ∀ u ∈ n.nodes, motive u) (fun ns => ∀ c ∈ ns, ∀ u ∈ c.nodes, motive u)
      ?_ ?_ ?_ n
    · intro type field isNamed start stop children ih u hu
      rw [nodes_eq, List.mem_cons, List.mem_flatMap] at hu
      rcases hu with rfl | ⟨c, hc, hu⟩
      · exact node _ ih
      · exact ih c hc u hu
    · exact fun c hc => absurd hc List.not_mem_nil
    · intro c rest hc hrest d hd
      rcases List.mem_cons.mp hd with rfl | hd
      · exact hc
      · exact hrest d hd
  exact all n n.self_mem_nodes

theorem nodes_trans {n c u : Node} (hc : c ∈ n.nodes) (hu : u ∈ c.nodes) : u ∈ n.nodes := by
  induction n using inductionOn with
  | node n ih =>
    rw [nodes_eq, List.mem_cons, List.mem_flatMap] at hc
    rcases hc with rfl | ⟨d, hd, hc⟩
    · exact hu
    · rw [nodes_eq]
      exact List.mem_cons_of_mem _ (List.mem_flatMap.mpr ⟨d, hd, ih d hd d d.self_mem_nodes hc⟩)

/-! ### Forms of nodes -/

/-- Comments. -/
def commentForms : List String := ["line_comment", "block_comment"]

/-- Annotations. -/
def annotationForms : List String := ["annotation", "marker_annotation"]

/-- The names of types, which perhaps have dots. -/
def nameForms : List String := ["type_identifier", "scoped_type_identifier"]

/-- Types without annotations before them. -/
def unannotatedForms : List String :=
  TypeRef.primitiveForms ++ nameForms ++ ["generic_type", "array_type"]

/-- Types. -/
def typeForms : List String := "annotated_type" :: unannotatedForms

/-- Type arguments. -/
def argumentForms : List String := "wildcard" :: typeForms

/-- The words and marks of their own in types. -/
def markForms : List String := [".", ",", "<", ">", "?", "[", "]", "extends"]

/-- The forms with other nodes below them, in types. -/
def compoundForms : List String :=
  ["scoped_type_identifier", "generic_type", "type_arguments", "array_type", "dimensions", "wildcard"]

/-- What may stand between the other nodes and counts for nothing. -/
def triviaForms : List String := commentForms ++ annotationForms

/-- The nodes right below it that are neither comments nor annotations. -/
def parts (n : Node) : List Node :=
  n.children.filter fun c => c.type ∉ triviaForms

/-- The text of a node without its white space. -/
def dense (source : List UInt8) (n : Node) : List Char :=
  Text.unspaced (n.chars source)

theorem dense_eq_text (source : List UInt8) (n : Node) :
    n.dense source = Text.unspaced (n.text source).toList := by
  rw [dense, toList_text]

/-- Whether the text of a node is as the grammar has it. -/
structure IsWritten (source : List UInt8) (n : Node) : Prop where
  /-- Words and marks of their own are written as they are called. -/
  mark : n.type ∈ "super" :: markForms → n.text source = n.type
  primitive : n.type ∈ TypeRef.primitiveForms → n.text source ∈ TypeRef.primitiveNames
  identifier : n.type = "type_identifier" → isWord (n.chars source) = true
  comment : n.type ∈ commentForms → (n.chars source).head? = some '/'
  annotation : n.type ∈ "annotated_type" :: annotationForms →
    (n.chars source).head? = some '@'
  /-- Between the nodes below it there is nothing but white space. -/
  compound : n.type ∈ compoundForms → n.dense source = n.children.flatMap (dense source)

instance (source : List UInt8) (n : Node) : Decidable (n.IsWritten source) :=
  decidable_of_iff
    ((n.type ∈ "super" :: markForms → n.text source = n.type) ∧
      (n.type ∈ TypeRef.primitiveForms → n.text source ∈ TypeRef.primitiveNames) ∧
      (n.type = "type_identifier" → isWord (n.chars source) = true) ∧
      (n.type ∈ commentForms → (n.chars source).head? = some '/') ∧
      (n.type ∈ "annotated_type" :: annotationForms → (n.chars source).head? = some '@') ∧
      (n.type ∈ compoundForms → n.dense source = n.children.flatMap (dense source)))
    ⟨fun ⟨h1, h2, h3, h4, h5, h6⟩ => ⟨h1, h2, h3, h4, h5, h6⟩,
      fun ⟨h1, h2, h3, h4, h5, h6⟩ => ⟨h1, h2, h3, h4, h5, h6⟩⟩

/-- Whether a node is by a rule with a name, fills a field and has nodes right below it as the grammar
has it. -/
structure IsShaped (n : Node) : Prop where
  leaf : n.type ∈ "super" :: "type_identifier" :: markForms → n.children = []
  unnamed : n.type ∈ markForms → n.isNamed = false
  named : n.type ∈ "super" :: "type_arguments" :: (argumentForms ++ triviaForms) → n.isNamed = true
  trivia : n.type ∈ triviaForms → n.field ∉ [some "element", some "dimensions"]
  dotted : n.type = "scoped_type_identifier" → ∃ outer ∈ "generic_type" :: nameForms,
    n.parts.map Node.type = [outer, ".", "type_identifier"]
  generic : n.type = "generic_type" → ∃ name ∈ nameForms,
    n.parts.map Node.type = [name, "type_arguments"]
  /-- Arguments stand between angle brackets, with commas between each two. -/
  arguments : n.type = "type_arguments" →
    n.parts.map Node.type =
      "<" :: (((n.parts.map Node.type).filter (· ∈ argumentForms)).intersperse "," ++ [">"])
  array : n.type = "array_type" → ∃ element ∈ unannotatedForms,
    n.parts.map (fun c => (c.type, c.field)) =
      [(element, some "element"), ("dimensions", some "dimensions")]
  /-- Dimensions are pairs of brackets. -/
  dimensions : n.type = "dimensions" →
    n.parts.map Node.type = (List.replicate (n.parts.length / 2) ["[", "]"]).flatten
  wildcard : n.type = "wildcard" → n.parts.map Node.type = ["?"] ∨
    ∃ word ∈ ["extends", "super"], ∃ bound ∈ typeForms, n.parts.map Node.type = ["?", word, bound]

instance (n : Node) : Decidable n.IsShaped :=
  decidable_of_iff
    ((n.type ∈ "super" :: "type_identifier" :: markForms → n.children = []) ∧
      (n.type ∈ markForms → n.isNamed = false) ∧
      (n.type ∈ "super" :: "type_arguments" :: (argumentForms ++ triviaForms) → n.isNamed = true) ∧
      (n.type ∈ triviaForms → n.field ∉ [some "element", some "dimensions"]) ∧
      (n.type = "scoped_type_identifier" → ∃ outer ∈ "generic_type" :: nameForms,
        n.parts.map Node.type = [outer, ".", "type_identifier"]) ∧
      (n.type = "generic_type" → ∃ name ∈ nameForms,
        n.parts.map Node.type = [name, "type_arguments"]) ∧
      (n.type = "type_arguments" → n.parts.map Node.type =
        "<" :: (((n.parts.map Node.type).filter (· ∈ argumentForms)).intersperse "," ++ [">"])) ∧
      (n.type = "array_type" → ∃ element ∈ unannotatedForms,
        n.parts.map (fun c => (c.type, c.field)) =
          [(element, some "element"), ("dimensions", some "dimensions")]) ∧
      (n.type = "dimensions" → n.parts.map Node.type =
        (List.replicate (n.parts.length / 2) ["[", "]"]).flatten) ∧
      (n.type = "wildcard" → n.parts.map Node.type = ["?"] ∨
        ∃ word ∈ ["extends", "super"], ∃ bound ∈ typeForms,
          n.parts.map Node.type = ["?", word, bound]))
    ⟨fun ⟨h1, h2, h3, h4, h5, h6, h7, h8, h9, h10⟩ => ⟨h1, h2, h3, h4, h5, h6, h7, h8, h9, h10⟩,
      fun ⟨h1, h2, h3, h4, h5, h6, h7, h8, h9, h10⟩ => ⟨h1, h2, h3, h4, h5, h6, h7, h8, h9, h10⟩⟩

/-- Whether a node and all below it are as the grammar has them. -/
def IsDerived (source : List UInt8) (n : Node) : Prop :=
  ∀ u ∈ n.nodes, u.IsWritten source ∧ u.IsShaped

instance (source : List UInt8) (n : Node) : Decidable (n.IsDerived source) :=
  inferInstanceAs (Decidable (∀ u ∈ n.nodes, u.IsWritten source ∧ u.IsShaped))

variable {source : List UInt8} {n c : Node}

theorem isDerived_iff : n.IsDerived source ↔
    (n.IsWritten source ∧ n.IsShaped) ∧ ∀ c ∈ n.children, c.IsDerived source := by
  unfold IsDerived
  rw [nodes_eq]
  simp only [List.mem_cons, List.mem_flatMap, forall_eq_or_imp, forall_exists_index, and_imp]
  exact and_congr_right fun _ => ⟨fun h c hc u hu => h u c hc hu, fun h u c hc hu => h c hc u hu⟩

namespace IsDerived

theorem written (h : n.IsDerived source) : n.IsWritten source :=
  (isDerived_iff.mp h).1.1

theorem shaped (h : n.IsDerived source) : n.IsShaped :=
  (isDerived_iff.mp h).1.2

theorem child (h : n.IsDerived source) (hc : c ∈ n.children) : c.IsDerived source :=
  (isDerived_iff.mp h).2 c hc

theorem node (h : n.IsDerived source) (hc : c ∈ n.nodes) : c.IsDerived source :=
  fun u hu => h u (nodes_trans hc hu)

end IsDerived

/-! ### The nodes below, one by one -/

theorem mem_parts : c ∈ n.parts ↔ c ∈ n.children ∧ c.type ∉ triviaForms := by
  rw [parts, List.mem_filter, decide_eq_true_iff]

theorem IsDerived.part (h : n.IsDerived source) (hc : c ∈ n.parts) : c.IsDerived source :=
  h.child (mem_parts.mp hc).1

/-- `IsItems ns`: further arguments with a comma before each, and the end of the arguments. -/
inductive IsItems : List Node → Prop
  | close {mark} : mark.type = ">" → IsItems [mark]
  | more {mark argument rest} : mark.type = "," → argument.type ∈ argumentForms → IsItems rest →
      IsItems (mark :: argument :: rest)

theorem exists_two {α β : Type} {f : α → β} {xs : List α} {a b : β} (h : xs.map f = [a, b]) :
    ∃ x y, xs = [x, y] ∧ f x = a ∧ f y = b := by
  obtain ⟨x, ys, rfl, hx, h⟩ := List.map_eq_cons_iff.mp h
  obtain ⟨y, zs, rfl, hy, h⟩ := List.map_eq_cons_iff.mp h
  obtain rfl := List.map_eq_nil_iff.mp h
  exact ⟨x, y, rfl, hx, hy⟩

theorem exists_three {α β : Type} {f : α → β} {xs : List α} {a b c : β} (h : xs.map f = [a, b, c]) :
    ∃ x y z, xs = [x, y, z] ∧ f x = a ∧ f y = b ∧ f z = c := by
  obtain ⟨x, ys, rfl, hx, h⟩ := List.map_eq_cons_iff.mp h
  obtain ⟨y, z, rfl, hy, hz⟩ := exists_two h
  exact ⟨x, y, z, rfl, hx, hy, hz⟩

/-- Where there are arguments, the first stands before the others. -/
theorem items_of_map {form : String} {forms : List String}
    (hforms : ∀ f ∈ form :: forms, f ∈ argumentForms) {ns : List Node}
    (h : ns.map Node.type = (form :: forms).intersperse "," ++ [">"]) :
    ∃ argument rest, ns = argument :: rest ∧ argument.type ∈ argumentForms ∧ IsItems rest := by
  induction forms generalizing form ns with
  | nil =>
    obtain ⟨n, c, rfl, hn, hc⟩ := exists_two h
    exact ⟨n, [c], rfl, hn ▸ hforms form List.mem_cons_self, .close hc⟩
  | cons next others ih =>
    obtain ⟨n, rest, rfl, hn, h⟩ := List.map_eq_cons_iff.mp h
    obtain ⟨c, rest, rfl, hc, h⟩ := List.map_eq_cons_iff.mp h
    obtain ⟨m, rest, rfl, hm, hrest⟩ := ih (fun f hf => hforms f (List.mem_cons_of_mem form hf)) h
    exact ⟨n, c :: m :: rest, rfl, hn ▸ hforms form List.mem_cons_self, .more hc hm hrest⟩

/-- Arguments are none at all, or a first one and others. -/
theorem IsShaped.arguments_cases (h : n.IsShaped) (ht : n.type = "type_arguments") :
    (∃ l g, n.parts = [l, g] ∧ l.type = "<" ∧ g.type = ">") ∨
      ∃ l argument rest, n.parts = l :: argument :: rest ∧ l.type = "<" ∧
        argument.type ∈ argumentForms ∧ IsItems rest := by
  obtain ⟨l, rest, hparts, hl, hrest⟩ := List.map_eq_cons_iff.mp (h.arguments ht)
  have hforms : ∀ form ∈ (n.parts.map Node.type).filter (· ∈ argumentForms), form ∈ argumentForms :=
    fun form hform => of_decide_eq_true (List.mem_filter.mp hform).2
  cases hf : (n.parts.map Node.type).filter (· ∈ argumentForms) with
  | nil =>
    rw [hf] at hrest
    obtain ⟨g, more, rfl, hg, hmore⟩ := List.map_eq_cons_iff.mp hrest
    obtain rfl := List.map_eq_nil_iff.mp hmore
    exact Or.inl ⟨l, g, hparts, hl, hg⟩
  | cons form forms =>
    rw [hf] at hrest hforms
    obtain ⟨argument, more, rfl, ha, hmore⟩ := items_of_map hforms hrest
    exact Or.inr ⟨l, argument, more, hparts, hl, ha, hmore⟩

end Node
end Java
end Intertype
