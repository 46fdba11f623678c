/-
# The class around a type

What the grammar of Java says of the methods that a tree has right below its classes, for those who rely on
a parser: the return type of a method is a type, is cut out of the source between two characters, and
stands behind the brace that opens the class and before the name of the method, which a parenthesis comes
after (`Tree.IsGrammatical`).

In the source that a type is read from there is one brace before the text of the type and one parenthesis
behind it. So a return type that is found in its tree is cut out of that text, whatever else the text
declares (`TypeRef.exists_text_of_findType?`).

Key definitions: `Node.methods`, `Node.IsMethod`, `Tree.IsGrammatical`.
Key theorem: `TypeRef.exists_text_of_findType?`.
-/
import Intertype.Proofs.Java.TypeNodes
import Intertype.Proofs.Text.Utf8

namespace Intertype
namespace Java

namespace Node

/-- The text of the source before a node. -/
def before (source : List UInt8) (n : Node) : List Char :=
  Text.Utf8.decodeReplacing (source.take n.start)

/-- The text of the source behind a node. -/
def after (source : List UInt8) (n : Node) : List Char :=
  Text.Utf8.decodeReplacing (source.drop n.stop)

/-- Whether the text of the source is that before a node, its own and that behind it. -/
def IsCut (source : List UInt8) (n : Node) : Prop :=
  n.before source ++ (n.chars source ++ n.after source) = Text.Utf8.decodeReplacing source

instance (source : List UInt8) (n : Node) : Decidable (n.IsCut source) :=
  inferInstanceAs (Decidable (_ = _))

/-- The methods right below the classes that are right below the node. -/
def methods (root : Node) : List Node :=
  (root.children.filter fun c => c.type = "class_declaration").flatMap fun holder =>
    (holder.inField? "body").toList.flatMap fun body =>
      body.namedChildren.filter fun member => member.type = "method_declaration"

/-- Whether a method is as the grammar has it in a class, as far as it goes up to its parameters. -/
structure IsMethod (source : List UInt8) (method : Node) : Prop where
  /-- The return type is a type. -/
  type : ∀ n ∈ method.inField? "type",
    n.type ∈ unannotatedForms ∧ n.IsDerived source ∧ n.IsCut source
  /-- It is in the body of a class. -/
  brace : ∀ n ∈ method.inField? "type", '\x7b' ∈ n.before source
  /-- The name of the method stands behind it. -/
  name : ∀ n ∈ method.inField? "type", ∀ name ∈ method.inField? "name",
    name.IsCut source ∧ n.before source ++ n.chars source <+: name.before source
  /-- The parameters stand behind the name. -/
  parameters : ∀ name ∈ method.inField? "name", '(' ∈ name.after source

instance (source : List UInt8) (method : Node) : Decidable (method.IsMethod source) :=
  decidable_of_iff
    ((∀ n ∈ method.inField? "type",
        n.type ∈ unannotatedForms ∧ n.IsDerived source ∧ n.IsCut source) ∧
      (∀ n ∈ method.inField? "type", '\x7b' ∈ n.before source) ∧
      (∀ n ∈ method.inField? "type", ∀ name ∈ method.inField? "name",
        name.IsCut source ∧ n.before source ++ n.chars source <+: name.before source) ∧
      (∀ name ∈ method.inField? "name", '(' ∈ name.after source))
    ⟨fun ⟨h1, h2, h3, h4⟩ => ⟨h1, h2, h3, h4⟩, fun ⟨h1, h2, h3, h4⟩ => ⟨h1, h2, h3, h4⟩⟩

end Node

/-- Whether the methods of a tree are as the grammar has them. -/
def Tree.IsGrammatical (source : List UInt8) (tree : Tree) : Prop :=
  ∀ method ∈ tree.root.methods, method.IsMethod source

instance (source : List UInt8) (tree : Tree) : Decidable (tree.IsGrammatical source) :=
  inferInstanceAs (Decidable (∀ method ∈ tree.root.methods, method.IsMethod source))

namespace Node

/-- What a node is in the list of those right below another. -/
def label (n : Node) : String × Option String × Bool :=
  (n.type, n.field, n.isNamed)

/-- Whether no identifier in a type is called like a primitive type. -/
def AvoidsPrimitives (source : List UInt8) (n : Node) : Prop :=
  ∀ u ∈ n.nodes, u.type = "type_identifier" → u.text source ∉ TypeRef.primitiveNames

instance (source : List UInt8) (n : Node) : Decidable (n.AvoidsPrimitives source) :=
  inferInstanceAs (Decidable
    (∀ u ∈ n.nodes, u.type = "type_identifier" → u.text source ∉ TypeRef.primitiveNames))

/-- Whether a method is that of a type with this text and of the name that types are read with, and nothing
more. -/
structure IsProbe (source : List UInt8) (cs : List Char) (method : Node) : Prop where
  labels : ∃ form ∈ unannotatedForms, method.children.map label =
    [(form, some "type", true), ("identifier", some "name", true),
      ("formal_parameters", some "parameters", true), (";", none, false)]
  type : ∀ n ∈ method.inField? "type", n.IsDerived source ∧ n.AvoidsPrimitives source ∧
    n.chars source = cs
  name : ∀ name ∈ method.inField? "name", name.text source = TypeRef.probeName

instance (source : List UInt8) (cs : List Char) (method : Node) :
    Decidable (method.IsProbe source cs) :=
  decidable_of_iff
    ((∃ form ∈ unannotatedForms, method.children.map label =
        [(form, some "type", true), ("identifier", some "name", true),
          ("formal_parameters", some "parameters", true), (";", none, false)]) ∧
      (∀ n ∈ method.inField? "type", n.IsDerived source ∧ n.AvoidsPrimitives source ∧
        n.chars source = cs) ∧
      (∀ name ∈ method.inField? "name", name.text source = TypeRef.probeName))
    ⟨fun ⟨h1, h2, h3⟩ => ⟨h1, h2, h3⟩, fun ⟨h1, h2, h3⟩ => ⟨h1, h2, h3⟩⟩

/-- Whether a class has nothing in it but such a method. -/
structure IsHolder (source : List UInt8) (cs : List Char) (holder : Node) : Prop where
  labels : holder.children.map label =
    [("class", none, false), ("identifier", some "name", true), ("class_body", some "body", true)]
  body : ∀ body ∈ holder.inField? "body", body.children.map label =
    [("\x7b", none, false), ("method_declaration", none, true), ("\x7d", none, false)]
  method : ∀ body ∈ holder.inField? "body", ∀ method ∈ body.namedChildren, method.IsProbe source cs

instance (source : List UInt8) (cs : List Char) (holder : Node) :
    Decidable (holder.IsHolder source cs) :=
  decidable_of_iff
    ((holder.children.map label =
        [("class", none, false), ("identifier", some "name", true), ("class_body", some "body", true)]) ∧
      (∀ body ∈ holder.inField? "body", body.children.map label =
        [("\x7b", none, false), ("method_declaration", none, true), ("\x7d", none, false)]) ∧
      (∀ body ∈ holder.inField? "body", ∀ method ∈ body.namedChildren, method.IsProbe source cs))
    ⟨fun ⟨h1, h2, h3⟩ => ⟨h1, h2, h3⟩, fun ⟨h1, h2, h3⟩ => ⟨h1, h2, h3⟩⟩

end Node

/-- Whether the tree is that of a type with this text, as the grammar has it before the name of the only
method of a class, and without an error. -/
structure Tree.HoldsType (source : List UInt8) (cs : List Char) (tree : Tree) : Prop where
  noError : tree.hasError = false
  labels : tree.root.children.map Node.label = [("class_declaration", none, true)]
  holder : ∀ holder ∈ tree.root.children, holder.IsHolder source cs

instance (source : List UInt8) (cs : List Char) (tree : Tree) : Decidable (tree.HoldsType source cs) :=
  decidable_of_iff
    (tree.hasError = false ∧ tree.root.children.map Node.label = [("class_declaration", none, true)] ∧
      ∀ holder ∈ tree.root.children, holder.IsHolder source cs)
    ⟨fun ⟨h1, h2, h3⟩ => ⟨h1, h2, h3⟩, fun ⟨h1, h2, h3⟩ => ⟨h1, h2, h3⟩⟩

end Java

namespace TypeRef

open Java (Node Tree)

variable {source : List UInt8} {n : Node}

/-- The type that is found is the return type of a method. -/
theorem exists_method_of_findType? {root : Node} (h : findType? source root = some n) :
    ∃ method ∈ root.methods, ∃ name, method.inField? "type" = some n ∧
      method.inField? "name" = some name ∧ name.text source = probeName := by
  unfold findType? at h
  split at h
  · rename_i holder hholder
    cases hbody : holder.inField? "body" with
    | none =>
      simp only [hbody] at h
      cases h
    | some body =>
      simp only [hbody] at h
      split at h
      · rename_i member hmember
        split at h
        · rename_i hmethod
          obtain ⟨name, hname, htext⟩ := Option.map_eq_some_iff.mp hmethod.2
          refine ⟨member, ?_, name, h, hname, htext⟩
          have hmem : member ∈ body.namedChildren := by
            rw [hmember]
            exact List.mem_singleton_self _
          rw [Node.methods, hholder, List.flatMap_singleton, hbody, Option.toList_some,
            List.flatMap_singleton]
          exact List.mem_filter.mpr ⟨hmem, decide_eq_true hmethod.1⟩
        · cases h
      · cases h
  · cases h

/-- Where there is such a class alone, the type is found. -/
theorem exists_of_holdsType {cs : List Char} {tree : Tree} (h : tree.HoldsType source cs) :
    ∃ n, findType? source tree.root = some n ∧ n.type ∈ Node.unannotatedForms ∧
      n.IsDerived source ∧ n.AvoidsPrimitives source ∧ n.chars source = cs := by
  obtain ⟨holder, _, hroot, hholderLabel, hnil⟩ := List.map_eq_cons_iff.mp h.labels
  obtain rfl := List.map_eq_nil_iff.mp hnil
  have hholder := h.holder holder (by rw [hroot]; exact List.mem_singleton_self _)
  obtain ⟨keyword, called, body, hchildren, hk, hc, hb⟩ := Node.exists_three hholder.labels
  simp only [Node.label, Prod.mk.injEq] at hholderLabel hk hc hb
  have hbody : holder.inField? "body" = some body := by
    simp [Node.inField?, hchildren, hk, hc, hb]
  obtain ⟨opens, method, closes, hmembers, ho, hm, hcl⟩ := Node.exists_three (hholder.body body hbody)
  simp only [Node.label, Prod.mk.injEq] at ho hm hcl
  have hnamed : body.namedChildren = [method] := by
    simp [Node.namedChildren, hmembers, ho, hm, hcl]
  have hprobe := hholder.method body hbody method (by rw [hnamed]; exact List.mem_singleton_self _)
  obtain ⟨form, hform, hlabels⟩ := hprobe.labels
  obtain ⟨n, rest, hmethod, hn, hrest⟩ := List.map_eq_cons_iff.mp hlabels
  obtain ⟨name, parameters, hname⟩ := List.map_eq_cons_iff.mp hrest
  simp only [Node.label, Prod.mk.injEq] at hn hname
  have htype : method.inField? "type" = some n := by
    simp [Node.inField?, hmethod, hn]
  have hcalled : method.inField? "name" = some name := by
    simp [Node.inField?, hmethod, hn, hname.1, hname.2.1]
  obtain ⟨hderived, havoids, htext⟩ := hprobe.type n htype
  refine ⟨n, ?_, hn.1 ▸ hform, hderived, havoids, htext⟩
  simp [findType?, hroot, hholderLabel.1, hbody, hnamed, hm.1, hcalled, hprobe.name name hcalled, htype]

theorem decode_sourceOf (text : String) : Text.Utf8.decodeReplacing (sourceOf text) =
    opening ++ (Text.trim text.toList ++ closing) := by
  rw [sourceOf, Text.Utf8.decodeReplacing_forms, List.append_assoc]

/-- What begins a text and has the mark in it takes in all up to the first place of the mark. -/
theorem prefix_of_mem {c : Char} {a b x y : List Char} (hx : c ∉ x) (ha : c ∈ a)
    (h : a ++ b = x ++ c :: y) : x ++ [c] <+: a := by
  rcases List.append_eq_append_iff.mp h with ⟨z, rfl, -⟩ | ⟨z, rfl, hz⟩
  · exact absurd (List.mem_append_left z ha) hx
  · cases z with
    | nil => exact absurd (by simpa using ha) hx
    | cons d z =>
      obtain ⟨rfl, -⟩ := List.cons.inj hz
      exact ⟨z, by simp⟩

/-- What ends a text and has the mark in it takes in all from the last place of the mark. -/
theorem suffix_of_mem {c : Char} {a b x y : List Char} (hy : c ∉ y) (hb : c ∈ b)
    (h : a ++ b = x ++ c :: y) : c :: y <:+ b := by
  have hr : b.reverse ++ a.reverse = y.reverse ++ c :: x.reverse := by
    rw [← List.reverse_append, h]
    simp
  obtain ⟨z, hz⟩ := prefix_of_mem (by simpa using hy) (by simpa using hb) hr
  exact ⟨z.reverse, by rw [← List.reverse_inj]; simpa using hz⟩

/-- A piece between the first brace and the last parenthesis, with the name of the method behind it, is in
the text of the type. -/
theorem exists_of_between {cs a b c x y : List Char} (h : a ++ (b ++ c) = opening ++ (cs ++ closing))
    (hbrace : '\x7b' ∈ a) (hname : x ++ (probeName.toList ++ y) = opening ++ (cs ++ closing))
    (hbefore : a ++ b <+: x) (hparenthesis : '(' ∈ y) :
    ∃ p q, p ++ (b ++ q) = ' ' :: (cs ++ [' ']) := by
  have hopening : opening = "class __TypeHolder ".toList ++ '\x7b' :: [' '] := by decide
  have hclosing : closing = ' ' :: (probeName.toList ++ '(' :: "); \x7d".toList) := by decide
  obtain ⟨p, rfl⟩ : "class __TypeHolder ".toList ++ ['\x7b'] <+: a := by
    refine prefix_of_mem (b := b ++ c) (y := ' ' :: (cs ++ closing)) (by decide) hbrace ?_
    rw [h, hopening]
    simp
  obtain ⟨z, rfl⟩ : '(' :: "); \x7d".toList <:+ y := by
    refine suffix_of_mem (a := x ++ probeName.toList)
      (x := opening ++ (cs ++ ' ' :: probeName.toList)) (by decide) hparenthesis ?_
    rw [List.append_assoc, hname, hclosing]
    simp
  obtain ⟨w, rfl⟩ := hbefore
  -- without the two ends and the name of the method, what is left begins with the piece
  have hrest : p ++ (b ++ w) ++ (probeName.toList ++ z) = ' ' :: (cs ++ [' ']) ++ probeName.toList := by
    rw [hopening, hclosing] at hname
    have hends : "class __TypeHolder ".toList ++ '\x7b' :: (p ++ (b ++ w) ++ (probeName.toList ++ z) ++
          '(' :: "); \x7d".toList) =
        "class __TypeHolder ".toList ++ '\x7b' :: (' ' :: (cs ++ [' ']) ++ probeName.toList ++
          '(' :: "); \x7d".toList) := by
      simpa using hname
    exact List.append_cancel_right (List.cons.inj (List.append_cancel_left hends)).2
  obtain ⟨q, hq⟩ : p ++ (b ++ w) <+: ' ' :: (cs ++ [' ']) := by
    refine List.prefix_of_prefix_length_le ⟨_, rfl⟩ ⟨_, hrest.symm⟩ ?_
    have hlength := congrArg List.length hrest
    simp only [List.length_append] at hlength ⊢
    omega
  exact ⟨p, w ++ q, by rw [← hq]; simp⟩

/-- The type that is found in the source of a text is cut out of this text. -/
theorem exists_text_of_findType? {text : String} {tree : Tree}
    (h : tree.IsGrammatical (sourceOf text)) (hfound : findType? (sourceOf text) tree.root = some n) :
    n.type ∈ Node.unannotatedForms ∧ n.IsDerived (sourceOf text) ∧
      ∃ p q, p ++ (n.dense (sourceOf text) ++ q) = Text.unspaced text.toList := by
  obtain ⟨method, hmethod, name, htype, hname, hprobe⟩ := exists_method_of_findType? hfound
  have hm := h method hmethod
  obtain ⟨hform, hderived, hcut⟩ := hm.type n htype
  obtain ⟨hnameCut, hbefore⟩ := hm.name n htype name hname
  rw [Node.IsCut, decode_sourceOf] at hcut hnameCut
  rw [← Node.toList_text, hprobe] at hnameCut
  obtain ⟨p, q, hpq⟩ := exists_of_between hcut (hm.brace n htype) hnameCut hbefore
    (hm.parameters name hname)
  refine ⟨hform, hderived, Text.unspaced p, Text.unspaced q, ?_⟩
  have hdense := congrArg Text.unspaced hpq
  rw [Text.unspaced_append, Text.unspaced_append, ← List.singleton_append, Text.unspaced_append,
    Text.unspaced_append] at hdense
  have hblank : Text.unspaced [' '] = [] := by decide
  rwa [hblank, List.nil_append, List.append_nil, Text.unspaced_trim] at hdense

end TypeRef
end Intertype
