/-
# What a type is read from

The text of a reference is what is left of the text of the node that it is read from (`TypeRef.isLeftOf`):
brackets aside it is a part of it, white space in neither counted, and all of it exactly if nothing is
passed over within the node and every wildcard is shown. Comments and annotations are passed over where a
type is read part by part, and empty arguments are no arguments (`Node.IsPlain`); names are taken as a
whole, with the comments in them, so the nodes below a name do not count (`Node.outline`). A wildcard is
not shown by the text of a reference if its bound is a primitive type (`TypeRef.IsKept`).

Key definitions: `Node.outline`, `Node.IsPlain`, `TypeRef.IsKept`, `TypeRef.IsLeftOf`.
Key theorems: `TypeRef.text_array`, `TypeRef.text_generic`, `TypeRef.text_wildcardOf`,
`TypeRef.isLeftOf`.
-/
import Intertype.Proofs.Text.Leaves
import Intertype.Proofs.TypeRef.Shown
import Intertype.Proofs.TypeRef.Walk

namespace Intertype

open Java (Node)
open Text (unspaced Leaves)

namespace Java.Node

/-! ### What is passed over in a type -/

/-- The forms that are read part by part. -/
def openForms : List String :=
  ["generic_type", "type_arguments", "array_type", "dimensions", "wildcard"]

mutual
/-- The node and those below it, but for those below a node that is read as a whole. -/
def outline : Node → List Node
  | ⟨type, field, isNamed, start, stop, children⟩ =>
    ⟨type, field, isNamed, start, stop, children⟩ ::
      if type ∈ openForms then outlineOfAll children else []

/-- The nodes and those below them, but for those below a node that is read as a whole. -/
def outlineOfAll : List Node → List Node
  | [] => []
  | n :: rest => n.outline ++ outlineOfAll rest
end

theorem outlineOfAll_eq_flatMap : ∀ ns : List Node, outlineOfAll ns = ns.flatMap outline
  | [] => rfl
  | n :: rest => by rw [outlineOfAll, outlineOfAll_eq_flatMap rest, List.flatMap_cons]

theorem outline_eq (n : Node) :
    n.outline = n :: if n.type ∈ openForms then n.children.flatMap outline else [] := by
  obtain ⟨type, field, isNamed, start, stop, children⟩ := n
  rw [outline, outlineOfAll_eq_flatMap]

/-- Whether nothing is passed over where a type is read from the node: there are no comments, no
annotations and no empty arguments. -/
def IsPlain (n : Node) : Prop :=
  ∀ u ∈ n.outline, u.type ∉ triviaForms ∧ (u.type = "type_arguments" → u.namedChildren ≠ [])

instance (n : Node) : Decidable n.IsPlain :=
  inferInstanceAs (Decidable (∀ u ∈ n.outline, u.type ∉ triviaForms ∧
    (u.type = "type_arguments" → u.namedChildren ≠ [])))

variable {source : List UInt8} {n c : Node}

theorem IsPlain.notMem_triviaForms (h : n.IsPlain) : n.type ∉ triviaForms := by
  have hmem : n ∈ n.outline := by
    rw [outline_eq]
    exact List.mem_cons_self
  exact (h n hmem).1

/-- A node that is read as a whole. -/
theorem isPlain_of_whole (hopen : n.type ∉ openForms) (htrivia : n.type ∉ triviaForms) : n.IsPlain := by
  intro u hu
  rw [outline_eq, if_neg hopen, List.mem_singleton] at hu
  rw [hu]
  refine ⟨htrivia, fun ht => absurd ?_ hopen⟩
  rw [ht]
  decide

theorem isPlain_of_mark {mark : String} (hn : n.type = mark) (hmark : mark ∈ "super" :: markForms) :
    n.IsPlain := by
  have forms : ∀ form ∈ "super" :: markForms, form ∉ openForms ∧ form ∉ triviaForms := by decide
  rw [← hn] at hmark
  exact isPlain_of_whole (forms n.type hmark).1 (forms n.type hmark).2

/-- A node that is read part by part. -/
theorem isPlain_of_open (hopen : n.type ∈ openForms) : n.IsPlain ↔
    (n.type = "type_arguments" → n.namedChildren ≠ []) ∧ ∀ c ∈ n.children, c.IsPlain := by
  have forms : ∀ form ∈ openForms, form ∉ triviaForms := by decide
  unfold IsPlain
  rw [outline_eq, if_pos hopen]
  simp only [List.mem_cons, List.mem_flatMap, forall_eq_or_imp, forall_exists_index, and_imp]
  exact ⟨fun ⟨hn, h⟩ => ⟨hn.2, fun c hc u hu => h u c hc hu⟩,
    fun ⟨hn, h⟩ => ⟨⟨forms n.type hopen, hn⟩, fun u c hc hu => h c hc u hu⟩⟩

/-- A node that is read part by part, and is no list of arguments. -/
theorem isPlain_iff_parts (hopen : n.type ∈ openForms) (hn : n.type ≠ "type_arguments") :
    n.IsPlain ↔ (∀ c ∈ n.children, c.type ∉ triviaForms) ∧ ∀ c ∈ n.parts, c.IsPlain := by
  rw [isPlain_of_open hopen, and_iff_right fun ht => absurd ht hn]
  refine ⟨fun h => ⟨fun c hc => (h c hc).notMem_triviaForms, fun c hc => h c (mem_parts.mp hc).1⟩, ?_⟩
  exact fun ⟨hnone, h⟩ c hc => h c (mem_parts.mpr ⟨hc, hnone c hc⟩)

theorem parts_eq_children (h : ∀ c ∈ n.children, c.type ∉ triviaForms) : n.parts = n.children :=
  List.filter_eq_self.mpr fun c hc => decide_eq_true (h c hc)

/-- What is looked for is found if there is nothing else like it. -/
theorem find?_eq_some {p : Node → Bool} {ns : List Node} (hc : c ∈ ns) (hp : p c = true)
    (honly : ∀ d ∈ ns, p d = true → d = c) : ns.find? p = some c := by
  cases hf : ns.find? p with
  | none => exact absurd hp (List.find?_eq_none.mp hf c hc)
  | some d => rw [honly d (List.mem_of_find?_eq_some hf) (List.find?_some hf)]

/-- What fills a field is looked for among the parts. -/
theorem IsDerived.inField?_part (h : n.IsDerived source) {field : String}
    (hfield : some field ∈ [some "element", some "dimensions"]) (hc : c ∈ n.parts)
    (hf : c.field = some field) (honly : ∀ d ∈ n.parts, d.field = some field → d = c) :
    n.inField? field = some c := by
  refine find?_eq_some (mem_parts.mp hc).1 (decide_eq_true hf) fun d hd hp => ?_
  have hdf : d.field = some field := of_decide_eq_true hp
  refine honly d (mem_parts.mpr ⟨hd, fun ht => (h.child hd).shaped.trivia ht ?_⟩) hdf
  rwa [hdf]

theorem IsDerived.isNamed (h : n.IsDerived source)
    (hn : n.type ∈ "super" :: "type_arguments" :: (argumentForms ++ triviaForms)) : n.isNamed = true :=
  h.shaped.named hn

theorem IsDerived.isNamed_false (h : n.IsDerived source) (hn : n.type ∈ markForms) :
    n.isNamed = false :=
  h.shaped.unnamed hn

/-- Words and marks of their own are their text. -/
theorem IsDerived.dense_mark (h : n.IsDerived source) {mark : String} (hn : n.type = mark)
    (hmark : mark ∈ "super" :: markForms) : n.dense source = unspaced mark.toList := by
  rw [dense_eq_text, h.written.mark (hn ▸ hmark), hn]

/-- Comments and annotations have more text than brackets. -/
theorem IsDerived.unbracketed_ne_nil (h : n.IsDerived source) (hn : n.type ∈ triviaForms) :
    Text.unbracketed (n.dense source) ≠ [] := by
  have begins : ∀ {c : Char}, Text.isBlank c = false → Text.isBracket c = false →
      (n.chars source).head? = some c → Text.unbracketed (n.dense source) ≠ [] := by
    intro c hblank hbracket hhead
    refine Text.unbracketed_ne_nil ?_ hbracket
    exact List.mem_filter.mpr ⟨List.mem_of_mem_head? hhead, by rw [hblank]; rfl⟩
  rcases List.mem_append.mp hn with hn | hn
  · exact begins (by decide) (by decide) (h.written.comment hn)
  · exact begins (by decide) (by decide) (h.written.annotation (List.mem_cons_of_mem _ hn))

/-- Of the text of a node that of its parts is left. -/
theorem IsDerived.leaves_parts (h : n.IsDerived source) (hn : n.type ∈ compoundForms) :
    Leaves (n.dense source) (n.parts.flatMap (dense source)) (∀ c ∈ n.children, c.type ∉ triviaForms) := by
  rw [h.written.compound hn]
  refine (Leaves.filter fun c hc hnone => ?_).congr (forall₂_congr fun c _ => decide_eq_true_iff)
  exact (h.child hc).unbracketed_ne_nil (of_not_not (of_decide_eq_false hnone))

end Java.Node

namespace TypeRef

variable {source : List UInt8} {parameters : List String} {n : Node} {t u : TypeRef}

/-! ### The text of a reference -/

/-- Whether every wildcard in the reference is shown: no primitive type has one. -/
def IsKept (t : TypeRef) : Prop :=
  ∀ u ∈ t.nodes, u.kind = .primitive → u.wildcard = none

instance (t : TypeRef) : Decidable t.IsKept :=
  inferInstanceAs (Decidable (∀ u ∈ t.nodes, u.kind = .primitive → u.wildcard = none))

theorem isKept_iff (hw : t.wildcard = none) : t.IsKept ↔ ∀ a ∈ t.args, a.IsKept :=
  forall_nodes_iff.trans ⟨And.right, fun h => ⟨fun _ => hw, h⟩⟩

theorem isKept_wildcardOf (hw : t.wildcard = none) (upper : Bool) :
    (wildcardOf (some t) upper).IsKept ↔ t.kind ≠ .primitive ∧ t.IsKept := by
  rw [isKept_iff hw]
  refine forall_nodes_iff.trans (and_congr_left fun _ => ?_)
  exact ⟨fun h hk => (by cases h hk), fun h hk => absurd hk h⟩

theorem text_toList_of_primitive (hk : t.kind = .primitive) (hw : t.wildcard ≠ some .unbounded) :
    t.text.toList = t.name.toList ++ (brackets t.dims).toList := by
  rw [text, pieces_eq, if_neg hw, if_pos hk]
  simp [Piece.spelledInFull, Piece.inFull]

theorem namePiece_inFull (t : TypeRef) :
    t.namePiece.inFull = if t.kind = .typeVariable then t.simpleName else t.name := by
  unfold namePiece
  split <;> rfl

/-- Further dimensions are written at the end. -/
theorem text_array (hw : t.wildcard = none) (n : Nat) :
    ({ t with dims := t.dims + n } : TypeRef).text.toList = t.text.toList ++ (brackets n).toList := by
  have hne : t.wildcard ≠ some .unbounded := by simp [hw]
  have hbrackets : brackets (t.dims + n) = brackets t.dims ++ brackets n :=
    Text.repeated_add "[]" t.dims n
  by_cases hk : t.kind = .primitive
  · rw [text_toList_of_primitive hk hne]
    refine (text_toList_of_primitive (t := { t with dims := t.dims + n }) hk hne).trans ?_
    simp only [hbrackets, String.toList_append, List.append_assoc]
  · rw [text_toList_of_not_primitive hk hne]
    refine (text_toList_of_not_primitive (t := { t with dims := t.dims + n }) hk hne).trans ?_
    simp only [namePiece_inFull, hbrackets, String.toList_append, List.append_assoc]
    rfl

/-- Arguments are written after the name. -/
theorem text_generic (hw : t.wildcard = none) (hk : t.kind ≠ .primitive) (hd : t.dims = 0)
    (ha : t.args = []) (args : List TypeRef) :
    ({ t with args } : TypeRef).text.toList = t.text.toList ++ argumentChars args := by
  have hne : t.wildcard ≠ some .unbounded := by simp [hw]
  refine (text_toList_of_not_primitive (t := { t with args }) hk hne).trans ?_
  rw [text_toList_of_not_primitive hk hne]
  simp only [namePiece_inFull, hd, ha, argumentChars, brackets, Text.repeated, String.toList_empty,
    List.append_nil, List.append_assoc]
  rfl

/-- A bounded wildcard is written before all but a primitive type. -/
theorem text_wildcardOf (hw : t.wildcard = none) (upper : Bool) :
    (wildcardOf (some t) upper).text.toList = if t.kind = .primitive then t.text.toList
      else (wildcardText (wildcardOf (some t) upper).wildcard).toList ++ t.text.toList := by
  have hne : t.wildcard ≠ some .unbounded := by simp [hw]
  have hne' : (wildcardOf (some t) upper).wildcard ≠ some .unbounded := by cases upper <;> simp [wildcardOf]
  split
  · rename_i hk
    rw [text_toList_of_primitive hk hne]
    exact text_toList_of_primitive hk hne'
  · rename_i hk
    rw [text_toList_of_not_primitive hk hne, hw]
    refine (text_toList_of_not_primitive (t := wildcardOf (some t) upper) hk hne').trans ?_
    simp only [namePiece_inFull]
    rfl

theorem declared_text (name : String) : (declared name).text = name := by
  rw [text_eq rfl (by simp [declared])]
  simp [declared, wildcardText, brackets, Text.repeated]

theorem typeVariable_text {name : String} (h : '.' ∉ name.toList) :
    (⟨name, [], 0, .typeVariable, none, some ""⟩ : TypeRef).text = name := by
  have hsimple : simpleName ⟨name, [], 0, .typeVariable, none, some ""⟩ = name := simpleName_of_segment h
  rw [text_eq_of_not_primitive (by simp) (by simp), namePiece_inFull, if_pos rfl, hsimple]
  simp [wildcardText, brackets, Text.repeated]

/-! ### What is left of a node -/

/-- Whether the text of the reference is what is left of the text of the node, which is no wildcard unless
the reference is one, and no name unless the reference is a bare one. -/
structure IsLeftOf (source : List UInt8) (n : Node) (t : TypeRef) : Prop where
  leaves : Leaves (n.dense source) (unspaced t.text.toList) (n.IsPlain ∧ t.IsKept)
  wildcard : n.type ≠ "wildcard" → t.wildcard = none
  bare : n.type ∈ Node.nameForms → t.kind ≠ .primitive ∧ t.dims = 0 ∧ t.args = []

variable (source parameters) in
/-- Whether what is read from the node, if it is, is left of it. -/
def LeavesText (n : Node) : Prop :=
  ∀ t, ofNode source parameters n = .ok t → t.IsLeftOf source n

theorem mapError_eq_ok {α ε δ : Type} {f : ε → δ} {x : Except ε α} {a : α} :
    x.mapError f = .ok a ↔ x = .ok a := by
  cases x with
  | error e => exact iff_of_false nofun nofun
  | ok b => exact ⟨fun h => congrArg _ (Except.ok.inj h), fun h => congrArg _ (Except.ok.inj h)⟩

theorem map_eq_ok {α β ε : Type} {f : α → β} {x : Except ε α} {b : β} :
    x.map f = .ok b ↔ ∃ a, x = .ok a ∧ b = f a := by
  cases x with
  | error e => exact iff_of_false nofun fun ⟨_, h, _⟩ => nomatch h
  | ok a =>
    refine ⟨fun h => ⟨a, rfl, (Except.ok.inj h).symm⟩, ?_⟩
    rintro ⟨b, hb, rfl⟩
    rw [← Except.ok.inj hb]
    rfl

/-- A reference without arguments that is called as it is written. -/
theorem isLeftOf_of_text (hopen : n.type ∉ Node.openForms) (htrivia : n.type ∉ Node.triviaForms)
    (htext : unspaced t.text.toList = n.dense source) (hw : t.wildcard = none) (ha : t.args = [])
    (hbare : n.type ∈ Node.nameForms → t.kind ≠ .primitive ∧ t.dims = 0) : t.IsLeftOf source n := by
  refine ⟨?_, fun _ => hw, fun hn => ⟨(hbare hn).1, (hbare hn).2, ha⟩⟩
  have hkept : t.IsKept := (isKept_iff hw).mpr (by rw [ha]; exact fun a hm => absurd hm List.not_mem_nil)
  rw [htext]
  exact (Leaves.all _).congr (iff_of_true trivial ⟨Node.isPlain_of_whole hopen htrivia, hkept⟩)

theorem leavesText_primitive (hn : n.type ∈ primitiveForms) : LeavesText source parameters n := by
  intro t ht
  have forms : ∀ form ∈ primitiveForms, form ∉ Node.openForms ∧ form ∉ Node.triviaForms ∧
      form ∉ Node.nameForms := by decide
  obtain ⟨hopen, htrivia, hname⟩ := forms n.type hn
  rw [ofNode_primitive hn, mapError_eq_ok, primitive] at ht
  split at ht
  · rw [IsBuilt.of_make ht]
    refine isLeftOf_of_text hopen htrivia ?_ rfl rfl fun hn => absurd hn hname
    rw [text_toList_of_primitive rfl (by simp), Node.dense_eq_text]
    exact congrArg unspaced (List.append_nil _)
  · cases ht

theorem leavesText_identifier (h : n.IsDerived source) (hn : n.type = "type_identifier") :
    LeavesText source parameters n := by
  intro t ht
  have hopen : n.type ∉ Node.openForms ∧ n.type ∉ Node.triviaForms := by
    rw [hn]
    decide
  have hdot : '.' ∉ (n.text source).toList := fun hd => by
    rw [Node.toList_text] at hd
    have hword := (Bool.and_eq_true_iff.mp (h.written.identifier hn)).2
    exact absurd (List.all_eq_true.mp hword '.' hd) (by decide)
  rw [ofNode_identifier hn, mapError_eq_ok] at ht
  split at ht
  · have hvariable : t = ⟨n.text source, [], 0, .typeVariable, none, some ""⟩ := IsBuilt.of_make ht
    rw [hvariable]
    refine isLeftOf_of_text hopen.1 hopen.2 ?_ rfl rfl fun _ => ⟨nofun, rfl⟩
    rw [typeVariable_text hdot, Node.dense_eq_text]
  · have hdeclared : t = declared (n.text source) := IsBuilt.of_make ht
    rw [hdeclared]
    refine isLeftOf_of_text hopen.1 hopen.2 ?_ rfl rfl fun _ => ⟨nofun, rfl⟩
    rw [declared_text, Node.dense_eq_text]

theorem leavesText_dotted (hn : n.type = "scoped_type_identifier") : LeavesText source parameters n := by
  intro t ht
  have hopen : n.type ∉ Node.openForms ∧ n.type ∉ Node.triviaForms := by
    rw [hn]
    decide
  rw [ofNode_dotted hn] at ht
  split at ht
  · cases ht
  split at ht
  · cases ht
  rw [mapError_eq_ok] at ht
  have hdeclared : t = declared (String.ofList (n.dense source)) := IsBuilt.of_make ht
  rw [hdeclared]
  refine isLeftOf_of_text hopen.1 hopen.2 ?_ rfl rfl fun _ => ⟨nofun, rfl⟩
  rw [declared_text, String.toList_ofList, Node.dense_eq_text, Text.unspaced_unspaced]

/-! ### Arguments -/

/-- The further arguments with the bracket at their end. -/
theorem leaves_items {ns : List Node} (h : Node.IsItems ns) (hderived : ∀ c ∈ ns, c.IsDerived source)
    (hleaves : ∀ c ∈ ns, c.type ∈ Node.argumentForms → LeavesText source parameters c)
    {args : List TypeRef} (hread : ofNodes source parameters ns = .ok args) :
    Leaves (ns.flatMap (Node.dense source)) (unspaced (moreArguments args))
      ((∀ c ∈ ns, c.IsPlain) ∧ ∀ a ∈ args, a.IsKept) := by
  induction h generalizing args with
  | @close c hc =>
    have hderived := hderived c List.mem_cons_self
    rw [ofNodes_unnamed (hderived.isNamed_false (by rw [hc]; decide))] at hread
    obtain rfl := Except.ok.inj hread
    rw [List.flatMap_singleton, hderived.dense_mark hc (by decide)]
    refine (Leaves.all _).congr (iff_of_true trivial ⟨?_, fun a ha => absurd ha List.not_mem_nil⟩)
    exact List.forall_mem_singleton.mpr (Node.isPlain_of_mark hc (by decide))
  | @more c argument rest hc hargument _ ih =>
    have hnamed := (hderived argument (by simp)).isNamed (by simp [hargument])
    have hcomma := hderived c List.mem_cons_self
    rw [ofNodes_unnamed (hcomma.isNamed_false (by rw [hc]; decide)), ofNodes_cons_ok hnamed] at hread
    obtain ⟨a, more, ha, hmore, rfl⟩ := hread
    have hfirst := (hleaves argument (by simp) hargument a ha).leaves
    have hrest := ih (fun d hd => hderived d (by simp [hd])) (fun d hd => hleaves d (by simp [hd])) hmore
    have hsplit : unspaced (moreArguments (a :: more)) =
        unspaced ",".toList ++ (unspaced a.text.toList ++ unspaced (moreArguments more)) := by
      rw [moreArguments, ← Text.unspaced_append]
      rfl
    rw [List.flatMap_cons, List.flatMap_cons, hcomma.dense_mark hc (by decide), hsplit]
    refine ((Leaves.all _).append (hfirst.append hrest)).congr ?_
    simp only [List.forall_mem_cons, Node.isPlain_of_mark hc (by decide), true_and]
    exact and_and_and_comm

/-- The arguments between their brackets, if they have any. -/
theorem leaves_arguments (h : n.IsDerived source) (hn : n.type = "type_arguments")
    (hleaves : ∀ c ∈ n.children, c.type ∈ Node.argumentForms → LeavesText source parameters c)
    {args : List TypeRef} (hread : ofNodes source parameters n.children = .ok args) :
    Leaves (n.dense source) (unspaced (argumentChars args)) (n.IsPlain ∧ ∀ a ∈ args, a.IsKept) := by
  have hnone : ∀ c ∈ n.children, c.type ∉ Node.triviaForms := by
    intro c hc ht
    obtain ⟨t, htree⟩ := exists_ofNode_of_ofNodes hread hc ((h.child hc).isNamed (by simp [ht]))
    exact ofNode_ne_ok (List.mem_cons_of_mem _ ht) htree
  have hplain := Node.isPlain_of_open (n := n) (by rw [hn]; decide)
  have hcases := h.shaped.arguments_cases hn
  rw [Node.parts_eq_children hnone] at hcases
  rw [h.written.compound (by rw [hn]; decide), hplain, Node.namedChildren]
  rcases hcases with ⟨l, g, hchildren, hl, hg⟩ | ⟨l, argument, rest, hchildren, hl, hargument, hitems⟩
  · -- the brackets alone
    have hlmem : l ∈ n.children := by rw [hchildren]; simp
    have hgmem : g ∈ n.children := by rw [hchildren]; simp
    have hlnamed := (h.child hlmem).isNamed_false (by rw [hl]; decide)
    have hgnamed := (h.child hgmem).isNamed_false (by rw [hg]; decide)
    rw [hchildren, ofNodes_unnamed hlnamed, ofNodes_unnamed hgnamed] at hread
    obtain rfl := Except.ok.inj hread
    rw [hchildren, List.flatMap_cons, (h.child hlmem).dense_mark hl (by decide)]
    refine (Leaves.none (Text.unbracketed_ne_nil (c := '<') List.mem_cons_self rfl)).congr ?_
    exact iff_of_false id fun hkept => hkept.1.1 hn (by simp [hlnamed, hgnamed])
  · -- a first argument and others
    have hmem : ∀ c ∈ l :: argument :: rest, c ∈ n.children := fun c hc => by rw [hchildren]; exact hc
    have hlderived := h.child (hmem l (by simp))
    have hnamed := (h.child (hmem argument (by simp))).isNamed (by simp [hargument])
    have hlnamed := hlderived.isNamed_false (by rw [hl]; decide)
    rw [hchildren, ofNodes_unnamed hlnamed, ofNodes_cons_ok hnamed] at hread
    obtain ⟨a, more, ha, hmore, rfl⟩ := hread
    have hfirst := (hleaves argument (hmem argument (by simp)) hargument a ha).leaves
    have hrest := leaves_items hitems (fun c hc => h.child (hmem c (by simp [hc])))
      (fun c hc => hleaves c (hmem c (by simp [hc]))) hmore
    have hsplit : unspaced (argumentChars (a :: more)) =
        unspaced "<".toList ++ (unspaced a.text.toList ++ unspaced (moreArguments more)) := by
      rw [argumentChars, ← Text.unspaced_append]
      rfl
    have hlplain := Node.isPlain_of_mark hl (by decide)
    rw [hchildren, List.flatMap_cons, List.flatMap_cons, hlderived.dense_mark hl (by decide), hsplit]
    refine ((Leaves.all _).append (hfirst.append hrest)).congr ?_
    simp only [List.forall_mem_cons, hlplain, true_and]
    rw [and_and_and_comm]
    refine and_congr_left fun _ => (and_iff_right fun _ => ?_).symm
    simp [hlnamed, hnamed]

/-! ### Types with parts -/

/-- Where a type with arguments is read, its name and its arguments are. -/
theorem exists_of_generic (h : n.IsDerived source) (hn : n.type = "generic_type")
    (hread : ofNode source parameters n = .ok t) :
    ∃ base arguments u args, n.parts = [base, arguments] ∧ base.type ∈ Node.nameForms ∧
      arguments.type = "type_arguments" ∧ ofNode source parameters base = .ok u ∧
      ofNodes source parameters arguments.children = .ok args ∧ t = { u with args } := by
  have forms : ∀ form ∈ Node.nameForms, form ∈ Node.argumentForms := by decide
  obtain ⟨name, hname, htypes⟩ := h.shaped.generic hn
  obtain ⟨base, arguments, hparts, rfl, harguments⟩ := Node.exists_two htypes
  have hnamed : n.namedChildren = n.children := by
    refine List.filter_eq_self.mpr fun c hc => (h.child hc).isNamed ?_
    by_cases htrivia : c.type ∈ Node.triviaForms
    · simp [htrivia]
    · have hmem : c ∈ n.parts := Node.mem_parts.mpr ⟨hc, htrivia⟩
      rw [hparts, List.mem_pair] at hmem
      rcases hmem with rfl | rfl
      · simp [forms _ hname]
      · simp [harguments]
  cases hchildren : n.children with
  | nil =>
    rw [Node.parts, hchildren] at hparts
    cases hparts
  | cons first rest =>
    rw [ofNode_generic hn (hnamed.trans hchildren)] at hread
    cases hfirst : ofNode source parameters first with
    | error f =>
      rw [hfirst] at hread
      cases hread
    | ok u =>
      -- what is read first is no comment, so it is the name, and the arguments are behind it
      have hnone : first.type ∉ Node.triviaForms := fun ht =>
        ofNode_ne_ok (List.mem_cons_of_mem _ ht) hfirst
      have hsplit := hparts
      rw [Node.parts, hchildren, List.filter_cons, if_pos (decide_eq_true hnone)] at hsplit
      obtain ⟨rfl, hrest⟩ := List.cons.inj hsplit
      have hmem : ∀ d, d ∈ rest ∧ d.type ∉ Node.triviaForms ↔ d = arguments := fun d => by
        rw [← List.mem_singleton, ← hrest, List.mem_filter, decide_eq_true_iff]
      have hfind : rest.find? (fun c => c.type = "type_arguments") = some arguments := by
        refine Node.find?_eq_some ((hmem arguments).mpr rfl).1 (decide_eq_true harguments) ?_
        exact fun d hd hp => (hmem d).mp ⟨hd, by rw [of_decide_eq_true hp]; decide⟩
      simp only [hfirst, hfind] at hread
      obtain ⟨args, hargs, rfl⟩ := map_eq_ok.mp hread
      exact ⟨first, arguments, u, args, hparts, hname, harguments, hfirst, hargs, rfl⟩

theorem leavesText_generic (h : n.IsDerived source) (hn : n.type = "generic_type")
    (hleaves : ∀ c ∈ n.children, ∀ u ∈ c.nodes, u.type ∈ Node.argumentForms →
      LeavesText source parameters u) : LeavesText source parameters n := by
  intro t hread
  obtain ⟨base, arguments, u, args, hparts, hname, harguments, hu, hargs, rfl⟩ :=
    exists_of_generic h hn hread
  have forms : ∀ form ∈ Node.nameForms, form ∈ Node.argumentForms ∧ form ≠ "wildcard" := by decide
  obtain ⟨hform, hwildcard⟩ := forms base.type hname
  have hmem : base ∈ n.children ∧ arguments ∈ n.children := by
    have hpart : ∀ c ∈ n.parts, c ∈ n.children := fun c hc => (Node.mem_parts.mp hc).1
    rw [hparts] at hpart
    exact ⟨hpart base (by simp), hpart arguments (by simp)⟩
  have hbase := hleaves base hmem.1 base base.self_mem_nodes hform u hu
  obtain ⟨hkind, hdims, hnone⟩ := hbase.bare hname
  have hw := hbase.wildcard hwildcard
  have harg := leaves_arguments (h.child hmem.2) harguments
    (fun c hc => hleaves arguments hmem.2 c (Node.mem_nodes_of_child hc)) hargs
  refine ⟨?_, fun _ => hw, fun hn' => absurd hn' (by rw [hn]; decide)⟩
  have hall := h.leaves_parts (by rw [hn]; decide)
  rw [hparts, List.flatMap_cons, List.flatMap_singleton] at hall
  rw [text_generic hw hkind hdims hnone args, Text.unspaced_append]
  refine (hall.trans (hbase.leaves.append harg)).congr ?_
  have hukept : u.IsKept := (isKept_iff hw).mpr (by simp [hnone])
  have hkept : ({ u with args } : TypeRef).IsKept ↔ ∀ a ∈ args, a.IsKept := isKept_iff hw
  rw [Node.isPlain_iff_parts (n := n) (by rw [hn]; decide) (by rw [hn]; decide), hparts, hkept]
  simp [hukept, and_assoc]

theorem count_brackets (k : Nat) : (brackets k).toList.count '[' = k := by
  induction k with
  | zero => rfl
  | succ k ih => rw [brackets_succ_toList, List.count_cons_self, List.count_cons_of_ne (by decide), ih]

theorem unbracketed_brackets (k : Nat) : Text.unbracketed (brackets k).toList = [] := by
  induction k with
  | zero => rfl
  | succ k ih =>
    rw [brackets_succ_toList]
    exact ih

/-- Pairs of brackets. -/
theorem dense_pairs {k : Nat} {ns : List Node} (hderived : ∀ c ∈ ns, c.IsDerived source)
    (h : ns.map Node.type = (List.replicate k ["[", "]"]).flatten) :
    ns.flatMap (Node.dense source) = (brackets k).toList ∧ ∀ c ∈ ns, c.IsPlain := by
  induction k generalizing ns with
  | zero =>
    obtain rfl := List.map_eq_nil_iff.mp h
    exact ⟨rfl, fun c hc => absurd hc List.not_mem_nil⟩
  | succ k ih =>
    obtain ⟨a, ns, rfl, ha, h⟩ := List.map_eq_cons_iff.mp h
    obtain ⟨b, ns, rfl, hb, h⟩ := List.map_eq_cons_iff.mp h
    obtain ⟨hrest, hplain⟩ := ih (fun c hc => hderived c (by simp [hc])) h
    refine ⟨?_, List.forall_mem_cons.mpr ⟨Node.isPlain_of_mark ha (by decide),
      List.forall_mem_cons.mpr ⟨Node.isPlain_of_mark hb (by decide), hplain⟩⟩⟩
    rw [List.flatMap_cons, List.flatMap_cons, hrest, (hderived a (by simp)).dense_mark ha (by decide),
      (hderived b (by simp)).dense_mark hb (by decide), brackets_succ_toList]
    rfl

/-- The brackets are counted wherever they stand in the dimensions. -/
theorem leaves_dimensions (h : n.IsDerived source) (hn : n.type = "dimensions") :
    Leaves (n.dense source) (brackets ((n.chars source).count '[')).toList n.IsPlain := by
  have hparts := h.leaves_parts (by rw [hn]; decide)
  obtain ⟨hpairs, hplain⟩ := dense_pairs (fun c hc => h.part hc) (h.shaped.dimensions hn)
  have hiff : n.IsPlain ↔ ∀ c ∈ n.children, c.type ∉ Node.triviaForms := by
    rw [Node.isPlain_iff_parts (by rw [hn]; decide) (by rw [hn]; decide)]
    exact and_iff_left hplain
  have hcount : (n.chars source).count '[' = (n.dense source).count '[' :=
    (List.count_filter (by decide)).symm
  rw [hiff, hcount]
  refine ⟨?_, fun he => hparts.kept_of_eq ?_, fun hnone => ?_⟩
  · rw [unbracketed_brackets]
    exact List.nil_sublist _
  · rw [hpairs, ← he, unbracketed_brackets, unbracketed_brackets]
  · rw [← hparts.eq_of_kept hnone, hpairs, count_brackets]

variable (parameters) in
/-- An array is read from its elements and its dimensions, which are its parts. -/
theorem exists_of_array (h : n.IsDerived source) (hn : n.type = "array_type") :
    ∃ element dimensions, n.parts = [element, dimensions] ∧ element.type ∈ Node.unannotatedForms ∧
      dimensions.type = "dimensions" ∧
      ofNode source parameters n = (ofNode source parameters element).map fun u =>
        { u with dims := u.dims + (dimensions.chars source).count '[' } := by
  obtain ⟨form, hform, hlabels⟩ := h.shaped.array hn
  obtain ⟨element, dimensions, hparts, hfirst, hsecond⟩ := Node.exists_two hlabels
  obtain ⟨rfl, helement⟩ := Prod.mk.inj hfirst
  obtain ⟨hdimensions, hfield⟩ := Prod.mk.inj hsecond
  have hlookup : n.inField? "element" = some element ∧ n.inField? "dimensions" = some dimensions := by
    constructor
    · refine h.inField?_part (by decide) (by simp [hparts]) helement fun d hd hf => ?_
      rcases List.mem_pair.mp (hparts ▸ hd) with rfl | rfl
      · rfl
      · exact absurd (hfield.symm.trans hf) (by decide)
    · refine h.inField?_part (by decide) (by simp [hparts]) hfield fun d hd hf => ?_
      rcases List.mem_pair.mp (hparts ▸ hd) with rfl | rfl
      · exact absurd (helement.symm.trans hf) (by decide)
      · rfl
  refine ⟨element, dimensions, hparts, hform, hdimensions, ?_⟩
  rw [ofNode_array hn hlookup.1, hlookup.2]
  simp only [Option.map_some, Option.getD_some, Node.toList_text]

theorem leavesText_array (h : n.IsDerived source) (hn : n.type = "array_type")
    (hleaves : ∀ c ∈ n.children, c.type ∈ Node.argumentForms → LeavesText source parameters c) :
    LeavesText source parameters n := by
  intro t hread
  obtain ⟨element, dimensions, hparts, hform, hdimensions, hmap⟩ := exists_of_array parameters h hn
  obtain ⟨u, hu, rfl⟩ := map_eq_ok.mp (hmap ▸ hread)
  have forms : ∀ form ∈ Node.unannotatedForms, form ∈ Node.argumentForms ∧ form ≠ "wildcard" := by decide
  obtain ⟨hform, hwildcard⟩ := forms element.type hform
  have hpart : ∀ c ∈ n.parts, c ∈ n.children := fun c hc => (Node.mem_parts.mp hc).1
  rw [hparts] at hpart
  have helement := hleaves element (hpart element (by simp)) hform u hu
  have hw := helement.wildcard hwildcard
  have hdims := leaves_dimensions (h.child (hpart dimensions (by simp))) hdimensions
  refine ⟨?_, fun _ => hw, fun hn' => absurd hn' (by rw [hn]; decide)⟩
  have hall := h.leaves_parts (by rw [hn]; decide)
  rw [hparts, List.flatMap_cons, List.flatMap_singleton] at hall
  rw [text_array hw, Text.unspaced_append, unspaced_brackets]
  refine (hall.trans (helement.leaves.append hdims)).congr ?_
  have hkept : IsKept { u with dims := u.dims + (dimensions.chars source).count '[' } ↔ u.IsKept :=
    (isKept_iff (t := { u with dims := _ }) hw).trans (isKept_iff hw).symm
  rw [Node.isPlain_iff_parts (n := n) (by rw [hn]; decide) (by rw [hn]; decide), hparts, hkept]
  simp only [List.forall_mem_cons]
  tauto

/-! ### Wildcards -/

variable (n) in
/-- The nodes below a wildcard that its bound is looked for among. -/
def boundsOf : List Node :=
  n.namedChildren.filter fun c => c.type ∉ unboundForms

/-- What is read as the bound of a wildcard is one of its parts. -/
theorem mem_parts_of_bound {b : Node} (hb : (boundsOf n).getLast? = some b)
    (hu : ofNode source parameters b = .ok u) :
    b ∈ n.parts ∧ b.isNamed = true ∧ b.type ∉ unboundForms := by
  obtain ⟨hnamed, hbound⟩ := List.mem_filter.mp (List.mem_of_getLast? hb)
  obtain ⟨hc, hnamed⟩ := List.mem_filter.mp hnamed
  exact ⟨Node.mem_parts.mpr ⟨hc, fun ht => ofNode_ne_ok (List.mem_cons_of_mem _ ht) hu⟩, hnamed,
    of_decide_eq_true hbound⟩

/-- A wildcard is a lower one if its keyword is. -/
theorem any_super {mark word bound : Node} (hparts : n.parts = [mark, word, bound])
    (hmark : mark.type = "?") (hbound : bound.type ≠ "super") :
    (n.children.any fun c => c.type = "super") = decide (word.type = "super") := by
  have hmem : ∀ c : Node, c.type = "super" → (c ∈ n.children ↔ c = word) := by
    intro c hs
    have hpart : c ∈ n.children ↔ c ∈ n.parts :=
      (Node.mem_parts.trans (and_iff_left (by rw [hs]; decide))).symm
    have hne : c ≠ mark ∧ c ≠ bound := by
      refine ⟨?_, ?_⟩ <;> rintro rfl
      · exact absurd (hmark.symm.trans hs) (by decide)
      · exact hbound hs
    rw [hpart, hparts]
    simp [hne]
  rw [Bool.eq_iff_iff, List.any_eq_true, decide_eq_true_iff]
  refine ⟨fun ⟨c, hc, hs⟩ => ?_, fun hs => ⟨word, (hmem word hs).mpr rfl, decide_eq_true hs⟩⟩
  have hs : c.type = "super" := of_decide_eq_true hs
  exact (hmem c hs).mp hc ▸ hs

/-- A wildcard without a bound. -/
theorem eq_anything (h : n.IsDerived source) (hn : n.type = "wildcard") {mark : Node}
    (hparts : n.parts = [mark]) (hmark : mark.type = "?")
    (hread : ofNode source parameters n = .ok t) : t = anything := by
  have hunnamed := (h.part (by simp [hparts] : mark ∈ n.parts)).isNamed_false (by rw [hmark]; decide)
  rw [ofNode_wildcard hn, ← boundsOf] at hread
  cases hl : (boundsOf n).getLast? with
  | none =>
    rw [hl] at hread
    exact (Except.ok.inj hread).symm
  | some b =>
    rw [hl] at hread
    obtain ⟨u, hu, -⟩ := map_eq_ok.mp hread
    obtain ⟨hb, hnamed, -⟩ := mem_parts_of_bound hl hu
    rw [hparts, List.mem_singleton] at hb
    rw [hb, hunnamed] at hnamed
    cases hnamed

/-- Where a wildcard with a bound is read, the bound is. -/
theorem exists_of_bound (h : n.IsDerived source) (hn : n.type = "wildcard") {mark word bound : Node}
    (hparts : n.parts = [mark, word, bound]) (hmark : mark.type = "?")
    (hword : word.type ∈ ["extends", "super"]) (hbound : bound.type ∈ Node.typeForms)
    (hread : ofNode source parameters n = .ok t) :
    ∃ u, ofNode source parameters bound = .ok u ∧ t = wildcardOf (some u) (!decide (word.type = "super")) := by
  have forms : ∀ form ∈ Node.typeForms, form ∈ Node.argumentForms ∧ form ≠ "super" ∧
      form ∉ unboundForms := by decide
  obtain ⟨hargument, hsuper, hunbound⟩ := forms bound.type hbound
  have hderived : ∀ c ∈ [mark, word, bound], c.IsDerived source := fun c hc => h.part (hparts ▸ hc)
  have hmem : bound ∈ boundsOf n := by
    refine List.mem_filter.mpr ⟨List.mem_filter.mpr ⟨?_, ?_⟩, decide_eq_true hunbound⟩
    · exact (Node.mem_parts.mp (by simp [hparts] : bound ∈ n.parts)).1
    · exact (hderived bound (by simp)).isNamed (by simp [hargument])
  rw [ofNode_wildcard hn, ← boundsOf, any_super hparts hmark hsuper] at hread
  cases hl : (boundsOf n).getLast? with
  | none =>
    rw [List.getLast?_eq_none_iff.mp hl] at hmem
    cases hmem
  | some b =>
    rw [hl] at hread
    obtain ⟨u, hu, rfl⟩ := map_eq_ok.mp hread
    obtain ⟨hb, hnamed, hbound⟩ := mem_parts_of_bound hl hu
    -- the mark has no name, and the keyword either has none or is no bound
    have hneMark : b ≠ mark := by
      rintro rfl
      rw [(hderived b (by simp)).isNamed_false (by rw [hmark]; decide)] at hnamed
      cases hnamed
    have hneWord : b ≠ word := by
      rintro rfl
      rcases List.mem_pair.mp hword with he | he
      · rw [(hderived b (by simp)).isNamed_false (by rw [he]; decide)] at hnamed
        cases hnamed
      · exact hbound (by rw [he]; decide)
    obtain rfl : b = bound := by simpa [hparts, hneMark, hneWord] using hb
    exact ⟨u, hu, rfl⟩

/-- What stands before the bound is the text of the mark and the keyword. -/
theorem keyword_eq (u : TypeRef) {word : Node} (h : word.IsDerived source)
    (hword : word.type ∈ ["extends", "super"]) :
    unspaced (wildcardText (wildcardOf (some u) (!decide (word.type = "super"))).wildcard).toList =
      unspaced "?".toList ++ word.dense source := by
  rcases List.mem_pair.mp hword with he | he
  · have hnot : decide (word.type = "super") = false := decide_eq_false (by rw [he]; decide)
    have hupper : unspaced (wildcardText (some .upper)).toList =
        unspaced "?".toList ++ unspaced "extends".toList := by decide
    rw [h.dense_mark he (by decide), hnot]
    exact hupper
  · have hlower : unspaced (wildcardText (some .lower)).toList =
        unspaced "?".toList ++ unspaced "super".toList := by decide
    rw [h.dense_mark he (by decide), decide_eq_true he]
    exact hlower

/-- A bound is left of a wildcard, but that a primitive type loses the keyword before it. -/
theorem leavesText_bound (h : n.IsDerived source) (hn : n.type = "wildcard") {mark word bound : Node}
    (hparts : n.parts = [mark, word, bound]) (hmark : mark.type = "?")
    (hword : word.type ∈ ["extends", "super"]) {u : TypeRef} (hbound : u.IsLeftOf source bound)
    (hw : u.wildcard = none) :
    Leaves (n.dense source)
      (unspaced (wildcardOf (some u) (!decide (word.type = "super"))).text.toList)
      (n.IsPlain ∧ (wildcardOf (some u) (!decide (word.type = "super"))).IsKept) := by
  have hderived : ∀ c ∈ [mark, word, bound], c.IsDerived source := fun c hc => h.part (hparts ▸ hc)
  have hall := h.leaves_parts (by rw [hn]; decide)
  have hkeyword := keyword_eq u (hderived word (by simp)) hword
  rw [← (hderived mark (by simp)).dense_mark hmark (by decide)] at hkeyword
  rw [hparts, List.flatMap_cons, List.flatMap_cons, List.flatMap_singleton, ← List.append_assoc,
    ← hkeyword] at hall
  have hplain : (∀ c ∈ n.parts, c.IsPlain) ↔ bound.IsPlain := by
    have forms : ∀ form ∈ ["extends", "super"], form ∈ "super" :: Node.markForms := by decide
    rw [hparts]
    simp [Node.isPlain_of_mark hmark (by decide), Node.isPlain_of_mark rfl (forms word.type hword)]
  rw [Node.isPlain_iff_parts (by rw [hn]; decide) (by rw [hn]; decide), hplain, isKept_wildcardOf hw,
    text_wildcardOf hw]
  by_cases hk : u.kind = .primitive
  · rw [if_pos hk]
    have hne : Text.unbracketed (unspaced (wildcardText (wildcardOf (some u)
        (!decide (word.type = "super"))).wildcard).toList) ≠ [] := by
      rw [hkeyword, (hderived mark (by simp)).dense_mark hmark (by decide)]
      exact Text.unbracketed_ne_nil (c := '?') List.mem_cons_self rfl
    refine (hall.trans (hbound.leaves.lost hne)).congr (iff_of_false And.right fun hkept => ?_)
    exact hkept.2.1 hk
  · rw [if_neg hk, Text.unspaced_append]
    refine (hall.trans ((Leaves.all _).append hbound.leaves)).congr ?_
    simp only [true_and, ne_eq, hk, not_false_eq_true, and_assoc]

theorem leavesText_wildcard (h : n.IsDerived source) (hn : n.type = "wildcard")
    (hleaves : ∀ c ∈ n.children, c.type ∈ Node.argumentForms → LeavesText source parameters c) :
    LeavesText source parameters n := by
  intro t hread
  refine ⟨?_, fun hne => absurd hn hne, fun hn' => absurd hn' (by rw [hn]; decide)⟩
  rcases h.shaped.wildcard hn with htypes | ⟨form, hword, boundForm, hform, htypes⟩
  · obtain ⟨mark, _, hparts, hmark, hnil⟩ := List.map_eq_cons_iff.mp htypes
    obtain rfl := List.map_eq_nil_iff.mp hnil
    rw [eq_anything h hn hparts hmark hread]
    have hkept : anything.IsKept := by decide
    have hall := h.leaves_parts (by rw [hn]; decide)
    rw [hparts, List.flatMap_singleton, (h.part (by simp [hparts])).dense_mark hmark (by decide)] at hall
    refine hall.congr ?_
    rw [Node.isPlain_iff_parts (by rw [hn]; decide) (by rw [hn]; decide), hparts]
    simp [hkept, Node.isPlain_of_mark hmark (by decide)]
  · obtain ⟨mark, word, bound, hparts, hmark, rfl, rfl⟩ := Node.exists_three htypes
    obtain ⟨u, hu, rfl⟩ := exists_of_bound h hn hparts hmark hword hform hread
    have forms : ∀ form ∈ Node.typeForms, form ∈ Node.argumentForms ∧ form ≠ "wildcard" := by decide
    obtain ⟨hargument, hwildcard⟩ := forms bound.type hform
    have hbound := hleaves bound (Node.mem_parts.mp (by simp [hparts] : bound ∈ n.parts)).1 hargument u hu
    exact leavesText_bound h hn hparts hmark hword hbound (hbound.wildcard hwildcard)

/-! ### Main result -/

/-- **What is left of a type.** The text of a reference is, brackets aside, a part of the text of the node
that it is read from, and all of it exactly if nothing in the node is passed over and all wildcards of the
reference are shown. -/
theorem isLeftOf (h : n.IsDerived source) (hn : n.type ∈ Node.argumentForms) :
    LeavesText source parameters n := by
  -- by induction on the node, the arguments of a type being two levels below it
  induction n using Node.inductionOn with
  | node n ih =>
    have hbelow : ∀ c ∈ n.children, ∀ u ∈ c.nodes, u.type ∈ Node.argumentForms →
        LeavesText source parameters u := fun c hc u hu hform =>
      ih c hc u hu ((h.child hc).node hu) hform
    have hchild : ∀ c ∈ n.children, c.type ∈ Node.argumentForms → LeavesText source parameters c :=
      fun c hc => hbelow c hc c c.self_mem_nodes
    have forms : ∀ form ∈ Node.argumentForms, form = "wildcard" ∨ form = "annotated_type" ∨
        form ∈ primitiveForms ∨ form = "type_identifier" ∨ form = "scoped_type_identifier" ∨
        form = "generic_type" ∨ form = "array_type" := by decide
    rcases forms n.type hn with hf | hf | hf | hf | hf | hf | hf
    · exact leavesText_wildcard h hf hchild
    · exact fun t ht => absurd ht (ofNode_ne_ok (by rw [hf]; decide))
    · exact leavesText_primitive hf
    · exact leavesText_identifier h hf
    · exact leavesText_dotted hf
    · exact leavesText_generic h hf hbelow
    · exact leavesText_array h hf hchild

end TypeRef
end Intertype
