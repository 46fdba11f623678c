/-
# One text, one tree

The parser is known by the forms of its trees only, so for reading to undo writing it has to be shown that
the text of a reference has no other tree: a name ends at the first mark, arguments end at their bracket,
and dimensions before what may follow a type. So wherever the text of a node and that of a reference begin
alike, the node is read as the reference, as far as the text shows it (`TypeRef.readsBack`).

What may follow is part of each statement: a type with arguments, a type and an argument are told apart by
what may stand behind them. `readsBack` is by induction on the node, with one lemma for each form of it.

Key definitions: `TypeRef.ReadsGeneric`, `TypeRef.ReadsType`, `TypeRef.ReadsArgument`.
Key theorem: `TypeRef.readsBack`.
-/
import Intertype.Proofs.Java.CleanNodes

namespace Intertype

open Java (Node isNameChar isWordChar)
open Text (unspaced)

namespace TypeRef

variable {source : List UInt8} {parameters : List String} {n : Node} {t : TypeRef}

/-! ### What may follow -/

/-- What may follow a name with its arguments: nothing, dimensions or what may follow a type. -/
def EndsName (r : List Char) : Prop :=
  ∀ c ∈ r.head?, c ∈ [',', '>', '[']

theorem endsName_of_endsRef {r : List Char} (h : EndsRef r) : EndsName r := by
  intro c hc
  cases r with
  | nil => cases hc
  | cons d rest =>
    obtain rfl := Option.some.inj hc
    rcases h with rfl | rfl <;> decide

theorem endsName_brackets {r : List Char} (h : EndsName r) (k : Nat) :
    EndsName ((brackets k).toList ++ r) := by
  cases k with
  | zero => exact h
  | succ k =>
    rw [brackets_succ_toList]
    rintro c hc
    obtain rfl := Option.some.inj hc
    decide

/-- What may follow a name with its arguments does not go on with it. -/
theorem EndsName.stops {r : List Char} (h : EndsName r) : ∀ c ∈ r.head?, isNameChar c = false := by
  have marks : ∀ c ∈ [',', '>', '['], isNameChar c = false := Text.of_mem_all (by decide)
  exact fun c hc => marks c (h c hc)

theorem unspaced_argumentChars (a : TypeRef) (rest : List TypeRef) :
    unspaced (argumentChars (a :: rest)) =
      '<' :: (unspaced a.text.toList ++ unspaced (moreArguments rest)) := by
  rw [argumentChars, ← List.singleton_append, Text.unspaced_append, Text.unspaced_append]
  rfl

theorem unspaced_moreArguments (a : TypeRef) (rest : List TypeRef) :
    unspaced (moreArguments (a :: rest)) =
      ',' :: (unspaced a.text.toList ++ unspaced (moreArguments rest)) := by
  have hsplit : moreArguments (a :: rest) = [',', ' '] ++ (a.text.toList ++ moreArguments rest) := rfl
  rw [hsplit, Text.unspaced_append, Text.unspaced_append]
  rfl

theorem stops_arguments (args : List TypeRef) {r : List Char} (h : EndsName r) :
    ∀ c ∈ (unspaced (argumentChars args) ++ r).head?, isNameChar c = false := by
  cases args with
  | nil => exact h.stops
  | cons a rest =>
    rw [unspaced_argumentChars]
    rintro c hc
    obtain rfl := Option.some.inj hc
    decide

theorem endsRef_unspaced_moreArguments (rest : List TypeRef) (r : List Char) :
    EndsRef (unspaced (moreArguments rest) ++ r) := by
  cases rest with
  | nil => exact Or.inr rfl
  | cons a more =>
    rw [unspaced_moreArguments]
    exact Or.inl rfl

/-- What follows an argument in a list of them is what may follow a reference. -/
theorem endsRef_items {ns : List Node} (h : Node.IsItems ns) (hderived : ∀ c ∈ ns, c.IsDerived source)
    (r : List Char) : EndsRef (ns.flatMap (Node.dense source) ++ r) := by
  cases h with
  | @close c hc =>
    rw [List.flatMap_singleton, (hderived c List.mem_cons_self).dense_mark hc (by decide)]
    exact Or.inr rfl
  | @more c argument rest hc =>
    rw [List.flatMap_cons, (hderived c List.mem_cons_self).dense_mark hc (by decide)]
    exact Or.inl rfl

/-- Where no arguments can follow there are none. -/
theorem args_eq_nil {args : List TypeRef} {r s : List Char} (h : EndsName r)
    (he : r = unspaced (argumentChars args) ++ s) : args = [] := by
  cases args with
  | nil => rfl
  | cons a rest =>
    rw [unspaced_argumentChars] at he
    exact absurd (h '<' (by rw [he]; rfl)) (by decide)

/-- The text of a reference begins with a question mark or with a character of its name. -/
theorem exists_cons_of_isProper (h : t.IsProper parameters) :
    ∃ c rest, unspaced t.text.toList = c :: rest ∧ (c = '?' ∨ isWordChar c = true) := by
  by_cases hw : t.wildcard = some .unbounded
  · rw [h.unbounded hw]
    exact ⟨'?', [], rfl, Or.inl rfl⟩
  · obtain ⟨c, rest, hname, hc⟩ := h.isName.exists_cons
    rw [unspaced_text h hw, hname]
    cases t.writtenWildcard with
    | none => exact ⟨c, _, rfl, Or.inr hc⟩
    | some w => cases w <;> exact ⟨'?', _, rfl, Or.inl rfl⟩

/-! ### Reading nodes -/

/-- The reference as it is shown, with other dimensions and no wildcard. -/
def shownAs (t : TypeRef) (dims : Nat) : TypeRef :=
  { t with args := t.args.map shown, dims, wildcard := none }

variable (source parameters) in
/-- Whether a type with arguments is read as the reference that a text which begins with it begins with,
whatever comes behind. -/
def ReadsGeneric (n : Node) : Prop :=
  ∀ t : TypeRef, t.IsSource parameters → ∀ rest others, EndsName others →
    n.dense source ++ rest = t.name.toList ++ (unspaced (argumentChars t.args) ++ others) →
      rest = others ∧ ofNode source parameters n = .ok (t.shownAs 0)

variable (source parameters) in
/-- Whether a type is read as the reference that a text which begins with it begins with, with as many
dimensions as there are in the type. -/
def ReadsType (n : Node) : Prop :=
  ∀ t : TypeRef, t.IsSource parameters → ∀ rest others, EndsName rest → EndsName others →
    n.dense source ++ rest = t.name.toList ++ (unspaced (argumentChars t.args) ++ others) →
      ∃ k, others = (brackets k).toList ++ rest ∧ ofNode source parameters n = .ok (t.shownAs k)

variable (source parameters) in
/-- Whether an argument is read as the reference that a text which begins with it begins with. -/
def ReadsArgument (n : Node) : Prop :=
  ∀ t : TypeRef, t.IsSource parameters → ∀ rest others, EndsRef rest → EndsRef others →
    n.dense source ++ rest = unspaced t.text.toList ++ others →
      rest = others ∧ ofNode source parameters n = .ok t.shown

/-- A single identifier is the type variable or the declared type of that name. -/
theorem ofNode_identifier_eq (h : n.IsClean source) (hn : n.type = "type_identifier")
    (ht : t.IsProper parameters) (hname : n.dense source = t.name.toList) :
    ofNode source parameters n = .ok { t with args := [], dims := 0, wildcard := none } := by
  obtain ⟨hself, hword⟩ := h.derived.dense_identifier hn
  have htext : n.text source = t.name :=
    String.toList_inj.mp ((Node.toList_text source n).trans (hself.symm.trans hname))
  have hne : t.name ≠ "" := fun he => by
    rw [hname, he] at hword
    cases hword
  have hdot : '.' ∉ t.name.toList := fun hd => by
    rw [← hname] at hd
    exact absurd (Java.isWordChar_of_isWord hword '.' hd) (by decide)
  have hprimitive : t.kind ≠ .primitive := fun hk =>
    h.avoids n n.self_mem_nodes hn (by rw [htext]; exact ht.keyword hk)
  rw [ofNode_identifier hn, htext, mapError_eq_ok]
  cases hk : t.kind with
  | declared =>
    rw [if_neg ((ht.declared hk).2 hdot), (ht.declared hk).1, of, make, if_neg hne]
    rfl
  | typeVariable =>
    rw [if_pos (ht.segment hk).2, (ht.bare (by rw [hk]; decide)).1, typeVariable, make, if_neg hne]
    rfl
  | primitive => exact absurd hk hprimitive

/-- A name with dots is the declared type of that name. -/
theorem ofNode_dotted_eq (h : n.IsClean source) (hn : n.type = "scoped_type_identifier")
    (hnone : ∀ form ∈ Node.refusedForms, n.contains form = false)
    (ht : t.IsProper parameters) (hname : n.dense source = t.name.toList) :
    ofNode source parameters n = .ok { t with args := [], dims := 0, wildcard := none } := by
  have hdot : '.' ∈ t.name.toList := by
    obtain ⟨form, -, htypes⟩ := h.derived.shaped.dotted hn
    obtain ⟨outer, dot, last, hparts, -, hmark, -⟩ := Node.exists_three htypes
    have hcompound : n.type ∈ Node.compoundForms := by
      rw [hn]
      decide
    rw [← hname, h.dense_eq hcompound, hparts]
    refine List.mem_flatMap.mpr ⟨dot, by simp, ?_⟩
    rw [(h.part hcompound (by simp [hparts])).derived.dense_mark hmark (by decide)]
    decide
  have hne : t.name ≠ "" := fun he => by
    rw [he] at hdot
    exact absurd hdot (by decide)
  have hk : t.kind = .declared := by
    cases hk : t.kind with
    | declared => rfl
    | typeVariable => exact absurd hdot (ht.segment hk).1
    | primitive =>
      have words : ∀ name ∈ primitiveNames, '.' ∉ name.toList := by decide
      exact absurd hdot (words t.name (ht.keyword hk))
  rw [ofNode_dotted hn, if_neg (by simp [hnone "generic_type" (by decide)]),
    if_neg (by simp [hnone "annotation" (by decide), hnone "marker_annotation" (by decide)]), hname,
    String.ofList_toList, mapError_eq_ok, (ht.declared hk).1, hk, of, make, if_neg hne]
  rfl

/-- A name is read up to where it ends, if types with arguments in it are read. -/
theorem name_read (h : n.IsClean source) (hn : n.type ∈ Node.nameForms)
    (hgeneric : ∀ g ∈ n.nodes, g.type = "generic_type" → g.IsClean source →
      ReadsGeneric source parameters g)
    (ht : t.IsSource parameters) {rest others : List Char}
    (hrest : ∀ c ∈ rest.head?, isNameChar c = false) (hothers : EndsName others)
    (he : n.dense source ++ rest = t.name.toList ++ (unspaced (argumentChars t.args) ++ others)) :
    rest = unspaced (argumentChars t.args) ++ others ∧
      ofNode source parameters n = .ok { t with args := [], dims := 0, wildcard := none } := by
  rcases h.name_cases hn with ⟨hnone, hchars⟩ | ⟨g, hg, htype, hclean, more, hdense⟩
  · obtain ⟨hname, hrest⟩ := Text.append_inj_of_stop (p := fun c => !isNameChar c)
      (fun c hc => by rw [hchars c hc]; rfl)
      (fun c hc => by rw [ht.proper.isName.isNameChar c hc]; rfl)
      (fun c hc => by rw [hrest c hc]; rfl)
      (fun c hc => by rw [stops_arguments t.args hothers c hc]; rfl) he
    refine ⟨hrest, ?_⟩
    rcases List.mem_pair.mp hn with hn | hn
    · exact ofNode_identifier_eq h hn ht.proper hname
    · exact ofNode_dotted_eq h hn hnone ht.proper hname
  · -- the dot behind the arguments cannot be in the text
    rw [hdense, List.append_assoc] at he
    obtain ⟨rfl, -⟩ := hgeneric g hg htype hclean t ht _ others hothers he
    exact absurd (hothers '.' rfl) (by decide)

/-- Arguments are read up to the bracket behind them, the first one and all others. -/
theorem items_read {argument : Node} {ns : List Node} (h : Node.IsItems ns)
    (hargument : argument.type ∈ Node.argumentForms) (hclean : ∀ c ∈ argument :: ns, c.IsClean source)
    (hreads : ∀ c ∈ argument :: ns, c.type ∈ Node.argumentForms → ReadsArgument source parameters c)
    {a : TypeRef} {args : List TypeRef} (hargs : ∀ b ∈ a :: args, b.IsSource parameters)
    {rest others : List Char}
    (he : argument.dense source ++ (ns.flatMap (Node.dense source) ++ rest) =
      unspaced a.text.toList ++ (unspaced (moreArguments args) ++ others)) :
    rest = others ∧ ofNodes source parameters (argument :: ns) = .ok ((a :: args).map shown) := by
  induction h generalizing argument a args with
  | @close c hc =>
    have hderived := (hclean c (by simp)).derived
    obtain ⟨hsplit, hread⟩ := hreads argument (by simp) hargument a (hargs a List.mem_cons_self) _ _
      (endsRef_items (.close hc) (by simpa using hderived) rest)
      (endsRef_unspaced_moreArguments args others) he
    rw [List.flatMap_singleton, hderived.dense_mark hc (by decide)] at hsplit
    cases args with
    | nil =>
      refine ⟨(List.cons.inj hsplit).2, ?_⟩
      have hnone : ofNodes source parameters [c] = .ok [] :=
        ofNodes_unnamed (hderived.isNamed_false (by rw [hc]; decide)) []
      exact (ofNodes_cons_ok ((hclean argument (by simp)).derived.isNamed (by simp [hargument]))).mpr
        ⟨_, _, hread, hnone, rfl⟩
    | cons b more =>
      rw [unspaced_moreArguments] at hsplit
      exact absurd (List.cons.inj hsplit).1 (by decide)
  | @more c next ns hc hnext hitems ih =>
    have hcomma := (hclean c (by simp)).derived
    obtain ⟨hsplit, hread⟩ := hreads argument (by simp) hargument a (hargs a List.mem_cons_self) _ _
      (endsRef_items (.more hc hnext hitems)
        (fun d hd => (hclean d (List.mem_cons_of_mem _ hd)).derived) rest)
      (endsRef_unspaced_moreArguments args others) he
    rw [List.flatMap_cons, List.flatMap_cons, hcomma.dense_mark hc (by decide)] at hsplit
    cases args with
    | nil => exact absurd (List.cons.inj hsplit).1 (by decide)
    | cons b more =>
      rw [unspaced_moreArguments] at hsplit
      have hnextSplit : next.dense source ++ (ns.flatMap (Node.dense source) ++ rest) =
          unspaced b.text.toList ++ (unspaced (moreArguments more) ++ others) := by
        simpa [List.append_assoc] using (List.cons.inj hsplit).2
      obtain ⟨hrest, hmore⟩ := ih hnext (fun d hd => hclean d (by simp_all))
        (fun d hd => hreads d (by simp_all)) (fun d hd => hargs d (List.mem_cons_of_mem _ hd)) hnextSplit
      refine ⟨hrest, ?_⟩
      have hothers : ofNodes source parameters (c :: next :: ns) = .ok ((b :: more).map shown) :=
        (ofNodes_unnamed (hcomma.isNamed_false (by rw [hc]; decide)) _).trans hmore
      exact (ofNodes_cons_ok ((hclean argument (by simp)).derived.isNamed (by simp [hargument]))).mpr
        ⟨_, _, hread, hothers, rfl⟩

/-- The arguments between their brackets are read. -/
theorem arguments_read (h : n.IsClean source) (hn : n.type = "type_arguments")
    (hreads : ∀ c ∈ n.children, c.type ∈ Node.argumentForms → ReadsArgument source parameters c)
    {args : List TypeRef} (hargs : ∀ a ∈ args, a.IsSource parameters) {rest others : List Char}
    (hothers : EndsName others)
    (he : n.dense source ++ rest = unspaced (argumentChars args) ++ others) :
    rest = others ∧ ofNodes source parameters n.children = .ok (args.map shown) := by
  have hcompound : n.type ∈ Node.compoundForms := by
    rw [hn]
    decide
  have hclean : ∀ c ∈ n.parts, c.IsClean source := fun c hc => h.part hcompound hc
  rw [h.dense_eq hcompound] at he
  rw [h.children_eq hcompound] at hreads ⊢
  rcases h.derived.shaped.arguments_cases hn with
    ⟨l, g, hparts, hl, hg⟩ | ⟨l, argument, ns, hparts, hl, hargument, hitems⟩
  · -- no reference begins like the bracket behind it
    rw [hparts, List.flatMap_cons, List.flatMap_singleton,
      (hclean l (by simp [hparts])).derived.dense_mark hl (by decide),
      (hclean g (by simp [hparts])).derived.dense_mark hg (by decide)] at he
    cases args with
    | nil => exact absurd (hothers '<' (by rw [← show _ = others from he]; rfl)) (by decide)
    | cons a more =>
      obtain ⟨c, cs, htext, hc⟩ := exists_cons_of_isProper (hargs a List.mem_cons_self).proper
      rw [unspaced_argumentChars, htext] at he
      obtain rfl := (List.cons.inj (List.cons.inj he).2).1
      exact absurd hc (by decide)
  · rw [hparts] at hclean hreads he ⊢
    have hlderived := (hclean l (by simp)).derived
    rw [List.flatMap_cons, List.flatMap_cons, hlderived.dense_mark hl (by decide)] at he
    rw [ofNodes_unnamed (hlderived.isNamed_false (by rw [hl]; decide))]
    cases args with
    | nil => exact absurd (hothers '<' (by rw [← show _ = others from he]; rfl)) (by decide)
    | cons a more =>
      rw [unspaced_argumentChars] at he
      exact items_read hitems hargument (fun d hd => hclean d (List.mem_cons_of_mem _ hd))
        (fun d hd => hreads d (List.mem_cons_of_mem _ hd)) hargs
        (by simpa [List.append_assoc] using (List.cons.inj he).2)

/-- Arguments do not go on with the name before them. -/
theorem arguments_stop (h : n.IsClean source) (hn : n.type = "type_arguments") (rest : List Char) :
    ∀ c ∈ (n.dense source ++ rest).head?, isNameChar c = false := by
  have hcompound : n.type ∈ Node.compoundForms := by
    rw [hn]
    decide
  obtain ⟨l, ns, hparts, hl⟩ : ∃ l ns, n.parts = l :: ns ∧ l.type = "<" := by
    rcases h.derived.shaped.arguments_cases hn with ⟨l, g, hp, hl, -⟩ | ⟨l, a, ns, hp, hl, -⟩
    · exact ⟨l, [g], hp, hl⟩
    · exact ⟨l, a :: ns, hp, hl⟩
  rw [h.dense_eq hcompound, hparts, List.flatMap_cons,
    (h.part hcompound (by simp [hparts])).derived.dense_mark hl (by decide)]
  rintro c hc
  obtain rfl := Option.some.inj hc
  decide

/-- A type with arguments is read, if its name and its arguments are. -/
theorem generic_read (h : n.IsClean source) (hn : n.type = "generic_type")
    (hgeneric : ∀ c ∈ n.children, ∀ g ∈ c.nodes, g.type = "generic_type" → g.IsClean source →
      ReadsGeneric source parameters g)
    (hreads : ∀ c ∈ n.children, ∀ u ∈ c.nodes, u.type ∈ Node.argumentForms → u.IsClean source →
      ReadsArgument source parameters u) :
    ReadsGeneric source parameters n := by
  intro t ht rest others hothers he
  have hcompound : n.type ∈ Node.compoundForms := by
    rw [hn]
    decide
  obtain ⟨form, hform, htypes⟩ := h.derived.shaped.generic hn
  obtain ⟨base, arguments, hparts, rfl, harguments⟩ := Node.exists_two htypes
  have hchildren := (h.children_eq hcompound).trans hparts
  have hmem : base ∈ n.children ∧ arguments ∈ n.children := by simp [hchildren]
  have hbase := h.child hcompound hmem.1
  have hargs := h.child hcompound hmem.2
  have forms : ∀ form ∈ Node.nameForms, form ∈ Node.argumentForms := by decide
  have hnamed : n.namedChildren = [base, arguments] := by
    rw [Node.namedChildren, hchildren]
    simp [hbase.derived.isNamed (by simp [forms _ hform]), hargs.derived.isNamed (by simp [harguments])]
  rw [h.dense_eq hcompound, hparts, List.flatMap_cons, List.flatMap_singleton, List.append_assoc] at he
  obtain ⟨hsplit, hread⟩ := name_read hbase hform (hgeneric base hmem.1) ht
    (arguments_stop hargs harguments rest) hothers he
  obtain ⟨hrest, hargsRead⟩ := arguments_read hargs harguments
    (fun c hc hc' => hreads arguments hmem.2 c (Node.mem_nodes_of_child hc) hc'
      (hargs.child (by rw [harguments]; decide) hc))
    (fun a ha => ht.arg ha) hothers hsplit
  refine ⟨hrest, ?_⟩
  have hfind : [arguments].find? (fun c => c.type = "type_arguments") = some arguments :=
    List.find?_cons_of_pos (decide_eq_true harguments)
  rw [ofNode_generic hn hnamed, hread]
  simp only [hfind, hargsRead]
  rfl

/-- A primitive type is written as its name. -/
theorem dense_primitive (h : n.IsDerived source) (hn : n.type ∈ primitiveForms) :
    n.dense source = (n.text source).toList ∧ Java.IsName (n.text source).toList := by
  have hname := isName_of_mem_primitiveNames _ (h.written.primitive hn)
  rw [Node.dense_eq_text]
  exact ⟨Java.unspaced_of_isNameChar hname.isNameChar, hname⟩

/-- A primitive type is read. -/
theorem primitive_read (h : n.IsClean source) (hn : n.type ∈ primitiveForms) :
    ReadsType source parameters n := by
  intro t ht rest others hrest hothers he
  have hmem := h.derived.written.primitive hn
  obtain ⟨hdense, hname⟩ := dense_primitive h.derived hn
  rw [hdense] at he
  obtain ⟨htext, hsplit⟩ := Text.append_inj_of_stop (p := fun c => !isNameChar c)
    (fun c hc => by rw [hname.isNameChar c hc]; rfl)
    (fun c hc => by rw [ht.proper.isName.isNameChar c hc]; rfl)
    (fun c hc => by rw [hrest.stops c hc]; rfl)
    (fun c hc => by rw [stops_arguments t.args hothers c hc]; rfl) he
  have htext : n.text source = t.name := String.toList_inj.mp htext
  rw [htext] at hmem
  have hk := ht.proper.kind_eq hmem
  obtain ⟨hpackage, hargs⟩ := ht.proper.bare (by rw [hk]; decide)
  rw [hargs] at hsplit
  refine ⟨0, hsplit.symm, ?_⟩
  have hne : ∀ name ∈ primitiveNames, name ≠ "" := by decide
  rw [ofNode_primitive hn, htext, mapError_eq_ok, primitive, if_pos hmem, make, if_neg (hne _ hmem), shownAs,
    hargs, hk, hpackage]
  rfl

/-- An array is read, if its elements are. -/
theorem array_read (h : n.IsClean source) (hn : n.type = "array_type")
    (hreads : ∀ c ∈ n.children, c.type ∈ Node.unannotatedForms → ReadsType source parameters c) :
    ReadsType source parameters n := by
  intro t ht rest others hrest hothers he
  have hcompound : n.type ∈ Node.compoundForms := by
    rw [hn]
    decide
  obtain ⟨element, dimensions, hparts, hform, hdimensions, hmap⟩ := exists_of_array parameters h.derived hn
  have hchildren := (h.children_eq hcompound).trans hparts
  have hclean := h.child hcompound (c := dimensions) (by simp [hchildren])
  have hdcompound : dimensions.type ∈ Node.compoundForms := by
    rw [hdimensions]
    decide
  obtain ⟨hpairs, -⟩ := dense_pairs (fun c hc => hclean.derived.part hc)
    (hclean.derived.shaped.dimensions hdimensions)
  rw [← hclean.dense_eq hdcompound] at hpairs
  rw [h.dense_eq hcompound, hparts, List.flatMap_cons, List.flatMap_singleton, hpairs,
    List.append_assoc] at he
  obtain ⟨k, hsplit, hread⟩ := hreads element (by simp [hchildren]) hform t ht _ others
    (endsName_brackets hrest _) hothers he
  refine ⟨k + dimensions.parts.length / 2, ?_, ?_⟩
  · rw [hsplit, ← List.append_assoc, ← String.toList_append]
    exact congrArg (fun s : String => s.toList ++ rest) (Text.repeated_add "[]" _ _).symm
  · have hcount : (dimensions.chars source).count '[' = dimensions.parts.length / 2 := by
      rw [← count_brackets (dimensions.parts.length / 2), ← hpairs]
      exact (List.count_filter (by decide)).symm
    rw [hmap, hread, hcount]
    rfl

/-- A type is read, if the types in it are. -/
theorem type_read (h : n.IsClean source) (hn : n.type ∈ Node.unannotatedForms)
    (hgeneric : ∀ g ∈ n.nodes, g.type = "generic_type" → g.IsClean source →
      ReadsGeneric source parameters g)
    (hreads : ∀ c ∈ n.children, c.IsClean source → c.type ∈ Node.unannotatedForms →
      ReadsType source parameters c) : ReadsType source parameters n := by
  have forms : ∀ form ∈ Node.unannotatedForms, form ∈ primitiveForms ∨ form ∈ Node.nameForms ∨
      form = "generic_type" ∨ form = "array_type" := by decide
  rcases forms n.type hn with hf | hf | hf | hf
  · exact primitive_read h hf
  · intro t ht rest others hrest hothers he
    obtain ⟨hsplit, hread⟩ := name_read h hf hgeneric ht hrest.stops hothers he
    have hargs := args_eq_nil hrest hsplit
    rw [hargs] at hsplit
    refine ⟨0, hsplit.symm, ?_⟩
    rw [hread, shownAs, hargs]
    rfl
  · intro t ht rest others hrest hothers he
    obtain ⟨rfl, hread⟩ := hgeneric n n.self_mem_nodes hf h t ht rest others hothers he
    exact ⟨0, rfl, hread⟩
  · exact array_read h hf fun c hc => hreads c hc (h.child (by rw [hf]; decide) hc)

/-- A type begins with a character of a word. -/
theorem exists_cons_of_isClean (h : n.IsClean source) (hn : n.type ∈ Node.unannotatedForms) :
    ∃ c rest, n.dense source = c :: rest ∧ isWordChar c = true := by
  induction n using Node.inductionOn with
  | node n ih =>
    have first : n.type ∈ Node.compoundForms → ∀ c more, n.parts = c :: more →
        c.type ∈ Node.unannotatedForms → ∃ d rest, n.dense source = d :: rest ∧ isWordChar d = true := by
      intro hcompound c more hparts hc
      have hmem : c ∈ n.parts := by simp [hparts]
      obtain ⟨d, rest, hdense, hd⟩ := ih c (Node.mem_parts.mp hmem).1 c c.self_mem_nodes
        (h.part hcompound hmem) hc
      rw [h.dense_eq hcompound, hparts, List.flatMap_cons, hdense]
      exact ⟨d, _, rfl, hd⟩
    have names : ∀ form ∈ "generic_type" :: Node.nameForms, form ∈ Node.unannotatedForms := by decide
    have forms : ∀ form ∈ Node.unannotatedForms, form ∈ primitiveForms ∨ form = "type_identifier" ∨
        form = "scoped_type_identifier" ∨ form = "generic_type" ∨ form = "array_type" := by decide
    rcases forms n.type hn with hf | hf | hf | hf | hf
    · obtain ⟨hdense, hname⟩ := dense_primitive h.derived hf
      exact hdense ▸ hname.exists_cons
    · exact Java.exists_cons_of_isWord (h.derived.dense_identifier hf).2
    · obtain ⟨form, hform, htypes⟩ := h.derived.shaped.dotted hf
      obtain ⟨c, more, hparts, rfl, -⟩ := List.map_eq_cons_iff.mp htypes
      exact first (by rw [hf]; decide) c more hparts (names _ hform)
    · obtain ⟨form, hform, htypes⟩ := h.derived.shaped.generic hf
      obtain ⟨c, more, hparts, rfl, -⟩ := List.map_eq_cons_iff.mp htypes
      exact first (by rw [hf]; decide) c more hparts (names _ (List.mem_cons_of_mem _ hform))
    · obtain ⟨element, dimensions, hparts, hform, -⟩ := exists_of_array [] h.derived hf
      exact first (by rw [hf]; decide) element [dimensions] hparts hform

/-! ### Reading arguments -/

/-- A type is read as a reference that no wildcard is written before, with all of its dimensions. -/
theorem read_unwrapped (hreads : ReadsType source parameters n) (ht : t.IsSource parameters)
    {rest others : List Char} (hrest : EndsRef rest) (hothers : EndsRef others)
    (he : n.dense source ++ rest = t.name.toList ++ (unspaced (argumentChars t.args) ++
      ((brackets t.dims).toList ++ others))) :
    rest = others ∧ ofNode source parameters n = .ok (t.shownAs t.dims) := by
  obtain ⟨k, hsplit, hread⟩ := hreads t ht rest _ (endsName_of_endsRef hrest)
    (endsName_brackets (endsName_of_endsRef hothers) t.dims) he
  obtain ⟨rfl, rfl⟩ := brackets_append_inj hothers hrest hsplit
  exact ⟨rfl, hread⟩

/-- The keyword before the bound of a wildcard. -/
def keyword (upper : Bool) : List Char :=
  if upper then "extends".toList else "super".toList

/-- No keyword may follow a reference. -/
theorem not_endsRef_keyword (upper : Bool) (r : List Char) : ¬ EndsRef (keyword upper ++ r) := by
  cases upper <;> rintro (h | h) <;> exact absurd h (by decide)

/-- The keyword and what comes behind it. -/
theorem keyword_inj {upper other : Bool} {a b : List Char}
    (h : keyword upper ++ a = keyword other ++ b) : upper = other ∧ a = b := by
  cases upper <;> cases other
  · exact ⟨rfl, List.append_cancel_left h⟩
  · exact absurd (List.cons.inj h).1 (by decide)
  · exact absurd (List.cons.inj h).1 (by decide)
  · exact ⟨rfl, List.append_cancel_left h⟩

/-- The text of a reference begins with a question mark exactly if a wildcard is written. -/
theorem unspaced_text_cases (ht : t.IsProper parameters) :
    (t = anything ∧ unspaced t.text.toList = ['?']) ∨
      (t.writtenWildcard = none ∧ unspaced t.text.toList =
        t.name.toList ++ (unspaced (argumentChars t.args) ++ (brackets t.dims).toList)) ∨
      ∃ upper : Bool, t.writtenWildcard = some (if upper then .upper else .lower) ∧ unspaced t.text.toList =
        '?' :: (keyword upper ++
          (t.name.toList ++ (unspaced (argumentChars t.args) ++ (brackets t.dims).toList))) := by
  by_cases hw : t.wildcard = some .unbounded
  · have htext : unspaced anything.text.toList = ['?'] := by decide
    exact Or.inl ⟨ht.unbounded hw, by rw [ht.unbounded hw, htext]⟩
  · have htext := unspaced_text ht hw
    match hwritten : t.writtenWildcard with
    | none =>
      rw [hwritten] at htext
      exact Or.inr (Or.inl ⟨rfl, htext⟩)
    | some .unbounded => exact absurd hwritten (writtenWildcard_ne hw)
    | some .upper =>
      have hkeyword : unspaced (wildcardText (some .upper)).toList = '?' :: "extends".toList := by decide
      rw [hwritten, hkeyword] at htext
      exact Or.inr (Or.inr ⟨true, rfl, htext⟩)
    | some .lower =>
      have hkeyword : unspaced (wildcardText (some .lower)).toList = '?' :: "super".toList := by decide
      rw [hwritten, hkeyword] at htext
      exact Or.inr (Or.inr ⟨false, rfl, htext⟩)

/-- What begins with a character of a word begins with no question mark. -/
theorem ne_question {c : Char} {a b : List Char} (h : isWordChar c = true) : c :: a ≠ '?' :: b := by
  intro he
  rw [(List.cons.inj he).1] at h
  exact absurd h (by decide)

/-- A type is read as an argument, if it is read as a type. -/
theorem type_read_argument (h : n.IsClean source) (hn : n.type ∈ Node.unannotatedForms)
    (hreads : ReadsType source parameters n) : ReadsArgument source parameters n := by
  intro t ht rest others hrest hothers he
  obtain ⟨c, cs, hdense, hc⟩ := exists_cons_of_isClean h hn
  rcases unspaced_text_cases ht.proper with ⟨-, htext⟩ | ⟨hw, htext⟩ | ⟨upper, -, htext⟩
  · rw [htext, hdense] at he
    exact absurd he (ne_question hc)
  · rw [htext] at he
    simp only [List.append_assoc] at he
    obtain ⟨hsplit, hread⟩ := read_unwrapped hreads ht hrest hothers he
    exact ⟨hsplit, by rw [hread, shown_eq_of_proper ht.proper, hw]; rfl⟩
  · rw [htext, hdense] at he
    exact absurd he (ne_question hc)

/-- The wildcard without a bound is read. -/
theorem anything_read (h : n.IsClean source) (hn : n.type = "wildcard") {mark : Node}
    (hparts : n.parts = [mark]) (hmark : mark.type = "?") : ReadsArgument source parameters n := by
  intro t ht rest others hrest hothers he
  have hcompound : n.type ∈ Node.compoundForms := by
    rw [hn]
    decide
  have hderived := (h.part hcompound (by simp [hparts] : mark ∈ n.parts)).derived
  rw [h.dense_eq hcompound, hparts, List.flatMap_singleton, hderived.dense_mark hmark (by decide)] at he
  rcases unspaced_text_cases ht.proper with ⟨rfl, htext⟩ | ⟨-, htext⟩ | ⟨upper, -, htext⟩
  · rw [htext] at he
    refine ⟨(List.cons.inj he).2, ?_⟩
    have hbounds : boundsOf n = [] := by
      rw [boundsOf, Node.namedChildren, h.children_eq hcompound, hparts]
      simp [hderived.isNamed_false (by rw [hmark]; decide)]
    have hshown : anything.shown = anything := by decide
    rw [ofNode_wildcard hn, ← boundsOf, hbounds, hshown]
    rfl
  · obtain ⟨c, cs, hname, hc⟩ := ht.proper.isName.exists_cons
    rw [htext, hname] at he
    exact absurd he.symm (ne_question hc)
  · rw [htext, List.cons_append, List.append_assoc] at he
    rw [show rest = _ from (List.cons.inj he).2] at hrest
    exact absurd hrest (not_endsRef_keyword upper _)

/-- Without comments the bound is found where it stands. -/
theorem boundsOf_eq (h : n.IsClean source) (hn : n.type = "wildcard") {mark word bound : Node}
    (hparts : n.parts = [mark, word, bound]) (hmark : mark.type = "?")
    (hword : word.type ∈ ["extends", "super"]) (hbound : bound.type ∈ Node.unannotatedForms) :
    boundsOf n = [bound] := by
  have hcompound : n.type ∈ Node.compoundForms := by
    rw [hn]
    decide
  have forms : ∀ form ∈ Node.unannotatedForms, form ∈ Node.argumentForms ∧ form ∉ unboundForms := by
    decide
  have hderived : ∀ c ∈ [mark, word, bound], c.IsDerived source := fun c hc =>
    (h.part hcompound (hparts ▸ hc)).derived
  have hunnamed := (hderived mark (by simp)).isNamed_false (by rw [hmark]; decide)
  have hnamed := (hderived bound (by simp)).isNamed (by simp [(forms _ hbound).1])
  rw [boundsOf, Node.namedChildren, h.children_eq hcompound, hparts]
  rcases List.mem_pair.mp hword with hw | hw
  · simp [hunnamed, hnamed, (forms _ hbound).2,
      (hderived word (by simp)).isNamed_false (by rw [hw]; decide)]
  · have hkeyword : word.type ∈ unboundForms := by
      rw [hw]
      decide
    cases hc : word.isNamed <;> simp [hc, hunnamed, hnamed, (forms _ hbound).2, hkeyword]

/-- The text of a wildcard with a bound. -/
theorem dense_bound (h : n.IsClean source) (hn : n.type = "wildcard") {mark word bound : Node}
    (hparts : n.parts = [mark, word, bound]) (hmark : mark.type = "?")
    (hword : word.type ∈ ["extends", "super"]) :
    n.dense source = '?' :: (keyword (!decide (word.type = "super")) ++ bound.dense source) := by
  have hcompound : n.type ∈ Node.compoundForms := by
    rw [hn]
    decide
  have hderived : ∀ c ∈ [mark, word, bound], c.IsDerived source := fun c hc =>
    (h.part hcompound (hparts ▸ hc)).derived
  rw [h.dense_eq hcompound, hparts, List.flatMap_cons, List.flatMap_cons, List.flatMap_singleton,
    (hderived mark (by simp)).dense_mark hmark (by decide)]
  rcases List.mem_pair.mp hword with hw | hw
  · have hspaced : unspaced "extends".toList = "extends".toList := by decide
    rw [(hderived word (by simp)).dense_mark hw (by decide), hspaced, hw]
    rfl
  · have hspaced : unspaced "super".toList = "super".toList := by decide
    rw [(hderived word (by simp)).dense_mark hw (by decide), hspaced, hw]
    rfl

/-- A wildcard is read, if its bound is. -/
theorem bound_read (h : n.IsClean source) (hn : n.type = "wildcard") {mark word bound : Node}
    (hparts : n.parts = [mark, word, bound]) (hmark : mark.type = "?")
    (hword : word.type ∈ ["extends", "super"]) (hbound : bound.type ∈ Node.typeForms)
    (hreads : bound.IsClean source → bound.type ∈ Node.unannotatedForms →
      ReadsType source parameters bound) :
    ReadsArgument source parameters n := by
  intro t ht rest others hrest hothers he
  have hcompound : n.type ∈ Node.compoundForms := by
    rw [hn]
    decide
  have hclean := h.part hcompound (by simp [hparts] : bound ∈ n.parts)
  have hform : bound.type ∈ Node.unannotatedForms :=
    (List.mem_cons.mp hbound).resolve_left fun hb =>
      hclean.notMem_triviaForms (by rw [hb]; decide)
  rw [dense_bound h hn hparts hmark hword, List.cons_append, List.append_assoc] at he
  rcases unspaced_text_cases ht.proper with ⟨-, htext⟩ | ⟨-, htext⟩ | ⟨upper, hw, htext⟩
  · rw [htext] at he
    rw [← show _ = others from (List.cons.inj he).2] at hothers
    exact absurd hothers (not_endsRef_keyword _ _)
  · obtain ⟨c, cs, hname, hc⟩ := ht.proper.isName.exists_cons
    rw [htext, hname] at he
    exact absurd he.symm (ne_question hc)
  · rw [htext, List.cons_append] at he
    have he := (List.cons.inj he).2
    simp only [List.append_assoc] at he
    obtain ⟨rfl, hafter⟩ := keyword_inj he
    obtain ⟨hsplit, hread⟩ := read_unwrapped (hreads hclean hform) ht hrest hothers hafter
    refine ⟨hsplit, ?_⟩
    have hsuper : bound.type ≠ "super" := fun hs => absurd hform (by rw [hs]; decide)
    rw [ofNode_wildcard hn, ← boundsOf, boundsOf_eq h hn hparts hmark hword hform,
      any_super hparts hmark hsuper]
    simp only [List.getLast?_singleton, hread]
    rw [shown_eq_of_proper ht.proper, hw]
    rfl

/-! ### Main result -/

/-- **One text, one tree.** Where the text of a node that is as the grammar has it begins like that of a
reference, up to what may follow both, the node is read as the reference, as far as its text shows it. -/
theorem readsBack (h : n.IsClean source) :
    (n.type = "generic_type" → ReadsGeneric source parameters n) ∧
      (n.type ∈ Node.unannotatedForms → ReadsType source parameters n) ∧
      (n.type ∈ Node.argumentForms → ReadsArgument source parameters n) := by
  -- by induction on the node, the arguments of a type being two levels below it
  induction n using Node.inductionOn with
  | node n ih =>
    have hgeneric : n.type = "generic_type" → ReadsGeneric source parameters n := fun hn =>
      generic_read h hn (fun c hc g hg hform hclean => (ih c hc g hg hclean).1 hform)
        (fun c hc u hu hform hclean => (ih c hc u hu hclean).2.2 hform)
    have hchild : ∀ c ∈ n.children, c.IsClean source → c.type ∈ Node.unannotatedForms →
        ReadsType source parameters c := fun c hc hclean hform =>
      (ih c hc c c.self_mem_nodes hclean).2.1 hform
    have htype : n.type ∈ Node.unannotatedForms → ReadsType source parameters n := by
      refine fun hn => type_read h hn (fun g hg hform hclean => ?_) hchild
      rw [Node.nodes_eq, List.mem_cons, List.mem_flatMap] at hg
      rcases hg with rfl | ⟨c, hc, hg⟩
      · exact hgeneric hform
      · exact (ih c hc g hg hclean).1 hform
    refine ⟨hgeneric, htype, fun hn => ?_⟩
    rcases List.mem_cons.mp hn with hw | hn
    · rcases h.derived.shaped.wildcard hw with htypes | ⟨form, hword, boundForm, hbound, htypes⟩
      · obtain ⟨mark, _, hparts, hmark, hnil⟩ := List.map_eq_cons_iff.mp htypes
        obtain rfl := List.map_eq_nil_iff.mp hnil
        exact anything_read h hw hparts hmark
      · obtain ⟨mark, word, bound, hparts, hmark, rfl, rfl⟩ := Node.exists_three htypes
        exact bound_read h hw hparts hmark hword hbound
          (hchild bound (Node.mem_parts.mp (by simp [hparts] : bound ∈ n.parts)).1)
    · have hform : n.type ∈ Node.unannotatedForms :=
        (List.mem_cons.mp hn).resolve_left fun ha => h.notMem_triviaForms (by rw [ha]; decide)
      exact type_read_argument h hform (htype hform)

end TypeRef
end Intertype
