/-
# What the text of a reference shows

A reference is written with a label for the name of each declared type in it: the label is chosen by
the imports, and may be the name in full, part of it, or the simple name. The text is that of the same
reference with the labels for names (`TypeRef.relabel_text`), and where the labels are told apart it
shows all of the reference but two things (`TypeRef.spelledBy_inj`): that a primitive type has a bound
wildcard, and that a type variable is none of the primitive types, should it be called like one.
`TypeRef.shown` is what is left of a reference without them, and `TypeRef.IsUnmistakable` says that
nothing is lost.

This is for references as they are built by `of`, `primitive`, `typeVariable` and `wildcardOf` and by
adding dimensions (`TypeRef.IsBuilt`).

Key definitions: `TypeRef.IsRegular`, `TypeRef.IsBuilt`, `TypeRef.relabel`, `TypeRef.shown`,
`TypeRef.IsUnmistakable`, `TypeRef.TellsApart`.
Key theorems: `TypeRef.relabel_text`, `TypeRef.relabel_eq_iff`, `TypeRef.spelledBy_inj`.
-/
import Intertype.Proofs.TypeRef.Names
import Intertype.Proofs.TypeRef.Readable

namespace Intertype

/-! ### Text with labels for names -/

namespace Piece

/-- The pieces one after the other, with a label for the name of each type. -/
def spelledBy (label : String → String) : List Piece → String
  | [] => ""
  | .text s :: rest => s ++ spelledBy label rest
  | .typeVariable name :: rest => name ++ spelledBy label rest
  | .typeName t :: rest => label t.name ++ spelledBy label rest

variable (label : String → String)

theorem spelledBy_append (a b : List Piece) :
    spelledBy label (a ++ b) = spelledBy label a ++ spelledBy label b := by
  induction a with
  | nil => simp [spelledBy]
  | cons p rest ih =>
    cases p <;> rw [List.cons_append, spelledBy, ih, spelledBy, String.append_assoc]

theorem spelledBy_listed (separator : String) : ∀ pss : List (List Piece),
    spelledBy label (listed separator pss) = Text.joined separator (pss.map (spelledBy label))
  | [] => rfl
  | [_] => rfl
  | ps :: qs :: more => by
    rw [listed, spelledBy_append, spelledBy, spelledBy_listed separator (qs :: more)]
    rfl

end Piece

namespace TypeRef

/-! ### References as they are built -/

/-- Whether the text is a qualified name: every segment is a word. -/
def IsName (cs : List Char) : Prop :=
  ∀ s ∈ Dotted.segments cs, IsWord s

instance (cs : List Char) : Decidable (IsName cs) :=
  inferInstanceAs (Decidable (∀ s ∈ Dotted.segments cs, IsWord s))

/-- Words with dots between them have no marks. -/
theorem isWord_join : ∀ {ss : List (List Char)}, ss ≠ [] → (∀ s ∈ ss, IsWord s) →
    IsWord (Dotted.join ss)
  | [], hne, _ => absurd rfl hne
  | [s], _, h => h s List.mem_cons_self
  | s :: t :: more, _, h => by
    obtain ⟨hs, hchars⟩ := h s List.mem_cons_self
    have hrest := isWord_join (List.cons_ne_nil t more) fun u hu => h u (List.mem_cons_of_mem s hu)
    refine ⟨fun he => hs (List.append_eq_nil_iff.mp he).1, fun c hc => ?_⟩
    rcases List.mem_append.mp hc with hc | hc
    · exact hchars c hc
    · rcases List.mem_cons.mp hc with rfl | hc
      · decide
      · exact hrest.2 c hc

theorem IsName.isWord {cs : List Char} (h : IsName cs) : IsWord cs := by
  have := isWord_join (Dotted.segments_ne_nil cs) h
  rwa [Dotted.join_segments] at this

/-- A reference as it is built, its arguments left out. -/
structure IsRegular (t : TypeRef) : Prop where
  name : IsName t.name.toList
  /-- A declared type is in the package that its name shows, and not in the default package. -/
  declared : t.kind = .declared → t.package = none ∧ t.isDefaultPackage = false
  /-- Type variables and primitive types are in no package and have no arguments. -/
  bare : t.kind ≠ .declared → t.package = some "" ∧ t.args = []
  /-- The name of a type variable is a single segment. -/
  segment : t.kind = .typeVariable → '.' ∉ t.name.toList
  keyword : t.kind = .primitive → t.name ∈ primitiveNames
  unbounded : t.wildcard = some .unbounded → t = anything

instance (t : TypeRef) : Decidable t.IsRegular :=
  decidable_of_iff (IsName t.name.toList ∧
      (t.kind = .declared → t.package = none ∧ t.isDefaultPackage = false) ∧
      (t.kind ≠ .declared → t.package = some "" ∧ t.args = []) ∧
      (t.kind = .typeVariable → '.' ∉ t.name.toList) ∧
      (t.kind = .primitive → t.name ∈ primitiveNames) ∧
      (t.wildcard = some .unbounded → t = anything))
    ⟨fun ⟨h1, h2, h3, h4, h5, h6⟩ => ⟨h1, h2, h3, h4, h5, h6⟩,
      fun ⟨h1, h2, h3, h4, h5, h6⟩ => ⟨h1, h2, h3, h4, h5, h6⟩⟩

/-- A reference as it is built, with its arguments to any depth. -/
def IsBuilt (t : TypeRef) : Prop :=
  ∀ u ∈ t.nodes, u.IsRegular

instance (t : TypeRef) : Decidable t.IsBuilt :=
  inferInstanceAs (Decidable (∀ u ∈ t.nodes, u.IsRegular))

theorem isBuilt_iff {t : TypeRef} : t.IsBuilt ↔ t.IsRegular ∧ ∀ a ∈ t.args, a.IsBuilt :=
  forall_nodes_iff

namespace IsBuilt

variable {t : TypeRef}

theorem regular (h : t.IsBuilt) : t.IsRegular :=
  h t t.self_mem_nodes

theorem arg (h : t.IsBuilt) {a : TypeRef} (ha : a ∈ t.args) : a.IsBuilt :=
  (isBuilt_iff.mp h).2 a ha

theorem of_make {name : String} {args : List TypeRef} {dims : Int} {kind : Kind}
    {wildcard : Option Wildcard} {package : Option String}
    (h : make name args dims kind wildcard package = .ok t) :
    t = ⟨name, args, dims.toNat, kind, wildcard, package⟩ := by
  unfold make at h
  split at h
  · cases h
  · split at h
    · cases h
    · injection h with h
      exact h.symm

theorem of {name : String} {args : List TypeRef} (h : TypeRef.of name args = .ok t)
    (hn : IsName name.toList) (hp : (TypeRef.declared name).isDefaultPackage = false)
    (ha : ∀ a ∈ args, a.IsBuilt) : t.IsBuilt := by
  rw [of_make h]
  exact isBuilt_iff.mpr ⟨⟨hn, fun _ => ⟨rfl, hp⟩, fun hk => absurd rfl hk, fun hk => (by cases hk),
    fun hk => (by cases hk), fun hw => (by cases hw)⟩, ha⟩

theorem primitive {name : String} {dims : Int} (h : TypeRef.primitive name dims = .ok t) :
    t.IsBuilt := by
  have words : ∀ n ∈ primitiveNames, IsName n.toList := by decide
  unfold TypeRef.primitive at h
  split at h
  · rename_i hm
    rw [of_make h]
    exact isBuilt_iff.mpr ⟨⟨words name hm, fun hk => (by cases hk), fun _ => ⟨rfl, rfl⟩,
      fun hk => (by cases hk), fun _ => hm, fun hw => (by cases hw)⟩,
      fun a ha => absurd ha List.not_mem_nil⟩
  · cases h

theorem typeVariable {name : String} (h : TypeRef.typeVariable name = .ok t)
    (hn : IsWord name.toList) (hd : '.' ∉ name.toList) : t.IsBuilt := by
  rw [of_make h]
  refine isBuilt_iff.mpr ⟨⟨fun s hs => ?_, fun hk => (by cases hk), fun _ => ⟨rfl, rfl⟩, fun _ => hd,
    fun hk => (by cases hk), fun hw => (by cases hw)⟩, fun a ha => absurd ha List.not_mem_nil⟩
  rw [Dotted.segments_of_notMem hd, List.mem_singleton] at hs
  rw [hs]
  exact hn

theorem anything : TypeRef.anything.IsBuilt := by decide

theorem wildcardOf {bound : Option TypeRef} (h : ∀ b ∈ bound, b.IsBuilt) (upper : Bool) :
    (TypeRef.wildcardOf bound upper).IsBuilt := by
  cases bound with
  | none => exact anything
  | some b =>
    obtain ⟨hr, ha⟩ := isBuilt_iff.mp (h b rfl)
    exact isBuilt_iff.mpr ⟨⟨hr.name, hr.declared, hr.bare, hr.segment, hr.keyword,
      fun hw => by cases upper <;> cases hw⟩, ha⟩

/-- An array of a reference that is no wildcard without a bound. -/
theorem array (h : t.IsBuilt) (hw : t.wildcard ≠ some .unbounded) (dims : Nat) :
    IsBuilt { t with dims } := by
  obtain ⟨hr, ha⟩ := isBuilt_iff.mp h
  exact isBuilt_iff.mpr ⟨⟨hr.name, hr.declared, hr.bare, hr.segment, hr.keyword,
    fun he => absurd he hw⟩, ha⟩

end IsBuilt

/-- The source text of a reference as it is built leaves open the names of all declared types in it, but
of wildcards without a bound. -/
theorem openNodes_eq_filter {t : TypeRef} (h : t.IsBuilt) : t.openNodes =
    t.nodes.filter fun u => u.kind = .declared ∧ u.wildcard ≠ some .unbounded := by
  induction t using inductionOn with
  | node t ih =>
    by_cases hw : t.wildcard = some .unbounded
    · rw [h.regular.unbounded hw]
      rfl
    have hargs : (t.args.flatMap nodes).filter (fun u => u.kind = .declared ∧ u.wildcard ≠ some .unbounded) =
        t.args.flatMap openNodes := by
      rw [List.filter_flatMap]
      exact List.flatMap_congr fun a ha => (ih a ha (h.arg ha)).symm
    rw [openNodes_eq, nodes_eq, List.filter_cons, hargs]
    by_cases hp : t.kind = .primitive
    · rw [if_pos (Or.inr hp), (h.regular.bare (by rw [hp]; decide)).2]
      simp [hp]
    · rw [if_neg (not_or.mpr ⟨hw, hp⟩)]
      by_cases hk : t.kind = .declared <;> simp [hk, hw]

theorem simpleName_of_segment {t : TypeRef} (h : '.' ∉ t.name.toList) : t.simpleName = t.name := by
  rw [simpleName, Dotted.last, Dotted.segments_of_notMem h]
  exact String.ofList_toList

/-! ### References with labels for names -/

section Labels

variable (label : String → String)

/-- What a reference is called: a declared type by the label of its name. -/
def called (t : TypeRef) : String :=
  if t.kind = .declared then label t.name else t.name

/-- The wildcard that is written: before a primitive type none is. -/
def writtenWildcard (t : TypeRef) : Option Wildcard :=
  if t.kind = .primitive then none else t.wildcard

/-- The reference as a declared type throughout, with what it is called for its name. -/
def relabel (t : TypeRef) : TypeRef :=
  t.fold fun t args =>
    if t.wildcard = some .unbounded then anything
    else ⟨t.called label, args, t.dims, .declared, t.writtenWildcard, none⟩

theorem relabel_eq (t : TypeRef) : t.relabel label =
    if t.wildcard = some .unbounded then anything
    else ⟨t.called label, t.args.map (relabel label), t.dims, .declared, t.writtenWildcard, none⟩ := by
  unfold relabel
  rw [fold_eq]

theorem writtenWildcard_ne {t : TypeRef} (h : t.wildcard ≠ some .unbounded) :
    t.writtenWildcard ≠ some .unbounded := by
  unfold writtenWildcard
  split
  · exact fun he => by cases he
  · exact h

/-- A reference is written as the one with labels for its names is in full. -/
theorem relabel_text {t : TypeRef} (h : t.IsBuilt) :
    (t.relabel label).text = Piece.spelledBy label t.pieces := by
  induction t using inductionOn with
  | node t ih =>
    rw [relabel_eq, pieces_eq]
    by_cases hw : t.wildcard = some .unbounded
    · rw [if_pos hw, if_pos hw]
      rfl
    rw [if_neg hw, if_neg hw]
    rw [text_eq rfl (writtenWildcard_ne hw), called, writtenWildcard]
    by_cases hp : t.kind = .primitive
    · have hd : t.kind ≠ .declared := by rw [hp]; decide
      simp [hp, (h.regular.bare hd).2, wildcardText, Piece.spelledBy]
    rw [if_neg hp, if_neg hp]
    have hname : ∀ ps, Piece.spelledBy label (t.namePiece :: ps) =
        (if t.kind = .declared then label t.name else t.name) ++ Piece.spelledBy label ps := by
      intro ps
      unfold namePiece
      by_cases hv : t.kind = .typeVariable
      · simp [hv, Piece.spelledBy, simpleName_of_segment (h.regular.segment hv)]
      · have hd : t.kind = .declared := by cases hk : t.kind <;> simp_all
        simp [hd, Piece.spelledBy]
    have hargs : (t.args.map (relabel label)).map text =
        (t.args.map pieces).map (Piece.spelledBy label) := by
      rw [List.map_map, List.map_map]
      exact List.map_congr_left fun a ha => ih a ha (h.arg ha)
    rw [Piece.spelledBy, hname, hargs]
    by_cases ha : t.args = []
    · simp [ha, Piece.spelledBy]
    · simp [ha, Piece.spelledBy, Piece.spelledBy_append, Piece.spelledBy_listed]

/-- What a reference with labels is made of is plain, if the labels are words. -/
theorem relabel_isPlain {t : TypeRef}
    (hl : ∀ v ∈ t.nodes, v.wildcard ≠ some .unbounded → IsWord (v.called label).toList) :
    ∀ v ∈ (t.relabel label).nodes, v.IsPlain := by
  induction t using inductionOn with
  | node t ih =>
    intro v hv
    rw [relabel_eq] at hv
    by_cases hw : t.wildcard = some .unbounded
    · rw [if_pos hw, nodes_eq, anything, List.flatMap_nil, List.mem_singleton] at hv
      exact Or.inl hv
    · rw [if_neg hw, nodes_eq, List.mem_cons] at hv
      rcases hv with rfl | hv
      · exact Or.inr ⟨rfl, rfl, writtenWildcard_ne hw, hl t t.self_mem_nodes hw⟩
      · obtain ⟨b, hb, hv⟩ := List.mem_flatMap.mp hv
        obtain ⟨a, ha, rfl⟩ := List.mem_map.mp hb
        exact ih a ha (fun u hu => hl u (mem_nodes_of_arg ha hu)) v hv

end Labels

/-! ### What is left of a reference in its text -/

/-- Whether the reference reads as a primitive type: it is one, with any wildcard that it has dropped,
or a type variable called like one. -/
def ReadsPrimitive (t : TypeRef) : Prop :=
  t.kind ≠ .declared ∧ t.writtenWildcard = none ∧ t.name ∈ primitiveNames

instance (t : TypeRef) : Decidable t.ReadsPrimitive :=
  inferInstanceAs (Decidable (t.kind ≠ .declared ∧ t.writtenWildcard = none ∧ t.name ∈ primitiveNames))

/-- What the text of a reference shows of it: all but the wildcards of primitive types, and type
variables that are called like a primitive type look like that type. -/
def shown (t : TypeRef) : TypeRef :=
  t.fold fun t args =>
    if t.wildcard = some .unbounded then anything
    else if t.ReadsPrimitive then ⟨t.name, [], t.dims, .primitive, none, some ""⟩
    else { t with args }

theorem shown_eq (t : TypeRef) : t.shown =
    if t.wildcard = some .unbounded then anything
    else if t.ReadsPrimitive then ⟨t.name, [], t.dims, .primitive, none, some ""⟩
    else { t with args := t.args.map shown } := by
  unfold shown
  rw [fold_eq]

theorem readsPrimitive_of_primitive {t : TypeRef} (h : t.IsRegular) (hk : t.kind = .primitive) :
    t.ReadsPrimitive :=
  ⟨by rw [hk]; decide, if_pos hk, h.keyword hk⟩

/-- Whether nothing of the reference is lost in its text: no primitive type in it has a wildcard, and
no type variable is called like one. -/
def IsUnmistakable (t : TypeRef) : Prop :=
  ∀ u ∈ t.nodes, (u.kind = .primitive → u.wildcard = none) ∧
    (u.kind = .typeVariable → u.name ∉ primitiveNames)

instance (t : TypeRef) : Decidable t.IsUnmistakable :=
  inferInstanceAs (Decidable (∀ u ∈ t.nodes, (u.kind = .primitive → u.wildcard = none) ∧
    (u.kind = .typeVariable → u.name ∉ primitiveNames)))

theorem shown_eq_self {t : TypeRef} (h : t.IsBuilt) (hm : t.IsUnmistakable) : t.shown = t := by
  induction t using inductionOn with
  | node t ih =>
    obtain ⟨hprim, hvar⟩ := hm t t.self_mem_nodes
    rw [shown_eq]
    by_cases hw : t.wildcard = some .unbounded
    · rw [if_pos hw]
      exact (h.regular.unbounded hw).symm
    rw [if_neg hw]
    by_cases hr : t.ReadsPrimitive
    · rw [if_pos hr]
      obtain ⟨hd, -, hn⟩ := hr
      obtain ⟨hp, ha⟩ := h.regular.bare hd
      have hk : t.kind = .primitive := by
        cases hk : t.kind with
        | declared => exact absurd hk hd
        | typeVariable => exact absurd hn (hvar hk)
        | primitive => rfl
      exact eq_of_fields rfl ha.symm rfl hk.symm (hprim hk).symm hp.symm
    · rw [if_neg hr]
      have hargs : t.args.map shown = t.args := by
        conv => rhs; rw [← List.map_id t.args]
        exact List.map_congr_left fun a ha =>
          ih a ha (h.arg ha) fun u hu => hm u (mem_nodes_of_arg ha hu)
      exact eq_of_fields rfl hargs rfl rfl rfl rfl

/-! ### Main results -/

section Labels

variable (label : String → String)

/-- Labels tell apart the references in two others if those with one label have one name, and are
declared types both or neither of them. -/
def TellsApart (t u : TypeRef) : Prop :=
  ∀ v ∈ t.nodes, ∀ w ∈ u.nodes, v.wildcard ≠ some .unbounded → w.wildcard ≠ some .unbounded →
    v.called label = w.called label → v.name = w.name ∧ (v.kind = .declared ↔ w.kind = .declared)

/-- What is not shown makes no difference to the reference with labels. -/
theorem relabel_shown {t : TypeRef} (h : t.IsBuilt) : t.shown.relabel label = t.relabel label := by
  induction t using inductionOn with
  | node t ih =>
    rw [shown_eq, relabel_eq label t]
    by_cases hw : t.wildcard = some .unbounded
    · rw [if_pos hw, if_pos hw]
      rfl
    rw [if_neg hw, if_neg hw]
    by_cases hr : t.ReadsPrimitive
    · rw [if_pos hr]
      obtain ⟨hd, hn, -⟩ := hr
      rw [(h.regular.bare hd).2, hn, called, if_neg hd]
      rfl
    · rw [if_neg hr, relabel_eq, if_neg hw]
      have hargs : (t.args.map shown).map (relabel label) = t.args.map (relabel label) := by
        rw [List.map_map]
        exact List.map_congr_left fun a ha => ih a ha (h.arg ha)
      exact eq_of_fields rfl hargs rfl rfl rfl rfl

theorem map_eq_of_map_eq {α β γ : Type} {f : α → β} {g : α → γ} : ∀ {xs ys : List α},
    (∀ x ∈ xs, ∀ y ∈ ys, f x = f y → g x = g y) → xs.map f = ys.map f → xs.map g = ys.map g
  | [], [], _, _ => rfl
  | x :: xs, y :: ys, hxy, h => by
    rw [List.map_cons, List.map_cons] at h
    injection h with hx hxs
    rw [List.map_cons, List.map_cons, hxy x List.mem_cons_self y List.mem_cons_self hx,
      map_eq_of_map_eq (fun z hz w hw =>
        hxy z (List.mem_cons_of_mem _ hz) w (List.mem_cons_of_mem _ hw)) hxs]

/-- Labels that tell references apart leave what is shown of them to be seen. -/
theorem shown_eq_of_relabel_eq {t u : TypeRef} (ht : t.IsBuilt) (hu : u.IsBuilt)
    (told : TellsApart label t u) (h : t.relabel label = u.relabel label) : t.shown = u.shown := by
  induction t using inductionOn generalizing u with
  | node t ih =>
    rw [relabel_eq, relabel_eq] at h
    rw [shown_eq t, shown_eq u]
    by_cases htw : t.wildcard = some .unbounded
    · by_cases huw : u.wildcard = some .unbounded
      · rw [if_pos htw, if_pos huw]
      · rw [if_pos htw, if_neg huw] at h
        exact absurd (congrArg wildcard h).symm (writtenWildcard_ne huw)
    by_cases huw : u.wildcard = some .unbounded
    · rw [if_neg htw, if_pos huw] at h
      exact absurd (congrArg wildcard h) (writtenWildcard_ne htw)
    rw [if_neg htw, if_neg huw] at h
    rw [if_neg htw, if_neg huw]
    injection h with hlabel hargs hdims _ hwritten
    obtain ⟨hname, hkind⟩ := told t t.self_mem_nodes u u.self_mem_nodes htw huw hlabel
    have hreads : t.ReadsPrimitive ↔ u.ReadsPrimitive := by
      unfold ReadsPrimitive
      rw [hwritten, hname, ne_eq, ne_eq, hkind]
    by_cases hr : t.ReadsPrimitive
    · rw [if_pos hr, if_pos (hreads.mp hr), hname, hdims]
    rw [if_neg hr, if_neg fun hr' => hr (hreads.mpr hr')]
    have htp : t.kind ≠ .primitive := fun hk => hr (readsPrimitive_of_primitive ht.regular hk)
    have hup : u.kind ≠ .primitive := fun hk =>
      hr (hreads.mpr (readsPrimitive_of_primitive hu.regular hk))
    have hsame : t.kind = u.kind := by
      cases hk : t.kind <;> cases hk' : u.kind <;> simp_all
    have hpackage : t.package = u.package := by
      by_cases hd : t.kind = .declared
      · rw [(ht.regular.declared hd).1, (hu.regular.declared (hkind.mp hd)).1]
      · rw [(ht.regular.bare hd).1, (hu.regular.bare fun hd' => hd (hkind.mpr hd')).1]
    have hshown : t.args.map shown = u.args.map shown :=
      map_eq_of_map_eq (fun a ha b hb hab => ih a ha (ht.arg ha) (hu.arg hb)
        (fun v hv w hw => told v (mem_nodes_of_arg ha hv) w (mem_nodes_of_arg hb hw)) hab) hargs
    rw [writtenWildcard, writtenWildcard, if_neg htp, if_neg hup] at hwritten
    exact eq_of_fields hname hshown hdims hsame hwritten hpackage

/-- References with the same labels are those of which the same is shown. -/
theorem relabel_eq_iff {t u : TypeRef} (ht : t.IsBuilt) (hu : u.IsBuilt)
    (told : TellsApart label t u) : t.relabel label = u.relabel label ↔ t.shown = u.shown := by
  refine ⟨shown_eq_of_relabel_eq label ht hu told, fun h => ?_⟩
  rw [← relabel_shown label ht, ← relabel_shown label hu, h]

/-- **The text shows the reference.** Where the names in two references are written by words that tell
them apart, the two have one text exactly if the same is shown of them. -/
theorem spelledBy_inj {t u : TypeRef} (ht : t.IsBuilt) (hu : u.IsBuilt)
    (told : TellsApart label t u)
    (htl : ∀ v ∈ t.nodes, v.wildcard ≠ some .unbounded → IsWord (v.called label).toList)
    (hul : ∀ v ∈ u.nodes, v.wildcard ≠ some .unbounded → IsWord (v.called label).toList) :
    Piece.spelledBy label t.pieces = Piece.spelledBy label u.pieces ↔ t.shown = u.shown := by
  rw [← relabel_eq_iff label ht hu told, ← relabel_text label ht, ← relabel_text label hu]
  exact ⟨text_injective (relabel_isPlain label htl) (relabel_isPlain label hul), congrArg text⟩

end Labels

end TypeRef
end Intertype
