/-
# The order of the parts

Where no two types that an aspect mentions claim one short name for different owners, the order of its
parts makes no difference to any of them. The proof follows two emissions that write the same: they are
at the same depth, and the imports of both have had no claims but those of the types mentioned
(`Emission.Alike`), so each chunk is written in the same way by both and leaves them alike
(`Emission.Alike.step`).

So each part is written as it would be if it were the first (`Introduction.blocks_eq`), and the imports
in the end are those of all claims made, in whatever order they were made (`Introduction.mem_registered`).

Key definitions: `Emission.Alike`, `Introduction.claims`, `Introduction.Reorders`,
`Introduction.blockOf`.
Key theorems: `Emission.Alike.run`, `Introduction.blocks_eq`, `Introduction.mem_registered`,
`Introduction.order_independent`.
-/
import Intertype.Proofs.Composition.Blocks
import Intertype.Proofs.Composition.Offences
import Intertype.Proofs.Emission.Growth
import Intertype.Proofs.Imports.Agreeing

namespace Intertype

/-! ### Two emissions that write the same -/

/-- The claims made in writing a chunk, where every claim is granted. -/
def Scope.claimsOfChunk (sc : Scope) : Chunk → List Claim
  | .phrase a => sc.claimsIn a.pieces
  | .line a => sc.claimsIn a.pieces
  | .supertype t =>
    if t.kind = .declared ∧ sc.claimOf t = none then []
    else (sc.claimOf t).toList ++ sc.claimsIn t.pieces
  | _ => []

/-- Whether the type names in a chunk can be spelled, with no claims but the given ones. -/
abbrev Scope.KnowsChunk (sc : Scope) (claims : List Claim) (c : Chunk) : Prop :=
  c.NamesOnly (sc.Knows claims) (TypeRef.IsNamed (sc.Knows claims))

namespace Scope

variable {sc : Scope} {claims ledger : List Claim} {im : Imports} {t : TypeRef} {c : Chunk}

theorem claimsOfChunk_subset (hc : sc.KnowsChunk claims c) : sc.claimsOfChunk c ⊆ claims := by
  cases c with
  | phrase a => exact claimsIn_subset hc
  | line a => exact claimsIn_subset hc
  | supertype t =>
    rw [claimsOfChunk]
    split
    · exact List.nil_subset _
    · exact List.append_subset.mpr ⟨claimOf_subset hc.1, claimsIn_subset hc.2⟩
  | _ => exact List.nil_subset _

/-- A type has to be written in full exactly if it is a declared one without a claim. -/
theorem needsFullName_iff (ha : Claim.Agree claims) (hl : ledger ⊆ claims) (h : Tracks sc ledger im)
    (ht : sc.Knows claims t) :
    im.needsFullName t = true ↔ t.kind = .declared ∧ sc.claimOf t = none := by
  rw [h.needsFullName ht.1 ht.2.1, isShort_of_agree ha hl ht]
  simp

end Scope

namespace Emission

variable {sc : Scope} {claims ledger : List Claim} {e o e' : Emission} {c : Chunk}

/-- A chunk makes its claims. -/
theorem tracks_step (ha : Claim.Agree claims) (hl : ledger ⊆ claims) (h : Tracks sc ledger e.imports)
    (hc : sc.KnowsChunk claims c) :
    Tracks sc (ledger ++ sc.claimsOfChunk c) (e.step c).2.imports := by
  cases c with
  | phrase a =>
    rw [(e.step_phrase_imports a).1]
    exact h.after_spell fun t ht => (hc t ht).1
  | line a =>
    rw [(e.step_phrase_imports a).2]
    exact h.after_spell fun t ht => (hc t ht).1
  | supertype t =>
    have himports : (e.step (.supertype t)).2.imports = (e.imports.spellSupertype t).2 := rfl
    rw [himports, Imports.spellSupertype_eq, Scope.claimsOfChunk]
    have hfull := Scope.needsFullName_iff ha hl h hc.1
    by_cases hn : e.imports.needsFullName t = true
    · rw [if_pos hn, if_pos (hfull.mp hn), List.append_nil]
      exact h
    · rw [if_neg hn, if_neg fun hk => hn (hfull.mpr hk), ← List.append_assoc]
      exact (h.after_claim hc.1.1).after_spell fun u hu => (hc.2 u hu).1
  | _ =>
    rw [step_imports _ rfl]
    exact (List.append_nil ledger).symm ▸ h

theorem tracks_run (ha : Claim.Agree claims) {cs : List Chunk} : ∀ {ledger : List Claim}
    {e e' : Emission}, ledger ⊆ claims → Tracks sc ledger e.imports →
      (∀ c ∈ cs, sc.KnowsChunk claims c) → e.run cs = (none, e') →
        Tracks sc (ledger ++ cs.flatMap sc.claimsOfChunk) e'.imports := by
  induction cs with
  | nil =>
    intro ledger e e' _ h _ hrun
    injection hrun with _ hrun
    rw [List.flatMap_nil, List.append_nil, ← hrun]
    exact h
  | cons c rest ih =>
    intro ledger e e' hl h hc hrun
    obtain ⟨mid, hmid, hrest, -⟩ := run_cons_eq_none hrun
    have hfirst := hc c List.mem_cons_self
    have hstep := tracks_step ha hl h hfirst
    rw [hmid] at hstep
    rw [List.flatMap_cons, ← List.append_assoc]
    exact ih (List.append_subset.mpr ⟨hl, Scope.claimsOfChunk_subset hfirst⟩) hstep
      (fun d hd => hc d (List.mem_cons_of_mem c hd)) hrest

/-- Two emissions in one layout and at one depth, whose imports have had none but the given claims. -/
structure Alike (sc : Scope) (claims : List Claim) (e o : Emission) : Prop where
  layout : e.buffer.layout = o.buffer.layout
  depth : e.buffer.depth = o.buffer.depth
  left : ∃ ledger, ledger ⊆ claims ∧ Tracks sc ledger e.imports
  right : ∃ ledger, ledger ⊆ claims ∧ Tracks sc ledger o.imports

namespace Alike

/-- A text is spelled in the same way by both. -/
theorem spell (ha : Claim.Agree claims) (h : Alike sc claims e o) {ps : List Piece}
    (hps : Piece.NameOnly (sc.Knows claims) ps) :
    (e.imports.spell ps).1 = (o.imports.spell ps).1 := by
  obtain ⟨ledger, hl, hleft⟩ := h.left
  obtain ⟨later, hl', hright⟩ := h.right
  have hclear : ∀ t, Piece.typeName t ∈ ps → t.IsDerived ∧ t.wildcard ≠ some .unbounded :=
    fun t ht => ⟨(hps t ht).1, (hps t ht).2.1⟩
  rw [hleft.spell hclear, hright.spell hclear, Scope.spell_congr ha hl hl' hps]

/-- So is a supertype, though its name is claimed before. -/
theorem spellSupertype (ha : Claim.Agree claims) (h : Alike sc claims e o) {t : TypeRef}
    (ht : t.IsNamed (sc.Knows claims)) :
    (e.imports.spellSupertype t).1 = (o.imports.spellSupertype t).1 := by
  obtain ⟨ledger, hl, hleft⟩ := h.left
  obtain ⟨later, hl', hright⟩ := h.right
  have hfull := Scope.needsFullName_iff ha hl hleft ht.1
  have hfull' := Scope.needsFullName_iff ha hl' hright ht.1
  rw [Imports.spellSupertype_eq, Imports.spellSupertype_eq]
  by_cases hn : t.kind = .declared ∧ sc.claimOf t = none
  · rw [if_pos (hfull.mpr hn), if_pos (hfull'.mpr hn)]
  · rw [if_neg fun hf => hn (hfull.mp hf), if_neg fun hf => hn (hfull'.mp hf)]
    have hclaim := Scope.claimOf_subset ht.1
    have hclear : ∀ u, Piece.typeName u ∈ t.pieces → u.IsDerived ∧ u.wildcard ≠ some .unbounded :=
      fun u hu => ⟨(ht.2 u hu).1, (ht.2 u hu).2.1⟩
    rw [(hleft.after_claim ht.1.1).spell hclear, (hright.after_claim ht.1.1).spell hclear]
    exact Scope.spell_congr ha (List.append_subset.mpr ⟨hl, hclaim⟩)
      (List.append_subset.mpr ⟨hl', hclaim⟩) ht.2

/-- What a chunk writes is the same for both. -/
theorem written_spelled (ha : Claim.Agree claims) (h : Alike sc claims e o)
    (hc : sc.KnowsChunk claims c) :
    Piece.written (e.spelled c) = Piece.written (o.spelled c) := by
  cases c with
  | phrase a =>
    rw [spelled, spelled]
    split
    · rw [Imports.written_spelled, Imports.written_spelled, h.spell ha hc]
    · rfl
  | line a =>
    rw [spelled, spelled, h.layout, h.depth]
    split
    · rw [Piece.written, Piece.written, Piece.written_append, Piece.written_append,
        Imports.written_spelled, Imports.written_spelled, h.spell ha hc]
    · rfl
  | supertype t =>
    rw [spelled, spelled, Imports.written_spelledSupertype, Imports.written_spelledSupertype,
      h.spellSupertype ha hc]
  | _ => simp only [spelled, h.layout, h.depth]

/-- Whether a chunk fails depends on the depth alone, and so does the depth after it. -/
theorem step_congr (h : e.buffer.depth = o.buffer.depth) (c : Chunk) :
    (e.step c).1 = (o.step c).1 ∧ (e.step c).2.buffer.depth = (o.step c).2.buffer.depth := by
  cases c with
  | phrase a =>
    simp only [Emission.step, Annotation.Phrase.spell]
    cases a.fault <;> exact ⟨rfl, h⟩
  | line a =>
    simp only [Emission.step, Annotation.Phrase.spell]
    cases a.fault <;> exact ⟨rfl, h⟩
  | blankLine => exact ⟨rfl, by rwa [Emission.step, Emission.step, Buffer.blankLine_eq, Buffer.blankLine_eq]⟩
  | indent => exact ⟨rfl, congrArg (· + 1) h⟩
  | dedent =>
    rw [Emission.step, Emission.step, Buffer.dedent, Buffer.dedent, h]
    by_cases hd : o.buffer.depth = 0
    · rw [if_pos hd, if_pos hd]
      exact ⟨rfl, h⟩
    · rw [if_neg hd, if_neg hd]
      exact ⟨rfl, rfl⟩
  | conclude =>
    rw [Emission.step, Emission.step, Buffer.conclude, Buffer.conclude, h]
    by_cases hd : o.buffer.depth = 1
    · rw [if_pos hd, if_pos hd]
      exact ⟨rfl, rfl⟩
    · rw [if_neg hd, if_neg hd]
      exact ⟨rfl, h⟩
  | _ => exact ⟨rfl, h⟩

/-- Both do the same with a chunk, and are alike after it. -/
theorem step (ha : Claim.Agree claims) (h : Alike sc claims e o) (hc : sc.KnowsChunk claims c) :
    (e.step c).1 = (o.step c).1 ∧ Alike sc claims (e.step c).2 (o.step c).2 := by
  obtain ⟨hfault, hdepth⟩ := step_congr h.depth c
  obtain ⟨ledger, hl, hleft⟩ := h.left
  obtain ⟨later, hl', hright⟩ := h.right
  have hclaims := Scope.claimsOfChunk_subset hc
  exact ⟨hfault, by rw [step_layout, step_layout, h.layout], hdepth,
    ⟨_, List.append_subset.mpr ⟨hl, hclaims⟩, tracks_step ha hl hleft hc⟩,
    ⟨_, List.append_subset.mpr ⟨hl', hclaims⟩, tracks_step ha hl' hright hc⟩⟩

/-- **Both write the same**, as long as one of them does not fail. -/
theorem run (ha : Claim.Agree claims) {cs : List Chunk} : ∀ {e o e' : Emission},
    Alike sc claims e o → (∀ c ∈ cs, sc.KnowsChunk claims c) → e.run cs = (none, e') →
      Piece.written (e.written cs) = Piece.written (o.written cs) ∧
        ∃ o', o.run cs = (none, o') ∧ Alike sc claims e' o' := by
  induction cs with
  | nil =>
    intro e o e' h _ hrun
    injection hrun with _ hrun
    exact ⟨rfl, o, rfl, hrun ▸ h⟩
  | cons c rest ih =>
    intro e o e' h hc hrun
    have hfirst := hc c List.mem_cons_self
    obtain ⟨mid, hmid, hrest, hwritten⟩ := run_cons_eq_none hrun
    obtain ⟨hfault, halike⟩ := h.step ha hfirst
    rw [hmid] at hfault halike
    obtain ⟨htext, o', ho', hend⟩ := ih halike (fun d hd => hc d (List.mem_cons_of_mem c hd)) hrest
    have hstep : o.step c = (none, (o.step c).2) := Prod.ext hfault.symm rfl
    refine ⟨?_, o', ?_, hend⟩
    · rw [hwritten, written, hstep, Piece.written_append, Piece.written_append,
        h.written_spelled ha hfirst, htext]
    · rw [Emission.run, hstep]
      exact ho'

end Alike

end Emission

/-! ### The claims of an introduction -/

/-- What the types in a reference claim, those of wildcards without a bound left out. -/
def Scope.claimsOfReference (sc : Scope) (t : TypeRef) : List Claim :=
  (t.nodes.filter fun u => u.wildcard ≠ some .unbounded).filterMap sc.claimOf

namespace Introduction

/-- What the types claim that an introduction mentions: the target and the aspect, the imports asked
for, and all that is referred to anywhere in its parts. -/
def claims (sc : Scope) (i : Introduction) : List Claim :=
  [i.target, i.aspect].map Scope.reservedClaim ++
    (i.imports ++ i.references).flatMap sc.claimsOfReference

/-- The claims made before anything is written. -/
def claimsBefore (sc : Scope) (i : Introduction) : List Claim :=
  [i.target, i.aspect].map Scope.reservedClaim ++
    i.imports.flatMap fun t => (sc.importClaimOf t).toList

/-- The claims made by the end. -/
def claimsMade (sc : Scope) (i : Introduction) : List Claim :=
  i.claimsBefore sc ++ (i.partChunks Annotation.phrase).flatten.flatMap sc.claimsOfChunk

variable {sc : Scope} {settings : Settings} {i j : Introduction} {t u : TypeRef}

theorem knows_reference (ht : t ∈ i.imports ++ i.references) (hc : t.IsClear) (hu : u ∈ t.nodes)
    (hw : u.wildcard ≠ some .unbounded) : sc.Knows (i.claims sc) u := by
  refine ⟨hc.1 u hu, hw, fun c hcl => List.mem_append_right _ ?_⟩
  refine List.mem_flatMap.mpr ⟨t, ht, List.mem_filterMap.mpr ⟨u, ?_, hcl⟩⟩
  exact List.mem_filter.mpr ⟨hu, decide_eq_true hw⟩

theorem knows_chunks (hr : ∀ t ∈ i.references, t.IsClear) :
    ∀ c ∈ i.chunks Annotation.phrase, sc.KnowsChunk (i.claims sc) c := by
  refine chunks_nameOnly fun t ht => TypeRef.IsNamed.isAllowed ?_
  have hmem : t ∈ i.imports ++ i.references := List.mem_append_right _ ht
  refine ⟨knows_reference hmem (hr t ht) t.self_mem_nodes (hr t ht).2, fun u hu => ?_⟩
  obtain ⟨hn, -, hw⟩ := TypeRef.mem_pieces hu
  exact knows_reference hmem (hr t ht) hn hw

theorem claimsBefore_subset (hi : ∀ t ∈ i.imports, t.IsClear) :
    i.claimsBefore sc ⊆ i.claims sc := by
  refine List.append_subset.mpr ⟨List.subset_append_left _ _, fun c hc => ?_⟩
  obtain ⟨t, ht, hc⟩ := List.mem_flatMap.mp hc
  have hclaim : sc.claimOf t = some c :=
    (Option.filter_eq_some_iff.mp (Option.mem_toList.mp hc)).1
  exact (knows_reference (List.mem_append_left _ ht) (hi t ht) t.self_mem_nodes (hi t ht).2).2.2 c hclaim

/-- The imports before anything is written follow the claims made by then. -/
theorem tracks_opened (hp : i.target.packageName = i.aspect.packageName)
    (hi : ∀ t ∈ i.imports, t.IsClear) (settings : Settings) :
    let sc := i.scope settings
    Tracks sc (i.claimsBefore sc) (i.opened settings).imports := by
  intro sc
  rw [(run_opening hp settings).2.2.2.1]
  exact (Tracks.start sc [i.target, i.aspect]).preregister_all fun t ht =>
    (hi t ht).1 t t.self_mem_nodes

/-- Each part begins and ends at the same depth. -/
theorem Part.depthsAfter_chunks (target : String) (p : Part) (d : Nat) :
    Chunk.depthsAfter (p.chunks Annotation.phrase target) d = some d := by
  cases p with
  | field f => exact (fieldEntry_fails target f).depth d
  | constructor c => exact (constructorEntry_fails target c).depth d
  | method m => exact (methodEntry_fails target m).depth d
  | extended t => exact (supertypeEntry_fails target _ t).depth d
  | implemented t => exact (supertypeEntry_fails target _ t).depth d
  | onType a => exact (typeAnnotationEntry_fails target a).depth d
  | onField a => exact (fieldAnnotationEntry_fails target a).depth d
  | onMethod a => exact (methodAnnotationEntry_fails target a).depth d
  | imported t => rfl

/-! ### Reordering -/

/-- Whether the second introduction has the parts of the first, those of each kind in some order. -/
structure Reorders (i j : Introduction) : Prop where
  target : j.target = i.target
  aspect : j.aspect = i.aspect
  privileged : j.privileged = i.privileged
  imports : j.imports.Perm i.imports
  typeAnnotations : j.typeAnnotations.Perm i.typeAnnotations
  fieldAnnotations : j.fieldAnnotations.Perm i.fieldAnnotations
  methodAnnotations : j.methodAnnotations.Perm i.methodAnnotations
  extended : j.extended.Perm i.extended
  implemented : j.implemented.Perm i.implemented
  fields : j.fields.Perm i.fields
  constructors : j.constructors.Perm i.constructors
  methods : j.methods.Perm i.methods

namespace Reorders

theorem refl (i : Introduction) : Reorders i i :=
  ⟨rfl, rfl, rfl, .refl _, .refl _, .refl _, .refl _, .refl _, .refl _, .refl _, .refl _, .refl _⟩

theorem parts (h : Reorders i j) : j.parts.Perm i.parts :=
  (((((((h.extended.map _).append (h.implemented.map _)).append (h.typeAnnotations.map _)).append
    (h.fieldAnnotations.map _)).append (h.methodAnnotations.map _)).append (h.fields.map _)).append
    (h.constructors.map _)).append (h.methods.map _)

theorem references (h : Reorders i j) : j.references.Perm i.references :=
  (((((((h.extended.append h.implemented).append (h.typeAnnotations.flatMap_right _)).append
    ((h.fieldAnnotations.map _).flatMap_right _)).append (h.methodAnnotations.flatMap_right _)).append
    (h.fields.flatMap_right _)).append (h.constructors.flatMap_right _)).append
    (h.methods.flatMap_right _))

theorem annotationsWritten (h : Reorders i j) : j.annotationsWritten.Perm i.annotationsWritten :=
  ((((h.typeAnnotations.append (h.fieldAnnotations.map _)).append (h.methodAnnotations.map _)).append
    (h.fields.flatMap_right _)).append (h.constructors.flatMap_right _)).append
    (h.methods.flatMap_right _)

theorem hasContent (h : Reorders i j) : j.hasContent = i.hasContent := by
  rw [Introduction.hasContent, Introduction.hasContent, h.extended.isEmpty_eq, h.implemented.isEmpty_eq,
    h.typeAnnotations.isEmpty_eq, h.fieldAnnotations.isEmpty_eq, h.methodAnnotations.isEmpty_eq,
    h.fields.isEmpty_eq, h.constructors.isEmpty_eq, h.methods.isEmpty_eq]

theorem claims (h : Reorders i j) (sc : Scope) : (j.claims sc).Perm (i.claims sc) := by
  rw [Introduction.claims, Introduction.claims, h.target, h.aspect]
  exact ((h.imports.append h.references).flatMap_right _).append_left _

theorem claimsBefore (h : Reorders i j) (sc : Scope) :
    (j.claimsBefore sc).Perm (i.claimsBefore sc) := by
  rw [Introduction.claimsBefore, Introduction.claimsBefore, h.target, h.aspect]
  exact (h.imports.flatMap_right _).append_left _

theorem partChunks (h : Reorders i j) :
    (j.partChunks Annotation.phrase).Perm (i.partChunks Annotation.phrase) := by
  rw [Introduction.partChunks, Introduction.partChunks, h.target]
  exact h.parts.map _

/-- An introduction in another order can be composed as well. -/
theorem exists_compose (h : Reorders i j) {c : Composition}
    (hc : i.compose settings Annotation.phrase = .ok c) :
    ∃ d, j.compose settings Annotation.phrase = .ok d := by
  obtain ⟨hp, hconstructors, hmethods, hannotations⟩ :=
    (offences_eq_nil i).mp ((exists_compose_iff settings i).mp ⟨c, hc⟩)
  refine (exists_compose_iff settings j).mpr ((offences_eq_nil j).mpr ⟨?_, ?_, ?_, ?_⟩)
  · rw [h.target, h.aspect, hp]
  · exact fun k hk => hconstructors k (h.constructors.subset hk)
  · exact fun m hm => hmethods m (h.methods.subset hm)
  · exact fun a ha => hannotations a (h.annotationsWritten.subset ha)

end Reorders

/-! ### Parts on their own -/

/-- The text of a part as it is where that part is written first. -/
def blockOf (settings : Settings) (i : Introduction) (p : Part) : String :=
  Piece.written ((i.opened settings).written (p.chunks Annotation.phrase i.target.simpleName))

theorem Reorders.claimsMade (h : Reorders i j) (sc : Scope) :
    (j.claimsMade sc).Perm (i.claimsMade sc) :=
  (h.claimsBefore sc).append (h.partChunks.flatten.flatMap_right _)

theorem Reorders.scope (h : Reorders i j) (settings : Settings) :
    j.scope settings = i.scope settings := by
  rw [Introduction.scope, Introduction.scope, h.aspect]

/-- What holds before each part: it is written at depth one, and no claims have been made but those of
the types mentioned. -/
def Between (settings : Settings) (i : Introduction) (e : Emission) : Prop :=
  e.buffer.layout = settings.toLayout ∧ e.buffer.depth = 1 ∧
    ∃ ledger, ledger ⊆ i.claims (i.scope settings) ∧ Tracks (i.scope settings) ledger e.imports

theorem Between.alike {e o : Emission} (he : i.Between settings e) (ho : i.Between settings o) :
    e.Alike (i.scope settings) (i.claims (i.scope settings)) o :=
  ⟨he.1.trans ho.1.symm, he.2.1.trans ho.2.1.symm, he.2.2, ho.2.2⟩

theorem between_opened (hp : i.target.packageName = i.aspect.packageName)
    (hi : ∀ t ∈ i.imports, t.IsClear) : i.Between settings (i.opened settings) := by
  obtain ⟨-, hlayout, hdepth, -, -⟩ := run_opening hp settings
  exact ⟨hlayout, hdepth, _, claimsBefore_subset hi, tracks_opened hp hi settings⟩

theorem knows_part (hr : ∀ t ∈ i.references, t.IsClear) {cs : List Chunk}
    (hcs : cs ∈ i.partChunks Annotation.phrase) : ∀ c ∈ cs, sc.KnowsChunk (i.claims sc) c := by
  refine fun c hc => knows_chunks hr c ?_
  rw [chunks_eq]
  exact List.mem_append_right _ (List.mem_append_left _ (List.mem_flatten.mpr ⟨cs, hcs, hc⟩))

theorem eq_map_of_forall₂ {α β : Type} {f : α → β} {as : List α} {bs : List β}
    (h : List.Forall₂ (fun a b => b = f a) as bs) : bs = as.map f := by
  induction h with
  | nil => rfl
  | cons hb _ ih => rw [hb, ih, List.map_cons]

section Reordered

variable (ha : Claim.Agree (i.claims (i.scope settings))) (hi : ∀ t ∈ i.imports, t.IsClear)
  (hr : ∀ t ∈ i.references, t.IsClear) (h : Reorders i j) {d : Composition}
  (hd : j.compose settings Annotation.phrase = .ok d)

include ha hi hr h hd

/-- Every part is written as if it were the first, in whatever order the parts are. -/
theorem blocks_eq : j.blocks settings = j.parts.map (i.blockOf settings) := by
  obtain ⟨closed, hrun, -, -⟩ := compose_blocks hd
  obtain ⟨e, hwhole, -, -⟩ := compose_ok hd
  have hp := samePackage_of_run hwhole
  have hopened : i.Between settings (i.opened settings) :=
    between_opened (by rw [← h.target, ← h.aspect, hp]) hi
  have hstart : i.Between settings (j.opened settings) := by
    obtain ⟨hlayout, hdepth, ledger, hl, htracks⟩ : j.Between settings (j.opened settings) :=
      between_opened hp fun t ht => hi t (h.imports.subset ht)
    rw [h.scope] at hl htracks
    exact ⟨hlayout, hdepth, ledger, List.Subset.trans hl (h.claims _).subset, htracks⟩
  have hstep : ∀ p ∈ j.parts, ∀ {e e' : Emission}, i.Between settings e →
      e.run (p.chunks Annotation.phrase j.target.simpleName) = (none, e') →
      i.Between settings e' ∧
        Piece.written (e.written (p.chunks Annotation.phrase j.target.simpleName)) =
          i.blockOf settings p := by
    intro p hp e e' he hprun
    have hchunks := h.partChunks.subset (List.mem_map_of_mem hp)
    obtain ⟨htext, o', -, hend⟩ := (he.alike hopened).run ha (knows_part hr hchunks) hprun
    refine ⟨⟨?_, ?_, hend.left⟩, ?_⟩
    · have hlayout := e.run_layout (p.chunks Annotation.phrase j.target.simpleName)
      rw [hprun] at hlayout
      exact hlayout.trans he.1
    · refine Emission.run_depth ?_ hprun
      rw [he.2.1]
      exact p.depthsAfter_chunks _ 1
    · rw [htext, h.target]
      rfl
  obtain ⟨-, hall, -⟩ := Emission.run_blocks _ (i.Between settings)
    (fun p s => s = i.blockOf settings p) hstep hstart hrun
  exact eq_map_of_forall₂ hall

/-- What is imported in the end are the owners of all foreign claims made. -/
theorem mem_imported : ∃ closed : Emission,
    d.header = Composition.headerOf settings.newline j.aspect closed.imports.sorted ∧
      (closed.imports.registered.map (·.name)).Nodup ∧
      ∀ name, name ∈ closed.imports.registered.map (·.name) ↔
        ∃ c ∈ i.claimsMade (i.scope settings), c.foreign = true ∧ c.owner = name := by
  obtain ⟨closed, hrun, hheader, -⟩ := compose_blocks hd
  obtain ⟨e, hwhole, -, -⟩ := compose_ok hd
  have hclear : ∀ t ∈ j.imports, t.IsClear := fun t ht => hi t (h.imports.subset ht)
  have hstart := tracks_opened (samePackage_of_run hwhole) hclear settings
  rw [h.scope] at hstart
  have hbefore : j.claimsBefore (i.scope settings) ⊆ i.claims (i.scope settings) :=
    List.Subset.trans (claimsBefore_subset hclear) (h.claims _).subset
  have hknown : ∀ c ∈ (j.partChunks Annotation.phrase).flatten,
      (i.scope settings).KnowsChunk (i.claims (i.scope settings)) c := by
    intro c hc
    obtain ⟨cs, hcs, hc⟩ := List.mem_flatten.mp hc
    exact knows_part hr (h.partChunks.subset hcs) c hc
  have hend : Tracks (i.scope settings) (j.claimsMade (i.scope settings)) closed.imports :=
    Emission.tracks_run ha hbefore hstart hknown hrun
  have hconsistent : Claim.IsConsistent (j.claimsMade (i.scope settings)) := by
    refine (ha.mono (List.append_subset.mpr ⟨hbefore, fun c hc => ?_⟩)).isConsistent
    obtain ⟨chunk, hchunk, hc⟩ := List.mem_flatMap.mp hc
    exact Scope.claimsOfChunk_subset (hknown chunk hchunk) hc
  refine ⟨closed, hheader, ?_, fun name => ?_⟩
  · rw [hend.registered, Tracks.map_name_imported]
    exact Claim.importedNames_nodup _
  · rw [hend.registered, Tracks.map_name_imported, hconsistent.mem_importedNames]
    simp only [(h.claimsMade (i.scope settings)).mem_iff]

end Reordered

/-- Sorted imports with the same names make the same header. -/
theorem headerOf_congr (n : String) (aspect : TypeRef) {ts us : List TypeRef}
    (ht : (ts.map (·.name)).Nodup) (hu : (us.map (·.name)).Nodup)
    (h : ∀ name, name ∈ ts.map (·.name) ↔ name ∈ us.map (·.name)) :
    Composition.headerOf n aspect (TypeRef.sorted ts) =
      Composition.headerOf n aspect (TypeRef.sorted us) := by
  have hperm : ((TypeRef.sorted ts).map (·.name)).Perm ((TypeRef.sorted us).map (·.name)) :=
    (((TypeRef.sorted_perm ts).map _).trans ((List.perm_ext_iff_of_nodup ht hu).mpr h)).trans
      ((TypeRef.sorted_perm us).map _).symm
  have hnames := hperm.eq_of_pairwise
    (fun a b _ _ hab hba => absurd (String.lt_trans hab hba) (String.lt_irrefl a))
    (TypeRef.sorted_names ht) (TypeRef.sorted_names hu)
  rw [headerOf_eq, headerOf_eq, hnames]

/-- **The order of the parts does not matter without clashes.** Of an aspect that is composed from types
that can be written, and where no two types mentioned claim one short name for different owners, the
parts of each kind can be put in any other order: the aspect is still composed, with the same header,
and its body has the same blocks in the other order. -/
theorem order_independent {settings : Settings} {i j : Introduction} {c : Composition}
    (ha : Claim.Agree (i.claims (i.scope settings))) (hi : ∀ t ∈ i.imports, t.IsClear)
    (hr : ∀ t ∈ i.references, t.IsClear) (h : Reorders i j)
    (hc : i.compose settings Annotation.phrase = .ok c) :
    ∃ (d : Composition) (block : Part → String),
      j.compose settings Annotation.phrase = .ok d ∧
      d.header = c.header ∧ d.hasContent = c.hasContent ∧
      j.parts.Perm i.parts ∧
      i.blocks settings = i.parts.map block ∧ j.blocks settings = j.parts.map block ∧
      c.body = i.openingText settings.toLayout ++ Text.joined "" (i.parts.map block) ++
        ("\x7d" ++ settings.newline) ∧
      d.body = i.openingText settings.toLayout ++ Text.joined "" (j.parts.map block) ++
        ("\x7d" ++ settings.newline) := by
  obtain ⟨d, hd⟩ := h.exists_compose hc
  have hblocks := blocks_eq ha hi hr (Reorders.refl i) hc
  have hblocks' := blocks_eq ha hi hr h hd
  obtain ⟨-, -, -, hbody⟩ := compose_blocks hc
  obtain ⟨-, -, -, hbody'⟩ := compose_blocks hd
  obtain ⟨closed, hheader, hnodup, hmem⟩ := mem_imported ha hi hr (Reorders.refl i) hc
  obtain ⟨closed', hheader', hnodup', hmem'⟩ := mem_imported ha hi hr h hd
  refine ⟨d, i.blockOf settings, hd, ?_, ?_, h.parts, hblocks, hblocks', ?_, ?_⟩
  · rw [hheader, hheader', h.aspect]
    exact headerOf_congr _ _ hnodup' hnodup fun name => (hmem' name).trans (hmem name).symm
  · rw [compose_hasContent hd, compose_hasContent hc, h.hasContent]
  · rw [hbody, hblocks]
  · rw [hbody', hblocks', openingText, openingText, h.privileged, h.aspect]

/-- Two fields that need an import each, and the imports asked for, change places: so do their blocks,
and the header stays. -/
theorem order_independent_fields :
    let date : Field := { name := "since", type := .declared "java.util.Date" }
    let names : Field :=
      { name := "names", type := ⟨"java.util.List", [.string, .anything], 0, .declared, none, none⟩ }
    let i : Introduction :=
      { target := .declared "com.acme.Widget", aspect := .declared "com.acme.Widget_Fields"
        imports := [.declared "java.util.Map", .declared "java.util.Date"], fields := [date, names] }
    let j : Introduction :=
      { i with imports := [.declared "java.util.Date", .declared "java.util.Map"]
               fields := [names, date] }
    ∃ c d : Composition, (i.compose {} Annotation.phrase).toOption = some c ∧
      j.compose {} Annotation.phrase = .ok d ∧ d.header = c.header ∧
      i.blocks {} = ["    Date Widget.since;\n    \n", "    List<String, ?> Widget.names;\n    \n"] ∧
      j.blocks {} = ["    List<String, ?> Widget.names;\n    \n", "    Date Widget.since;\n    \n"] := by
  intro date names i j
  have hblocks : i.blocks {} =
      ["    Date Widget.since;\n    \n", "    List<String, ?> Widget.names;\n    \n"] := by
    decide
  have hsome : (i.compose {} Annotation.phrase).toOption.isSome = true := by decide
  obtain ⟨c, hc⟩ := Option.isSome_iff_exists.mp hsome
  have hok : i.compose {} Annotation.phrase = .ok c := ok_of_toOption hc
  have hreorders : Reorders i j :=
    { Reorders.refl i with imports := List.Perm.swap _ _ _, fields := List.Perm.swap _ _ _ }
  obtain ⟨d, block, hd, hheader, -, -, hi, hj, -, -⟩ :=
    order_independent (by decide) (by decide) (by decide) hreorders hok
  refine ⟨c, d, hc, hd, hheader, hblocks, ?_⟩
  have hparts : i.parts = [.field date, .field names] := rfl
  have hparts' : j.parts = [.field names, .field date] := rfl
  rw [hblocks, hparts, List.map_cons, List.map_cons, List.map_nil, List.cons.injEq, List.cons.injEq] at hi
  rw [hj, hparts', List.map_cons, List.map_cons, List.map_nil, ← hi.1, ← hi.2.1]

end Introduction
end Intertype
