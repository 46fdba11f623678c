/-
# What is written, and what it imports

Text that has been written is a list of pieces, each with the text that stands for it: so it can be
seen how every type name in it was spelled. `Emission.written` lists what chunks write, and the text
of the buffer is what these pieces come to (`Emission.run_text`).

Between two moments exactly those types are imported that are written by their simple names in between
and are in none of the packages in scope (`Imports.Accounts`), whether they are written in a type, in
an annotation or as a supertype, unless writing fails (`Emission.run_accounts`).

Key definitions: `Imports.spelled`, `Emission.spelled`, `Emission.written`, `Imports.Accounts`,
`Chunk.IsClear`.
Key theorems: `Emission.run_text`, `Tracks.accounts_spell`, `Emission.run_accounts`.
-/
import Intertype.Emission
import Intertype.Proofs.Imports.Settled

namespace Intertype

/-! ### What is written -/

namespace Piece

/-- Text without type names, as a piece with the text that stands for it. -/
def plain (s : String) : Piece × String :=
  (.text s, s)

/-- The text that spelled pieces come to. -/
def written : List (Piece × String) → String
  | [] => ""
  | p :: rest => p.2 ++ written rest

theorem written_append (a b : List (Piece × String)) : written (a ++ b) = written a ++ written b := by
  induction a with
  | nil => simp [written]
  | cons p rest ih => rw [List.cons_append, written, ih, written, String.append_assoc]

end Piece

namespace Imports

/-- The pieces with the text that stands for each. -/
def spelled (im : Imports) : List Piece → List (Piece × String)
  | [] => []
  | p :: rest => (p, (im.spellPiece p).1) :: (im.spellPiece p).2.spelled rest

/-- The pieces of a supertype with the text that stands for each. -/
def spelledSupertype (im : Imports) (t : TypeRef) : List (Piece × String) :=
  if im.needsFullName t then t.pieces.map fun p => (p, p.inFull)
  else (im.claim t).2.spelled t.pieces

theorem written_spelled (im : Imports) (ps : List Piece) :
    Piece.written (im.spelled ps) = (im.spell ps).1 := by
  induction ps generalizing im with
  | nil => rfl
  | cons p rest ih => rw [spelled, Piece.written, ih, spell]

theorem written_inFull : ∀ ps : List Piece,
    Piece.written (ps.map fun p => (p, p.inFull)) = Piece.spelledInFull ps
  | [] => rfl
  | p :: rest => by rw [List.map_cons, Piece.written, written_inFull rest, Piece.spelledInFull]

theorem spellSupertype_eq (im : Imports) (t : TypeRef) : im.spellSupertype t =
    if im.needsFullName t then (t.text, im) else (im.claim t).2.spell t.pieces := by
  unfold spellSupertype
  by_cases hn : im.needsFullName t = true
  · have hfull : im.claim t = (true, im) := if_pos hn
    rw [hfull, if_pos hn]
  · have hshort : (im.claim t).1 = false := by rw [Imports.claim_fst, Bool.eq_false_iff.mpr hn]
    rw [if_neg hn]
    rcases hclaim : im.claim t with ⟨full, after⟩
    rw [hclaim] at hshort
    cases hshort
    rfl

theorem written_spelledSupertype (im : Imports) (t : TypeRef) :
    Piece.written (im.spelledSupertype t) = (im.spellSupertype t).1 := by
  rw [spellSupertype_eq, spelledSupertype]
  split
  · exact written_inFull t.pieces
  · exact written_spelled _ _

end Imports

namespace Emission

/-- What a chunk writes. -/
def spelled (e : Emission) : Chunk → List (Piece × String)
  | .margin => [Piece.plain (e.buffer.layout.margin e.buffer.depth)]
  | .phrase a => if a.fault = none then e.imports.spelled a.pieces else []
  | .line a =>
    if a.fault = none then
      Piece.plain (e.buffer.layout.margin e.buffer.depth) ::
        (e.imports.spelled a.pieces ++ [Piece.plain e.buffer.layout.newline])
    else []
  | .supertype t => e.imports.spelledSupertype t
  | .endLine => [Piece.plain e.buffer.layout.newline]
  | .blankLine =>
    [Piece.plain ((if e.buffer.layout.indentBlankLines then e.buffer.layout.margin e.buffer.depth else "") ++
      e.buffer.layout.newline)]
  | .indent => []
  | .dedent => []
  | .conclude => if e.buffer.depth = 1 then [Piece.plain ("\x7d" ++ e.buffer.layout.newline)] else []
  | .stop _ => []

theorem written_spelled_text (e : Emission) (s : String) :
    Piece.written (e.spelled (.text s)) = s := by
  simp [Chunk.text, spelled, Annotation.Phrase.whole, Imports.spelled, Imports.spellPiece,
    Piece.written]

/-- What chunks write, up to the first that fails. -/
def written (e : Emission) : List Chunk → List (Piece × String)
  | [] => []
  | c :: rest =>
    e.spelled c ++
      match e.step c with
      | (none, after) => after.written rest
      | (some _, _) => []

theorem step_text (e : Emission) (c : Chunk) :
    (e.step c).2.buffer.text = e.buffer.text ++ Piece.written (e.spelled c) := by
  cases c with
  | margin => simp [step, spelled, Piece.written, Piece.plain, Buffer.appendMargin, Buffer.append]
  | phrase a =>
    simp only [step, spelled, Annotation.Phrase.spell]
    cases a.fault with
    | none => simp [Buffer.append, Imports.written_spelled]
    | some f => simp [Piece.written]
  | line a =>
    simp only [step, spelled, Annotation.Phrase.spell]
    cases a.fault with
    | none =>
      simp [Buffer.appendLine_eq, Buffer.append, Piece.written, Piece.written_append, Piece.plain,
        Imports.written_spelled, String.append_assoc]
    | some f => simp [Piece.written]
  | supertype t => simp [step, spelled, Buffer.append, Imports.written_spelledSupertype]
  | endLine => simp [step, spelled, Piece.written, Piece.plain, Buffer.endLine, Buffer.append]
  | blankLine => simp [step, spelled, Piece.written, Piece.plain, Buffer.blankLine_eq, Buffer.append]
  | indent => simp [step, spelled, Piece.written, Buffer.indent]
  | dedent =>
    unfold step Buffer.dedent
    by_cases h : e.buffer.depth = 0 <;> simp [h, spelled, Piece.written]
  | conclude =>
    unfold step Buffer.conclude spelled
    by_cases h : e.buffer.depth = 1
    · simp [h, Piece.written, Piece.plain, Buffer.appendLine_eq, Buffer.append, Layout.margin,
        Text.repeated]
    · simp [h, Piece.written]
  | stop f => simp [step, spelled, Piece.written]

/-- The text of the buffer is what was in it and what the chunks write. -/
theorem run_text (e : Emission) (cs : List Chunk) :
    (e.run cs).2.buffer.text = e.buffer.text ++ Piece.written (e.written cs) := by
  induction cs generalizing e with
  | nil => simp [run, written, Piece.written]
  | cons c rest ih =>
    have hstep := e.step_text c
    rw [run, written, Piece.written_append]
    rcases hs : e.step c with ⟨f, after⟩
    rw [hs] at hstep
    change after.buffer.text = _ at hstep
    cases f with
    | none =>
      show (after.run rest).2.buffer.text = _
      rw [ih, hstep, String.append_assoc]
    | some f =>
      show after.buffer.text = _
      rw [hstep, Piece.written, String.append_empty]

end Emission

/-! ### What is imported -/

/-- A type outside the scope is written by its simple name if its claim is granted, and in full
otherwise. -/
theorem Scope.IsForeign.written_iff {sc : Scope} {t : TypeRef} (h : sc.IsForeign t) (hd : t.IsDerived)
    (ledger : List Claim) : sc.written ledger t = t.simpleName ↔ sc.isShort ledger t = true := by
  obtain ⟨hk, hcov, hp⟩ := h
  rw [Scope.written, if_neg (by simp [hk]), hcov, if_neg Bool.false_ne_true]
  by_cases hs : sc.isShort ledger t = true
  · rw [if_pos hs]
    exact ⟨fun _ => hs, fun _ => rfl⟩
  · rw [if_neg hs]
    exact ⟨fun he => absurd he.symm (TypeRef.simpleName_ne_name hk (hd hk) hp), fun h => absurd h hs⟩

/-- The types imported from one moment to another are those of the text written in between that are
written by their simple names and are in no package in scope. -/
def Imports.Accounts (sc : Scope) (im : Imports) (text : List (Piece × String)) (after : Imports) :
    Prop :=
  ∀ name, after.isRegistered name = true ↔ im.isRegistered name = true ∨
    ∃ t, (Piece.typeName t, t.simpleName) ∈ text ∧ sc.IsForeign t ∧ t.name = name

namespace Imports.Accounts

variable {sc : Scope} {im after later : Imports} {text more : List (Piece × String)}

/-- Where nothing is imported, no text need account for it. -/
theorem refl (h : ∀ t, (Piece.typeName t, t.simpleName) ∈ text → ¬ sc.IsForeign t) :
    Accounts sc im text im :=
  fun _ => ⟨Or.inl, fun hr => hr.elim id fun ⟨t, ht, hf, _⟩ => absurd hf (h t ht)⟩

theorem append (h : Accounts sc im text after) (h' : Accounts sc after more later) :
    Accounts sc im (text ++ more) later := by
  intro name
  rw [h' name, h name, or_assoc]
  refine or_congr_right ⟨?_, ?_⟩
  · rintro (⟨t, ht, hf⟩ | ⟨t, ht, hf⟩)
    · exact ⟨t, List.mem_append_left _ ht, hf⟩
    · exact ⟨t, List.mem_append_right _ ht, hf⟩
  · rintro ⟨t, ht, hf⟩
    rcases List.mem_append.mp ht with ht | ht
    · exact Or.inl ⟨t, ht, hf⟩
    · exact Or.inr ⟨t, ht, hf⟩

end Imports.Accounts

namespace Tracks

variable {sc : Scope} {ledger : List Claim} {im : Imports} {t : TypeRef}

/-- A type outside the scope is imported by its claim if it is written by its simple name. -/
theorem isRegistered_claim (h : Tracks sc ledger im) (hd : t.IsDerived) (name : String) :
    (im.claim t).2.isRegistered name = true ↔ im.isRegistered name = true ∨
      (sc.IsForeign t ∧ sc.written ledger t = t.simpleName ∧ t.name = name) := by
  rw [(h.after_claim hd).isRegistered, h.isRegistered]
  have hshort : sc.IsForeign t → (sc.written ledger t = t.simpleName ↔ sc.isShort ledger t = true) :=
    fun hf => hf.written_iff hd ledger
  cases hcl : sc.claimOf t with
  | none =>
    rw [Option.toList_none, List.append_nil, iff_self_or]
    rintro ⟨hf, hs, -⟩
    rw [hshort hf, Scope.isShort, hcl] at hs
    cases hs
  | some c =>
    rw [Option.toList_some, Claim.mem_importedNames_append]
    apply or_congr_right
    constructor
    · rintro ⟨hcf, hg, ho⟩
      have himport : sc.importClaimOf t = some c := by
        rw [Scope.importClaimOf, hcl, Option.filter_some, if_pos hcf]
      obtain ⟨hf, -, rfl⟩ := Scope.importClaimOf_eq_some_iff.mp himport
      refine ⟨hf, (hshort hf).mpr ?_, ho⟩
      rw [Scope.isShort, hcl, Option.any_some, hg]
    · rintro ⟨hf, hs, hn⟩
      rw [hshort hf, Scope.isShort, hcl, Option.any_some] at hs
      rw [Scope.eq_of_claimOf hf.2.1 hcl] at hs ⊢
      exact ⟨rfl, hs, hn⟩

theorem accounts_resolve (h : Tracks sc ledger im) (hd : t.IsDerived)
    (hw : t.wildcard ≠ some .unbounded) :
    Imports.Accounts sc im [(.typeName t, (im.resolve t).1)] (im.resolve t).2 := by
  intro name
  rw [Imports.resolve_snd, h.isRegistered_claim hd, h.resolve hd hw]
  refine or_congr_right ⟨fun ⟨hf, hs, hn⟩ => ⟨t, by simp [hs], hf, hn⟩, ?_⟩
  rintro ⟨u, hu, hf, hn⟩
  rw [List.mem_singleton, Prod.mk.injEq] at hu
  obtain ⟨htu, hs⟩ := hu
  injection htu with htu
  subst htu
  exact ⟨hf, hs.symm, hn⟩

/-- Writing a text accounts for what it imports. -/
theorem accounts_spell {ps : List Piece} (h : Tracks sc ledger im)
    (hd : ∀ t, Piece.typeName t ∈ ps → t.IsDerived ∧ t.wildcard ≠ some .unbounded) :
    Imports.Accounts sc im (im.spelled ps) (im.spell ps).2 := by
  induction ps generalizing ledger im with
  | nil => exact Imports.Accounts.refl fun t ht => absurd ht List.not_mem_nil
  | cons p rest ih =>
    have hrest := fun t ht => hd t (List.mem_cons_of_mem p ht)
    rw [Imports.spelled, Imports.spell]
    cases p with
    | text s =>
      have hplain : Imports.Accounts sc im [(.text s, s)] im :=
        Imports.Accounts.refl fun t ht => by simp at ht
      exact hplain.append (ih h hrest)
    | typeVariable name =>
      have hplain : Imports.Accounts sc im [(.typeVariable name, name)] im :=
        Imports.Accounts.refl fun t ht => by simp at ht
      exact hplain.append (ih h hrest)
    | typeName t =>
      obtain ⟨hdt, hwt⟩ := hd t List.mem_cons_self
      exact (h.accounts_resolve hdt hwt).append (ih (h.after_resolve hdt) hrest)

/-- The source text of a declared type begins with its name, behind the wildcard. -/
theorem pieces_eq_cons (hk : t.kind = .declared) (hw : t.wildcard ≠ some .unbounded) :
    ∃ more, t.pieces = .text (TypeRef.wildcardText t.wildcard) :: .typeName t :: more := by
  have hname : t.namePiece = .typeName t := if_neg (by simp [hk])
  rw [TypeRef.pieces_eq, if_neg hw, if_neg (by simp [hk]), hname]
  exact ⟨_, rfl⟩

/-- Writing a supertype accounts for what it imports, though its name is claimed before: in full it
imports nothing, its arguments included, and otherwise its own name is written as it was claimed. -/
theorem accounts_supertype (h : Tracks sc ledger im) (hd : ∀ u ∈ t.nodes, u.IsDerived)
    (hw : t.wildcard ≠ some .unbounded) :
    Imports.Accounts sc im (im.spelledSupertype t) (im.spellSupertype t).2 := by
  have hdt := hd t t.self_mem_nodes
  rw [Imports.spelledSupertype, Imports.spellSupertype_eq]
  by_cases hn : im.needsFullName t = true
  · rw [if_pos hn, if_pos hn]
    refine Imports.Accounts.refl fun u hu hf => ?_
    obtain ⟨p, hp, hpu⟩ := List.mem_map.mp hu
    rw [Prod.mk.injEq] at hpu
    obtain ⟨rfl, hs⟩ := hpu
    have hdu := hd u (TypeRef.mem_pieces hp).1
    exact TypeRef.simpleName_ne_name hf.1 (hdu hf.1) hf.2.2 hs.symm
  · rw [if_neg hn, if_neg hn]
    have hafter := h.after_claim hdt
    have hspell : Imports.Accounts sc (im.claim t).2 ((im.claim t).2.spelled t.pieces)
        ((im.claim t).2.spell t.pieces).2 :=
      hafter.accounts_spell fun u hu =>
        ⟨hd u (TypeRef.mem_pieces hu).1, (TypeRef.mem_pieces hu).2.2⟩
    intro name
    rw [hspell name, h.isRegistered_claim hdt name, or_assoc]
    refine or_congr_right ⟨fun hor => hor.elim (fun ⟨hf, hs, hname⟩ => ?_) id, Or.inr⟩
    refine ⟨t, ?_, hf, hname⟩
    obtain ⟨more, hpieces⟩ := pieces_eq_cons hf.1 hw
    have hagain : ((im.claim t).2.resolve t).1 = t.simpleName := by
      have := sc.written_settled ledger t []
      rw [List.append_nil] at this
      rw [hafter.resolve hdt hw, this, hs]
    rw [hpieces, ← hagain]
    exact List.mem_cons_of_mem _ List.mem_cons_self

end Tracks

/-- Whether the reference can be written: the packages of all the types in it are derived, and it is
no wildcard without a bound. -/
def TypeRef.IsClear (t : TypeRef) : Prop :=
  (∀ u ∈ t.nodes, u.IsDerived) ∧ t.wildcard ≠ some .unbounded

instance (t : TypeRef) : Decidable t.IsClear :=
  inferInstanceAs (Decidable ((∀ u ∈ t.nodes, u.IsDerived) ∧ t.wildcard ≠ some .unbounded))

/-- Whether the type names in the text can be spelled. -/
def Piece.AreClear (ps : List Piece) : Prop :=
  ∀ t, Piece.typeName t ∈ ps → t.IsDerived ∧ t.wildcard ≠ some .unbounded

/-- Whether the types that a chunk names can be written. -/
def Chunk.IsClear : Chunk → Prop
  | .phrase a => Piece.AreClear a.pieces
  | .line a => Piece.AreClear a.pieces
  | .supertype t => t.IsClear
  | _ => True

/-- Whether a chunk names no types. -/
def Chunk.isLayout : Chunk → Bool
  | .phrase _ => false
  | .line _ => false
  | .supertype _ => false
  | _ => true

namespace Emission

variable {sc : Scope} {e : Emission}

theorem step_phrase_imports (e : Emission) (a : Annotation.Phrase) :
    (e.step (.phrase a)).2.imports = (e.imports.spell a.pieces).2 ∧
      (e.step (.line a)).2.imports = (e.imports.spell a.pieces).2 := by
  simp only [step, Annotation.Phrase.spell]
  cases a.fault with
  | none => exact ⟨rfl, rfl⟩
  | some f => exact ⟨rfl, rfl⟩

theorem step_phrase_fault (e : Emission) (a : Annotation.Phrase) :
    (e.step (.phrase a)).1 = a.fault.map .unwritable ∧
      (e.step (.line a)).1 = a.fault.map .unwritable := by
  simp only [step, Annotation.Phrase.spell]
  cases a.fault with
  | none => exact ⟨rfl, rfl⟩
  | some f => exact ⟨rfl, rfl⟩

/-- Only texts and supertypes make a difference to the imports. -/
theorem step_imports (e : Emission) {c : Chunk} (h : c.isLayout = true) :
    (e.step c).2.imports = e.imports := by
  cases c with
  | phrase a => cases h
  | line a => cases h
  | supertype t => cases h
  | dedent =>
    rw [step]
    split <;> rfl
  | conclude =>
    rw [step]
    split <;> rfl
  | _ => rfl

/-- Whatever a chunk does to the imports, they still follow a ledger. -/
theorem exists_tracks_step {ledger : List Claim} (h : Tracks sc ledger e.imports) {c : Chunk}
    (hc : c.IsClear) : ∃ after, Tracks sc after (e.step c).2.imports := by
  cases c with
  | phrase a =>
    rw [(e.step_phrase_imports a).1]
    exact ⟨_, h.after_spell fun t ht => (hc t ht).1⟩
  | line a =>
    rw [(e.step_phrase_imports a).2]
    exact ⟨_, h.after_spell fun t ht => (hc t ht).1⟩
  | supertype t =>
    have himports : (e.step (.supertype t)).2.imports = (e.imports.spellSupertype t).2 := rfl
    rw [himports, Imports.spellSupertype_eq]
    split
    · exact ⟨_, h⟩
    · exact ⟨_, (h.after_claim (hc.1 t t.self_mem_nodes)).after_spell fun u hu =>
        hc.1 u (TypeRef.mem_pieces hu).1⟩
  | _ => exact ⟨ledger, by rwa [step_imports _ rfl]⟩

/-- After a run the imports still follow a ledger, whether it failed or not. -/
theorem exists_tracks_run {cs : List Chunk} : ∀ {ledger : List Claim} {e : Emission},
    Tracks sc ledger e.imports → (∀ c ∈ cs, c.IsClear) →
      ∃ after, Tracks sc after (e.run cs).2.imports := by
  induction cs with
  | nil => exact fun h _ => ⟨_, h⟩
  | cons c rest ih =>
    intro ledger e h hc
    obtain ⟨after, htracks⟩ := exists_tracks_step h (hc c List.mem_cons_self)
    rw [run]
    rcases hs : e.step c with ⟨f, e'⟩
    rw [hs] at htracks
    cases f with
    | none => exact ih htracks fun d hd => hc d (List.mem_cons_of_mem c hd)
    | some f => exact ⟨after, htracks⟩

/-- A chunk that does not fail accounts for what it imports. -/
theorem step_accounts {ledger : List Claim} (h : Tracks sc ledger e.imports) {c : Chunk}
    (hc : c.IsClear) (hok : (e.step c).1 = none) :
    Imports.Accounts sc e.imports (e.spelled c) (e.step c).2.imports := by
  cases c with
  | phrase a =>
    rw [(e.step_phrase_fault a).1, Option.map_eq_none_iff] at hok
    rw [(e.step_phrase_imports a).1, spelled, if_pos hok]
    exact h.accounts_spell hc
  | line a =>
    rw [(e.step_phrase_fault a).2, Option.map_eq_none_iff] at hok
    rw [(e.step_phrase_imports a).2, spelled, if_pos hok]
    have plain : ∀ (im : Imports) (s : String), Imports.Accounts sc im [Piece.plain s] im :=
      fun im s => Imports.Accounts.refl fun t ht => by simp [Piece.plain] at ht
    exact (plain _ _).append ((h.accounts_spell hc).append (plain _ _))
  | supertype t => exact h.accounts_supertype hc.1 hc.2
  | conclude =>
    rw [step_imports _ rfl, spelled]
    split
    · exact Imports.Accounts.refl fun t ht => by simp [Piece.plain] at ht
    · exact Imports.Accounts.refl fun t ht => by simp at ht
  | _ =>
    rw [step_imports _ rfl]
    exact Imports.Accounts.refl fun t ht => by simp [spelled, Piece.plain] at ht

/-- **Everything written accounts for what is imported**, where nothing fails. -/
theorem run_accounts {cs : List Chunk} : ∀ {ledger : List Claim} {e : Emission},
    Tracks sc ledger e.imports → (∀ c ∈ cs, c.IsClear) → (e.run cs).1 = none →
      Imports.Accounts sc e.imports (e.written cs) (e.run cs).2.imports := by
  induction cs with
  | nil => exact fun _ _ _ => Imports.Accounts.refl fun t ht => absurd ht List.not_mem_nil
  | cons c rest ih =>
    intro ledger e h hc hok
    have hclear := hc c List.mem_cons_self
    obtain ⟨after, htracks⟩ := exists_tracks_step h hclear
    rw [run] at hok ⊢
    rw [written]
    rcases hs : e.step c with ⟨f, e'⟩
    rw [hs] at hok htracks
    cases f with
    | some f => cases hok
    | none =>
      have hstep := step_accounts h hclear (by rw [hs])
      rw [hs] at hstep
      exact hstep.append (ih htracks (fun d hd => hc d (List.mem_cons_of_mem c hd)) hok)

end Emission
end Intertype
