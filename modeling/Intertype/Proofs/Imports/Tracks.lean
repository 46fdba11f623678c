/-
# The imports follow the ledger

`Tracks` says that the imports of a unit agree with a ledger of claims: each short name has the owner
of the first claim on it, and the types registered are those whose claims were granted. It holds at
the start, and every request keeps it, the claims of the request added to the ledger. So each answer
is the one that the ledger gives, and the state of the imports is no more than what the first claims
decide.

This is for types whose packages are derived from their names. Where packages are given, one name may
be that of a type in scope and of another that is not.

Key definitions: `Tracks`, `TypeRef.IsDerived`.
Key theorems: `Tracks.start`, `Tracks.after_claim`, `Tracks.resolve`, `Tracks.spell`,
`Tracks.after_perform`, `Tracks.perform`.
-/
import Intertype.Proofs.Imports.Ledger

namespace Intertype

/-- The package of a declared type is the one that its name shows. -/
def TypeRef.IsDerived (t : TypeRef) : Prop :=
  t.kind = .declared → t.package = none

instance (t : TypeRef) : Decidable t.IsDerived :=
  inferInstanceAs (Decidable (t.kind = .declared → t.package = none))

/-- The imports agree with the ledger. -/
structure Tracks (sc : Scope) (ledger : List Claim) (im : Imports) : Prop where
  home : im.home = sc.home
  implicit : im.implicit = sc.implicit
  owner : ∀ short, im.owner short = Claim.firstOwner ledger short
  registered : im.registered = Claim.imported ledger
  /-- A claim for an owner to be imported was made in the name of that owner. -/
  foreign : ∀ c ∈ ledger, c.foreign = true → sc.claimOf (.declared c.owner) = some c

namespace Tracks

variable {sc : Scope} {ledger : List Claim} {im : Imports} {t : TypeRef}

/-! ### The questions -/

theorem raw_eq_declared (hk : t.kind = .declared) (hd : t.IsDerived) :
    t.raw = .declared t.name := by
  rw [TypeRef.raw, hk, hd hk]
  rfl

/-- A type claims what the bare type of its name claims. -/
theorem claimOf_declared (hk : t.kind = .declared) (hd : t.IsDerived)
    (hw : t.wildcard ≠ some .unbounded) : sc.claimOf (.declared t.name) = sc.claimOf t := by
  rw [← raw_eq_declared hk hd]
  have hraw : t.raw.wildcard ≠ some .unbounded := by simp [TypeRef.raw]
  unfold Scope.claimOf
  simp only [hw, hraw, or_false]
  rfl

theorem inScope (h : Tracks sc ledger im) (t : TypeRef) : im.inScope t = sc.covers t := by
  rw [Imports.inScope, Scope.covers, h.home, h.implicit]

theorem isFreeFor (h : Tracks sc ledger im) (c : Claim) :
    im.isFreeFor c.short c.owner = Claim.isGranted ledger c := by
  rw [Imports.isFreeFor, h.owner]
  rfl

theorem map_name_imported (ledger : List Claim) :
    (Claim.imported ledger).map (·.name) = Claim.importedNames ledger := by
  rw [Claim.imported, List.map_map]
  exact List.map_id' _

theorem isRegistered (h : Tracks sc ledger im) (name : String) :
    im.isRegistered name = true ↔ name ∈ Claim.importedNames ledger := by
  rw [Imports.isRegistered_iff, h.registered, map_name_imported]

/-- An import may be registered if the claim for it is granted. -/
theorem isLegal (h : Tracks sc ledger im) (t : TypeRef) :
    im.isLegal t = (sc.importClaimOf t).any (Claim.isGranted ledger) := by
  unfold Imports.isLegal Scope.importClaimOf Scope.claimOf
  rw [h.inScope]
  by_cases hk : t.kind = .declared
  · by_cases hc : sc.covers t = true
    · simp [hk, hc]
    · by_cases hn : t.isDefaultPackage = true ∨ t.wildcard = some .unbounded
      · rcases hn with hn | hn <;> simp [hk, hc, hn]
      · rw [not_or] at hn
        simpa [hk, hc, hn.1, hn.2] using h.isFreeFor ⟨t.simpleName, t.name, true⟩
  · simp [hk]

/-- A type that is registered claims its simple name, and has it. -/
theorem claim_of_isRegistered (h : Tracks sc ledger im) (hk : t.kind = .declared) (hd : t.IsDerived)
    (hr : im.isRegistered t.name = true) : sc.covers t = false ∧
      t.name ∈ Claim.importedNames ledger ∧
      (t.wildcard ≠ some .unbounded → ∃ c, sc.claimOf t = some c ∧ c.foreign = true ∧
        c.owner = t.name ∧ Claim.isGranted ledger c = true) := by
  have hm := (h.isRegistered t.name).mp hr
  obtain ⟨c, hc, hf, ho, hn⟩ := Claim.mem_importedNames.mp hm
  have hcl := h.foreign c hc hf
  rw [hn] at hcl
  refine ⟨?_, hm, fun hw => ⟨c, ?_, hf, hn, ?_⟩⟩
  · -- a type in scope would make a claim that is not foreign
    cases hcov : sc.covers t with
    | false => rfl
    | true =>
      have hraw : sc.covers t.raw = true := hcov
      rw [← raw_eq_declared hk hd, Scope.claimOf, if_neg (by simp [TypeRef.raw_kind, hk]),
        if_pos hraw] at hcl
      injection hcl with hcl
      rw [← hcl] at hf
      cases hf
  · rw [← claimOf_declared hk hd hw]
    exact hcl
  · rw [Claim.isGranted_iff]
    exact Claim.firstOwner_append_of_some ho _

/-- A type has to be written in full if it has no claim or one that is not granted. -/
theorem needsFullName (h : Tracks sc ledger im) (hd : t.IsDerived)
    (hw : t.wildcard ≠ some .unbounded) :
    im.needsFullName t = (decide (t.kind = .declared) && !sc.isShort ledger t) := by
  unfold Imports.needsFullName
  by_cases hk : t.kind = .declared
  · by_cases hr : im.isRegistered t.name = true
    · obtain ⟨-, -, hc⟩ := h.claim_of_isRegistered hk hd hr
      obtain ⟨c, hc, -, -, hg⟩ := hc hw
      simp [hk, hr, Scope.isShort, hc, hg]
    · rw [h.inScope, h.isLegal]
      by_cases hc : sc.covers t = true
      · have := h.isFreeFor ⟨t.localName, t.ownerName, false⟩
        simpa [hk, hr, hc, Scope.isShort, Scope.claimOf] using this
      · have : sc.importClaimOf t = sc.claimOf t := by
          unfold Scope.importClaimOf Scope.claimOf
          simp only [hk, hc, ne_eq, not_true_eq_false, if_false, Bool.false_eq_true]
          split <;> simp
        simp [hk, hr, hc, Scope.isShort, this]
  · simp [hk]

/-! ### The changes -/

/-- What is left to check when a claim is added: the name claimed has an owner, and a foreign owner
that is granted it is imported. -/
theorem extend {after : Imports} {c : Claim} (h : Tracks sc ledger im)
    (hf : c.foreign = true → sc.claimOf (.declared c.owner) = some c)
    (hhome : after.home = im.home) (himplicit : after.implicit = im.implicit)
    (howner : ∀ short, after.owner short =
      (im.owner short).or (if c.short = short then some c.owner else none))
    (hregistered : after.registered =
      if c.foreign = true ∧ Claim.isGranted ledger c = true ∧ c.owner ∉ Claim.importedNames ledger then
        im.registered ++ [.declared c.owner]
      else im.registered) : Tracks sc (ledger ++ [c]) after where
  home := hhome.trans h.home
  implicit := himplicit.trans h.implicit
  owner short := by
    rw [howner, h.owner, Claim.firstOwner_append, Claim.firstOwner_singleton]
  registered := by
    rw [hregistered, h.registered, Claim.imported, Claim.imported, Claim.importedNames_append]
    split
    · rw [List.map_append, List.map_singleton]
    · rfl
  foreign d hd hdf := by
    rcases List.mem_append.mp hd with hd | hd
    · exact h.foreign d hd hdf
    · rw [List.mem_singleton] at hd
      rw [hd] at hdf ⊢
      exact hf hdf

/-- A claim for an owner that needs no import is made by binding the name. -/
theorem after_bind {c : Claim} (h : Tracks sc ledger im) (hf : c.foreign = false) :
    Tracks sc (ledger ++ [c]) (im.bind c.short c.owner) := by
  refine h.extend (fun hc => ?_) (Imports.bind_home ..) (Imports.bind_implicit ..) (Imports.bind_owner _ _ _) ?_
  · rw [hf] at hc
    cases hc
  · rw [Imports.bind_registered, if_neg fun hc => by rw [hf] at hc; cases hc.1]

/-- A claim granted to an owner that is not yet imported is made by registering it. -/
theorem after_register (h : Tracks sc ledger im) {c : Claim} (hf : c.foreign = true)
    (hc : sc.claimOf (.declared c.owner) = some c) (hg : Claim.isGranted ledger c = true)
    (hr : c.owner ∉ Claim.importedNames ledger) :
    Tracks sc (ledger ++ [c])
      (Imports.bind { im with registered := im.registered ++ [.declared c.owner] } c.short c.owner) := by
  refine h.extend (fun _ => hc) (Imports.bind_home ..) (Imports.bind_implicit ..) (Imports.bind_owner _ _ _) ?_
  rw [Imports.bind_registered, if_pos ⟨hf, hg, hr⟩]

/-- A claim changes nothing if it is refused, or if its owner is imported already. -/
theorem unchanged (h : Tracks sc ledger im) {c : Claim}
    (hf : c.foreign = true → sc.claimOf (.declared c.owner) = some c)
    (hc : Claim.isGranted ledger c = true → c.foreign = true ∧ c.owner ∈ Claim.importedNames ledger) :
    Tracks sc (ledger ++ [c]) im := by
  refine h.extend hf rfl rfl (fun short => ?_) ?_
  · by_cases hs : c.short = short
    · -- the name has an owner already
      have : ∃ owner, Claim.firstOwner ledger c.short = some owner := by
        by_cases hg : Claim.isGranted ledger c = true
        · obtain ⟨hfor, hm⟩ := hc hg
          obtain ⟨d, hd, hdf, -, hdn⟩ := Claim.mem_importedNames.mp hm
          have hdc := h.foreign d hd hdf
          rw [hdn, hf hfor] at hdc
          injection hdc with hdc
          rw [hdc]
          exact Claim.exists_firstOwner_of_mem hd
        · obtain ⟨owner, ho, -⟩ := Claim.exists_of_not_isGranted hg
          exact ⟨owner, ho⟩
      obtain ⟨owner, ho⟩ := this
      rw [← hs, h.owner, ho, Option.some_or]
    · rw [if_neg hs, Option.or_none]
  · rw [if_neg fun hn => hn.2.2 (hc hn.2.1).2]

/-! ### The requests -/

/-- The bare type of the name claims the same for a type outside the scope. -/
theorem claimOf_declared_foreign (hf : sc.IsForeign t) (hd : t.IsDerived)
    (hw : t.wildcard ≠ some .unbounded) :
    sc.claimOf (.declared t.name) = some ⟨t.simpleName, t.name, true⟩ := by
  rw [claimOf_declared hf.1 hd hw, hf.claimOf hw]

/-- To claim a type whose import may be registered is to register it. -/
theorem register (h : Tracks sc ledger im) (hf : sc.IsForeign t) (hd : t.IsDerived)
    (hw : t.wildcard ≠ some .unbounded)
    (hg : Claim.isGranted ledger ⟨t.simpleName, t.name, true⟩ = true) :
    Tracks sc (ledger ++ [⟨t.simpleName, t.name, true⟩]) (im.register t) := by
  have hcl := claimOf_declared_foreign hf hd hw
  unfold Imports.register
  by_cases hr : im.isRegistered t.name = true
  · rw [if_pos hr]
    exact h.unchanged (fun _ => hcl) fun _ => ⟨rfl, (h.isRegistered _).mp hr⟩
  · rw [if_neg hr, raw_eq_declared hf.1 hd]
    exact h.after_register rfl hcl hg fun hm => hr ((h.isRegistered _).mpr hm)

/-- The claim of a type outside the scope changes nothing if it is refused. -/
theorem refused (h : Tracks sc ledger im) (hf : sc.IsForeign t) (hd : t.IsDerived)
    (hw : t.wildcard ≠ some .unbounded)
    (hg : ¬ Claim.isGranted ledger ⟨t.simpleName, t.name, true⟩ = true) :
    Tracks sc (ledger ++ [⟨t.simpleName, t.name, true⟩]) im :=
  h.unchanged (fun _ => claimOf_declared_foreign hf hd hw) fun hg' => absurd hg' hg

/-- A type without a claim is left alone. -/
theorem claim_snd_of_none (h : Tracks sc ledger im) (hcl : sc.claimOf t = none) :
    (im.claim t).2 = im := by
  have hlegal : im.isLegal t = false := by
    rw [h.isLegal, Scope.importClaimOf, hcl]
    rfl
  have hcov : t.kind = .declared → sc.covers t = false := by
    refine fun hk => Bool.eq_false_iff.mpr fun hcov => ?_
    rw [Scope.claimOf_eq_some_iff.mpr (Or.inl ⟨hk, hcov, rfl⟩)] at hcl
    cases hcl
  rw [Imports.claim_snd, h.inScope, hlegal]
  by_cases hk : t.kind = .declared
  · rw [hcov hk]
    exact ite_self im
  · exact if_neg fun hn => hk hn.1

/-- To claim a type makes its claim. -/
theorem after_claim (h : Tracks sc ledger im) (hd : t.IsDerived) :
    Tracks sc (ledger ++ (sc.claimOf t).toList) (im.claim t).2 := by
  cases hcl : sc.claimOf t with
  | none =>
    rw [h.claim_snd_of_none hcl, Option.toList_none, List.append_nil]
    exact h
  | some c =>
    rw [Option.toList_some]
    rcases Scope.claimOf_eq_some_iff.mp hcl with ⟨hk, hcov, rfl⟩ | ⟨hf, hw, rfl⟩
    · -- a type in scope binds its local name, where that is granted
      have hr : im.isRegistered t.name = false := by
        refine Bool.eq_false_iff.mpr fun hr => ?_
        rw [(h.claim_of_isRegistered hk hd hr).1] at hcov
        cases hcov
      have hfree := h.isFreeFor ⟨t.localName, t.ownerName, false⟩
      by_cases hg : Claim.isGranted ledger ⟨t.localName, t.ownerName, false⟩ = true
      · rw [Imports.claim_snd, if_pos ⟨hk, hr⟩, h.inScope, if_pos hcov, if_pos (hfree.trans hg)]
        exact h.after_bind (c := ⟨t.localName, t.ownerName, false⟩) rfl
      · rw [Imports.claim_snd, if_pos ⟨hk, hr⟩, h.inScope, if_pos hcov, if_neg (hfree ▸ hg)]
        exact h.unchanged (fun hf => by cases hf) fun hg' => absurd hg' hg
    · -- a type outside the scope is registered, where its claim is granted
      have ⟨hk, hcov, _⟩ := hf
      by_cases hr : im.isRegistered t.name = true
      · rw [Imports.claim_snd, if_neg fun hn => by rw [hr] at hn; cases hn.2]
        exact h.unchanged (fun _ => claimOf_declared_foreign hf hd hw)
          fun _ => ⟨rfl, (h.isRegistered _).mp hr⟩
      rw [Bool.not_eq_true] at hr
      have hlegal := h.isLegal t
      rw [hf.importClaimOf hw, Option.any_some] at hlegal
      by_cases hg : Claim.isGranted ledger ⟨t.simpleName, t.name, true⟩ = true
      · rw [Imports.claim_snd, if_pos ⟨hk, hr⟩, h.inScope, if_neg (by simp [hcov]),
          if_pos (hlegal.trans hg)]
        exact h.register hf hd hw hg
      · rw [Imports.claim_snd, if_pos ⟨hk, hr⟩, h.inScope, if_neg (by simp [hcov]),
          if_neg (hlegal ▸ hg)]
        exact h.refused hf hd hw hg

/-- A type from outside the scope that is written short is imported. -/
theorem mem_importedNames_of_isShort (hcov : sc.covers t = false)
    (hs : sc.isShort ledger t = true) :
    t.name ∈ Claim.importedNames (ledger ++ (sc.claimOf t).toList) := by
  obtain ⟨c, hcl, hg⟩ := (Option.any_eq_true _ _).mp hs
  have hc := Scope.eq_of_claimOf hcov hcl
  rw [hcl, Option.toList_some]
  refine Claim.mem_importedNames.mpr ⟨c, List.mem_append_right _ List.mem_cons_self, ?_,
    Claim.isGranted_iff.mp hg, ?_⟩
  · rw [hc]
  · rw [hc]

/-- A type is written as the ledger has it. -/
theorem resolve (h : Tracks sc ledger im) (hd : t.IsDerived) (hw : t.wildcard ≠ some .unbounded) :
    (im.resolve t).1 = sc.written ledger t := by
  rw [Imports.resolve_fst, Scope.written]
  by_cases hk : t.kind = .declared
  · have hne : ¬ t.kind ≠ .declared := fun hne => hne hk
    rw [if_neg hne, if_neg hne, h.needsFullName hd hw]
    by_cases hs : sc.isShort ledger t = true
    · rw [if_neg (by simp [hs]), if_pos hs]
      have hafter := h.after_claim hd
      cases hcov : sc.covers t with
      | true =>
        rw [if_pos rfl, if_neg]
        intro hr
        rw [(hafter.claim_of_isRegistered hk hd hr).1] at hcov
        cases hcov
      | false =>
        rw [if_neg Bool.false_ne_true, if_pos]
        rw [hafter.isRegistered]
        exact mem_importedNames_of_isShort hcov hs
    · rw [if_pos (by simp [hk, hs]), if_neg hs]
  · rw [if_pos hk, if_pos hk]

theorem after_resolve (h : Tracks sc ledger im) (hd : t.IsDerived) :
    Tracks sc (ledger ++ (sc.claimOf t).toList) (im.resolve t).2 := by
  rw [Imports.resolve_snd]
  exact h.after_claim hd

/-- To write a text makes the claims of its type names. -/
theorem after_spell {ps : List Piece} (h : Tracks sc ledger im)
    (hd : ∀ t, Piece.typeName t ∈ ps → t.IsDerived) :
    Tracks sc (ledger ++ sc.claimsIn ps) (im.spell ps).2 := by
  induction ps generalizing ledger im with
  | nil =>
    rw [Scope.claimsIn, List.flatMap_nil, List.append_nil]
    exact h
  | cons p rest ih =>
    have hrest := fun t ht => hd t (List.mem_cons_of_mem p ht)
    rw [Scope.claimsIn, List.flatMap_cons, ← List.append_assoc]
    refine ih ?_ hrest
    cases p with
    | text s =>
      rw [List.append_nil]
      exact h
    | typeVariable name =>
      rw [List.append_nil]
      exact h
    | typeName t => exact h.after_resolve (hd t List.mem_cons_self)

/-- A text is written as the ledger has it. -/
theorem spell {ps : List Piece} (h : Tracks sc ledger im)
    (hd : ∀ t, Piece.typeName t ∈ ps → t.IsDerived ∧ t.wildcard ≠ some .unbounded) :
    (im.spell ps).1 = sc.spell ledger ps := by
  induction ps generalizing ledger im with
  | nil => rfl
  | cons p rest ih =>
    have hrest := fun t ht => hd t (List.mem_cons_of_mem p ht)
    rw [Imports.spell]
    cases p with
    | text s => exact congrArg (s ++ ·) (ih h hrest)
    | typeVariable name => exact congrArg (name ++ ·) (ih h hrest)
    | typeName t =>
      obtain ⟨hdt, hwt⟩ := hd t List.mem_cons_self
      show (im.resolve t).1 ++ ((im.resolve t).2.spell rest).1 = _
      rw [h.resolve hdt hwt, ih (h.after_resolve hdt) hrest, Scope.spell]

/-- To register an import makes the claim for it, whether or not that is legal. -/
theorem after_add (h : Tracks sc ledger im) (hd : t.IsDerived) :
    Tracks sc (ledger ++ (sc.importClaimOf t).toList)
      (match im.add t with
        | .ok after => after
        | .error _ => im) := by
  have hlegal := h.isLegal t
  unfold Imports.add
  cases hcl : sc.importClaimOf t with
  | none =>
    rw [hcl, Option.any_none] at hlegal
    rw [hlegal, if_neg Bool.false_ne_true, Option.toList_none, List.append_nil]
    exact h
  | some c =>
    obtain ⟨hf, hw, rfl⟩ := Scope.importClaimOf_eq_some_iff.mp hcl
    rw [hcl, Option.any_some] at hlegal
    rw [hlegal, Option.toList_some]
    by_cases hg : Claim.isGranted ledger ⟨t.simpleName, t.name, true⟩ = true
    · rw [if_pos hg]
      exact h.register hf hd hw hg
    · rw [if_neg hg]
      exact h.refused hf hd hw hg

/-! ### Runs -/

/-- The reserved types have their local names from the start. -/
theorem start (sc : Scope) (reserved : List TypeRef) :
    Tracks sc (reserved.map Scope.reservedClaim) (.start sc.home sc.implicit reserved) := by
  have hempty : Tracks sc [] { home := sc.home, implicit := sc.implicit } :=
    ⟨rfl, rfl, fun _ => rfl, rfl, fun c hc => absurd hc List.not_mem_nil⟩
  have hfold : ∀ (ts : List TypeRef) (ledger : List Claim) (im : Imports), Tracks sc ledger im →
      Tracks sc (ledger ++ ts.map Scope.reservedClaim)
        (ts.foldl (fun im t => im.bind t.localName t.ownerName) im) := by
    intro ts
    induction ts with
    | nil =>
      intro ledger im h
      rw [List.map_nil, List.append_nil]
      exact h
    | cons t rest ih =>
      intro ledger im h
      rw [List.map_cons, List.append_cons, List.foldl_cons]
      exact ih _ _ (h.after_bind (c := Scope.reservedClaim t) rfl)
  exact hfold reserved [] _ hempty

/-- The types that a request names are derived, those among their arguments included. -/
theorem isDerived_of_mem_returnPieces {static : Bool} (hd : ∀ u ∈ t.nodes, u.IsDerived) {u : TypeRef}
    (hu : Piece.typeName u ∈ t.returnPieces static) :
    u.IsDerived ∧ u.wildcard ≠ some .unbounded := by
  have : Piece.typeName u ∈ t.pieces := by
    unfold TypeRef.returnPieces at hu
    split at hu
    · rw [TypeRef.staticPieces, List.mem_cons] at hu
      rcases hu with hu | hu
      · cases hu
      · exact hu
    · exact hu
  obtain ⟨hn, -, hw⟩ := TypeRef.mem_pieces this
  exact ⟨hd u hn, hw⟩

/-- After a request the ledger has the claims of the request. -/
theorem after_perform {s : Imports.Step} (h : Tracks sc ledger im)
    (hd : ∀ t ∈ s.types, ∀ u ∈ t.nodes, u.IsDerived) :
    Tracks sc (ledger ++ sc.claimsOf s) (im.perform s).2 := by
  have self : ∀ t ∈ s.types, t.IsDerived := fun t ht => hd t ht t t.self_mem_nodes
  cases s with
  | add t =>
    have := h.after_add (self t List.mem_cons_self)
    rw [Imports.perform]
    cases hadd : im.add t with
    | ok after => rwa [hadd] at this
    | error f => rwa [hadd] at this
  | claim t => exact h.after_claim (self t List.mem_cons_self)
  | resolve t => exact h.after_resolve (self t List.mem_cons_self)
  | render t static =>
    exact h.after_spell fun u hu =>
      (isDerived_of_mem_returnPieces (hd t List.mem_cons_self) hu).1
  | annotate a =>
    have hnames : ∀ u, Piece.typeName u ∈ a.phrase.pieces → u.IsDerived :=
      fun u hu => self u <| Annotation.mem_phrase hu
    have := h.after_spell hnames
    rw [Imports.perform, Annotation.Phrase.spell]
    cases a.phrase.fault with
    | none => exact this
    | some f => exact this
  | isLegal t => exact (List.append_nil ledger).symm ▸ h
  | needsFullName t => exact (List.append_nil ledger).symm ▸ h
  | sorted => exact (List.append_nil ledger).symm ▸ h

/-- **A request is answered as the ledger answers it**, where the types it names are derived and none
is itself a wildcard without a bound. -/
theorem perform {s : Imports.Step} (h : Tracks sc ledger im)
    (hd : ∀ t ∈ s.types, ∀ u ∈ t.nodes, u.IsDerived)
    (hw : ∀ t ∈ s.types, t.wildcard ≠ some .unbounded) :
    (im.perform s).1 = sc.answer ledger s := by
  have self : ∀ t ∈ s.types, t.IsDerived ∧ t.wildcard ≠ some .unbounded :=
    fun t ht => ⟨hd t ht t t.self_mem_nodes, hw t ht⟩
  cases s with
  | add t =>
    rw [Imports.perform, Scope.answer, Imports.add, h.isLegal, h.home]
    split <;> rename_i he
    · split at he
      · rename_i hg
        rw [if_pos hg]
      · cases he
    · split at he
      · cases he
      · rename_i hg
        injection he with he
        rw [if_neg hg, he]
  | claim t =>
    obtain ⟨hdt, hwt⟩ := self t List.mem_cons_self
    rw [Imports.perform, Scope.answer, Imports.claim_fst, h.needsFullName hdt hwt]
  | resolve t =>
    obtain ⟨hdt, hwt⟩ := self t List.mem_cons_self
    rw [Imports.perform, Scope.answer, h.resolve hdt hwt]
  | render t static =>
    rw [Imports.perform, Scope.answer, h.spell fun u hu =>
      isDerived_of_mem_returnPieces (hd t List.mem_cons_self) hu]
  | annotate a =>
    have hnames : ∀ u, Piece.typeName u ∈ a.phrase.pieces →
        u.IsDerived ∧ u.wildcard ≠ some .unbounded :=
      fun u hu => self u <| Annotation.mem_phrase hu
    have := h.spell hnames
    rw [Imports.perform, Scope.answer, Annotation.Phrase.spell]
    cases a.phrase.fault with
    | none => exact congrArg Imports.Answer.text this
    | some f => rfl
  | isLegal t => rw [Imports.perform, Scope.answer, h.isLegal]
  | needsFullName t =>
    obtain ⟨hdt, hwt⟩ := self t List.mem_cons_self
    rw [Imports.perform, Scope.answer, h.needsFullName hdt hwt]
  | sorted => rw [Imports.perform, Scope.answer, Imports.sorted, h.registered]

end Tracks
end Intertype
