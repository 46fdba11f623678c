/-
# What is written stays as it was meant

Whether a claim is granted is settled when it is made, so every type that was written short or in full
during a run is written the same way by all the claims of the run (`Scope.spell_settled`). By those
claims two types are not written alike: a short name has one owner, and that a name is short or in
full is told by its first segment (`Scope.eq_of_written_eq`).

Key definitions: `Scope.shortForm`, `Scope.nameIn`.
Key theorems: `Claim.isGranted_append`, `Scope.spell_settled`, `Scope.eq_of_written_eq`,
`Scope.tellsApart`.
-/
import Intertype.Proofs.Imports.Tracks
import Intertype.Proofs.TypeRef.Shown

namespace Intertype

namespace Claim

/-- Whether a claim is granted is settled when it is made. -/
theorem isGranted_append (ledger : List Claim) (c : Claim) (more : List Claim) :
    isGranted (ledger ++ c :: more) c = isGranted ledger c := by
  unfold isGranted
  rw [firstOwner_append, firstOwner, if_pos rfl]
  cases firstOwner ledger c.short with
  | none => simp
  | some owner => rfl

/-- The owner in a claim that was made and granted has the name. -/
theorem firstOwner_of_isGranted {ledger : List Claim} {c : Claim} (hc : c ∈ ledger)
    (hg : isGranted ledger c = true) : firstOwner ledger c.short = some c.owner := by
  obtain ⟨owner, ho⟩ := exists_firstOwner_of_mem hc
  rw [isGranted, ho] at hg
  rw [ho, of_decide_eq_true hg]

end Claim

namespace Scope

variable (sc : Scope)

/-! ### Settled names -/

theorem isShort_settled (ledger : List Claim) (t : TypeRef) (more : List Claim) :
    sc.isShort (ledger ++ ((sc.claimOf t).toList ++ more)) t = sc.isShort ledger t := by
  unfold isShort
  cases sc.claimOf t with
  | none => rfl
  | some c => exact Claim.isGranted_append ledger c more

/-- A type is written as it is by all the claims that there are to be. -/
theorem written_settled (ledger : List Claim) (t : TypeRef) (more : List Claim) :
    sc.written (ledger ++ ((sc.claimOf t).toList ++ more)) t = sc.written ledger t := by
  unfold written
  rw [isShort_settled]

/-- What the claims have for the name of a declared type. -/
def nameIn (ledger : List Claim) (name : String) : String :=
  sc.written ledger (.declared name)

theorem written_eq_nameIn (ledger : List Claim) {t : TypeRef} (hk : t.kind = .declared)
    (hd : t.package = none) (hw : t.wildcard ≠ some .unbounded) :
    sc.written ledger t = sc.nameIn ledger t.name := by
  have hraw := Tracks.raw_eq_declared hk fun _ => hd
  have hclaim : sc.claimOf (.declared t.name) = sc.claimOf t :=
    Tracks.claimOf_declared hk (fun _ => hd) hw
  unfold nameIn written isShort
  rw [hclaim, ← hraw]
  simp only [TypeRef.raw_kind, hk]
  rfl

/-- A text is written as it is by all the claims that there are to be. -/
theorem spell_settled {ps : List Piece}
    (hps : ∀ t, Piece.typeName t ∈ ps →
      t.kind = .declared ∧ t.package = none ∧ t.wildcard ≠ some .unbounded)
    (ledger more : List Claim) : sc.spell ledger ps =
      Piece.spelledBy (sc.nameIn (ledger ++ (sc.claimsIn ps ++ more))) ps := by
  induction ps generalizing ledger with
  | nil => rfl
  | cons p rest ih =>
    have hrest := ih fun t ht => hps t (List.mem_cons_of_mem p ht)
    cases p with
    | text s => exact congrArg (s ++ ·) (hrest ledger)
    | typeVariable name => exact congrArg (name ++ ·) (hrest ledger)
    | typeName t =>
      obtain ⟨hk, hd, hw⟩ := hps t List.mem_cons_self
      have hclaims : sc.claimsIn (.typeName t :: rest) =
          (sc.claimOf t).toList ++ sc.claimsIn rest := rfl
      rw [spell, Piece.spelledBy, ← sc.written_eq_nameIn _ hk hd hw, hclaims, List.append_assoc,
        written_settled, hrest, List.append_assoc]

/-! ### Short names -/

/-- How the type is written if it has its short name. -/
def shortForm (t : TypeRef) : String :=
  if sc.covers t then t.relativeName else t.simpleName

variable {sc} {t u : TypeRef} {ledger : List Claim}

/-- A declared type has a claim. -/
theorem exists_claimOf (sc : Scope) (hr : t.IsRegular) (hk : t.kind = .declared)
    (hw : t.wildcard ≠ some .unbounded) : ∃ c, sc.claimOf t = some c := by
  cases hcov : sc.covers t with
  | true => exact ⟨_, claimOf_eq_some_iff.mpr (Or.inl ⟨hk, hcov, rfl⟩)⟩
  | false => exact ⟨_, IsForeign.claimOf ⟨hk, hcov, (hr.declared hk).2⟩ hw⟩

theorem written_cases (ledger : List Claim) (hk : t.kind = .declared) {c : Claim}
    (hc : sc.claimOf t = some c) : sc.written ledger t = t.name ∨
      (Claim.isGranted ledger c = true ∧ sc.written ledger t = sc.shortForm t) := by
  unfold written isShort
  rw [if_neg (by simp [hk]), hc, Option.any_some]
  by_cases hg : Claim.isGranted ledger c = true
  · rw [if_pos hg]
    exact Or.inr ⟨hg, rfl⟩
  · rw [if_neg hg]
    exact Or.inl rfl

/-- The short form begins with the name that is claimed, and behind it has what the name in full has
behind the owner. It begins with a capital if it is not a single segment. -/
theorem shortForm_segments (hr : t.IsRegular) (hk : t.kind = .declared) {c : Claim}
    (hc : sc.claimOf t = some c) : ∃ rest,
      Dotted.segments (sc.shortForm t).toList = c.short.toList :: rest ∧
      Dotted.segments t.name.toList = Dotted.segments c.owner.toList ++ rest ∧
      (rest ≠ [] → TypeRef.startsUpper c.short.toList = true) ∧
      (c.short = t.localName ∨ c.short = t.simpleName) := by
  obtain ⟨hd, hp⟩ := hr.declared hk
  obtain ⟨outer, inner, cut⟩ := TypeRef.exists_cut hk hd
  rcases claimOf_eq_some_iff.mp hc with ⟨-, hcov, rfl⟩ | ⟨⟨-, hcov, -⟩, -, rfl⟩
  · obtain ⟨s, rest, hinner⟩ := List.exists_cons_of_ne_nil cut.inner_ne_nil
    have hlocal : t.localName.toList = s := by rw [cut.localName hp, hinner, List.headD_cons]
    rw [shortForm, if_pos hcov]
    refine ⟨rest, ?_, ?_, fun hne => ?_, Or.inl rfl⟩
    · rw [cut.segments_relativeName hp, hinner, hlocal]
    · rw [cut.segments, cut.segments_ownerName hp, hinner, List.headD_cons, List.append_assoc]
      rfl
    · obtain ⟨u, more, rfl⟩ := List.exists_cons_of_ne_nil hne
      rw [hlocal]
      exact cut.inner_upper s u more hinner
  · rw [shortForm, hcov, if_neg Bool.false_ne_true]
    exact ⟨[], cut.segments_simpleName, (List.append_nil _).symm, fun h => absurd rfl h, Or.inr rfl⟩

/-- A short form is the name of no type in full, since that begins with a package. -/
theorem shortForm_ne_name (ht : t.IsRegular) (htk : t.kind = .declared) (hu : u.IsRegular)
    (huk : u.kind = .declared) {c : Claim} (hc : sc.claimOf t = some c) : sc.shortForm t ≠ u.name := by
  obtain ⟨hd, hp⟩ := hu.declared huk
  obtain ⟨outer, inner, cut⟩ := TypeRef.exists_cut huk hd
  obtain ⟨s, x, more, hseg, hlow⟩ := cut.segments_of_package hp
  obtain ⟨rest, hshort, -, hup, -⟩ := shortForm_segments ht htk hc
  intro he
  rw [he, hseg] at hshort
  injection hshort with hs hrest
  rw [hs, hup (by rw [← hrest]; exact List.cons_ne_nil x more)] at hlow
  cases hlow

/-- **Two types are not written alike**, once both have made their claims. -/
theorem eq_of_written_eq (ht : t.IsRegular) (htk : t.kind = .declared) (hu : u.IsRegular)
    (huk : u.kind = .declared) {c d : Claim} (hc : sc.claimOf t = some c) (hd : sc.claimOf u = some d)
    (hcl : c ∈ ledger) (hdl : d ∈ ledger) (h : sc.written ledger t = sc.written ledger u) :
    t.name = u.name := by
  rcases written_cases ledger htk hc with htn | ⟨htg, htn⟩
  · rcases written_cases ledger huk hd with hun | ⟨hug, hun⟩
    · rw [← htn, h, hun]
    · rw [htn, hun] at h
      exact absurd h.symm (shortForm_ne_name hu huk ht htk hd)
  · rcases written_cases ledger huk hd with hun | ⟨hug, hun⟩
    · rw [htn, hun] at h
      exact absurd h (shortForm_ne_name ht htk hu huk hc)
    · -- both are short: their first segments are one name, which has one owner
      rw [htn, hun] at h
      obtain ⟨rest, hts, htname, -, -⟩ := shortForm_segments ht htk hc
      obtain ⟨more, hus, huname, -, -⟩ := shortForm_segments hu huk hd
      rw [h, hus] at hts
      injection hts with hshort hrest
      have howner := Claim.firstOwner_of_isGranted hcl htg
      rw [← String.toList_inj.mp hshort, Claim.firstOwner_of_isGranted hdl hug] at howner
      injection howner with howner
      refine String.toList_inj.mp ?_
      rw [← Dotted.join_segments t.name.toList, ← Dotted.join_segments u.name.toList, htname, huname,
        howner, hrest]

/-- A type is not written like a single segment that is neither its local nor its simple name. -/
theorem written_ne_of_segment (ht : t.IsRegular) (htk : t.kind = .declared) {c : Claim}
    (hc : sc.claimOf t = some c) {x : String} (hx : '.' ∉ x.toList) (hlocal : x ≠ t.localName)
    (hsimple : x ≠ t.simpleName) : sc.written ledger t ≠ x := by
  rintro rfl
  have hone := Dotted.segments_of_notMem hx
  rcases written_cases ledger htk hc with htn | ⟨-, htn⟩
  · obtain ⟨hd, hp⟩ := ht.declared htk
    obtain ⟨outer, inner, cut⟩ := TypeRef.exists_cut htk hd
    obtain ⟨s, y, more, hseg, -⟩ := cut.segments_of_package hp
    rw [htn, hseg] at hone
    cases hone
  · obtain ⟨rest, hts, -, -, hshort⟩ := shortForm_segments ht htk hc
    rw [htn, hts] at hone
    injection hone with hname
    rw [htn] at hlocal hsimple
    have hshort' := String.toList_inj.mp hname
    rcases hshort with he | he
    · exact hlocal (hshort'.symm.trans he)
    · exact hsimple (hshort'.symm.trans he)

/-- What a declared type is written as is a word. -/
theorem isWord_written (ht : t.IsRegular) (htk : t.kind = .declared) {c : Claim}
    (hc : sc.claimOf t = some c) : TypeRef.IsWord (sc.written ledger t).toList := by
  have hname := ht.name
  rcases written_cases ledger htk hc with htn | ⟨-, htn⟩
  · rw [htn]
    exact hname.isWord
  · obtain ⟨hd, hp⟩ := ht.declared htk
    obtain ⟨outer, inner, cut⟩ := TypeRef.exists_cut htk hd
    rw [TypeRef.IsName, cut.segments] at hname
    rw [htn, shortForm]
    split
    · rw [cut.relativeName hp]
      exact TypeRef.isWord_join cut.inner_ne_nil fun s hs => hname s (List.mem_append_right _ hs)
    · exact hname _ cut.simpleName_mem

/-! ### Main results -/

/-- A type variable or a primitive type is called by a single segment. -/
theorem dot_notMem_of_bare (hu : u.IsRegular) (huk : u.kind ≠ .declared) : '.' ∉ u.name.toList := by
  have keywords : ∀ n ∈ TypeRef.primitiveNames, '.' ∉ n.toList := by decide
  cases hk : u.kind with
  | declared => exact absurd hk huk
  | typeVariable => exact hu.segment hk
  | primitive => exact keywords u.name (hu.keyword hk)

/-- Whether no type variable or primitive type in one reference is called by the local or the simple
name of a declared type in another. -/
def KeptApart (t u : TypeRef) : Prop :=
  ∀ v ∈ t.nodes, ∀ w ∈ u.nodes, v.kind = .declared → w.kind ≠ .declared →
    w.name ≠ v.localName ∧ w.name ≠ v.simpleName

instance (t u : TypeRef) : Decidable (KeptApart t u) :=
  inferInstanceAs (Decidable (∀ v ∈ t.nodes, ∀ w ∈ u.nodes, v.kind = .declared → w.kind ≠ .declared →
    w.name ≠ v.localName ∧ w.name ≠ v.simpleName))

/-- Whether the claims of all the types in a reference are in the ledger. -/
def Settles (sc : Scope) (ledger : List Claim) (t : TypeRef) : Prop :=
  ∀ v ∈ t.nodes, v.wildcard ≠ some .unbounded → ∀ c, sc.claimOf v = some c → c ∈ ledger

theorem called_nameIn (ht : t.IsRegular) (htk : t.kind = .declared)
    (htw : t.wildcard ≠ some .unbounded) : t.called (sc.nameIn ledger) = sc.written ledger t := by
  rw [TypeRef.called, if_pos htk, sc.written_eq_nameIn ledger htk (ht.declared htk).1 htw]

theorem isWord_called (ht : t.IsRegular) (htw : t.wildcard ≠ some .unbounded) :
    TypeRef.IsWord (t.called (sc.nameIn ledger)).toList := by
  by_cases htk : t.kind = .declared
  · obtain ⟨c, hc⟩ := exists_claimOf sc ht htk htw
    rw [called_nameIn ht htk htw]
    exact isWord_written ht htk hc
  · rw [TypeRef.called, if_neg htk]
    exact ht.name.isWord

/-- The names by the claims of two references tell apart what is in them. -/
theorem tellsApart (ht : t.IsBuilt) (hu : u.IsBuilt) (hts : sc.Settles ledger t)
    (hus : sc.Settles ledger u) (htu : KeptApart t u) (hut : KeptApart u t) :
    TypeRef.TellsApart (sc.nameIn ledger) t u := by
  intro v hv w hw hvw hww h
  by_cases hvk : v.kind = .declared
  · obtain ⟨c, hc⟩ := exists_claimOf sc (ht v hv) hvk hvw
    rw [called_nameIn (ht v hv) hvk hvw] at h
    by_cases hwk : w.kind = .declared
    · obtain ⟨d, hd⟩ := exists_claimOf sc (hu w hw) hwk hww
      rw [called_nameIn (hu w hw) hwk hww] at h
      exact ⟨eq_of_written_eq (ht v hv) hvk (hu w hw) hwk hc hd (hts v hv hvw c hc)
        (hus w hw hww d hd) h, fun _ => hwk, fun _ => hvk⟩
    · obtain ⟨hlocal, hsimple⟩ := htu v hv w hw hvk hwk
      rw [TypeRef.called, if_neg hwk] at h
      exact absurd h (written_ne_of_segment (ht v hv) hvk hc (dot_notMem_of_bare (hu w hw) hwk)
        hlocal hsimple)
  · by_cases hwk : w.kind = .declared
    · obtain ⟨d, hd⟩ := exists_claimOf sc (hu w hw) hwk hww
      obtain ⟨hlocal, hsimple⟩ := hut w hw v hv hwk hvk
      rw [TypeRef.called, if_neg hvk, called_nameIn (hu w hw) hwk hww] at h
      exact absurd h.symm (written_ne_of_segment (hu w hw) hwk hd (dot_notMem_of_bare (ht v hv) hvk)
        hlocal hsimple)
    · rw [TypeRef.called, TypeRef.called, if_neg hvk, if_neg hwk] at h
      exact ⟨h, fun h => absurd h hvk, fun h => absurd h hwk⟩

end Scope
end Intertype
