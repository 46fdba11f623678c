/-
# Asking and claiming

Whether a type has to be written in full can be asked without consequences, and it can be claimed,
which decides the same question and may bind a short name for it. The two agree in every state, the one
before the claim and the one after it: a claim that is refused changes nothing, and one that is granted
is there to stay.

To claim a type takes something away from another type only if both have one short name. Then the other
has to be written in full from now on, unless the two have one owner
(`Imports.Grows.needsFullName_iff`). This holds of whatever makes the imports grow.

Registering an import is checked to be legal wherever it happens, also within a claim, where the check
never fails (`Imports.claimChecked_eq`).

Key definitions: `Imports.claimChecked`, `Imports.resolveChecked`, `Imports.shortName`,
`Imports.shortOwner`, `Imports.HasShortName`.
Key theorems: `Imports.claimChecked_eq`, `Imports.needsFullName_eq_false_iff`,
`Imports.needsFullName_claim`, `Imports.Grows.needsFullName_iff`, `Imports.query_agrees`.
-/
import Intertype.Proofs.Imports.Table

namespace Intertype
namespace Imports

variable {im after : Imports} {t u : TypeRef} {allowed : TypeRef → Prop}

/-! ### Checks that never fail -/

/-- The claim of a type where registering it is checked to be legal. -/
def claimChecked (im : Imports) (t : TypeRef) : Except Fault (Bool × Imports) :=
  if im.needsFullName t then .ok (true, im)
  else if t.kind = .declared ∧ im.isRegistered t.name = false then
    if im.inScope t then .ok (false, im.bind t.localName t.ownerName)
    else (im.add t).map fun after => (false, after)
  else .ok (false, im)

/-- The name to write for the type, where registering it is checked to be legal. -/
def resolveChecked (im : Imports) (t : TypeRef) : Except Fault (String × Imports) :=
  if t.kind = .declared then
    (im.claimChecked t).map fun
      | (true, after) => (t.name, after)
      | (false, after) =>
        (if after.isRegistered t.name then t.simpleName else t.relativeName, after)
  else .ok (t.simpleName, im)

/-- A type that need not be written in full and is not in scope may be registered. -/
theorem claimChecked_eq (im : Imports) (t : TypeRef) : im.claimChecked t = .ok (im.claim t) := by
  unfold claimChecked claim
  by_cases hn : im.needsFullName t = true
  · rw [if_pos hn, if_pos hn]
  rw [if_neg hn, if_neg hn]
  by_cases hk : t.kind = .declared ∧ im.isRegistered t.name = false
  · rw [if_pos hk, if_pos hk]
    by_cases hs : im.inScope t = true
    · rw [if_pos hs, if_pos hs]
    · rw [if_neg hs, if_neg hs]
      have hlegal : im.isLegal t = true := by
        rw [needsFullName_eq hk.1 hk.2, if_neg hs] at hn
        simpa using hn
      rw [add, if_pos hlegal]
      rfl
  · rw [if_neg hk, if_neg hk]

theorem resolveChecked_eq (im : Imports) (t : TypeRef) :
    im.resolveChecked t = .ok (im.resolve t) := by
  unfold resolveChecked resolve
  by_cases hk : t.kind = .declared
  · rw [if_pos hk, if_pos hk, claimChecked_eq]
    rcases im.claim t with ⟨full, after⟩
    cases full <;> rfl
  · rw [if_neg hk, if_neg hk]

/-! ### Short names -/

/-- The name that a type has to itself in the unit where it is not written in full. -/
def shortName (im : Imports) (t : TypeRef) : String :=
  if im.inScope t then t.localName else t.simpleName

/-- What the short name of a type has to stand for. -/
def shortOwner (im : Imports) (t : TypeRef) : String :=
  if im.inScope t then t.ownerName else t.name

/-- Whether a type can be written by a short name at all: it is in scope, or it can be imported. -/
def HasShortName (im : Imports) (t : TypeRef) : Prop :=
  im.inScope t = true ∨ t.wildcard ≠ some .unbounded ∧ t.packageName ≠ ""

/-- A type that is not imported yet need not be written in full if it has a short name, and that is
free or its own. -/
theorem needsFullName_eq_false_iff (hk : t.kind = .declared) (hr : im.isRegistered t.name = false) :
    im.needsFullName t = false ↔
      im.HasShortName t ∧ im.isFreeFor (im.shortName t) (im.shortOwner t) = true := by
  rw [needsFullName_eq hk hr, Bool.not_eq_false', shortName, shortOwner, HasShortName]
  by_cases hs : im.inScope t = true
  · rw [if_pos hs, if_pos hs, if_pos hs]
    exact ⟨fun hfree => ⟨Or.inl hs, hfree⟩, fun h => h.2⟩
  · rw [if_neg hs, if_neg hs, if_neg hs, isLegal_eq_true_iff]
    constructor
    · rintro ⟨-, hw, hp, -, hfree⟩
      exact ⟨Or.inr ⟨hw, hp⟩, hfree⟩
    · rintro ⟨hshort, hfree⟩
      obtain ⟨hw, hp⟩ := hshort.resolve_left hs
      exact ⟨hk, hw, hp, Bool.eq_false_iff.mpr hs, hfree⟩

theorem needsFullName_of_not_declared (hk : t.kind ≠ .declared) : im.needsFullName t = false := by
  simp [needsFullName, hk]

theorem needsFullName_of_isRegistered (hr : im.isRegistered t.name = true) :
    im.needsFullName t = false := by
  simp [needsFullName, hr]

/-- A type that has to be written in full is a declared one that is not imported. -/
theorem new_of_needsFullName (hn : im.needsFullName t = true) :
    t.kind = .declared ∧ im.isRegistered t.name = false := by
  constructor
  · by_contra hk
    rw [needsFullName_of_not_declared hk] at hn
    cases hn
  · by_contra hr
    rw [needsFullName_of_isRegistered (Bool.not_eq_false _ ▸ hr)] at hn
    cases hn

namespace Grows

theorem shortName (h : im.Grows allowed after) (u : TypeRef) : after.shortName u = im.shortName u := by
  rw [Imports.shortName, Imports.shortName, h.inScope]

theorem shortOwner (h : im.Grows allowed after) (u : TypeRef) :
    after.shortOwner u = im.shortOwner u := by
  rw [Imports.shortOwner, Imports.shortOwner, h.inScope]

theorem hasShortName (h : im.Grows allowed after) (u : TypeRef) :
    after.HasShortName u ↔ im.HasShortName u := by
  rw [HasShortName, HasShortName, h.inScope]

end Grows

/-! ### The type that is claimed -/

/-- A claim that is refused changes nothing, and neither does one of no declared type. -/
theorem claim_unchanged (h : im.needsFullName t = true ∨ t.kind ≠ .declared) :
    (im.claim t).2 = im := by
  unfold claim
  by_cases hn : im.needsFullName t = true
  · rw [if_pos hn]
  · have hk : ¬ (t.kind = .declared ∧ im.isRegistered t.name = false) :=
      fun hnew => h.resolve_left hn hnew.1
    rw [if_neg hn, if_neg hk]

/-- What a claim that is granted leaves: the short name stands for the owner, and a type that is not in
scope is imported. -/
theorem claim_granted (hk : t.kind = .declared) (hr : im.isRegistered t.name = false)
    (hn : im.needsFullName t = false) :
    (im.claim t).2 =
      if im.inScope t then im.bind (im.shortName t) (im.shortOwner t) else im.register t := by
  rw [claim, if_neg (Bool.eq_false_iff.mp hn), if_pos ⟨hk, hr⟩, shortName, shortOwner]
  split <;> rfl

/-- **Asking again gives the same answer.** -/
theorem needsFullName_claim (im : Imports) (t : TypeRef) :
    (im.claim t).2.needsFullName t = im.needsFullName t := by
  cases hn : im.needsFullName t with
  | true => rw [claim_unchanged (Or.inl hn), hn]
  | false =>
    by_cases hk : t.kind = .declared
    · cases hr : im.isRegistered t.name with
      | true =>
        have hgrows : im.Grows (· = t) (im.claim t).2 := im.grows_claim rfl
        exact needsFullName_of_isRegistered (hgrows.isRegistered hr)
      | false =>
        obtain ⟨hshort, hfree⟩ := (needsFullName_eq_false_iff hk hr).mp hn
        rw [claim_granted hk hr hn]
        by_cases hs : im.inScope t = true
        · have hgrows : im.Grows (fun _ => False) (im.bind (im.shortName t) (im.shortOwner t)) :=
            .bind _ _ .refl
          have hr' : (im.bind (im.shortName t) (im.shortOwner t)).isRegistered t.name = false := by
            rwa [isRegistered, bind_registered]
          rw [if_pos hs]
          refine (needsFullName_eq_false_iff hk hr').mpr ⟨Or.inl (hgrows.inScope t ▸ hs), ?_⟩
          rw [hgrows.shortName, hgrows.shortOwner, isFreeFor_iff, owner_bind_of_isFreeFor hfree]
          exact fun o ho => (Option.some.inj ho).symm
        · rw [if_neg hs]
          exact needsFullName_of_isRegistered (isRegistered_register im t)
    · exact needsFullName_of_not_declared hk

theorem eq_of_owner_bind {short name owner o : String} (ho : (im.bind name owner).owner short = some o)
    (hfree : im.owner short = none) : short = name ∧ o = owner := by
  rw [bind_owner, hfree, Option.none_or] at ho
  by_cases hname : name = short
  · rw [if_pos hname] at ho
    exact ⟨hname.symm, (Option.some.inj ho).symm⟩
  · rw [if_neg hname] at ho
    cases ho

/-- A name that a claim binds is the short name of the type, for its owner. -/
theorem eq_of_owner_claim {short o : String} (hfree : im.owner short = none)
    (ho : (im.claim t).2.owner short = some o) : short = im.shortName t ∧ o = im.shortOwner t := by
  have hchanged : (im.claim t).2 ≠ im := by
    intro hsame
    rw [hsame, hfree] at ho
    cases ho
  have hn : im.needsFullName t = false :=
    Bool.eq_false_iff.mpr fun hn => hchanged (claim_unchanged (Or.inl hn))
  have hk : t.kind = .declared := by
    by_contra hk
    exact hchanged (claim_unchanged (Or.inr hk))
  have hr : im.isRegistered t.name = false := by
    by_contra hr
    exact hchanged (by rw [claim_snd, if_neg fun hnew => hr hnew.2])
  rw [claim_granted hk hr hn] at ho
  by_cases hs : im.inScope t = true
  · rw [if_pos hs] at ho
    exact eq_of_owner_bind ho hfree
  · rw [if_neg hs, register, if_neg (Bool.eq_false_iff.mp hr)] at ho
    rw [shortName, shortOwner, if_neg hs, if_neg hs]
    exact eq_of_owner_bind ho hfree

/-! ### The other types -/

namespace Grows

/-- What is imported under a name that no type allowed has, was so before. -/
theorem isRegistered_eq (h : im.Grows allowed after) (hne : ∀ v, allowed v → u.name ≠ v.name) :
    after.isRegistered u.name = im.isRegistered u.name := by
  rw [Bool.eq_iff_iff]
  refine ⟨fun hr => ?_, h.isRegistered⟩
  obtain ⟨w, hw, hname⟩ := List.mem_map.mp (isRegistered_iff.mp hr)
  rcases h.of_mem_registered hw with hw | ⟨v, hv, rfl⟩
  · exact isRegistered_iff.mpr (List.mem_map.mpr ⟨w, hw, hname⟩)
  · exact absurd hname.symm (hne v hv)

/-- A name that is not free for an owner is never free for it again. -/
theorem isFreeFor (h : im.Grows allowed after) {short owner : String}
    (hfree : after.isFreeFor short owner = true) : im.isFreeFor short owner = true :=
  isFreeFor_iff.mpr fun _ ho => isFreeFor_iff.mp hfree _ (h.owner_of_some ho)

/-- A type that has to be written in full stays so while others are imported. -/
theorem needsFullName (h : im.Grows allowed after) (hne : ∀ v, allowed v → u.name ≠ v.name)
    (hu : im.needsFullName u = true) : after.needsFullName u = true := by
  obtain ⟨hk, hr⟩ := new_of_needsFullName hu
  have hr' : after.isRegistered u.name = false := by rw [h.isRegistered_eq hne, hr]
  by_contra hn
  obtain ⟨hshort, hfree⟩ := (needsFullName_eq_false_iff hk hr').mp (Bool.eq_false_iff.mpr hn)
  rw [h.shortName, h.shortOwner] at hfree
  have hbefore := (needsFullName_eq_false_iff hk hr).mpr
    ⟨(h.hasShortName u).mp hshort, h.isFreeFor hfree⟩
  rw [hu] at hbefore
  cases hbefore

/-- **When a type loses its short name** while others are imported: it was not imported, and the name was
bound to another owner. -/
theorem needsFullName_iff (h : im.Grows allowed after) (hne : ∀ v, allowed v → u.name ≠ v.name)
    (hu : im.needsFullName u = false) : after.needsFullName u = true ↔
      u.kind = .declared ∧ im.isRegistered u.name = false ∧
        ∃ o, im.owner (im.shortName u) = none ∧ after.owner (im.shortName u) = some o ∧
          o ≠ im.shortOwner u := by
  constructor
  · intro hn
    obtain ⟨hk, hr'⟩ := new_of_needsFullName hn
    have hr : im.isRegistered u.name = false := by rw [← h.isRegistered_eq hne, hr']
    obtain ⟨hshort, hfree⟩ := (needsFullName_eq_false_iff hk hr).mp hu
    have htaken : ¬ after.isFreeFor (im.shortName u) (im.shortOwner u) = true := by
      intro hfree'
      rw [← h.shortName, ← h.shortOwner] at hfree'
      have hn' := (needsFullName_eq_false_iff hk hr').mpr ⟨(h.hasShortName u).mpr hshort, hfree'⟩
      rw [hn] at hn'
      cases hn'
    obtain ⟨o, ho, hother⟩ : ∃ o, after.owner (im.shortName u) = some o ∧ o ≠ im.shortOwner u := by
      rw [isFreeFor_iff] at htaken
      push Not at htaken
      exact htaken
    refine ⟨hk, hr, o, ?_, ho, hother⟩
    -- bound before, the name would have been its own then, and so it would be now
    cases hbefore : im.owner (im.shortName u) with
    | none => rfl
    | some p =>
      rw [h.owner_of_some hbefore] at ho
      exact absurd ((Option.some.inj ho) ▸ isFreeFor_iff.mp hfree p hbefore) hother
  · rintro ⟨hk, hr, o, -, ho, hother⟩
    have hr' : after.isRegistered u.name = false := by rw [h.isRegistered_eq hne, hr]
    by_contra hn
    obtain ⟨-, hfree⟩ := (needsFullName_eq_false_iff hk hr').mp (Bool.eq_false_iff.mpr hn)
    rw [h.shortName, h.shortOwner] at hfree
    exact hother (isFreeFor_iff.mp hfree o ho)

end Grows

/-! ### Main result -/

/-- **Asking and claiming agree**, in every state of the imports and for every type. Neither a claim nor
a request for the name of a type ever registers what is not legal. The claim answers what asking
answers before it and after it; where the type has to be written in full, or is not a declared one,
nothing changes. Of the types with other names those that had to be written in full still have to, and
the others do from now on exactly if they were not imported and their short name was bound just now, for
another owner. Registering an import is refused exactly if it is not legal, and then nothing changes. -/
theorem query_agrees (im : Imports) (t : TypeRef) :
    im.claimChecked t = .ok (im.claim t) ∧ im.resolveChecked t = .ok (im.resolve t) ∧
    (im.resolve t).2 = (im.claim t).2 ∧
    (im.claim t).1 = im.needsFullName t ∧
    (im.claim t).2.needsFullName t = im.needsFullName t ∧
    (im.needsFullName t = true ∨ t.kind ≠ .declared → (im.claim t).2 = im) ∧
    (∀ short o, im.owner short = none → (im.claim t).2.owner short = some o →
      short = im.shortName t ∧ o = im.shortOwner t) ∧
    (∀ u : TypeRef, u.name ≠ t.name →
      (im.needsFullName u = true → (im.claim t).2.needsFullName u = true) ∧
      (im.needsFullName u = false → ((im.claim t).2.needsFullName u = true ↔
        u.kind = .declared ∧ im.isRegistered u.name = false ∧
          ∃ o, im.owner (im.shortName u) = none ∧
            (im.claim t).2.owner (im.shortName u) = some o ∧ o ≠ im.shortOwner u))) ∧
    ((∃ f, (im.perform (.add t)).1 = .refused f) ↔ im.isLegal t = false) ∧
    (im.isLegal t = false → (im.perform (.add t)).2 = im) := by
  have hgrows : im.Grows (· = t) (im.claim t).2 := im.grows_claim rfl
  have hadd : im.perform (.add t) =
      if im.isLegal t then (.done, im.register t) else (.refused (.illegal t.name im.home), im) := by
    rw [perform, add]
    cases im.isLegal t <;> rfl
  refine ⟨im.claimChecked_eq t, im.resolveChecked_eq t, im.resolve_snd t, im.claim_fst t,
    im.needsFullName_claim t, claim_unchanged, fun _ _ => eq_of_owner_claim, fun u hu => ?_, ?_,
    fun hl => ?_⟩
  · have hne : ∀ v, v = t → u.name ≠ v.name := fun v hv => hv ▸ hu
    exact ⟨hgrows.needsFullName hne, hgrows.needsFullName_iff hne⟩
  · rw [hadd]
    cases im.isLegal t <;> simp
  · rw [hadd, hl]
    rfl

/-- Where a date is written by its simple name, the other date has to be written in full from then on,
but not so a nested type of the home package that claims another name. -/
theorem query_agrees_dates :
    let im := start "com.acme" ["java.lang"] [.declared "com.acme.Widget"]
    let after := (im.claim (.declared "java.util.Date")).2
    (im.claim (.declared "java.util.Date")).1 = false ∧
      im.needsFullName (.declared "java.sql.Date") = false ∧
      after.needsFullName (.declared "java.sql.Date") = true ∧
      after.needsFullName (.declared "com.acme.Outer.Date") = false := by
  intro im after
  obtain ⟨-, -, -, hclaim, -, -, -, hothers, -, -⟩ := query_agrees im (.declared "java.util.Date")
  have hsql := (hothers (.declared "java.sql.Date") (by decide)).2 (by decide)
  have hnested := (hothers (.declared "com.acme.Outer.Date") (by decide)).2 (by decide)
  refine ⟨hclaim.trans (by decide), by decide, hsql.mpr ?_, ?_⟩
  · exact ⟨rfl, by decide, "java.util.Date", by decide, by decide, by decide⟩
  · rw [← Bool.not_eq_true, hnested]
    rintro ⟨-, -, o, -, ho, -⟩
    have hfree : after.owner (im.shortName (.declared "com.acme.Outer.Date")) = none := by decide
    rw [hfree] at ho
    cases ho

end Imports
end Intertype
