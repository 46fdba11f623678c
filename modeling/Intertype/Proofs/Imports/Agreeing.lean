/-
# Claims that agree

Where all claims on one short name are for one owner, every claim is granted, whenever it is made.
Then how a type is written does not depend on what was written before it (`Scope.spell_congr`), and the
types imported are the owners of the foreign claims, whatever their order.

Key definitions: `Claim.Agree`, `Scope.Knows`.
Key theorems: `Claim.Agree.isGranted`, `Scope.written_congr`, `Scope.spell_congr`,
`Tracks.preregister_all`.
-/
import Intertype.Composition
import Intertype.Proofs.Imports.Tracks

namespace Intertype

namespace Claim

/-- Whether all claims on one short name are for one owner. -/
def Agree (claims : List Claim) : Prop :=
  ∀ c ∈ claims, ∀ d ∈ claims, c.short = d.short → c.owner = d.owner

instance (claims : List Claim) : Decidable (Agree claims) :=
  inferInstanceAs (Decidable (∀ c ∈ claims, ∀ d ∈ claims, c.short = d.short → c.owner = d.owner))

namespace Agree

variable {claims ledger : List Claim} {c : Claim}

theorem mono (h : Agree claims) (hl : ledger ⊆ claims) : Agree ledger :=
  fun c hc d hd => h c (hl hc) d (hl hd)

theorem isConsistent (h : Agree ledger) : IsConsistent ledger := by
  intro c hc
  obtain ⟨owner, ho⟩ := exists_firstOwner_of_mem hc
  obtain ⟨d, hd, hs, hown⟩ := mem_of_firstOwner ho
  rw [ho, ← hown, h d hd c hc hs]

/-- Every one of the claims is granted after any of them. -/
theorem isGranted (h : Agree claims) (hl : ledger ⊆ claims) (hc : c ∈ claims) :
    Claim.isGranted ledger c = true :=
  ((h.mono hl).isConsistent.isGranted_iff c).mpr fun d hd hs => h d (hl hd) c hc hs

end Agree
end Claim

namespace Scope

/-- Whether the type can be written, with no claims but the given ones. -/
def Knows (sc : Scope) (claims : List Claim) (t : TypeRef) : Prop :=
  t.IsDerived ∧ t.wildcard ≠ some .unbounded ∧ ∀ c, sc.claimOf t = some c → c ∈ claims

variable {sc : Scope} {claims ledger later : List Claim} {t : TypeRef} {ps : List Piece}

/-- A type is written by its short name exactly if it claims one. -/
theorem isShort_of_agree (h : Claim.Agree claims) (hl : ledger ⊆ claims) (ht : sc.Knows claims t) :
    sc.isShort ledger t = (sc.claimOf t).isSome := by
  rw [isShort]
  cases hc : sc.claimOf t with
  | none => rfl
  | some c => exact h.isGranted hl (ht.2.2 c hc)

theorem written_congr (h : Claim.Agree claims) (hl : ledger ⊆ claims) (hl' : later ⊆ claims)
    (ht : sc.Knows claims t) : sc.written ledger t = sc.written later t := by
  rw [written, written, isShort_of_agree h hl ht, isShort_of_agree h hl' ht]

theorem claimOf_subset (ht : sc.Knows claims t) : (sc.claimOf t).toList ⊆ claims :=
  fun c hc => ht.2.2 c (Option.mem_toList.mp hc)

theorem claimsIn_subset (hps : ∀ t, Piece.typeName t ∈ ps → sc.Knows claims t) :
    sc.claimsIn ps ⊆ claims := by
  intro c hc
  obtain ⟨p, hp, hc⟩ := List.mem_flatMap.mp hc
  cases p with
  | text s => exact absurd hc List.not_mem_nil
  | typeVariable name => exact absurd hc List.not_mem_nil
  | typeName t => exact claimOf_subset (hps t hp) hc

/-- A text is written in the same way after any of the claims. -/
theorem spell_congr (h : Claim.Agree claims) : ∀ {ps : List Piece} {ledger later : List Claim},
    ledger ⊆ claims → later ⊆ claims → (∀ t, Piece.typeName t ∈ ps → sc.Knows claims t) →
      sc.spell ledger ps = sc.spell later ps
  | [], _, _, _, _, _ => rfl
  | .text s :: rest, _, _, hl, hl', hps => by
    rw [spell, spell, spell_congr h hl hl' fun t ht => hps t (List.mem_cons_of_mem _ ht)]
  | .typeVariable name :: rest, _, _, hl, hl', hps => by
    rw [spell, spell, spell_congr h hl hl' fun t ht => hps t (List.mem_cons_of_mem _ ht)]
  | .typeName t :: rest, _, _, hl, hl', hps => by
    have ht := hps t List.mem_cons_self
    rw [spell, spell, written_congr h hl hl' ht,
      spell_congr h (List.append_subset.mpr ⟨hl, claimOf_subset ht⟩)
        (List.append_subset.mpr ⟨hl', claimOf_subset ht⟩)
        fun t ht => hps t (List.mem_cons_of_mem _ ht)]

end Scope

namespace Tracks

variable {sc : Scope}

/-- To ask for an import makes the claim for it. -/
theorem preregister {ledger : List Claim} {im : Imports} {t : TypeRef} (h : Tracks sc ledger im)
    (hd : t.IsDerived) :
    Tracks sc (ledger ++ (sc.importClaimOf t).toList) (im.preregister t) := by
  have hadd := h.after_add hd
  rw [Imports.add] at hadd
  rw [Imports.preregister]
  by_cases hl : im.isLegal t = true
  · rw [if_pos hl] at hadd ⊢
    exact hadd
  · rw [if_neg hl] at hadd ⊢
    exact hadd

theorem preregister_all : ∀ {ts : List TypeRef} {ledger : List Claim} {im : Imports},
    Tracks sc ledger im → (∀ t ∈ ts, t.IsDerived) →
      Tracks sc (ledger ++ ts.flatMap fun t => (sc.importClaimOf t).toList)
        (ts.foldl Imports.preregister im)
  | [], _, _, h, _ => by rwa [List.flatMap_nil, List.append_nil]
  | t :: rest, _, _, h, hd => by
    rw [List.flatMap_cons, ← List.append_assoc, List.foldl_cons]
    exact preregister_all (h.preregister (hd t List.mem_cons_self))
      fun u hu => hd u (List.mem_cons_of_mem t hu)

end Tracks
end Intertype
