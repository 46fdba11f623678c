/-
# Printed types are stable and unambiguous

Two references written at any two moments of a run have one text exactly if the same is shown of them.
So a reference is written alike at all times, and its text is that of no other reference, apart from
two things that no text shows: the wildcard of a primitive type, and that a type variable called like
a primitive type is none.

Key theorems: `Imports.render_settled`, `Imports.texts_equal_iff`.
-/
import Intertype.Proofs.Imports.FirstCome
import Intertype.Proofs.Imports.Settled

namespace Intertype

namespace Scope

/-- A text that is written settles the reference. -/
theorem settles_of_claimsIn {sc : Scope} {ledger : List Claim} {t : TypeRef} (h : t.IsBuilt)
    (hl : ∀ c ∈ sc.claimsIn t.pieces, c ∈ ledger) : sc.Settles ledger t := by
  intro v hv hw c hc
  have hk : v.kind = .declared := by
    rcases claimOf_eq_some_iff.mp hc with ⟨hk, -⟩ | ⟨⟨hk, -⟩, -⟩
    · exact hk
    · exact hk
  refine hl c ?_
  rw [claimsIn_eq, TypeRef.typeNames_pieces, TypeRef.openNodes_eq_filter h]
  exact List.mem_filterMap.mpr ⟨v, List.mem_filter.mpr ⟨hv, decide_eq_true ⟨hk, hw⟩⟩, hc⟩

end Scope

namespace Imports

/-- The text of a reference is the one that all the claims of the run have for it, whenever in the run
it is written. -/
theorem render_settled (home : String) (implicit : List String) (reserved : List TypeRef)
    (steps : List Step) (hd : ∀ s ∈ steps, ∀ t ∈ s.types, ∀ u ∈ t.nodes, u.IsDerived)
    {t : TypeRef} {i : Nat} (ht : t.IsBuilt) (hi : steps[i]? = some (.render t false)) :
    let sc : Scope := ⟨home, implicit⟩
    let claims := reserved.map Scope.reservedClaim ++ steps.flatMap sc.claimsOf
    ((start home implicit reserved).run steps).1[i]? =
        some (.text (Piece.spelledBy (sc.nameIn claims) t.pieces)) ∧ sc.Settles claims t := by
  intro sc claims
  obtain ⟨hlt, he⟩ := List.getElem?_eq_some_iff.mp hi
  have hsteps : steps = steps.take i ++ .render t false :: steps.drop (i + 1) := by
    rw [← he, ← List.drop_eq_getElem_cons hlt, List.take_append_drop]
  -- the claims made before the text is written, in writing it, and afterwards
  have hclaims : claims =
      (reserved.map Scope.reservedClaim ++ (steps.take i).flatMap sc.claimsOf) ++
        (sc.claimsIn t.pieces ++ (steps.drop (i + 1)).flatMap sc.claimsOf) := by
    show reserved.map Scope.reservedClaim ++ steps.flatMap sc.claimsOf = _
    conv => lhs; rw [hsteps]
    rw [List.flatMap_append, List.flatMap_cons, List.append_assoc]
    rfl
  have htake : ∀ s ∈ steps.take i, ∀ t ∈ s.types, ∀ u ∈ t.nodes, u.IsDerived :=
    fun s hs => hd s (List.mem_of_mem_take hs)
  have hbefore := (Tracks.start sc reserved).after_run htake
  have hpieces : ∀ u, Piece.typeName u ∈ t.pieces →
      u.kind = .declared ∧ u.package = none ∧ u.wildcard ≠ some .unbounded := by
    intro u hu
    obtain ⟨hn, hk, hw⟩ := TypeRef.mem_pieces hu
    exact ⟨hk, ((ht u hn).declared hk).1, hw⟩
  refine ⟨?_, Scope.settles_of_claimsIn ht fun c hc => ?_⟩
  · rw [run_getElem? _ steps i hi, hclaims, ← sc.spell_settled hpieces, ← hbefore.spell]
    · rfl
    · exact fun u hu => ⟨fun _ => (hpieces u hu).2.1, (hpieces u hu).2.2⟩
  · rw [hclaims]
    exact List.mem_append_right _ (List.mem_append_left _ hc)

/-- **Printed types are stable and unambiguous.** The texts of two references at any two moments of a
run are equal exactly if the same is shown of both; where nothing is lost of either, exactly if they
are the same reference. -/
theorem texts_equal_iff (home : String) (implicit : List String) (reserved : List TypeRef)
    (steps : List Step) (hd : ∀ s ∈ steps, ∀ t ∈ s.types, ∀ u ∈ t.nodes, u.IsDerived)
    {t u : TypeRef} (ht : t.IsBuilt) (hu : u.IsBuilt) (htu : Scope.KeptApart t u)
    (hut : Scope.KeptApart u t) {i j : Nat} (hi : steps[i]? = some (.render t false))
    (hj : steps[j]? = some (.render u false)) :
    let answers := ((start home implicit reserved).run steps).1
    ∃ a b, answers[i]? = some (.text a) ∧ answers[j]? = some (.text b) ∧
      (a = b ↔ t.shown = u.shown) ∧
      (t.IsUnmistakable → u.IsUnmistakable → (a = b ↔ t = u)) := by
  intro answers
  obtain ⟨hti, hts⟩ := render_settled home implicit reserved steps hd ht hi
  obtain ⟨huj, hus⟩ := render_settled home implicit reserved steps hd hu hj
  have hiff := TypeRef.spelledBy_inj _ ht hu (Scope.tellsApart ht hu hts hus htu hut)
    (fun v hv hw => Scope.isWord_called (ht v hv) hw) fun v hv hw => Scope.isWord_called (hu v hv) hw
  refine ⟨_, _, hti, huj, hiff, fun htm hum => ?_⟩
  rw [hiff, TypeRef.shown_eq_self ht htm, TypeRef.shown_eq_self hu hum]

/-- Two dates in one position of a map are told apart, whichever of them has the short name. -/
theorem texts_equal_iff_dates :
    let map (date : TypeRef) : TypeRef := ⟨"java.util.Map",
      [⟨"K", [], 0, .typeVariable, none, some ""⟩, .wildcardOf (some date) true], 1, .declared, none, none⟩
    let steps : List Step := [.resolve (.declared "java.sql.Date"),
      .render (map (.declared "java.util.Date")) false, .add (.declared "java.util.Date"),
      .render (map (.declared "java.sql.Date")) false]
    ∃ a b, ((start "com.acme" ["java.lang"] []).run steps).1[1]? = some (.text a) ∧
      ((start "com.acme" ["java.lang"] []).run steps).1[3]? = some (.text b) ∧ a ≠ b := by
  intro map steps
  obtain ⟨a, b, ha, hb, -, hab⟩ := texts_equal_iff "com.acme" ["java.lang"] [] steps
    (by decide) (t := map (.declared "java.util.Date")) (u := map (.declared "java.sql.Date"))
    (by decide) (by decide) (by decide) (by decide)
    (i := 1) (j := 3) rfl rfl
  exact ⟨a, b, ha, hb, mt (hab (by decide) (by decide)).mp (by decide)⟩

/-- The wildcard of a primitive type is not written: a list of some kind of arrays of integers reads as
a list of arrays of integers. -/
theorem texts_equal_bounded_primitive :
    let ints : TypeRef := ⟨"int", [], 1, .primitive, none, some ""⟩
    let list (argument : TypeRef) : TypeRef :=
      ⟨"java.util.List", [argument], 0, .declared, none, none⟩
    let t := list (.wildcardOf (some ints) true)
    let u := list ints
    t.IsBuilt ∧ u.IsBuilt ∧ Scope.KeptApart t u ∧ Scope.KeptApart u t ∧ t ≠ u ∧
      ((start "com.acme" [] []).run [.render t false, .render u false]).1 =
        [.text "List<int[]>", .text "List<int[]>"] := by
  decide

end Imports
end Intertype
