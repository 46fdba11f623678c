/-
# First come, first served

The answers of a whole run are those that the ledger of claims gives: reserved types claim first, each
request adds its claims, and a type is written short exactly when the first claim on its short name,
its own included, is for its own owner. What is imported at the end and what each short name stands for
are read off the ledger too, so nothing else that happened in the run makes a difference.

Key theorems: `Tracks.after_run`, `Tracks.run`, `Imports.first_come_first_served`.
-/
import Intertype.Proofs.Imports.Tracks

namespace Intertype

namespace Tracks

variable {sc : Scope}

/-- After a run the ledger has the claims of all its requests. -/
theorem after_run {steps : List Imports.Step} : ∀ {ledger : List Claim} {im : Imports},
    Tracks sc ledger im → (∀ s ∈ steps, ∀ t ∈ s.types, ∀ u ∈ t.nodes, u.IsDerived) →
      Tracks sc (ledger ++ steps.flatMap sc.claimsOf) (im.run steps).2 := by
  induction steps with
  | nil =>
    intro ledger im h _
    rw [List.flatMap_nil, List.append_nil]
    exact h
  | cons s rest ih =>
    intro ledger im h hd
    rw [List.flatMap_cons, ← List.append_assoc, Imports.run_cons]
    exact ih (h.after_perform (hd s List.mem_cons_self))
      fun s' hs' => hd s' (List.mem_cons_of_mem _ hs')

/-- A run is answered as the ledger answers it. -/
theorem run {steps : List Imports.Step} : ∀ {ledger : List Claim} {im : Imports},
    Tracks sc ledger im → (∀ s ∈ steps, ∀ t ∈ s.types, ∀ u ∈ t.nodes, u.IsDerived) →
      (∀ s ∈ steps, ∀ t ∈ s.types, t.wildcard ≠ some .unbounded) →
      (im.run steps).1 = sc.answers ledger steps := by
  induction steps with
  | nil => exact fun _ _ _ => rfl
  | cons s rest ih =>
    intro ledger im h hd hw
    have hds := hd s List.mem_cons_self
    rw [Imports.run_cons, Scope.answers, h.perform hds (hw s List.mem_cons_self),
      ih (h.after_perform hds) (fun s' hs' => hd s' (List.mem_cons_of_mem _ hs'))
        fun s' hs' => hw s' (List.mem_cons_of_mem _ hs')]

end Tracks

namespace Imports

/-- **First come, first served.** Whatever is asked in whatever order, the answers are those that the
ledger of claims gives, the imports are the types outside the scope whose claims were first, and each
short name stands for the owner of the first claim on it. -/
theorem first_come_first_served (home : String) (implicit : List String) (reserved : List TypeRef)
    (steps : List Step) (hd : ∀ s ∈ steps, ∀ t ∈ s.types, ∀ u ∈ t.nodes, u.IsDerived)
    (hw : ∀ s ∈ steps, ∀ t ∈ s.types, t.wildcard ≠ some .unbounded) :
    let sc : Scope := ⟨home, implicit⟩
    let first := reserved.map Scope.reservedClaim
    let claims := first ++ steps.flatMap sc.claimsOf
    let outcome := (start home implicit reserved).run steps
    outcome.1 = sc.answers first steps ∧ outcome.2.registered = Claim.imported claims ∧
      ∀ short, outcome.2.owner short = Claim.firstOwner claims short := by
  intro sc first claims outcome
  have hstart : Tracks sc first (start home implicit reserved) := Tracks.start sc reserved
  have hend := hstart.after_run hd
  exact ⟨hstart.run hd hw, hend.registered, hend.owner⟩

/-- Of two dates the first to be written is imported; a nested type of the home package keeps another
package's type of the same name from being imported. -/
theorem first_come_first_served_dates :
    let steps : List Step := [.resolve (.declared "java.util.Date"),
      .render ⟨"java.util.List", [.declared "java.sql.Date", .anything], 1, .declared, none, none⟩ false,
      .add (.declared "com.acme.Gadget"), .resolve (.declared "com.acme.Outer.Inner"),
      .claim (.declared "org.other.Outer"), .needsFullName (.declared "java.util.Date")]
    let outcome := (start "com.acme" ["java.lang"] [.declared "com.acme.Widget"]).run steps
    outcome.1 = [.text "Date", .text "List<java.sql.Date, ?>[]",
      .refused (.illegal "com.acme.Gadget" "com.acme"), .text "Outer.Inner", .truth true,
      .truth false] ∧
    outcome.2.registered = [.declared "java.util.Date", .declared "java.util.List"] := by
  intro steps outcome
  have h := first_come_first_served "com.acme" ["java.lang"] [.declared "com.acme.Widget"] steps
    (by decide) (by decide)
  exact ⟨h.1.trans (by decide), h.2.1.trans (by decide)⟩

end Imports
end Intertype
