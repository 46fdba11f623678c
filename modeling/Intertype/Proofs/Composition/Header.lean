/-
# The import header is exact

The header of a composed aspect has an import for exactly those types outside the scope that were
asked for and accepted before anything was written, and those that the body has somewhere by their
simple names: none is missing, and none is there for nothing. The imports are in strictly ascending
order.

An import that was asked for is accepted unless its simple name is that of the target or of the aspect,
or stands for a type accepted before (`Introduction.accepted`).

Key definitions: `Introduction.scope`, `Introduction.admits`, `Introduction.accepted`,
`Introduction.writing`.
Key theorems: `Introduction.startImports_registered`, `TypeRef.sorted_names`,
`Introduction.header_exact`.
-/
import Intertype.Composition
import Intertype.Proofs.Introduction.References

namespace Intertype

/-! ### Ascending names -/

namespace TypeRef

theorem notAfter_iff {a b : TypeRef} : notAfter a b = true ↔ a.name ≤ b.name := by
  rw [notAfter, precedes, Bool.not_eq_true', decide_eq_false_iff_not, String.not_lt]

/-- Sorted types with different names have strictly ascending names. -/
theorem sorted_names {ts : List TypeRef} (h : (ts.map (·.name)).Nodup) :
    ((sorted ts).map (·.name)).Pairwise (· < ·) := by
  have trans : ∀ a b c : TypeRef, notAfter a b = true → notAfter b c = true → notAfter a c = true := by
    intro a b c hab hbc
    rw [notAfter_iff] at hab hbc ⊢
    exact String.le_trans hab hbc
  have total : ∀ a b : TypeRef, (notAfter a b || notAfter b a) = true := by
    intro a b
    rw [Bool.or_eq_true, notAfter_iff, notAfter_iff]
    exact String.le_total a.name b.name
  have hle := List.pairwise_mergeSort trans total ts
  have hne : ((sorted ts).map (·.name)).Nodup := ((sorted_perm ts).map (·.name)).nodup_iff.mpr h
  rw [List.pairwise_map]
  refine (hle.and (List.pairwise_map.mp hne)).imp fun {a b} hab => ?_
  rw [← String.not_le]
  exact fun hba => hab.2 (String.le_antisymm (notAfter_iff.mp hab.1) hba)

end TypeRef

namespace Introduction

/-- The packages in scope of the aspect. -/
def scope (settings : Settings) (i : Introduction) : Scope :=
  ⟨i.aspect.packageName, settings.implicitPackages⟩

/-! ### The imports asked for -/

/-- Whether an import that is asked for is accepted after others: the type is outside the scope, and
its simple name stands for no other, be it reserved or accepted before. -/
def Admits (sc : Scope) (i : Introduction) (before : List TypeRef) (t : TypeRef) : Prop :=
  sc.IsForeign t ∧ (∀ r ∈ [i.target, i.aspect], r.localName = t.simpleName → r.ownerName = t.name) ∧
    ∀ a ∈ before, a.simpleName = t.simpleName → a.name = t.name

instance (sc : Scope) (i : Introduction) (before : List TypeRef) (t : TypeRef) :
    Decidable (i.Admits sc before t) :=
  inferInstanceAs (Decidable (sc.IsForeign t ∧
    (∀ r ∈ [i.target, i.aspect], r.localName = t.simpleName → r.ownerName = t.name) ∧
      ∀ a ∈ before, a.simpleName = t.simpleName → a.name = t.name))

/-- The imports asked for that are accepted, one after the other. -/
def accepted (sc : Scope) (i : Introduction) : List TypeRef :=
  i.imports.foldl (fun before t => if i.Admits sc before t then before ++ [t] else before) []

/-- The claims that stand before anything is written: those of the reserved types and of the imports
accepted. -/
def startClaims (i : Introduction) (before : List TypeRef) : List Claim :=
  [i.target, i.aspect].map Scope.reservedClaim ++ before.map fun t => ⟨t.simpleName, t.name, true⟩

variable {sc : Scope} {i : Introduction} {before : List TypeRef} {im : Imports} {t : TypeRef}

/-- The reserved types of one package have their names to themselves. -/
theorem startClaims_consistent (h : i.target.packageName = i.aspect.packageName) :
    Claim.IsConsistent (i.startClaims []) := by
  have howner (hl : i.target.localName = i.aspect.localName) : i.target.ownerName = i.aspect.ownerName := by
    rw [TypeRef.ownerName_eq, TypeRef.ownerName_eq, h, hl]
  intro c hc
  simp only [startClaims, Scope.reservedClaim, List.map_cons, List.map_nil, List.append_nil,
    List.mem_cons, List.not_mem_nil, or_false] at hc ⊢
  rw [Claim.firstOwner, Claim.firstOwner]
  rcases hc with rfl | rfl
  · rw [if_pos rfl]
  · by_cases hl : i.target.localName = i.aspect.localName
    · rw [if_pos hl, howner hl]
    · rw [if_neg hl, if_pos rfl]

/-- An import asked for is legal exactly if it is accepted. -/
theorem isLegal_iff (h : Tracks sc (i.startClaims before) im)
    (hc : Claim.IsConsistent (i.startClaims before)) (hw : t.wildcard ≠ some .unbounded) :
    im.isLegal t = true ↔ i.Admits sc before t := by
  rw [h.isLegal]
  by_cases hf : sc.IsForeign t
  · rw [hf.importClaimOf hw, Option.any_some, hc.isGranted_iff, startClaims, List.forall_mem_append,
      List.forall_mem_map, List.forall_mem_map]
    exact (and_iff_right hf).symm
  · refine ⟨fun hl => ?_, fun ha => absurd ha.1 hf⟩
    obtain ⟨c, hcl, -⟩ := (Option.any_eq_true _ _).mp hl
    exact absurd (Scope.importClaimOf_eq_some_iff.mp hcl).1 hf

/-- Registering the imports asked for leaves those that are accepted. -/
theorem tracks_preregister {ts : List TypeRef} (hts : ∀ t ∈ ts, t.IsClear) :
    ∀ {before : List TypeRef} {im : Imports}, Tracks sc (i.startClaims before) im →
      Claim.IsConsistent (i.startClaims before) →
      let after := ts.foldl (fun before t => if i.Admits sc before t then before ++ [t] else before)
        before
      Tracks sc (i.startClaims after) (ts.foldl Imports.preregister im) ∧
        Claim.IsConsistent (i.startClaims after) := by
  induction ts with
  | nil => exact fun h hc => ⟨h, hc⟩
  | cons t rest ih =>
    intro before im h hc
    obtain ⟨hd, hw⟩ := hts t List.mem_cons_self
    have hlegal := isLegal_iff h hc hw
    have hrest := fun u hu => hts u (List.mem_cons_of_mem t hu)
    rw [List.foldl_cons, List.foldl_cons, Imports.preregister]
    by_cases ha : i.Admits sc before t
    · have hg := hlegal.mpr ha
      have hgranted : Claim.isGranted (i.startClaims before) ⟨t.simpleName, t.name, true⟩ = true := by
        rwa [h.isLegal, ha.1.importClaimOf hw, Option.any_some] at hg
      have hsucc : i.startClaims (before ++ [t]) =
          i.startClaims before ++ [⟨t.simpleName, t.name, true⟩] := by
        simp [startClaims]
      rw [if_pos ha, if_pos hg]
      refine ih hrest ?_ ?_
      · rw [hsucc]
        exact h.register ha.1 (hd t t.self_mem_nodes) hw hgranted
      · rw [hsucc]
        exact hc.append hgranted
    · rw [if_neg ha, if_neg fun hl => ha (hlegal.mp hl)]
      exact ih hrest h hc

/-- What is imported before anything is written are the imports accepted. -/
theorem startImports_registered (settings : Settings)
    (hp : i.target.packageName = i.aspect.packageName) (hi : ∀ t ∈ i.imports, t.IsClear) :
    let sc := i.scope settings
    Tracks sc (i.startClaims (i.accepted sc)) (i.startImports settings.implicitPackages) ∧
      ∀ name, (i.startImports settings.implicitPackages).isRegistered name = true ↔
        ∃ t ∈ i.accepted sc, t.name = name := by
  intro sc
  have hstart : Tracks sc (i.startClaims []) (.start sc.home sc.implicit [i.target, i.aspect]) := by
    have := Tracks.start sc [i.target, i.aspect]
    rwa [startClaims, List.map_nil, List.append_nil]
  obtain ⟨h, hc⟩ : Tracks sc (i.startClaims (i.accepted sc))
      (i.startImports settings.implicitPackages) ∧ Claim.IsConsistent (i.startClaims (i.accepted sc)) :=
    tracks_preregister hi hstart (startClaims_consistent hp)
  refine ⟨h, fun name => ?_⟩
  rw [h.isRegistered name, hc.mem_importedNames]
  constructor
  · rintro ⟨c, hc, hf, hn⟩
    rcases List.mem_append.mp hc with hc | hc
    · obtain ⟨r, -, rfl⟩ := List.mem_map.mp hc
      cases hf
    · obtain ⟨t, ht, rfl⟩ := List.mem_map.mp hc
      exact ⟨t, ht, hn⟩
  · rintro ⟨t, ht, hn⟩
    exact ⟨_, List.mem_append_right _ (List.mem_map_of_mem ht), rfl, hn⟩

/-- The imports accepted are of types outside the scope. -/
theorem isForeign_of_mem_accepted : ∀ {ts before : List TypeRef}, (∀ t ∈ before, sc.IsForeign t) →
    ∀ t ∈ ts.foldl (fun before t => if i.Admits sc before t then before ++ [t] else before) before,
      sc.IsForeign t
  | [], _, h => h
  | u :: rest, before, h => by
    rw [List.foldl_cons]
    refine isForeign_of_mem_accepted fun t ht => ?_
    split at ht
    · rename_i ha
      rcases List.mem_append.mp ht with ht | ht
      · exact h t ht
      · rw [List.mem_singleton.mp ht]
        exact ha.1
    · exact h t ht

/-! ### The header -/

/-- The aspect before anything is written. -/
def begin (settings : Settings) (i : Introduction) : Emission :=
  ⟨{ layout := settings.toLayout }, i.startImports settings.implicitPackages⟩

/-- What is written into the body of the aspect: its pieces, each with the text that stands for it. -/
def writing (settings : Settings) (i : Introduction) : List (Piece × String) :=
  (i.begin settings).written (i.chunks Annotation.phrase)

/-- An aspect is composed if nothing fails in writing it. -/
theorem compose_ok {settings : Settings} {form : Annotation.Form} {c : Composition}
    (h : i.compose settings form = .ok c) :
    ∃ e, (i.begin settings).run (i.chunks form) = (none, e) ∧
      c.header = Composition.headerOf settings.newline i.aspect e.imports.sorted ∧
      c.body = e.buffer.text := by
  rw [compose] at h
  rcases he : i.emit settings form with ⟨f, e⟩
  rw [he] at h
  cases f with
  | some f => cases h
  | none =>
    injection h with h
    refine ⟨e, he, ?_, ?_⟩
    · rw [← h]
    · rw [← h]

/-- **What an aspect names.** The type names in what is written into the body of a composed aspect are those
of the types of the introduction, one by one. -/
theorem typeNames_writing {settings : Settings} {c : Composition}
    (h : i.compose settings Annotation.phrase = .ok c) :
    Piece.typeNames ((i.writing settings).map Prod.fst) = i.named := by
  obtain ⟨e, hrun, -⟩ := compose_ok h
  obtain ⟨hfaults, hnames⟩ := Emission.typeNames_written (congrArg Prod.fst hrun)
  exact hnames.trans ((chunks_mention i).all hfaults)

/-- Nothing is written into an aspect that is in another package than its target. -/
theorem samePackage_of_run {form : Annotation.Form} {b e : Emission}
    (h : b.run (i.chunks form) = (none, e)) : i.target.packageName = i.aspect.packageName := by
  by_cases hp : i.target.packageName = i.aspect.packageName
  · exact hp
  · exfalso
    have hchunks : ∃ rest, i.chunks form =
        .stop (.differentPackages i.aspect.name i.target.name) :: rest := by
      simp only [chunks, opening, if_neg hp, List.append_assoc, List.cons_append, List.nil_append]
      exact ⟨_, rfl⟩
    obtain ⟨rest, hrest⟩ := hchunks
    rw [hrest] at h
    cases h

/-- What is imported in the end: the imports accepted and the types outside the scope that the body has
by their simple names. -/
theorem registered_iff {settings : Settings} (hi : ∀ t ∈ i.imports, t.IsClear)
    (hr : ∀ t ∈ i.references, t.IsClear) {e : Emission}
    (h : (i.begin settings).run (i.chunks Annotation.phrase) = (none, e)) (f : String) :
    e.imports.isRegistered f = true ↔ ∃ t, (i.scope settings).IsForeign t ∧ t.name = f ∧
      (t ∈ i.accepted (i.scope settings) ∨
        (Piece.typeName t, t.simpleName) ∈ i.writing settings) := by
  obtain ⟨hstart, hregistered⟩ := startImports_registered settings
    (samePackage_of_run h) hi
  have haccounts := Emission.run_accounts (e := i.begin settings) hstart (clear_chunks hr) (by rw [h])
  rw [h] at haccounts
  rw [haccounts f, begin, hregistered f]
  constructor
  · rintro (⟨t, ht, hn⟩ | ⟨t, ht, hf, hn⟩)
    · have hf := isForeign_of_mem_accepted (fun u hu => absurd hu List.not_mem_nil) t ht
      exact ⟨t, hf, hn, Or.inl ht⟩
    · exact ⟨t, hf, hn, Or.inr ht⟩
  · rintro ⟨t, hf, hn, ht | ht⟩
    · exact Or.inl ⟨t, ht, hn⟩
    · exact Or.inr ⟨t, ht, hf, hn⟩

/-- No type is imported twice. -/
theorem registered_nodup {settings : Settings} (hi : ∀ t ∈ i.imports, t.IsClear)
    (hr : ∀ t ∈ i.references, t.IsClear) {e : Emission}
    (h : (i.begin settings).run (i.chunks Annotation.phrase) = (none, e)) :
    (e.imports.registered.map (·.name)).Nodup := by
  obtain ⟨hstart, -⟩ := startImports_registered settings (samePackage_of_run h) hi
  obtain ⟨ledger, htracks⟩ :=
    Emission.exists_tracks_run (e := i.begin settings) hstart (clear_chunks hr)
  rw [h] at htracks
  rw [htracks.registered, Tracks.map_name_imported]
  exact Claim.importedNames_nodup ledger

/-- The header says no more of the imports than their names. -/
theorem headerOf_eq (n : String) (aspect : TypeRef) (imports : List TypeRef) :
    Composition.headerOf n aspect imports =
      (if aspect.isDefaultPackage then "" else "package " ++ aspect.packageName ++ ";" ++ n ++ n) ++
        (if imports.map (·.name) = [] then ""
        else Text.joined "" ((imports.map (·.name)).map fun f => "import " ++ f ++ ";" ++ n) ++ n) := by
  cases imports with
  | nil => rfl
  | cons t rest =>
    rw [Composition.headerOf, List.map_map]
    rfl

theorem ok_of_toOption {ε α : Type} {x : Except ε α} {a : α} (h : x.toOption = some a) :
    x = .ok a := by
  cases x with
  | error e => cases h
  | ok b =>
    injection h with h
    rw [h]

/-- **The import header is exact.** Of an aspect composed from types that can be written, the header
has an import for a name exactly if it is the name of a type outside the scope that was asked for and
accepted, or that the body has somewhere by its simple name; and the names are strictly ascending. A
supertype that has to be written in full imports nothing, not for its arguments either. -/
theorem header_exact {settings : Settings} {i : Introduction} {c : Composition}
    (hi : ∀ t ∈ i.imports, t.IsClear) (hr : ∀ t ∈ i.references, t.IsClear)
    (h : i.compose settings Annotation.phrase = .ok c) :
    let sc := i.scope settings
    let n := settings.newline
    ∃ names : List String,
      c.header =
        (if i.aspect.isDefaultPackage then "" else "package " ++ i.aspect.packageName ++ ";" ++ n ++ n) ++
          (if names = [] then ""
          else Text.joined "" (names.map fun f => "import " ++ f ++ ";" ++ n) ++ n) ∧
      c.body = Piece.written (i.writing settings) ∧
      names.Pairwise (· < ·) ∧
      (∀ f, f ∈ names ↔ ∃ t, sc.IsForeign t ∧ t.name = f ∧
        (t ∈ i.accepted sc ∨ (Piece.typeName t, t.simpleName) ∈ i.writing settings)) ∧
      ∀ (im : Imports) (t : TypeRef), im.needsFullName t = true →
        im.spellSupertype t = (t.text, im) := by
  intro sc n
  obtain ⟨e, hrun, hheader, hbody⟩ := compose_ok h
  refine ⟨e.imports.sorted.map (·.name), ?_, ?_, TypeRef.sorted_names (registered_nodup hi hr hrun),
    fun f => ?_, fun im t hn => by rw [Imports.spellSupertype_eq, if_pos hn]⟩
  · rw [hheader, headerOf_eq]
  · have htext := (i.begin settings).run_text (i.chunks Annotation.phrase)
    rw [hrun] at htext
    rw [hbody, htext, begin, String.empty_append]
    rfl
  · rw [← registered_iff hi hr hrun, Imports.isRegistered_iff]
    exact ((TypeRef.sorted_perm _).map _).mem_iff

/-- Of two dates asked for the first is imported; the other one is written in full, and so is a
superinterface whose simple name is that of the target. -/
theorem header_exact_dates :
    let i : Introduction :=
      { target := .declared "com.acme.Widget", aspect := .declared "com.acme.Widget_Dates"
        imports := [.declared "java.util.Date", .declared "java.sql.Date", .declared "com.acme.Gadget"]
        implemented := [⟨"org.other.Widget", [.declared "java.util.Locale"], 0, .declared, none, none⟩]
        fields := [{ name := "dates", type :=
          ⟨"java.util.List", [.declared "java.sql.Date", .anything], 0, .declared, none, none⟩ }] }
    ∃ (c : Composition) (names : List String),
      (i.compose {} Annotation.phrase).toOption = some c ∧
      c.body = "aspect Widget_Dates \x7b\n    \n    declare parents: Widget implements " ++
        "org.other.Widget<java.util.Locale>;\n    \n    List<java.sql.Date, ?> Widget.dates;\n    \n" ++
        "\x7d\n" ∧
      names.Pairwise (· < ·) ∧ "java.util.Date" ∈ names ∧ "java.util.List" ∈ names := by
  intro i
  have hbody : (i.compose {} Annotation.phrase).toOption.map (·.body) = some
      ("aspect Widget_Dates \x7b\n    \n    declare parents: Widget implements " ++
        "org.other.Widget<java.util.Locale>;\n    \n    List<java.sql.Date, ?> Widget.dates;\n    \n" ++
        "\x7d\n") := by
    decide +kernel
  obtain ⟨c, hc, hcb⟩ := Option.map_eq_some_iff.mp hbody
  obtain ⟨names, -, -, hsorted, hnames, -⟩ :=
    header_exact (i := i) (by decide +kernel) (by decide +kernel) (ok_of_toOption hc)
  refine ⟨c, names, hc, hcb, hsorted, (hnames _).mpr ?_, (hnames _).mpr ?_⟩
  · exact ⟨.declared "java.util.Date", by decide +kernel, rfl, Or.inl (by decide +kernel)⟩
  · exact ⟨⟨"java.util.List", [.declared "java.sql.Date", .anything], 0, .declared, none, none⟩,
      by decide +kernel, rfl, Or.inr (by decide +kernel)⟩

end Introduction
end Intertype
