/-
# The table of imports

Whatever is asked of the imports, with packages given or derived, they change in two ways only: a name
without an owner gets one, and a type is registered whose import is legal at that moment
(`Imports.Grows`). So nothing that is imported or bound is ever given up, and the table is always sound
(`Imports.IsSound`): what is registered is bare and of another package, it is registered once, and its
simple name stands for it.

The last of these is checked nowhere. It holds because a type is legal only if its simple name is free
or its own, and because that name is bound as soon as the type is registered.

Key definitions: `Imports.Grows`, `Imports.IsSound`.
Key theorems: `Imports.claim_cases`, `Imports.grows_run`, `Imports.Grows.isSound`,
`Imports.table_invariant`.
-/
import Intertype.Proofs.Imports.Ledger
import Mathlib.Data.List.Nodup

namespace Intertype
namespace Imports

variable {im after later : Imports} {t : TypeRef}

/-! ### What an operation can do -/

/-- An import is legal of a declared type, not the wildcard without a bound, that is in a package, in
none that needs no import, and whose simple name is free or its own. -/
theorem isLegal_eq_true_iff : im.isLegal t = true ↔
    t.kind = .declared ∧ t.wildcard ≠ some .unbounded ∧ t.packageName ≠ "" ∧ im.inScope t = false ∧
      im.isFreeFor t.simpleName t.name = true := by
  simp [isLegal, TypeRef.isDefaultPackage, and_assoc]

/-- A claim changes nothing, or it binds the local name of a type in scope, or it registers a type
whose import is legal. -/
theorem claim_cases (im : Imports) (t : TypeRef) :
    (im.claim t).2 = im ∨ (im.claim t).2 = im.bind t.localName t.ownerName ∨
      (im.isLegal t = true ∧ (im.claim t).2 = im.register t) := by
  rw [claim_snd]
  by_cases hk : t.kind = .declared ∧ im.isRegistered t.name = false
  · rw [if_pos hk]
    by_cases hs : im.inScope t = true
    · rw [if_pos hs]
      split
      · exact Or.inr (Or.inl rfl)
      · exact Or.inl rfl
    · rw [if_neg hs]
      split
      · rename_i hlegal
        exact Or.inr (Or.inr ⟨hlegal, rfl⟩)
      · exact Or.inl rfl
  · rw [if_neg hk]
    exact Or.inl rfl

theorem isFreeFor_iff {short owner : String} :
    im.isFreeFor short owner = true ↔ ∀ o, im.owner short = some o → o = owner := by
  unfold isFreeFor
  cases im.owner short <;> simp

/-- A name that is free for an owner stands for it once it is bound to it. -/
theorem owner_bind_of_isFreeFor {short owner : String} (h : im.isFreeFor short owner = true) :
    (im.bind short owner).owner short = some owner := by
  rw [owner_bind_self]
  cases ho : im.owner short with
  | none => rfl
  | some o => rw [isFreeFor_iff.mp h o ho, Option.getD_some]

theorem raw_mem_register (h : im.isRegistered t.name = false) :
    t.raw ∈ (im.register t).registered := by
  rw [register, if_neg (Bool.eq_false_iff.mp h), bind_registered]
  exact List.mem_append_right _ List.mem_cons_self

theorem isRegistered_register (im : Imports) (t : TypeRef) :
    (im.register t).isRegistered t.name = true := by
  cases h : im.isRegistered t.name with
  | true => rwa [register, if_pos h]
  | false => exact isRegistered_iff.mpr (List.mem_map.mpr ⟨t.raw, raw_mem_register h, rfl⟩)

/-- A declared type is written in full, by its simple name if it is imported then, or by its relative
name if it is in scope and its local name stands for its outermost type then. -/
theorem resolve_cases (im : Imports) (hk : t.kind = .declared) :
    (im.resolve t).1 = t.name ∨
      ((im.resolve t).2.isRegistered t.name = true ∧ (im.resolve t).1 = t.simpleName) ∨
      (im.inScope t = true ∧ (im.resolve t).2.owner t.localName = some t.ownerName ∧
        (im.resolve t).1 = t.relativeName) := by
  rw [resolve_fst, resolve_snd, if_neg fun hne => hne hk]
  by_cases hn : im.needsFullName t = true
  · rw [if_pos hn]
    exact Or.inl rfl
  rw [if_neg hn]
  by_cases hr : im.isRegistered t.name = true
  · have hclaim : (im.claim t).2 = im := by
      rw [claim_snd, if_neg fun hnew => Bool.eq_false_iff.mp hnew.2 hr]
    rw [hclaim, if_pos hr]
    exact Or.inr (Or.inl ⟨hr, rfl⟩)
  have hnew : t.kind = .declared ∧ im.isRegistered t.name = false := ⟨hk, Bool.eq_false_iff.mpr hr⟩
  have hshort : (if im.inScope t then im.isFreeFor t.localName t.ownerName else im.isLegal t) = true := by
    rw [needsFullName_eq hnew.1 hnew.2] at hn
    simpa only [Bool.not_eq_true', Bool.not_eq_false] using hn
  by_cases hs : im.inScope t = true
  · have hfree : im.isFreeFor t.localName t.ownerName = true := by rwa [if_pos hs] at hshort
    have hclaim : (im.claim t).2 = im.bind t.localName t.ownerName := by
      rw [claim_snd, if_pos hnew, if_pos hs, if_pos hfree]
    have hstill : ¬ (im.bind t.localName t.ownerName).isRegistered t.name = true := by
      rwa [isRegistered_iff, bind_registered, ← isRegistered_iff]
    rw [hclaim, if_neg hstill]
    exact Or.inr (Or.inr ⟨hs, owner_bind_of_isFreeFor hfree, rfl⟩)
  · have hlegal : im.isLegal t = true := by rwa [if_neg hs] at hshort
    have hclaim : (im.claim t).2 = im.register t := by
      rw [claim_snd, if_pos hnew, if_neg hs, if_pos hlegal]
    have hnow := isRegistered_register im t
    rw [hclaim, if_pos hnow]
    exact Or.inr (Or.inl ⟨hnow, rfl⟩)

/-- What becomes of imports: names are bound, and types registered whose import is legal, none but those
allowed. -/
inductive Grows (allowed : TypeRef → Prop) (im : Imports) : Imports → Prop
  | refl : Grows allowed im im
  | bind {after : Imports} (short owner : String) (h : Grows allowed im after) :
      Grows allowed im (after.bind short owner)
  | register {after : Imports} {t : TypeRef} (ht : after.isLegal t = true) (ha : allowed t)
      (h : Grows allowed im after) : Grows allowed im (after.register t)

variable {allowed : TypeRef → Prop}

theorem Grows.trans (h : Grows allowed im after) (h' : Grows allowed after later) :
    Grows allowed im later := by
  induction h' with
  | refl => exact h
  | bind short owner _ ih => exact ih.bind short owner
  | register ht ha _ ih => exact ih.register ht ha

theorem grows_claim (im : Imports) (ht : allowed t) : im.Grows allowed (im.claim t).2 := by
  rcases im.claim_cases t with h | h | ⟨hl, h⟩
  · rw [h]
    exact .refl
  · rw [h]
    exact .bind _ _ .refl
  · rw [h]
    exact .register hl ht .refl

theorem grows_resolve (im : Imports) (ht : allowed t) : im.Grows allowed (im.resolve t).2 := by
  rw [resolve_snd]
  exact im.grows_claim ht

theorem grows_spellPiece (im : Imports) {p : Piece} (hp : ∀ t, p = .typeName t → allowed t) :
    im.Grows allowed (im.spellPiece p).2 := by
  cases p with
  | text s => exact .refl
  | typeVariable name => exact .refl
  | typeName t => exact im.grows_resolve (hp t rfl)

theorem grows_spell (im : Imports) {ps : List Piece} (hps : ∀ t, Piece.typeName t ∈ ps → allowed t) :
    im.Grows allowed (im.spell ps).2 := by
  induction ps generalizing im with
  | nil => exact .refl
  | cons p rest ih =>
    have hpiece := im.grows_spellPiece fun t ht => hps t (ht ▸ List.mem_cons_self)
    exact hpiece.trans (ih _ fun t ht => hps t (List.mem_cons_of_mem p ht))

/-- A request makes the imports grow, refused or not. -/
theorem grows_perform (im : Imports) (s : Step) : im.Grows (fun _ => True) (im.perform s).2 := by
  cases s with
  | add t =>
    rw [perform, add]
    by_cases hl : im.isLegal t = true
    · rw [if_pos hl]
      exact .register hl trivial .refl
    · rw [if_neg hl]
      exact .refl
  | claim t => exact im.grows_claim trivial
  | resolve t => exact im.grows_resolve trivial
  | render t static => exact im.grows_spell fun _ _ => trivial
  | annotate a =>
    have h : im.Grows (fun _ => True) (im.spell a.phrase.pieces).2 := im.grows_spell fun _ _ => trivial
    rw [perform, Annotation.Phrase.spell]
    cases a.phrase.fault with
    | none => exact h
    | some f => exact h
  | isLegal t => exact .refl
  | needsFullName t => exact .refl
  | sorted => exact .refl

/-- A run makes the imports grow. -/
theorem grows_run (im : Imports) (steps : List Step) : im.Grows (fun _ => True) (im.run steps).2 := by
  induction steps generalizing im with
  | nil => exact .refl
  | cons s rest ih =>
    rw [run_cons]
    exact (im.grows_perform s).trans (ih _)

/-! ### What is kept -/

theorem register_home (im : Imports) (t : TypeRef) : (im.register t).home = im.home := by
  unfold register
  split
  · rfl
  · exact bind_home _ _ _

theorem register_implicit (im : Imports) (t : TypeRef) :
    (im.register t).implicit = im.implicit := by
  unfold register
  split
  · rfl
  · exact bind_implicit _ _ _

theorem bind_keeps_bound (im : Imports) (short owner : String) :
    im.bound <+: (im.bind short owner).bound := by
  unfold bind
  split
  · exact List.prefix_refl _
  · exact List.prefix_append _ _

theorem owner_bind_of_some {short other o : String} (owner : String) (h : im.owner other = some o) :
    (im.bind short owner).owner other = some o := by
  rw [bind_owner, h, Option.some_or]

namespace Grows

theorem home (h : Grows allowed im after) : after.home = im.home := by
  induction h with
  | refl => rfl
  | bind short owner _ ih => rw [bind_home, ih]
  | register _ _ _ ih => rw [register_home, ih]

theorem implicit (h : Grows allowed im after) : after.implicit = im.implicit := by
  induction h with
  | refl => rfl
  | bind short owner _ ih => rw [bind_implicit, ih]
  | register _ _ _ ih => rw [register_implicit, ih]

/-- No import is replaced or dropped. -/
theorem registered_kept (h : Grows allowed im after) : im.registered <+: after.registered := by
  induction h with
  | refl => exact List.prefix_refl _
  | bind short owner _ ih => rwa [bind_registered]
  | @register mid t _ _ _ ih =>
    unfold Imports.register
    split
    · exact ih
    · rw [bind_registered]
      exact ih.trans (List.prefix_append _ _)

/-- No binding is replaced or dropped. -/
theorem bound_kept (h : Grows allowed im after) : im.bound <+: after.bound := by
  induction h with
  | refl => exact List.prefix_refl _
  | bind short owner _ ih => exact ih.trans (bind_keeps_bound _ _ _)
  | @register mid t _ _ _ ih =>
    unfold Imports.register
    split
    · exact ih
    · exact ih.trans (bind_keeps_bound { mid with registered := mid.registered ++ [t.raw] } _ _)

/-- A name that stands for an owner does so for ever. -/
theorem owner_of_some (h : Grows allowed im after) {short owner : String} (ho : im.owner short = some owner) :
    after.owner short = some owner := by
  obtain ⟨more, hmore⟩ := h.bound_kept
  have hlookup : im.bound.lookup short = some owner := ho
  show after.bound.lookup short = some owner
  rw [← hmore, List.lookup_append, hlookup, Option.some_or]

/-- A type that is registered was so before, or is the bare form of an allowed one. -/
theorem of_mem_registered (h : Grows allowed im after) {u : TypeRef} (hu : u ∈ after.registered) :
    u ∈ im.registered ∨ ∃ t, allowed t ∧ u = t.raw := by
  induction h with
  | refl => exact Or.inl hu
  | bind short owner _ ih => exact ih (bind_registered _ _ _ ▸ hu)
  | @register mid t _ ha _ ih =>
    unfold Imports.register at hu
    split at hu
    · exact ih hu
    · rw [bind_registered] at hu
      rcases List.mem_append.mp hu with hu | hu
      · exact ih hu
      · exact Or.inr ⟨t, ha, List.mem_singleton.mp hu⟩

/-- A name that is imported is so for ever. -/
theorem isRegistered (h : Grows allowed im after) {name : String} (hr : im.isRegistered name = true) :
    after.isRegistered name = true := by
  rw [isRegistered_iff] at hr ⊢
  exact (h.registered_kept.map _).subset hr

theorem inScope (h : Grows allowed im after) (t : TypeRef) : after.inScope t = im.inScope t := by
  rw [Imports.inScope, Imports.inScope, h.home, h.implicit]

end Grows

/-! ### Sound tables -/

/-- Whether the table of imports is sound: the types registered are bare declared types of packages
that need to be imported, no name is registered twice, and the simple name of each stands for it. -/
structure IsSound (im : Imports) : Prop where
  bare : ∀ t ∈ im.registered, t = t.raw ∧ t.kind = .declared
  outside : ∀ t ∈ im.registered, t.packageName ≠ "" ∧ im.inScope t = false
  nodup : (im.registered.map (·.name)).Nodup
  owner : ∀ t ∈ im.registered, im.owner t.simpleName = some t.name

namespace IsSound

theorem bind (h : im.IsSound) (short owner : String) : (im.bind short owner).IsSound := by
  have hr := bind_registered im short owner
  refine ⟨fun t ht => ?_, fun t ht => ?_, ?_, fun t ht => ?_⟩
  · exact h.bare t (hr ▸ ht)
  · rw [inScope, bind_home, bind_implicit]
    exact h.outside t (hr ▸ ht)
  · rw [hr]
    exact h.nodup
  · exact owner_bind_of_some owner (h.owner t (hr ▸ ht))

/-- Registering a type whose import is legal keeps the table sound: its simple name was free, and is
its own now, or was its own before. -/
theorem register (h : im.IsSound) (ht : im.isLegal t = true) : (im.register t).IsSound := by
  obtain ⟨hk, -, hp, hs, hfree⟩ := isLegal_eq_true_iff.mp ht
  unfold Imports.register
  by_cases hr : im.isRegistered t.name = true
  · rw [if_pos hr]
    exact h
  rw [if_neg hr]
  have hnew : t.name ∉ im.registered.map (·.name) := fun hm => hr (isRegistered_iff.mpr hm)
  have howner : ({ im with registered := im.registered ++ [t.raw] }.bind t.simpleName t.name).owner
      t.simpleName = some t.name :=
    owner_bind_of_isFreeFor hfree
  refine ⟨?_, ?_, ?_, ?_⟩ <;> rw [bind_registered]
  · intro u hu
    rcases List.mem_append.mp hu with hu | hu
    · exact h.bare u hu
    · rw [List.mem_singleton.mp hu]
      exact ⟨rfl, hk⟩
  · intro u hu
    rw [inScope, bind_home, bind_implicit]
    rcases List.mem_append.mp hu with hu | hu
    · exact h.outside u hu
    · rw [List.mem_singleton.mp hu]
      exact ⟨hp, hs⟩
  · rw [List.map_append, List.map_singleton]
    exact List.nodup_append.mpr ⟨h.nodup, List.nodup_singleton _, fun a ha b hb hab =>
      hnew (by rwa [← TypeRef.raw_name, ← List.mem_singleton.mp hb, ← hab])⟩
  · intro u hu
    rcases List.mem_append.mp hu with hu | hu
    · exact owner_bind_of_some _ (h.owner u hu)
    · rw [List.mem_singleton.mp hu]
      exact howner

/-- No two types registered have one simple name. -/
theorem eq_of_simpleName_eq (h : im.IsSound) {u : TypeRef} (ht : t ∈ im.registered)
    (hu : u ∈ im.registered) (hs : t.simpleName = u.simpleName) : t = u := by
  have hname : t.name = u.name := by
    have ho := h.owner t ht
    rw [hs, h.owner u hu] at ho
    exact (Option.some.inj ho).symm
  exact List.inj_on_of_nodup_map h.nodup ht hu hname

theorem simpleName_nodup (h : im.IsSound) : (im.registered.map TypeRef.simpleName).Nodup :=
  List.Nodup.map_on (fun _ ht _ hu hs => h.eq_of_simpleName_eq ht hu hs) (List.Nodup.of_map _ h.nodup)

/-- A type registered is what is found under its name. -/
theorem find?_name (h : im.IsSound) (ht : t ∈ im.registered) :
    im.registered.find? (fun u => u.name = t.name) = some t := by
  obtain ⟨u, hu⟩ : ∃ u, im.registered.find? (fun u => u.name = t.name) = some u := by
    rw [← Option.isSome_iff_exists, List.find?_isSome]
    exact ⟨t, ht, decide_eq_true rfl⟩
  have hname : u.name = t.name := by simpa using List.find?_some hu
  rw [hu, List.inj_on_of_nodup_map h.nodup (List.mem_of_find?_eq_some hu) ht hname]

end IsSound

/-- **A sound table stays sound**, whatever is asked of the imports. -/
theorem Grows.isSound (h : Grows allowed im after) (hi : im.IsSound) : after.IsSound := by
  induction h with
  | refl => exact hi
  | bind short owner _ ih => exact ih.bind short owner
  | register ht _ _ ih => exact ih.register ht

/-! ### The start of a unit -/

theorem grows_start (home : String) (implicit : List String) (reserved : List TypeRef) :
    Grows allowed { home, implicit } (start home implicit reserved) := by
  unfold start
  generalize ({ home, implicit } : Imports) = im
  induction reserved generalizing im with
  | nil => exact .refl
  | cons r rest ih => exact (Grows.bind _ _ .refl).trans (ih _)

theorem registered_start (home : String) (implicit : List String) (reserved : List TypeRef) :
    (start home implicit reserved).registered = [] := by
  have hgrows : Grows (fun _ => False) { home, implicit } (start home implicit reserved) :=
    grows_start home implicit reserved
  refine List.eq_nil_iff_forall_not_mem.mpr fun u hu => ?_
  rcases hgrows.of_mem_registered hu with hu | ⟨t, ht, -⟩
  · exact absurd hu List.not_mem_nil
  · exact ht

theorem isSound_start (home : String) (implicit : List String) (reserved : List TypeRef) :
    (start home implicit reserved).IsSound := by
  have hgrows : Grows (fun _ => True) { home, implicit } (start home implicit reserved) :=
    grows_start home implicit reserved
  exact hgrows.isSound ⟨fun _ h => absurd h List.not_mem_nil, fun _ h => absurd h List.not_mem_nil,
    List.nodup_nil, fun _ h => absurd h List.not_mem_nil⟩

/-- At the start a name stands for the outermost type of the first reserved type with that local
name. -/
theorem owner_start (home : String) (implicit : List String) (reserved : List TypeRef)
    (short : String) : (start home implicit reserved).owner short =
      (reserved.find? fun r => r.localName = short).map TypeRef.ownerName := by
  have hfold : ∀ (rs : List TypeRef) (im : Imports),
      (rs.foldl (fun im r => im.bind r.localName r.ownerName) im).owner short =
        (im.owner short).or ((rs.find? fun r => r.localName = short).map TypeRef.ownerName) := by
    intro rs
    induction rs with
    | nil => exact fun im => (Option.or_none).symm
    | cons r rest ih =>
      intro im
      rw [List.foldl_cons, ih, bind_owner, List.find?_cons, Option.or_assoc]
      by_cases hr : r.localName = short
      · simp [hr]
      · simp [hr]
  rw [start, hfold]
  rfl

/-! ### Main result -/

/-- **The table of imports is sound at every moment of every run.** A type that is registered is found
under its name, it is bare and of a package that is neither the default one nor one in scope, and its
simple name stands for it; no two have one simple name, and none has the outermost name of a reserved
type but the type that this name was bound to. Nothing registered or bound is replaced or
dropped by what is asked later. -/
theorem table_invariant (home : String) (implicit : List String) (reserved : List TypeRef)
    (steps more : List Step) :
    let im := ((start home implicit reserved).run steps).2
    let after := (im.run more).2
    (∀ t ∈ im.registered, im.registered.find? (fun u => u.name = t.name) = some t ∧
      t.args = [] ∧ t.dims = 0 ∧ t.wildcard = none ∧ t.kind = .declared ∧
      t.packageName ≠ "" ∧ t.packageName ≠ home ∧ t.packageName ∉ implicit ∧
      im.owner t.simpleName = some t.name) ∧
    (im.registered.map TypeRef.simpleName).Nodup ∧
    (∀ t ∈ im.registered, ∀ r, reserved.find? (fun r => r.localName = t.simpleName) = some r →
      t.name = r.ownerName) ∧
    im.registered <+: after.registered ∧ im.bound <+: after.bound ∧
    ∀ short owner, im.owner short = some owner → after.owner short = some owner := by
  intro im after
  have hstart : Grows (fun _ => True) { home, implicit } (start home implicit reserved) :=
    grows_start home implicit reserved
  have hrun : Grows (fun _ => True) (start home implicit reserved) im := grows_run _ steps
  have hmore : im.Grows (fun _ => True) after := im.grows_run more
  have hsound : im.IsSound := hrun.isSound (isSound_start home implicit reserved)
  have hhome : im.home = home := hrun.home.trans hstart.home
  have himplicit : im.implicit = implicit := hrun.implicit.trans hstart.implicit
  refine ⟨fun t ht => ?_, hsound.simpleName_nodup, fun t ht r hr => ?_, hmore.registered_kept,
    hmore.bound_kept, fun short owner => hmore.owner_of_some⟩
  · obtain ⟨hbare, hk⟩ := hsound.bare t ht
    obtain ⟨hp, hscope⟩ := hsound.outside t ht
    rw [inScope, hhome, himplicit, Bool.or_eq_false_iff, decide_eq_false_iff_not,
      decide_eq_false_iff_not] at hscope
    refine ⟨hsound.find?_name ht, ?_, ?_, ?_, hk, hp, hscope.1, hscope.2, hsound.owner t ht⟩
    all_goals rw [hbare]; rfl
  · have hreserved : (start home implicit reserved).owner t.simpleName = some r.ownerName := by
      rw [owner_start, hr, Option.map_some]
    have hnow := hrun.owner_of_some hreserved
    rw [hsound.owner t ht] at hnow
    exact Option.some.inj hnow

end Imports
end Intertype
