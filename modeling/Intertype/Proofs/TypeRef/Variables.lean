/-
# Type variables in source text

A type variable is written by its name, whatever the imports are, and the imports never hear of it.

The static form of a reference declares the type variables in front. The variables that a reference uses
are collected by a recursion of their own, which drops a name that it has seen as it goes. What it
collects are the variables that the text shows, each once, in the order of their first appearance
(`TypeRef.typeVariables_eq`), so that the static form declares exactly what it shows
(`TypeRef.static_form_declares`).

A declared type is written by the name of a type variable if that is the short name by which the unit
knows the type, and only then (`Imports.written_as_variable_iff`).

Key definitions: `Piece.variableNames`, `TypeRef.writtenNodes`, `Imports.Names`.
Key theorems: `TypeRef.typeVariables_eq`, `TypeRef.static_form_declares`,
`Imports.resolve_eq_iff`, `Imports.written_as_variable_iff`.
-/
import Intertype.Proofs.Emission.Growth
import Intertype.Proofs.Imports.Claiming
import Mathlib.Data.List.Induction

namespace Intertype

/-! ### The variables in a text -/

namespace Piece

/-- The name of the type variable that a piece is. -/
def variableName? : Piece → Option String
  | typeVariable name => some name
  | _ => none

/-- The names of the type variables in a text, in the order in which they stand there. -/
def variableNames (ps : List Piece) : List String :=
  ps.filterMap variableName?

theorem variableNames_append (a b : List Piece) : variableNames (a ++ b) = variableNames a ++ variableNames b :=
  List.filterMap_append

theorem variableNames_listed (separator : String) : ∀ pss : List (List Piece),
    variableNames (listed separator pss) = pss.flatMap variableNames
  | [] => rfl
  | [ps] => (List.append_nil _).symm
  | ps :: qs :: more => by
    have hrest := variableNames_listed separator (qs :: more)
    rw [listed, variableNames_append, List.flatMap_cons, ← hrest]
    rfl

end Piece

namespace TypeRef

/-- The nodes of a reference that are written, from left to right: a wildcard without a bound is not,
and neither are the arguments of a primitive type. -/
def writtenNodes (t : TypeRef) : List TypeRef :=
  t.fold fun t below =>
    if t.wildcard = some .unbounded then []
    else if t.kind = .primitive then [t]
    else t :: below.flatten

theorem writtenNodes_eq (t : TypeRef) : t.writtenNodes =
    if t.wildcard = some .unbounded then []
    else if t.kind = .primitive then [t]
    else t :: t.args.flatMap writtenNodes := by
  unfold writtenNodes
  rw [fold_eq, List.flatMap_def]

/-- The variables in the text of a reference that is written: itself if it is one, and those of its
arguments. -/
theorem variableNames_pieces {t : TypeRef} (hw : t.wildcard ≠ some .unbounded)
    (hp : t.kind ≠ .primitive) : Piece.variableNames t.pieces =
      (if t.kind = .typeVariable then [t.simpleName] else []) ++
        t.args.flatMap fun a => Piece.variableNames a.pieces := by
  rw [pieces_eq, if_neg hw, if_neg hp]
  have hname : ∀ ps, Piece.variableNames (t.namePiece :: ps) =
      (if t.kind = .typeVariable then [t.simpleName] else []) ++ Piece.variableNames ps := by
    intro ps
    unfold namePiece
    split <;> rfl
  have htext : ∀ s ps, Piece.variableNames (.text s :: ps) = Piece.variableNames ps := fun _ _ => rfl
  rw [htext, hname]
  by_cases ha : t.args = []
  · rw [if_pos ha, ha]
    rfl
  · rw [if_neg ha, htext, Piece.variableNames_append, Piece.variableNames_listed, List.flatMap_map, htext]
    exact congrArg _ (List.append_nil _)

/-- The variables in the text of a reference are those among its nodes that are written. -/
theorem variableNames_pieces_eq (t : TypeRef) : Piece.variableNames t.pieces =
    (t.writtenNodes.filter (·.kind = .typeVariable)).map simpleName := by
  induction t using inductionOn with
  | node t ih =>
    rw [writtenNodes_eq]
    by_cases hw : t.wildcard = some .unbounded
    · rw [pieces_eq, if_pos hw, if_pos hw]
      rfl
    by_cases hp : t.kind = .primitive
    · rw [pieces_eq, if_neg hw, if_neg hw, if_pos hp, if_pos hp, List.filter_cons_of_neg (by simp [hp])]
      rfl
    have hargs : (t.args.flatMap fun a => Piece.variableNames a.pieces) =
        ((t.args.flatMap writtenNodes).filter (·.kind = .typeVariable)).map simpleName := by
      rw [List.filter_flatMap, List.map_flatMap]
      exact List.flatMap_congr ih
    rw [variableNames_pieces hw hp, if_neg hw, if_neg hp, List.filter_cons, hargs]
    by_cases hv : t.kind = .typeVariable
    · simp [hv]
    · simp [hv]

/-! ### Each once, in the order of first appearance -/

/-- Adding names one by one drops those that have been seen. -/
theorem addNew_eraseDups (xs ys : List String) :
    addNew xs.eraseDups ys = (xs ++ ys).eraseDups := by
  induction ys generalizing xs with
  | nil => rw [addNew, List.append_nil]
  | cons y rest ih =>
    have hstep : (if y ∈ xs.eraseDups then xs.eraseDups else xs.eraseDups ++ [y]) =
        (xs ++ [y]).eraseDups := by
      rw [Claim.eraseDups_append_singleton]
      simp only [List.mem_eraseDups]
    rw [addNew, hstep, ih, List.append_assoc, List.singleton_append]

/-- What has been seen need not be looked for again. -/
theorem addNew_filter {seen : List String} {x : String} (hx : x ∈ seen) (ys : List String) :
    addNew seen (ys.filter fun y => !y == x) = addNew seen ys := by
  induction ys generalizing seen with
  | nil => rfl
  | cons y rest ih =>
    by_cases hy : y = x
    · rw [List.filter_cons_of_neg (by simp [hy]), ih hx, addNew, hy, if_pos hx]
    · rw [List.filter_cons_of_pos (by simp [hy]), addNew, addNew, ih]
      split
      · exact hx
      · exact List.mem_append_left _ hx

/-- Names that occur again make no difference to what is added. -/
theorem addNew_of_eraseDups (seen : List String) : ∀ ys : List String,
    addNew seen ys.eraseDups = addNew seen ys
  | [] => rfl
  | y :: rest => by
    have hseen : y ∈ (if y ∈ seen then seen else seen ++ [y]) := by
      split
      · assumption
      · exact List.mem_append_right _ List.mem_cons_self
    rw [List.eraseDups_cons, addNew, addNew_of_eraseDups, addNew_filter hseen, addNew]
  termination_by ys => ys.length
  decreasing_by exact Nat.lt_succ_of_le (List.length_filter_le _ rest)

/-- Where each of several references uses the variables that it shows, so do all of them together. -/
theorem addVariables_eraseDups {shown : TypeRef → List String} {ts : List TypeRef}
    (h : ∀ t ∈ ts, t.typeVariables = (shown t).eraseDups) (xs : List String) :
    addVariables xs.eraseDups ts = (xs ++ ts.flatMap shown).eraseDups := by
  induction ts generalizing xs with
  | nil => rw [addVariables, List.flatMap_nil, List.append_nil]
  | cons t rest ih =>
    rw [addVariables, h t List.mem_cons_self, addNew_of_eraseDups, addNew_eraseDups,
      ih (fun u hu => h u (List.mem_cons_of_mem t hu)), List.flatMap_cons, List.append_assoc]

/-- The variables that a reference uses are those that its text shows, each once, in the order of their
first appearance. A primitive type with arguments would be another matter: they are not written. -/
theorem typeVariables_eq {t : TypeRef} (h : ∀ u ∈ t.nodes, u.kind = .primitive → u.args = []) :
    t.typeVariables = (Piece.variableNames t.pieces).eraseDups := by
  induction t using inductionOn with
  | node t ih =>
    have hargs : ∀ a ∈ t.args, a.typeVariables = (Piece.variableNames a.pieces).eraseDups :=
      fun a ha => ih a ha fun u hu => h u (mem_nodes_of_arg ha hu)
    have hown : t.typeVariables = if t.wildcard = some .unbounded then []
        else addVariables (if t.kind = .typeVariable then [t.simpleName] else []) t.args := by
      obtain ⟨name, args, dims, kind, wildcard, package⟩ := t
      rw [typeVariables]
    rw [hown]
    by_cases hw : t.wildcard = some .unbounded
    · rw [if_pos hw, pieces_eq, if_pos hw]
      rfl
    by_cases hp : t.kind = .primitive
    · rw [if_neg hw, pieces_eq, if_neg hw, if_pos hp, h t t.self_mem_nodes hp, hp]
      rfl
    rw [if_neg hw, variableNames_pieces hw hp, ← addVariables_eraseDups hargs]
    split <;> rfl

theorem eraseDups_pairwise (xs : List String) :
    xs.eraseDups.Pairwise fun x y => xs.idxOf x < xs.idxOf y := by
  induction xs using List.reverseRecOn with
  | nil => exact List.Pairwise.nil
  | append_singleton xs x ih =>
    have hkept : xs.eraseDups.Pairwise fun y z => (xs ++ [x]).idxOf y < (xs ++ [x]).idxOf z := by
      refine ih.imp_of_mem fun hy hz hlt => ?_
      rwa [List.idxOf_append_of_mem (List.mem_eraseDups.mp hy),
        List.idxOf_append_of_mem (List.mem_eraseDups.mp hz)]
    rw [Claim.eraseDups_append_singleton]
    by_cases hx : x ∈ xs
    · rwa [if_pos hx]
    · rw [if_neg hx]
      refine List.pairwise_append.mpr ⟨hkept, List.pairwise_singleton _ _, fun y hy z hz => ?_⟩
      have hy := List.mem_eraseDups.mp hy
      rw [List.mem_singleton.mp hz, List.idxOf_append_of_mem hy, List.idxOf_append_of_notMem hx]
      exact Nat.lt_of_lt_of_le (List.idxOf_lt_length_of_mem hy) (Nat.le_add_right _ _)

/-! ### The static form -/

/-- **The static form declares exactly the variables that it shows.** It is the text of the reference
where that shows no type variable. Otherwise the variables shown, which are those among the nodes that
are written, stand in front between angle brackets, each once and in the order of their first
appearance. This is so with every name in full, and with the names as any imports allow. -/
theorem static_form_declares (t : TypeRef) (h : ∀ u ∈ t.nodes, u.kind = .primitive → u.args = []) :
    let shown := Piece.variableNames t.pieces
    let declared := shown.eraseDups
    let front := if shown = [] then "" else "<" ++ Text.joined ", " declared ++ "> "
    shown = (t.writtenNodes.filter (·.kind = .typeVariable)).map simpleName ∧
      declared.Nodup ∧ (∀ v, v ∈ declared ↔ v ∈ shown) ∧
      declared.Pairwise (fun v w => shown.idxOf v < shown.idxOf w) ∧
      t.staticText = front ++ t.text ∧
      ∀ im : Imports,
        im.spell t.staticPieces = (front ++ (im.spell t.pieces).1, (im.spell t.pieces).2) := by
  intro shown declared front
  have hnil : declared = [] ↔ shown = [] := by
    simp only [List.eq_nil_iff_forall_not_mem, declared, List.mem_eraseDups]
  have hfront : t.variableDeclaration = front := by
    rw [variableDeclaration, typeVariables_eq h]
    show (if declared = [] then "" else _) = _
    by_cases hs : shown = []
    · rw [if_pos (hnil.mpr hs)]
      exact (if_pos hs).symm
    · rw [if_neg fun hd => hs (hnil.mp hd)]
      exact (if_neg hs).symm
  refine ⟨variableNames_pieces_eq t, Claim.nodup_eraseDups _, fun v => List.mem_eraseDups,
    eraseDups_pairwise _, ?_, fun im => ?_⟩
  · rw [← hfront]
    rfl
  · rw [← hfront]
    rfl

/-- A variable beneath a bounded wildcard and an array is declared, and one that occurs again is not
declared again. -/
theorem static_form_declares_map :
    let v (name : String) : TypeRef := ⟨name, [], 0, .typeVariable, none, some ""⟩
    let list (t : TypeRef) : TypeRef := ⟨"java.util.List", [t], 1, .declared, none, none⟩
    let t : TypeRef := ⟨"java.util.Map", [list (v "V"), .wildcardOf (some (list ⟨"java.util.Map",
      [v "K", .anything, v "V"], 0, .declared, none, none⟩)) true], 0, .declared, none, none⟩
    (∀ u ∈ t.nodes, u.kind = .primitive → u.args = []) ∧
      ((Imports.start "com.acme" ["java.lang"] []).spell t.staticPieces).1 =
        "<V, K> Map<List<V>[], ? extends List<Map<K, ?, V>>[]>" := by
  intro v list t
  have h : ∀ u ∈ t.nodes, u.kind = .primitive → u.args = [] := by decide
  refine ⟨h, ?_⟩
  rw [(static_form_declares t h).2.2.2.2.2]
  decide

end TypeRef

/-! ### Types written like variables -/

namespace TypeRef

variable {t : TypeRef}

/-- A declared type in the package that its name shows, and not in the default package. -/
structure IsPackaged (t : TypeRef) : Prop where
  declared : t.kind = .declared
  derived : t.package = none
  inPackage : t.isDefaultPackage = false

/-- The name in full of a type in a package has a dot. -/
theorem IsPackaged.dot_mem_name (h : t.IsPackaged) : '.' ∈ t.name.toList := by
  by_contra hdot
  exact simpleName_ne_name h.declared h.derived h.inPackage (simpleName_of_segment hdot)

/-- A type whose relative name is a single segment is not nested. -/
theorem IsPackaged.ownerName_of_segment (h : t.IsPackaged) (hdot : '.' ∉ t.relativeName.toList) :
    t.ownerName = t.name := by
  have hafter : Dotted.afterHead t.relativeName.toList = [] := by
    have happend := Dotted.head_append_afterHead t.relativeName.toList
    rw [Dotted.head, Dotted.segments_of_notMem hdot] at happend
    exact List.append_cancel_left (happend.trans (List.append_nil _).symm)
  rw [← ownerName_append h.declared h.derived, hafter, String.ofList_nil, String.append_empty]

end TypeRef

namespace Imports

variable {im mid after : Imports} {t : TypeRef} {short : String}

/-- Whether the unit knows the type by the short name: the type is imported and this is its simple name,
or it is in scope, and this is its relative name and stands for it. -/
def Names (im : Imports) (short : String) (t : TypeRef) : Prop :=
  (im.isRegistered t.name = true ∧ short = t.simpleName) ∨
    (im.inScope t = true ∧ im.owner short = some t.name ∧ short = t.relativeName)

instance (im : Imports) (short : String) (t : TypeRef) : Decidable (im.Names short t) :=
  inferInstanceAs (Decidable ((im.isRegistered t.name = true ∧ short = t.simpleName) ∨
    (im.inScope t = true ∧ im.owner short = some t.name ∧ short = t.relativeName)))

theorem resolve_of_isRegistered (hk : t.kind = .declared) (hr : im.isRegistered t.name = true) :
    (im.resolve t).1 = t.simpleName := by
  have hgrows : im.Grows (· = t) (im.claim t).2 := im.grows_claim rfl
  rw [resolve_fst, if_neg fun hne => hne hk, needsFullName_of_isRegistered hr,
    if_neg Bool.false_ne_true, if_pos (hgrows.isRegistered hr)]

theorem resolve_of_short (hk : t.kind = .declared) (hr : im.isRegistered t.name = false)
    (hn : im.needsFullName t = false) :
    (im.resolve t).1 = if im.inScope t then t.relativeName else t.simpleName := by
  rw [resolve_fst, if_neg fun hne => hne hk, hn, if_neg Bool.false_ne_true, claim_granted hk hr hn]
  by_cases hs : im.inScope t = true
  · have hstill : ¬ (im.bind (im.shortName t) (im.shortOwner t)).isRegistered t.name = true := by
      rw [isRegistered, bind_registered]
      exact Bool.eq_false_iff.mp hr
    rw [if_pos hs, if_pos hs, if_neg hstill]
  · rw [if_neg hs, if_neg hs, if_pos (isRegistered_register im t)]

/-- A type that is imported in the end, but not at a moment before, is in no package in scope if all
that comes between are types in packages. -/
theorem inScope_of_registered_later (hm : mid.Grows TypeRef.IsPackaged after) (hsound : after.IsSound)
    (ht : t.IsPackaged) (hr : mid.isRegistered t.name = false)
    (hlater : after.isRegistered t.name = true) : mid.inScope t = false := by
  obtain ⟨v, hv, hname⟩ := List.mem_map.mp (isRegistered_iff.mp hlater)
  have hderived : v.package = none := by
    rcases hm.of_mem_registered hv with hold | ⟨u, hu, rfl⟩
    · exact absurd (isRegistered_iff.mpr (List.mem_map.mpr ⟨v, hold, hname⟩)) (by rw [hr]; decide)
    · exact hu.derived
  have hpackage : v.packageName = t.packageName :=
    TypeRef.packageName_congr ht.declared ht.derived (hsound.bare v hv).2 hderived hname
  have hscope := (hsound.outside v hv).2
  rwa [Imports.inScope, hpackage, ← Imports.inScope, hm.inScope] at hscope

/-- A short name that stands for its type in the end can be given to it before. -/
theorem needsFullName_of_owner_later (hm : mid.Grows TypeRef.IsPackaged after) (ht : t.IsPackaged)
    (hr : mid.isRegistered t.name = false) (hs : mid.HasShortName t)
    (ho : after.owner (mid.shortName t) = some (mid.shortOwner t)) : mid.needsFullName t = false := by
  refine (needsFullName_eq_false_iff ht.declared hr).mpr ⟨hs, hm.isFreeFor ?_⟩
  rw [isFreeFor_iff, ho]
  exact fun o h => (Option.some.inj h).symm

/-- A type that is imported in the end, but not yet, is written by its simple name: that name is the
type's own in the end, so it is free for the type now. -/
theorem resolve_of_registered_later (hm : mid.Grows TypeRef.IsPackaged after) (hsound : after.IsSound)
    (ht : t.IsPackaged) (hw : t.wildcard ≠ some .unbounded) (hr : mid.isRegistered t.name = false)
    (hlater : after.isRegistered t.name = true) : (mid.resolve t).1 = t.simpleName := by
  have hs : mid.inScope t = false := inScope_of_registered_later hm hsound ht hr hlater
  obtain ⟨v, hv, hname⟩ := List.mem_map.mp (isRegistered_iff.mp hlater)
  have howner : after.owner t.simpleName = some t.name := by
    have hsimple : v.simpleName = t.simpleName := by rw [TypeRef.simpleName, hname]; rfl
    rw [← hsimple, ← hname]
    exact hsound.owner v hv
  have hp : t.packageName ≠ "" := by simpa [TypeRef.isDefaultPackage] using ht.inPackage
  have hn : mid.needsFullName t = false := by
    refine needsFullName_of_owner_later hm ht hr (Or.inr ⟨hw, hp⟩) ?_
    rwa [shortName, shortOwner, hs, if_neg Bool.false_ne_true, if_neg Bool.false_ne_true]
  rw [resolve_of_short ht.declared hr hn, hs, if_neg Bool.false_ne_true]

/-- A type in scope whose relative name stands for it in the end is written by that name. -/
theorem resolve_of_owner_later (hm : mid.Grows TypeRef.IsPackaged after) (ht : t.IsPackaged)
    (hr : mid.isRegistered t.name = false) (hs : mid.inScope t = true) (hname : t.ownerName = t.name)
    (howner : after.owner t.relativeName = some t.name) : (mid.resolve t).1 = t.relativeName := by
  have hn : mid.needsFullName t = false := by
    refine needsFullName_of_owner_later hm ht hr (Or.inl hs) ?_
    rwa [shortName, shortOwner, if_pos hs, if_pos hs, hname, ← TypeRef.relativeName_eq_localName hname]
  rw [resolve_of_short ht.declared hr hn, if_pos hs]

/-- **When a type is written by a short name.** A type in a package is written by a name without dots
exactly if that is the short name by which the unit knows it in the end. -/
theorem resolve_eq_iff (hm : mid.IsSound) (hafter : (mid.resolve t).2.Grows TypeRef.IsPackaged after)
    (ht : t.IsPackaged) (hw : t.wildcard ≠ some .unbounded) (hdot : '.' ∉ short.toList) :
    (mid.resolve t).1 = short ↔ after.Names short t := by
  have hgrows : mid.Grows TypeRef.IsPackaged after := (mid.grows_resolve ht).trans hafter
  constructor
  · rintro rfl
    rcases mid.resolve_cases ht.declared with hfull | ⟨hr, hsimple⟩ | ⟨hs, howner, hrelative⟩
    · rw [hfull] at hdot
      exact absurd ht.dot_mem_name hdot
    · exact Or.inl ⟨hafter.isRegistered hr, hsimple⟩
    · -- a relative name without dots is the local name, and stands for the type itself
      rw [hrelative] at hdot
      have hname := ht.ownerName_of_segment hdot
      rw [hname, ← TypeRef.relativeName_eq_localName hname] at howner
      refine Or.inr ⟨?_, ?_, hrelative⟩
      · rwa [hgrows.inScope]
      · rw [hrelative]
        exact hafter.owner_of_some howner
  · intro hnames
    cases hr : mid.isRegistered t.name with
    | true =>
      rw [resolve_of_isRegistered ht.declared hr]
      rcases hnames with ⟨-, rfl⟩ | ⟨-, -, rfl⟩
      · rfl
      · have hname := ht.ownerName_of_segment hdot
        rw [TypeRef.relativeName_eq_localName hname, TypeRef.localName_eq_simpleName hname]
    | false =>
      rcases hnames with ⟨hlater, rfl⟩ | ⟨hs, howner, rfl⟩
      · exact resolve_of_registered_later hgrows (hgrows.isSound hm) ht hw hr hlater
      · rw [hgrows.inScope] at hs
        exact resolve_of_owner_later hgrows ht hr hs (ht.ownerName_of_segment hdot) howner

/-! ### Main result -/

/-- The static form adds no names to the text of a reference. -/
theorem mem_of_mem_returnPieces {p : Piece} {static : Bool} (h : p ∈ t.returnPieces static)
    (hp : ∀ s, p ≠ .text s) : p ∈ t.pieces := by
  unfold TypeRef.returnPieces at h
  split at h
  · rcases List.mem_cons.mp h with rfl | h
    · exact absurd rfl (hp _)
    · exact h
  · exact h

/-- **When a type is written like a type variable.** In any text of a reference to types in packages, at
any moment, a type is written by the name of a type variable of that text exactly if this is the short
name by which the unit knows the type. Another type of that simple name is written in full, or it is
nested, in scope, and written by its relative name. -/
theorem written_as_variable_iff (home : String) (implicit : List String) (reserved : List TypeRef)
    (steps : List Step) (static : Bool)
    (hd : ∀ u ∈ t.nodes, u.kind = .declared → u.package = none ∧ u.isDefaultPackage = false) :
    let im := ((start home implicit reserved).run steps).2
    let text := im.spelled (t.returnPieces static)
    let after := (im.spell (t.returnPieces static)).2
    Piece.written text = (im.spell (t.returnPieces static)).1 ∧
    ∀ u s x y, (.typeName u, s) ∈ text → (.typeVariable x, y) ∈ text →
      (s = y ↔ after.Names y u) ∧
      (y = u.simpleName → s ≠ y →
        s = u.name ∨ after.inScope u = true ∧ u.ownerName ≠ u.name ∧ s = u.relativeName) := by
  intro im text after
  refine ⟨written_spelled _ _, fun u s x y hu hx => ?_⟩
  have hpackaged : Piece.NameOnly TypeRef.IsPackaged (t.returnPieces static) := by
    intro v hv
    obtain ⟨hn, hk, -⟩ := TypeRef.mem_pieces (mem_of_mem_returnPieces hv fun _ h => by cases h)
    exact ⟨hk, (hd v hn hk).1, (hd v hn hk).2⟩
  -- the variable is called by a name without dots
  obtain ⟨hxm, now, -, rfl, -⟩ := exists_of_mem_spelled hpackaged hx
  have hdot : '.' ∉ x.toList := by
    have hname : x ∈ Piece.variableNames t.pieces :=
      List.mem_filterMap.mpr ⟨_, mem_of_mem_returnPieces hxm (fun _ h => by cases h), rfl⟩
    rw [TypeRef.variableNames_pieces_eq] at hname
    obtain ⟨v, -, rfl⟩ := List.mem_map.mp hname
    exact v.dot_notMem_simpleName
  -- the type is spelled by the imports of some moment, which are sound
  obtain ⟨hum, mid, hbefore, rfl, hafter⟩ := exists_of_mem_spelled hpackaged hu
  have ht := hpackaged u hum
  have hw := (TypeRef.mem_pieces (mem_of_mem_returnPieces hum fun _ h => by cases h)).2.2
  have hsound : mid.IsSound :=
    hbefore.isSound ((grows_run _ steps).isSound (isSound_start home implicit reserved))
  refine ⟨resolve_eq_iff hsound hafter ht hw hdot, fun hsimple hne => ?_⟩
  rcases mid.resolve_cases ht.declared with hfull | ⟨-, hs⟩ | ⟨hscope, -, hs⟩
  · exact Or.inl hfull
  · exact absurd (hs.trans hsimple.symm) hne
  · have hgrows := (mid.grows_resolve ht).trans hafter
    refine Or.inr ⟨by rwa [hgrows.inScope], fun hname => hne ?_, hs⟩
    rw [hsimple]
    exact hs.trans ((TypeRef.relativeName_eq_localName hname).trans
      (TypeRef.localName_eq_simpleName hname))

/-- Of two types with the simple name of the type variable, the one that was imported before has the
name, and the other one is written in full. -/
theorem written_as_variable_iff_imported :
    let v : TypeRef := ⟨"T", [], 0, .typeVariable, none, some ""⟩
    let home := TypeRef.declared "com.acme.T"
    let foreign := TypeRef.declared "org.other.T"
    let t : TypeRef := ⟨"java.util.Map", [v, .wildcardOf (some ⟨"java.util.Map", [home, foreign], 0,
      .declared, none, none⟩) true], 0, .declared, none, none⟩
    let im := ((start "com.acme" ["java.lang"] []).run [.resolve foreign]).2
    let after := (im.spell (t.returnPieces true)).2
    (∀ u ∈ t.nodes, u.kind = .declared → u.package = none ∧ u.isDefaultPackage = false) ∧
      (im.spell (t.returnPieces true)).1 = "<T> Map<T, ? extends Map<com.acme.T, T>>" ∧
      after.Names "T" foreign ∧ ¬ after.Names "T" home := by
  intro v home foreign t im after
  have hd : ∀ u ∈ t.nodes, u.kind = .declared → u.package = none ∧ u.isDefaultPackage = false := by
    decide
  have h := (written_as_variable_iff "com.acme" ["java.lang"] [] [.resolve foreign] true hd).2
  refine ⟨hd, by decide, ?_, fun hn => ?_⟩
  · exact (h foreign "T" "T" "T" (by decide) (by decide)).1.mp rfl
  · exact absurd ((h home "com.acme.T" "T" "T" (by decide) (by decide)).1.mpr hn)
      (by decide)

/-- A type of the home package is written by its short name beside a type variable of that name, and
nothing tells the two apart. -/
theorem variable_name_taken :
    let v : TypeRef := ⟨"T", [], 0, .typeVariable, none, some ""⟩
    let home := TypeRef.declared "com.acme.T"
    let t : TypeRef := ⟨"java.util.Map", [v, home], 0, .declared, none, none⟩
    let im := start "com.acme" ["java.lang"] []
    (∀ u ∈ t.nodes, u.kind = .declared → u.package = none ∧ u.isDefaultPackage = false) ∧
      home.simpleName = v.name ∧ '.' ∉ v.name.toList ∧
      (.typeVariable v.name, "T") ∈ im.spelled t.pieces ∧ (.typeName home, "T") ∈ im.spelled t.pieces ∧
      (im.spell t.pieces).1 = "Map<T, T>" := by
  decide

end Imports
end Intertype
