/-
# How names come apart

A name is its segments with dots between them, and the segments can be read off it
(`Dotted.segments_join`). The segments of a type's name are those of its package, none with a capital
initial, and those of its relative name, the first of which has one unless it is the last
(`TypeRef.exists_cut`). So a name with a package is told from a relative name by its first segment,
and from a simple name by its dots.

A name that begins with its package, be it the one that the name shows or one that is given, is put
together from its parts again (`TypeRef.IsInPackage.decomposes`): the name of a nested type is that of
its outermost type with the rest of the relative name. The package that a name shows takes as many
segments as it can (`TypeRef.Cut.length_le`).

Key definitions: `TypeRef.Cut`, `TypeRef.qualifiedName`, `TypeRef.IsInPackage`, `TypeRef.Decomposes`,
`TypeRef.IsPackageRun`.
Key theorems: `Dotted.segments_join`, `TypeRef.exists_cut`, `TypeRef.simpleName_ne_name`,
`TypeRef.packageName_of_owner`, `TypeRef.IsInPackage.decomposes`, `TypeRef.names_decompose`.
-/
import Intertype.TypeRef.Naming
import Mathlib.Data.List.Basic

namespace Intertype

/-! ### Segments -/

namespace Dotted

theorem dot_notMem_of_mem_segments {cs s : List Char} (h : s ∈ segments cs) : '.' ∉ s := by
  induction cs generalizing s with
  | nil =>
    rw [segments, List.mem_singleton] at h
    rw [h]
    exact List.not_mem_nil
  | cons c rest ih =>
    unfold segments at h
    by_cases hc : c = '.'
    · rw [if_pos hc] at h
      rcases List.mem_cons.mp h with rfl | h
      · exact List.not_mem_nil
      · exact ih h
    · rw [if_neg hc] at h
      cases hs : segments rest with
      | nil => exact absurd hs (segments_ne_nil rest)
      | cons t more =>
        rw [hs] at h ih
        rcases List.mem_cons.mp h with rfl | h
        · intro hd
          rcases List.mem_cons.mp hd with hd | hd
          · exact hc hd.symm
          · exact ih List.mem_cons_self hd
        · exact ih (List.mem_cons_of_mem _ h)

theorem segments_of_notMem {cs : List Char} (h : '.' ∉ cs) : segments cs = [cs] := by
  induction cs with
  | nil => rfl
  | cons c rest ih =>
    rw [List.mem_cons, not_or] at h
    rw [segments, if_neg (Ne.symm h.1), ih h.2]

/-- A name is cut at each of its dots. -/
theorem segments_append (a b : List Char) : segments (a ++ '.' :: b) = segments a ++ segments b := by
  induction a with
  | nil =>
    show (if ('.' : Char) = '.' then [] :: segments b else _) = _
    rw [if_pos rfl]
    rfl
  | cons c rest ih =>
    rw [List.cons_append, segments, segments, ih]
    by_cases hc : c = '.'
    · rw [if_pos hc, if_pos hc, List.cons_append]
    · rw [if_neg hc, if_neg hc]
      cases hs : segments rest with
      | nil => exact absurd hs (segments_ne_nil rest)
      | cons s more => rfl

theorem segments_append_dot {s : List Char} (h : '.' ∉ s) (rest : List Char) :
    segments (s ++ '.' :: rest) = s :: segments rest := by
  rw [segments_append, segments_of_notMem h, List.singleton_append]

/-- The last segment is that of what follows any of the dots. -/
theorem last_append_dot (a b : List Char) : last (a ++ '.' :: b) = last b := by
  rw [last, last, segments_append, List.getLastD_eq_getLast?, List.getLastD_eq_getLast?,
    List.getLast?_append, List.getLast?_eq_some_getLast (segments_ne_nil b), Option.some_or]

theorem last_append {b : List Char} (h : '.' ∉ b) (a : List Char) : last (a ++ '.' :: b) = b := by
  rw [last_append_dot, last, segments_of_notMem h]
  rfl

theorem dot_notMem_last (cs : List Char) : '.' ∉ last cs := by
  rw [last, List.getLastD_eq_getLast?, List.getLast?_eq_some_getLast (segments_ne_nil cs)]
  exact dot_notMem_of_mem_segments (List.getLast_mem (segments_ne_nil cs))

theorem dot_notMem_head (cs : List Char) : '.' ∉ head cs := by
  rw [head]
  cases hs : segments cs with
  | nil => exact List.not_mem_nil
  | cons s more => exact dot_notMem_of_mem_segments (hs ▸ List.mem_cons_self)

/-- What follows the first segment, with the dot before it. -/
def afterHead (cs : List Char) : List Char :=
  cs.dropWhile (· ≠ '.')

theorem head_append_afterHead (cs : List Char) : head cs ++ afterHead cs = cs := by
  induction cs with
  | nil => rfl
  | cons c rest ih =>
    rw [head, afterHead, segments]
    by_cases hc : c = '.'
    · rw [if_pos hc, List.headD_cons, List.dropWhile_cons_of_neg (by simp [hc]), List.nil_append]
    · rw [if_neg hc, List.dropWhile_cons_of_pos (by simp [hc])]
      rw [head, afterHead] at ih
      cases hs : segments rest with
      | nil => exact absurd hs (segments_ne_nil rest)
      | cons s more =>
        rw [hs] at ih
        exact congrArg (c :: ·) ih

/-- Segments without dots are found again in their join. -/
theorem segments_join : ∀ {ss : List (List Char)}, ss ≠ [] → (∀ s ∈ ss, '.' ∉ s) →
    segments (join ss) = ss
  | [], hne, _ => absurd rfl hne
  | [s], _, h => segments_of_notMem (h s List.mem_cons_self)
  | s :: t :: more, _, h => by
    rw [join, segments_append_dot (h s List.mem_cons_self),
      segments_join (List.cons_ne_nil t more) fun u hu => h u (List.mem_cons_of_mem s hu)]

theorem join_append : ∀ {a b : List (List Char)}, a ≠ [] → b ≠ [] →
    join (a ++ b) = join a ++ '.' :: join b
  | [], _, ha, _ => absurd rfl ha
  | [s], t :: more, _, _ => rfl
  | [_], [], _, hb => absurd rfl hb
  | s :: t :: more, b, _, hb => by
    rw [List.cons_append, List.cons_append, join, ← List.cons_append,
      join_append (List.cons_ne_nil t more) hb, join, List.append_assoc, List.cons_append]

theorem mem_join {c : Char} : ∀ {ss : List (List Char)} {s : List Char}, s ∈ ss → c ∈ s →
    c ∈ join ss
  | [s], _, hs, hc => List.mem_singleton.mp hs ▸ hc
  | s :: t :: more, _, hs, hc => by
    rw [join, List.mem_append, List.mem_cons]
    rcases List.mem_cons.mp hs with rfl | hs
    · exact Or.inl hc
    · exact Or.inr (Or.inr (mem_join hs hc))

theorem last_subset (cs : List Char) : last cs ⊆ cs := by
  intro c hc
  rw [last, List.getLastD_eq_getLast?, List.getLast?_eq_some_getLast (segments_ne_nil cs)] at hc
  rw [← join_segments cs]
  exact mem_join (List.getLast_mem (segments_ne_nil cs)) hc

end Dotted

/-! ### The parts of a type's name -/

namespace TypeRef

/-- The segments of the name of a declared type, cut into those of its package and those of its
relative name. -/
structure Cut (t : TypeRef) (outer inner : List (List Char)) : Prop where
  segments : Dotted.segments t.name.toList = outer ++ inner
  inner_ne_nil : inner ≠ []
  packageName : t.packageName.toList = Dotted.join outer
  outer_lower : ∀ s ∈ outer, startsUpper s = false
  /-- The relative name begins with a capital if it is not a single segment. -/
  inner_upper : ∀ s u more, inner = s :: u :: more → startsUpper s = true

/-- A list cut after the run of its first members that satisfy a test, the last member left out. -/
theorem exists_run {α : Type} (p : α → Bool) : ∀ {ss : List α}, ss ≠ [] →
    ∃ outer inner, ss = outer ++ inner ∧ inner ≠ [] ∧ ss.dropLast.takeWhile p = outer ∧
      (∀ s ∈ outer, p s = true) ∧ ∀ s u more, inner = s :: u :: more → p s = false
  | [], hne => absurd rfl hne
  | [s], _ => ⟨[], [s], rfl, List.cons_ne_nil s [], rfl, fun _ h => absurd h List.not_mem_nil,
      fun _ _ _ h => by cases h⟩
  | s :: t :: more, _ => by
    cases hp : p s with
    | true =>
      obtain ⟨outer, inner, h1, h2, h3, h4, h5⟩ := exists_run p (List.cons_ne_nil t more)
      refine ⟨s :: outer, inner, by rw [h1, List.cons_append], h2, ?_, fun u hu => ?_, h5⟩
      · rw [List.dropLast_cons_cons, List.takeWhile_cons_of_pos hp, h3]
      · rcases List.mem_cons.mp hu with rfl | hu
        · exact hp
        · exact h4 u hu
    | false =>
      refine ⟨[], s :: t :: more, rfl, List.cons_ne_nil _ _, ?_,
        fun _ h => absurd h List.not_mem_nil, fun u v rest h => ?_⟩
      · rw [List.dropLast_cons_cons, List.takeWhile_cons_of_neg (by rw [hp]; exact Bool.false_ne_true)]
      · injection h with h
        rw [← h, hp]

theorem exists_cut {t : TypeRef} (hk : t.kind = .declared) (hd : t.package = none) :
    ∃ outer inner, t.Cut outer inner := by
  obtain ⟨outer, inner, h1, h2, h3, h4, h5⟩ :=
    exists_run (fun s => !startsUpper s) (Dotted.segments_ne_nil t.name.toList)
  refine ⟨outer, inner, h1, h2, ?_, fun s hs => ?_, fun s u more h => ?_⟩
  · rw [packageName, hd]
    show (if t.kind = .declared then String.ofList (derivedPackage t.name.toList) else "").toList = _
    rw [if_pos hk, String.toList_ofList, derivedPackage, h3]
  · simpa using h4 s hs
  · simpa using h5 s u more h

namespace Cut

variable {t : TypeRef} {outer inner : List (List Char)}

theorem name (h : t.Cut outer inner) : t.name.toList = Dotted.join (outer ++ inner) := by
  rw [← h.segments, Dotted.join_segments]

theorem dot_notMem (h : t.Cut outer inner) {s : List Char} (hs : s ∈ outer ++ inner) : '.' ∉ s := by
  rw [← h.segments] at hs
  exact Dotted.dot_notMem_of_mem_segments hs

theorem outer_ne_nil (h : t.Cut outer inner) (hp : t.isDefaultPackage = false) : outer ≠ [] := by
  rintro rfl
  have : t.packageName = "" := String.toList_inj.mp h.packageName
  simp [isDefaultPackage, this] at hp

theorem join_outer_ne_nil (h : t.Cut outer inner) (hp : t.isDefaultPackage = false) :
    Dotted.join outer ≠ [] := by
  intro he
  rw [← h.packageName] at he
  have : t.packageName = "" := String.toList_inj.mp he
  simp [isDefaultPackage, this] at hp

theorem relativeName (h : t.Cut outer inner) (hp : t.isDefaultPackage = false) :
    t.relativeName.toList = Dotted.join inner := by
  rw [TypeRef.relativeName, String.toList_ofList, withoutPackage, h.packageName,
    if_neg (h.join_outer_ne_nil hp), h.name, Dotted.join_append (h.outer_ne_nil hp) h.inner_ne_nil,
    List.append_cons _ _ (Dotted.join inner), List.isPrefixOf?_eq_some_iff_append_eq.mpr rfl, Option.getD_some]

theorem localName (h : t.Cut outer inner) (hp : t.isDefaultPackage = false) :
    t.localName.toList = inner.headD [] := by
  rw [TypeRef.localName, String.toList_ofList, h.relativeName hp, Dotted.head,
    Dotted.segments_join h.inner_ne_nil fun s hs => h.dot_notMem (List.mem_append_right _ hs)]

theorem simpleName (h : t.Cut outer inner) : t.simpleName.toList = inner.getLastD [] := by
  rw [TypeRef.simpleName, String.toList_ofList, Dotted.last, h.segments]
  rw [List.getLastD_eq_getLast?, List.getLastD_eq_getLast?, List.getLast?_append,
    List.getLast?_eq_some_getLast h.inner_ne_nil, Option.some_or]

/-- The first of the segments of the name is of the package, and the name has another one. -/
theorem segments_of_package (h : t.Cut outer inner) (hp : t.isDefaultPackage = false) :
    ∃ s u more, Dotted.segments t.name.toList = s :: u :: more ∧ startsUpper s = false := by
  obtain ⟨s, rest, rfl⟩ := List.exists_cons_of_ne_nil (h.outer_ne_nil hp)
  have hne : rest ++ inner ≠ [] := fun he => h.inner_ne_nil (List.append_eq_nil_iff.mp he).2
  obtain ⟨u, more, hu⟩ := List.exists_cons_of_ne_nil hne
  exact ⟨s, u, more, by rw [h.segments, List.cons_append, hu], h.outer_lower s List.mem_cons_self⟩

theorem segments_relativeName (h : t.Cut outer inner) (hp : t.isDefaultPackage = false) :
    Dotted.segments t.relativeName.toList = inner := by
  rw [h.relativeName hp]
  exact Dotted.segments_join h.inner_ne_nil fun s hs => h.dot_notMem (List.mem_append_right _ hs)

theorem simpleName_mem (h : t.Cut outer inner) : t.simpleName.toList ∈ outer ++ inner := by
  rw [h.simpleName, List.getLastD_eq_getLast?, List.getLast?_eq_some_getLast h.inner_ne_nil]
  exact List.mem_append_right _ (List.getLast_mem h.inner_ne_nil)

theorem segments_simpleName (h : t.Cut outer inner) :
    Dotted.segments t.simpleName.toList = [t.simpleName.toList] :=
  Dotted.segments_of_notMem (h.dot_notMem h.simpleName_mem)

theorem ownerName (h : t.Cut outer inner) (hp : t.isDefaultPackage = false) :
    t.ownerName.toList = Dotted.join (outer ++ [inner.headD []]) := by
  rw [TypeRef.ownerName, if_neg (by rw [hp]; exact Bool.false_ne_true), String.toList_append,
    String.toList_append, h.packageName, h.localName hp,
    Dotted.join_append (h.outer_ne_nil hp) (List.cons_ne_nil _ _), List.append_assoc]
  rfl

theorem segments_ownerName (h : t.Cut outer inner) (hp : t.isDefaultPackage = false) :
    Dotted.segments t.ownerName.toList = outer ++ [inner.headD []] := by
  rw [h.ownerName hp]
  refine Dotted.segments_join (by simp) fun s hs => ?_
  obtain ⟨u, more, rfl⟩ := List.exists_cons_of_ne_nil h.inner_ne_nil
  rcases List.mem_append.mp hs with hs | hs
  · exact h.dot_notMem (List.mem_append_left _ hs)
  · rw [List.mem_singleton.mp hs]
    exact h.dot_notMem (List.mem_append_right _ List.mem_cons_self)

end Cut

/-- A type with a package is not named by its simple name. -/
theorem simpleName_ne_name {t : TypeRef} (hk : t.kind = .declared) (hd : t.package = none)
    (hp : t.isDefaultPackage = false) : t.simpleName ≠ t.name := by
  obtain ⟨outer, inner, h⟩ := exists_cut hk hd
  obtain ⟨s, u, more, hseg, -⟩ := h.segments_of_package hp
  intro he
  rw [← he, h.segments_simpleName] at hseg
  cases hseg

/-! ### Names in a package -/

variable {r t v : TypeRef} {package short : String}

/-- The name in full of the type that a package has under a short name. -/
def qualifiedName (package short : String) : String :=
  if package = "" then short else package ++ "." ++ short

theorem ownerName_eq (r : TypeRef) : r.ownerName = qualifiedName r.packageName r.localName := by
  simp [ownerName, qualifiedName, isDefaultPackage]

theorem dot_notMem_simpleName (r : TypeRef) : '.' ∉ r.simpleName.toList := by
  rw [simpleName, String.toList_ofList]
  exact Dotted.dot_notMem_last _

theorem dot_notMem_localName (r : TypeRef) : '.' ∉ r.localName.toList := by
  rw [localName, String.toList_ofList]
  exact Dotted.dot_notMem_head _

/-- Two packages do not have a type of one name in full under one short name. -/
theorem qualifiedName_left_inj {other : String}
    (h : qualifiedName package short = qualifiedName other short) : package = other := by
  have hlength := congrArg String.length h
  unfold qualifiedName at h hlength
  by_cases hp : package = ""
  · by_cases ho : other = ""
    · rw [hp, ho]
    · rw [if_pos hp, if_neg ho, String.length_append, String.length_append] at hlength
      have hdot : ".".length = 1 := rfl
      omega
  · by_cases ho : other = ""
    · rw [if_neg hp, if_pos ho, String.length_append, String.length_append] at hlength
      have hdot : ".".length = 1 := rfl
      omega
    · rw [if_neg hp, if_neg ho, ← String.toList_inj] at h
      exact String.toList_inj.mp (by simpa using h)

/-- The simple name is the short name under which the package has the type. -/
theorem simpleName_of_name_eq (h : '.' ∉ short.toList) (hr : r.name = qualifiedName package short) :
    r.simpleName = short := by
  rw [← String.toList_inj, simpleName, String.toList_ofList, hr, qualifiedName]
  split
  · rw [Dotted.last, Dotted.segments_of_notMem h]
    rfl
  · rw [String.toList_append, String.toList_append, List.append_assoc]
    exact Dotted.last_append h _

theorem relativeName_of_default (h : r.packageName = "") : r.relativeName = r.name := by
  have hnil : r.packageName.toList = [] := by rw [h]; rfl
  rw [← String.toList_inj, relativeName, String.toList_ofList, withoutPackage, if_pos hnil]

theorem relativeName_of_name_eq (hr : r.name = qualifiedName r.packageName short) :
    r.relativeName = short := by
  by_cases hp : r.packageName = ""
  · rw [relativeName_of_default hp, hr, qualifiedName, if_pos hp]
  · have hne : r.packageName.toList ≠ [] := fun he => hp (String.toList_inj.mp he)
    rw [← String.toList_inj, relativeName, String.toList_ofList, hr, withoutPackage, qualifiedName,
      if_neg hp, if_neg hne, String.toList_append, String.toList_append]
    show ((r.packageName.toList ++ ['.']).isPrefixOf? (r.packageName.toList ++ ['.'] ++
      short.toList)).getD _ = short.toList
    rw [List.isPrefixOf?_eq_some_iff_append_eq.mpr rfl, Option.getD_some]

/-- A type that its package has under a short name is not nested. -/
theorem ownerName_of_name_eq (h : '.' ∉ short.toList)
    (hr : r.name = qualifiedName r.packageName short) : r.ownerName = r.name := by
  have hlocal : r.localName = short := by
    rw [← String.toList_inj, localName, String.toList_ofList, relativeName_of_name_eq hr, Dotted.head,
      Dotted.segments_of_notMem h]
    rfl
  rw [ownerName_eq, hlocal, hr]

/-- The two short names of a type that is not nested are one. -/
theorem localName_eq_simpleName (h : r.ownerName = r.name) : r.localName = r.simpleName := by
  rw [ownerName_eq] at h
  exact (simpleName_of_name_eq r.dot_notMem_localName h.symm).symm

theorem relativeName_eq_localName (h : r.ownerName = r.name) : r.relativeName = r.localName := by
  rw [ownerName_eq] at h
  exact relativeName_of_name_eq h.symm

/-- The package of a declared type is the one that its name shows. -/
theorem packageName_of_derived (hk : t.kind = .declared) (hd : t.package = none) :
    t.packageName = String.ofList (derivedPackage t.name.toList) := by
  rw [packageName, hd]
  exact if_pos hk

theorem packageName_congr (hk : t.kind = .declared) (hd : t.package = none) (hv : v.kind = .declared)
    (hdv : v.package = none) (h : v.name = t.name) : v.packageName = t.packageName := by
  rw [packageName_of_derived hk hd, packageName_of_derived hv hdv, h]

/-- The outermost type is in the package of the types nested in it. -/
theorem packageName_of_owner (hk : t.kind = .declared) (hd : t.package = none)
    (hp : t.isDefaultPackage = false) (hv : v.kind = .declared) (hdv : v.package = none)
    (h : v.name = t.ownerName) : v.packageName = t.packageName := by
  obtain ⟨outer, inner, hcut⟩ := exists_cut hk hd
  have hlower : outer.takeWhile (fun s => !startsUpper s) = outer := by
    rw [← List.append_nil outer, List.takeWhile_append_of_pos fun s hs => ?_]
    · rfl
    · rw [hcut.outer_lower s hs]
      rfl
  rw [packageName_of_derived hv hdv, h, ← String.toList_inj, String.toList_ofList, derivedPackage,
    hcut.segments_ownerName hp, List.dropLast_concat, hlower, hcut.packageName]

/-! ### The parts of a name put together -/

/-- Whether the name begins with the package and a dot, or there is no package. -/
def IsInPackage (t : TypeRef) : Prop :=
  t.packageName = "" ∨ ∃ rest, t.name = t.packageName ++ "." ++ rest

/-- Whether the name can be put together from what is read off it. -/
structure Decomposes (t : TypeRef) : Prop where
  /-- The package and the relative name are the whole name. -/
  name : t.name = qualifiedName t.packageName t.relativeName
  /-- The simple name is the last segment of the relative name. -/
  simpleName : t.simpleName.toList = Dotted.last t.relativeName.toList
  /-- The name of the outermost type goes on with what follows the first segment of the relative name. -/
  ownerName : t.ownerName ++ String.ofList (Dotted.afterHead t.relativeName.toList) = t.name

theorem isInPackage_iff : t.IsInPackage ↔ ∃ rest, t.name = qualifiedName t.packageName rest := by
  unfold IsInPackage qualifiedName
  by_cases hp : t.packageName = ""
  · simp only [if_pos hp]
    exact ⟨fun _ => ⟨t.name, rfl⟩, fun _ => Or.inl hp⟩
  · simp only [if_neg hp, or_iff_right hp]

theorem qualifiedName_append (package short rest : String) :
    qualifiedName package short ++ rest = qualifiedName package (short ++ rest) := by
  unfold qualifiedName
  split
  · rfl
  · exact String.append_assoc

theorem last_qualifiedName (package short : String) :
    Dotted.last (qualifiedName package short).toList = Dotted.last short.toList := by
  unfold qualifiedName
  split
  · rfl
  · rw [String.toList_append, String.toList_append, List.append_assoc]
    exact Dotted.last_append_dot _ _

theorem localName_append (t : TypeRef) :
    t.localName ++ String.ofList (Dotted.afterHead t.relativeName.toList) = t.relativeName := by
  rw [← String.toList_inj, String.toList_append, String.toList_ofList, localName, String.toList_ofList,
    Dotted.head_append_afterHead]

/-- A name that begins with its package is put together from its parts again, whichever way the package
is known. -/
theorem IsInPackage.decomposes (h : t.IsInPackage) : t.Decomposes := by
  obtain ⟨rest, hrest⟩ := isInPackage_iff.mp h
  have hname : t.name = qualifiedName t.packageName t.relativeName := by
    rw [relativeName_of_name_eq hrest]
    exact hrest
  refine ⟨hname, ?_, ?_⟩
  · rw [simpleName, String.toList_ofList]
    calc Dotted.last t.name.toList
        = Dotted.last (qualifiedName t.packageName t.relativeName).toList := by rw [← hname]
      _ = Dotted.last t.relativeName.toList := last_qualifiedName _ _
  · calc t.ownerName ++ String.ofList (Dotted.afterHead t.relativeName.toList)
        = qualifiedName t.packageName
            (t.localName ++ String.ofList (Dotted.afterHead t.relativeName.toList)) := by
          rw [ownerName_eq, qualifiedName_append]
      _ = t.name := by rw [localName_append, ← hname]

/-- A name begins with the package that it shows. -/
theorem isInPackage_of_derived (hk : t.kind = .declared) (hd : t.package = none) : t.IsInPackage := by
  by_cases hp : t.isDefaultPackage = true
  · exact Or.inl (by simpa [isDefaultPackage] using hp)
  · obtain ⟨outer, inner, hcut⟩ := exists_cut hk hd
    have houter : outer ≠ [] := hcut.outer_ne_nil (Bool.eq_false_iff.mpr hp)
    refine Or.inr ⟨String.ofList (Dotted.join inner), ?_⟩
    rw [← String.toList_inj, hcut.name, Dotted.join_append houter hcut.inner_ne_nil, ← hcut.packageName]
    simp

/-- The name of a type is that of its outermost type with the rest of the relative name. -/
theorem ownerName_append (hk : t.kind = .declared) (hd : t.package = none) :
    t.ownerName ++ String.ofList (Dotted.afterHead t.relativeName.toList) = t.name :=
  (isInPackage_of_derived hk hd).decomposes.ownerName

/-- Whether these are leading segments of the name, the last one not among them, without a capital
initial. -/
structure IsPackageRun (t : TypeRef) (run : List (List Char)) : Prop where
  leading : ∃ rest, rest ≠ [] ∧ Dotted.segments t.name.toList = run ++ rest
  lower : ∀ s ∈ run, startsUpper s = false

/-- The segments of the package are the longest run there is. Where a longer one would go on stands a
segment with a capital initial, unless it is the last one. -/
theorem Cut.length_le {outer inner run : List (List Char)} (h : t.Cut outer inner)
    (hrun : t.IsPackageRun run) : run.length ≤ outer.length := by
  obtain ⟨rest, hrest, hsegments⟩ := hrun.leading
  have hsplit : outer ++ inner = run ++ rest := h.segments.symm.trans hsegments
  by_contra hlong
  obtain ⟨more, rfl⟩ : outer <+: run :=
    List.prefix_of_prefix_length_le ⟨inner, hsplit⟩ (List.prefix_append run rest) (by omega)
  have hinner : inner = more ++ rest := List.append_cancel_left (hsplit.trans (List.append_assoc _ _ _))
  have hmore : more ≠ [] := by
    rintro rfl
    simp at hlong
  obtain ⟨s, others, rfl⟩ := List.exists_cons_of_ne_nil hmore
  obtain ⟨u, last, hu⟩ := List.exists_cons_of_ne_nil (List.append_ne_nil_of_right_ne_nil others hrest)
  have hupper : startsUpper s = true :=
    h.inner_upper s u last (by rw [hinner, List.cons_append, hu])
  have hlower : startsUpper s = false :=
    hrun.lower s (List.mem_append_right outer List.mem_cons_self)
  rw [hupper] at hlower
  cases hlower

/-- **Names come apart without loss.** The package that the name of a declared type shows is the longest
run of its leading segments without a capital initial that leaves the last segment out; segments may be
empty, and the name may be any text. With this package, and with every package given that the name
begins with, the name is the package and the relative name, or the relative name where there is no
package; the simple name is the last segment of the relative name; and the name of the outermost type
goes on with what follows the first segment of the relative name. -/
theorem names_decompose (t : TypeRef) :
    (t.kind = .declared → t.package = none →
      (∃ run, t.IsPackageRun run ∧ (∀ other, t.IsPackageRun other → other.length ≤ run.length) ∧
        t.packageName.toList = Dotted.join run) ∧
      t.Decomposes) ∧
    ∀ package, t.package = some package →
      (package = "" ∨ ∃ rest, t.name = package ++ "." ++ rest) → t.Decomposes := by
  refine ⟨fun hk hd => ⟨?_, (isInPackage_of_derived hk hd).decomposes⟩, fun package hp hprefix => ?_⟩
  · obtain ⟨outer, inner, hcut⟩ := exists_cut hk hd
    have hrun : t.IsPackageRun outer := ⟨⟨inner, hcut.inner_ne_nil, hcut.segments⟩, hcut.outer_lower⟩
    exact ⟨outer, hrun, fun other hother => hcut.length_le hother, hcut.packageName⟩
  · have hpackage : t.packageName = package := by rw [packageName, hp]
    have hin : t.IsInPackage := by
      rw [IsInPackage, hpackage]
      exact hprefix
    exact hin.decomposes

/-- A name with empty segments and a capital beyond ASCII, in the package that it shows and in a longer
one that is given. -/
theorem names_decompose_empty_segments :
    let t : TypeRef := declared "..com.Ärger.inner."
    let u : TypeRef := { t with package := some "..com.Ärger" }
    (t.packageName = "..com" ∧ t.relativeName = "Ärger.inner." ∧ t.simpleName = "" ∧
      t.ownerName = "..com.Ärger" ∧ t.Decomposes) ∧
    (u.relativeName = "inner." ∧ u.ownerName = "..com.Ärger.inner" ∧ u.Decomposes) := by
  intro t u
  refine ⟨⟨by decide, by decide, by decide, by decide, ?_⟩,
    by decide, by decide, ?_⟩
  · exact ((names_decompose t).1 rfl rfl).2
  · exact (names_decompose u).2 "..com.Ärger" rfl (Or.inr ⟨"inner.", by decide⟩)

end TypeRef
end Intertype
