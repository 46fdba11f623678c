/-
# Building an introduction

An introduction is built up by adding one part after another, and what there is so far can be handed out at
any time. A part that repeats one before it is refused, and the building goes on; `Part.repeats` says
what makes a repetition, as Java sees it: for constructors and methods the names and dimensions of the
parameter types, which the signature key holds as texts. The two agree as long as no name ends in a
pair of brackets (`Callable.signatureKey_eq_iff`).

What is built is told by the parts that were taken, without looking at how the introduction was
changed in between: `containing` is the introduction with these parts, each slice in the order of the
requests, and one step of the building adds a part to the list or leaves it as it is
(`perform_containing`).

Key definitions: `Introduction.Part.repeats`, `Introduction.Request`, `Introduction.perform`,
`Introduction.after`, `Introduction.taken`, `Introduction.containing`, `Introduction.IsDistinct`.
Key theorems: `Callable.signatureKey_eq_iff`, `Introduction.add_containing`,
`Introduction.perform_containing`, `Introduction.IsDistinct.after`, `Introduction.after_exact`.
-/
import Intertype.Proofs.Introduction.Parts

namespace Intertype

/-! ### Signature keys -/

/-- The name of the type does not end like that of an array. -/
def TypeRef.IsElement (t : TypeRef) : Prop :=
  ¬ "[]".toList <:+ t.name.toList

instance (t : TypeRef) : Decidable t.IsElement :=
  inferInstanceAs (Decidable (¬ _))

/-- The names of the parameter types with their dimensions. -/
def Callable.erasure (c : Callable) : List (String × Nat) :=
  c.parameterTypes.map fun p => (p.type.name, p.type.dims)

/-- The last pair of brackets stands at the end. -/
theorem TypeRef.brackets_succ (n : Nat) :
    (brackets (n + 1)).toList = (brackets n).toList ++ "[]".toList := by
  rw [brackets, brackets, Text.repeated_add, String.toList_append]
  rfl

/-- A name and a number of dimensions are told from the name with the brackets. -/
theorem TypeRef.append_brackets_inj {a b : List Char} (ha : ¬ "[]".toList <:+ a)
    (hb : ¬ "[]".toList <:+ b) : ∀ {m n : Nat},
    a ++ (brackets m).toList = b ++ (brackets n).toList → a = b ∧ m = n
  | 0, 0, h => ⟨by simpa [brackets, Text.repeated] using h, rfl⟩
  | 0, n + 1, h => by
    rw [brackets_succ, ← List.append_assoc] at h
    exact absurd ⟨_, (h.symm.trans (List.append_nil a))⟩ ha
  | m + 1, 0, h => by
    rw [brackets_succ, ← List.append_assoc] at h
    exact absurd ⟨_, (h.trans (List.append_nil b))⟩ hb
  | m + 1, n + 1, h => by
    rw [brackets_succ, brackets_succ, ← List.append_assoc, ← List.append_assoc] at h
    obtain ⟨hab, hmn⟩ := append_brackets_inj ha hb (List.append_cancel_right h)
    exact ⟨hab, by rw [hmn]⟩

theorem ParameterType.key_eq_iff {p q : ParameterType} (hp : p.type.IsElement)
    (hq : q.type.IsElement) :
    p.key = q.key ↔ (p.type.name, p.type.dims) = (q.type.name, q.type.dims) := by
  refine ⟨fun h => ?_, fun h => ?_⟩
  · have h := congrArg String.toList h
    rw [key, key, String.toList_append, String.toList_append] at h
    obtain ⟨hname, hdims⟩ := TypeRef.append_brackets_inj hp hq h
    rw [String.toList_inj.mp hname, hdims]
  · obtain ⟨hname, hdims⟩ := Prod.mk.inj h
    rw [key, key, hname, hdims]

/-- Two constructors have one key when their parameter types have the same names and dimensions, one
by one. -/
theorem Callable.signatureKey_eq_iff {c d : Callable}
    (hc : ∀ p ∈ c.parameterTypes, p.type.IsElement)
    (hd : ∀ p ∈ d.parameterTypes, p.type.IsElement) :
    c.signatureKey = d.signatureKey ↔ c.erasure = d.erasure := by
  rw [signatureKey, signatureKey, erasure, erasure]
  generalize c.parameterTypes = ps at *
  generalize d.parameterTypes = qs at *
  induction ps generalizing qs with
  | nil => cases qs <;> simp
  | cons p ps ih =>
    cases qs with
    | nil => simp
    | cons q qs =>
      rw [List.map_cons, List.map_cons, List.map_cons, List.map_cons, List.cons.injEq,
        List.cons.injEq, ParameterType.key_eq_iff (hc p List.mem_cons_self) (hd q List.mem_cons_self),
        ih (fun r hr => hc r (List.mem_cons_of_mem p hr)) qs
          fun r hr => hd r (List.mem_cons_of_mem q hr)]

namespace Introduction

/-! ### Requests -/

/-- What can be asked of an introduction that is being built. -/
inductive Request
  /-- To add a part. -/
  | add (p : Part)
  /-- To hand out the introduction. -/
  | build

/-- What is answered. -/
inductive Answer
  | done
  | refused (f : Fault)
  | built (i : Introduction)

/-- An introduction that nothing has been added to. -/
def start (target aspect : TypeRef) (privileged : Bool) : Introduction :=
  { target, aspect, privileged }

/-- The introduction with the part, unless it is refused. -/
def add (i : Introduction) : Part → Except Fault Introduction
  | .field f => i.addField f
  | .constructor c => i.addConstructor c
  | .method m => i.addMethod m
  | .extended t => i.addExtended t
  | .implemented t => i.addImplemented t
  | .onType a => .ok (i.addTypeAnnotation a)
  | .onField a => .ok (i.addFieldAnnotation a)
  | .onMethod a => .ok (i.addMethodAnnotation a)
  | .imported t => .ok (i.addImport t)

/-- Answers one request. -/
def perform (i : Introduction) : Request → Answer × Introduction
  | .add p =>
    match i.add p with
    | .ok after => (.done, after)
    | .error f => (.refused f, i)
  | .build => (.built i, i)

/-- The introduction after requests in order, whatever they were answered. -/
def after (i : Introduction) (requests : List Request) : Introduction :=
  requests.foldl (fun i r => (i.perform r).2) i

/-! ### What is taken -/

namespace Part

/-- Whether the part has in common with another what no two may have: a field its name, a constructor
the names and dimensions of its parameter types, a method these and its name, and a supertype its name
with one that is inherited from in the same way. -/
def repeats : Part → Part → Bool
  | .field f, .field g => g.name = f.name
  | .constructor c, .constructor d => d.erasure = c.erasure
  | .method m, .method n => n.name = m.name ∧ n.erasure = m.erasure
  | .extended t, .extended u => u.name = t.name
  | .implemented t, .implemented u => u.name = t.name
  | _, _ => false

/-- What a repeated part is refused with, in an introduction into the target. -/
def fault (target : TypeRef) : Part → Option Fault
  | .field f => some (.repeatedField f.name target.name)
  | .constructor c => some (.repeatedConstructor c.signatureKey)
  | .method m => some (.repeatedMethod m.name m.toCallable.signatureKey)
  | .extended t => some (.repeatedSupertype .extension t.name)
  | .implemented t => some (.repeatedSupertype .implementation t.name)
  | _ => none

/-- Why the part is refused after those before it, if it is. -/
def refusal (target : TypeRef) (before : List Part) (p : Part) : Option Fault :=
  if ∃ q ∈ before, p.repeats q then p.fault target else none

theorem exists_fault {p q : Part} (h : p.repeats q) (target : TypeRef) :
    ∃ f, p.fault target = some f := by
  cases p with
  | field f => exact ⟨_, rfl⟩
  | constructor c => exact ⟨_, rfl⟩
  | method m => exact ⟨_, rfl⟩
  | extended t => exact ⟨_, rfl⟩
  | implemented t => exact ⟨_, rfl⟩
  | onType a => cases h
  | onField a => cases h
  | onMethod a => cases h
  | imported t => cases h

theorem refusal_of_repeats (target : TypeRef) {before : List Part} {p : Part}
    (h : ∃ q ∈ before, p.repeats q) :
    ∃ f, p.fault target = some f ∧ p.refusal target before = some f := by
  have hp : p.refusal target before = p.fault target := if_pos h
  obtain ⟨q, -, hr⟩ := h
  obtain ⟨f, hf⟩ := exists_fault hr target
  exact ⟨f, hf, hp.trans hf⟩

theorem refusal_of_new {target : TypeRef} {before : List Part} {p : Part}
    (h : ∀ q ∈ before, ¬ p.repeats q) : p.refusal target before = none :=
  if_neg fun ⟨q, hq, hr⟩ => h q hq hr

/-- The types of the parameters that the part has. -/
def parameterTypes : Part → List ParameterType
  | .constructor c => c.parameterTypes
  | .method m => m.parameterTypes
  | _ => []

/-- The names of the parameter types do not end like those of arrays. -/
def IsElementary (p : Part) : Prop :=
  ∀ q ∈ p.parameterTypes, q.type.IsElement

instance (p : Part) : Decidable p.IsElementary :=
  inferInstanceAs (Decidable (∀ q ∈ p.parameterTypes, q.type.IsElement))

end Part

/-- The names of the parameter types of a part to be added do not end like those of arrays. -/
def Request.IsElementary : Request → Prop
  | .add p => p.IsElementary
  | .build => True

instance : DecidablePred Request.IsElementary
  | .add p => inferInstanceAs (Decidable p.IsElementary)
  | .build => inferInstanceAs (Decidable True)

/-- The parts taken after one more request. -/
def takeIn (before : List Part) : Request → List Part
  | .add p => if ∃ q ∈ before, p.repeats q then before else before ++ [p]
  | .build => before

/-- The parts taken in a run: each that repeats none of those taken before it. -/
def taken (requests : List Request) : List Part :=
  requests.foldl takeIn []

/-- The references without those whose name an earlier one has. -/
def firstOfEachName : List TypeRef → List TypeRef
  | [] => []
  | t :: rest => t :: (firstOfEachName rest).filter fun u => u.name ≠ t.name

/-- The types that the parts import. -/
def importedBy (parts : List Part) : List TypeRef :=
  parts.filterMap fun | .imported t => some t | _ => none

/-- The introduction with these parts, of imports the first of each name. -/
def containing (target aspect : TypeRef) (privileged : Bool) (parts : List Part) : Introduction where
  target := target
  aspect := aspect
  privileged := privileged
  imports := firstOfEachName (importedBy parts)
  typeAnnotations := parts.filterMap fun | .onType a => some a | _ => none
  fieldAnnotations := parts.filterMap fun | .onField a => some a | _ => none
  methodAnnotations := parts.filterMap fun | .onMethod a => some a | _ => none
  extended := parts.filterMap fun | .extended t => some t | _ => none
  implemented := parts.filterMap fun | .implemented t => some t | _ => none
  fields := parts.filterMap fun | .field f => some f | _ => none
  constructors := parts.filterMap fun | .constructor c => some c | _ => none
  methods := parts.filterMap fun | .method m => some m | _ => none

/-! ### One request -/

theorem firstOfEachName_append (ts : List TypeRef) (u : TypeRef) :
    firstOfEachName (ts ++ [u]) =
      if (firstOfEachName ts).any (·.name = u.name) then firstOfEachName ts
      else firstOfEachName ts ++ [u] := by
  induction ts with
  | nil => rfl
  | cons t rest ih =>
    rw [List.cons_append, firstOfEachName, ih, firstOfEachName, List.any_cons]
    by_cases hu : t.name = u.name
    · rw [decide_eq_true hu, Bool.true_or, if_pos rfl]
      split
      · rfl
      · simp [hu]
    · rw [decide_eq_false hu, Bool.false_or]
      have hany : ((firstOfEachName rest).filter fun v => v.name ≠ t.name).any (·.name = u.name) =
          (firstOfEachName rest).any (·.name = u.name) := by
        rw [List.any_filter]
        refine List.any_congr rfl fun v => ?_
        by_cases hv : v.name = u.name
        · simp [hv, Ne.symm hu]
        · simp [hv]
      rw [hany]
      split
      · rfl
      · rw [List.filter_append, List.cons_append]
        simp [Ne.symm hu]

/-- One of the members picked passes a test when one of those they are picked from stands in the
relation that the test decides. -/
theorem any_filterMap_iff {α β : Type} {pick : α → Option β} {test : β → Bool} {R : α → Prop}
    {l : List α} (h : ∀ a ∈ l, R a ↔ ∃ b, pick a = some b ∧ test b = true) :
    (l.filterMap pick).any test = true ↔ ∃ a ∈ l, R a := by
  rw [List.any_eq_true]
  refine ⟨?_, ?_⟩
  · rintro ⟨b, hb, htest⟩
    obtain ⟨a, ha, hab⟩ := List.mem_filterMap.mp hb
    exact ⟨a, ha, (h a ha).mpr ⟨b, hab, htest⟩⟩
  · rintro ⟨a, ha, hr⟩
    obtain ⟨b, hab, htest⟩ := (h a ha).mp hr
    exact ⟨b, List.mem_filterMap.mpr ⟨a, ha, hab⟩, htest⟩

section Step

variable {target aspect : TypeRef} {privileged : Bool} {before : List Part}

/-- A part that is put into a slice unless one of that slice passes a test. -/
theorem slice_containing {α : Type} {pick : Part → Option α} {test : α → Bool} {p : Part} {f : Fault}
    {i : Introduction}
    (hr : ∀ q ∈ before, p.repeats q ↔ ∃ x, pick q = some x ∧ test x = true)
    (hf : p.fault target = some f)
    (hi : i = containing target aspect privileged (before ++ [p])) :
    (if (before.filterMap pick).any test then Except.error f else Except.ok i) =
      match p.refusal target before with
      | some f => Except.error f
      | none => Except.ok (containing target aspect privileged (before ++ [p])) := by
  rw [Part.refusal, hf, hi]
  by_cases h : ∃ q ∈ before, p.repeats q
  · rw [if_pos ((any_filterMap_iff hr).mpr h), if_pos h]
  · rw [if_neg fun ha => h ((any_filterMap_iff hr).mp ha), if_neg h]

/-- A part is added to those before it, unless it repeats one of them. -/
theorem add_containing {p : Part} (hp : p.IsElementary) (hb : ∀ q ∈ before, q.IsElementary) :
    (containing target aspect privileged before).add p =
      match p.refusal target before with
      | some f => .error f
      | none => .ok (containing target aspect privileged (before ++ [p])) := by
  cases p with
  | field f =>
    rw [add, addField]
    refine slice_containing (fun q _ => ?_) rfl (by simp [containing, importedBy])
    cases q <;> simp [Part.repeats]
  | constructor c =>
    rw [add, addConstructor]
    refine slice_containing (fun q hq => ?_) rfl (by simp [containing, importedBy])
    cases q with
    | constructor d => simp [Part.repeats, Callable.signatureKey_eq_iff (hb _ hq) hp]
    | _ => simp [Part.repeats]
  | method m =>
    rw [add, addMethod]
    refine slice_containing (fun q hq => ?_) rfl (by simp [containing, importedBy])
    cases q with
    | method n =>
      simp [Part.repeats, Method.signatureKey, Callable.signatureKey_eq_iff (hb _ hq) hp]
    | _ => simp [Part.repeats]
  | extended t =>
    rw [add, addExtended]
    refine slice_containing (fun q _ => ?_) rfl (by simp [containing, importedBy])
    cases q <;> simp [Part.repeats]
  | implemented t =>
    rw [add, addImplemented]
    refine slice_containing (fun q _ => ?_) rfl (by simp [containing, importedBy])
    cases q <;> simp [Part.repeats]
  | onType a =>
    simp [add, addTypeAnnotation, containing, importedBy, Part.refusal, Part.repeats]
  | onField a =>
    simp [add, addFieldAnnotation, containing, importedBy, Part.refusal, Part.repeats]
  | onMethod a =>
    simp [add, addMethodAnnotation, containing, importedBy, Part.refusal, Part.repeats]
  | imported t =>
    have hnone : (Part.imported t).refusal target before = none :=
      Part.refusal_of_new fun _ _ => Bool.false_ne_true
    have hadded : containing target aspect privileged (before ++ [.imported t]) =
        { containing target aspect privileged before with
          imports := firstOfEachName (importedBy before ++ [t]) } := by
      simp [containing, importedBy]
    rw [hnone, hadded, firstOfEachName_append]
    refine congrArg Except.ok ?_
    -- One of a name that is there already changes nothing.
    by_cases h : (firstOfEachName (importedBy before)).any (·.name = t.name) = true
    · rw [if_pos h]
      exact if_pos h
    · rw [if_neg h]
      exact if_neg h

theorem perform_add {p : Part} (hp : p.IsElementary) (hb : ∀ q ∈ before, q.IsElementary) :
    (containing target aspect privileged before).perform (.add p) =
      match p.refusal target before with
      | some f => (.refused f, containing target aspect privileged before)
      | none => (.done, containing target aspect privileged (before ++ [p])) := by
  rw [perform, add_containing hp hb]
  cases p.refusal target before <;> rfl

/-- After a request those parts are there that were, and the one that it asks to add unless that is
refused. -/
theorem perform_containing {r : Request} (hr : r.IsElementary) (hb : ∀ q ∈ before, q.IsElementary) :
    ((containing target aspect privileged before).perform r).2 =
      containing target aspect privileged (takeIn before r) := by
  cases r with
  | build => rfl
  | add p =>
    rw [perform_add hr hb, takeIn]
    by_cases h : ∃ q ∈ before, p.repeats q
    · obtain ⟨f, -, hf⟩ := Part.refusal_of_repeats target h
      rw [hf, if_pos h]
    · rw [Part.refusal_of_new fun q hq hr => h ⟨q, hq, hr⟩, if_neg h]

theorem elementary_takeIn {r : Request} (hr : r.IsElementary) (hb : ∀ q ∈ before, q.IsElementary) :
    ∀ q ∈ takeIn before r, q.IsElementary := by
  cases r with
  | build => exact hb
  | add p =>
    intro q hq
    rw [takeIn] at hq
    split at hq
    · exact hb q hq
    · rcases List.mem_append.mp hq with hq | hq
      · exact hb q hq
      · exact List.mem_singleton.mp hq ▸ hr

theorem foldl_containing : ∀ (before : List Part) {requests : List Request},
    (∀ r ∈ requests, r.IsElementary) → (∀ q ∈ before, q.IsElementary) →
      (containing target aspect privileged before).after requests =
          containing target aspect privileged (requests.foldl takeIn before) ∧
        ∀ q ∈ requests.foldl takeIn before, q.IsElementary
  | _, [], _, hb => ⟨rfl, hb⟩
  | before, r :: rest, h, hb => by
    have hr : r.IsElementary := h r List.mem_cons_self
    have hrest : ∀ q ∈ rest, q.IsElementary := fun q hq => h q (List.mem_cons_of_mem r hq)
    rw [after, List.foldl_cons, List.foldl_cons, perform_containing hr hb]
    exact foldl_containing _ hrest (elementary_takeIn hr hb)

end Step

/-! ### Whole runs -/

/-- No two parts of one kind have the same name or key. -/
structure IsDistinct (i : Introduction) : Prop where
  imports : (i.imports.map TypeRef.name).Nodup
  extended : (i.extended.map TypeRef.name).Nodup
  implemented : (i.implemented.map TypeRef.name).Nodup
  fields : (i.fields.map Field.name).Nodup
  constructors : (i.constructors.map Callable.signatureKey).Nodup
  methods : (i.methods.map Method.signatureKey).Nodup

/-- Keys stay distinct when one is added that none of them is. -/
theorem nodup_keys_append {α β : Type} [DecidableEq β] {key : α → β} {l : List α} {x : α}
    (h : (l.map key).Nodup) (hx : ¬ l.any (fun y => key y = key x) = true) :
    ((l ++ [x]).map key).Nodup := by
  rw [List.map_append, List.nodup_append]
  refine ⟨h, by simp, fun k hk k' hk' hkk => hx ?_⟩
  obtain ⟨y, hy, rfl⟩ := List.mem_map.mp hk
  rw [List.any_eq_true]
  exact ⟨y, hy, by simpa [hkk] using hk'⟩

theorem isDistinct_start (target aspect : TypeRef) (privileged : Bool) :
    (start target aspect privileged).IsDistinct := by
  constructor <;> exact List.nodup_nil

theorem IsDistinct.of_unless {c : Prop} [Decidable c] {f : Fault} {i j : Introduction}
    (hj : (if c then Except.error f else .ok i) = .ok j) (h : ¬ c → i.IsDistinct) :
    j.IsDistinct := by
  split at hj
  · cases hj
  · rename_i hn
    injection hj with hj
    exact hj ▸ h hn

theorem IsDistinct.add {i j : Introduction} {p : Part} (h : i.IsDistinct) (hj : i.add p = .ok j) :
    j.IsDistinct := by
  cases p with
  | field f => exact .of_unless hj fun hn => { h with fields := nodup_keys_append h.fields hn }
  | constructor c =>
    exact .of_unless hj fun hn => { h with constructors := nodup_keys_append h.constructors hn }
  | method m => exact .of_unless hj fun hn => { h with methods := nodup_keys_append h.methods hn }
  | extended t =>
    exact .of_unless hj fun hn => { h with extended := nodup_keys_append h.extended hn }
  | implemented t =>
    exact .of_unless hj fun hn => { h with implemented := nodup_keys_append h.implemented hn }
  | onType a =>
    injection hj with hj
    exact hj ▸ { h with }
  | onField a =>
    injection hj with hj
    exact hj ▸ { h with }
  | onMethod a =>
    injection hj with hj
    exact hj ▸ { h with }
  | imported t =>
    injection hj with hj
    rw [← hj, addImport]
    split
    · exact h
    · rename_i hn
      exact { h with imports := nodup_keys_append h.imports hn }

theorem IsDistinct.perform {i : Introduction} (h : i.IsDistinct) (r : Request) :
    (i.perform r).2.IsDistinct := by
  cases r with
  | build => exact h
  | add p =>
    rw [Introduction.perform]
    cases hp : i.add p with
    | ok j => exact h.add hp
    | error f => exact h

theorem IsDistinct.after {i : Introduction} (h : i.IsDistinct) (requests : List Request) :
    (i.after requests).IsDistinct := by
  induction requests generalizing i with
  | nil => exact h
  | cons r rest ih => exact ih (h.perform r)

/-- After any requests the introduction is the one with the parts taken. -/
theorem after_eq_containing (target aspect : TypeRef) (privileged : Bool) {requests : List Request}
    (h : ∀ r ∈ requests, r.IsElementary) :
    (start target aspect privileged).after requests =
        containing target aspect privileged (taken requests) ∧
      ∀ q ∈ taken requests, q.IsElementary :=
  foldl_containing [] h fun _ hq => absurd hq List.not_mem_nil

/-- **What is built.** After any requests the introduction is the one with the parts taken, in the
order in which they were, and no two of its parts have one name or key; that is what is handed out. The
next part is refused, with nothing changed, when it repeats one of them, and otherwise it is there
from then on. -/
theorem after_exact (target aspect : TypeRef) (privileged : Bool) {requests : List Request}
    (h : ∀ r ∈ requests, r.IsElementary) :
    let i := (start target aspect privileged).after requests
    i = containing target aspect privileged (taken requests) ∧
      i.IsDistinct ∧
      i.perform .build = (.built i, i) ∧
      ∀ p : Part, p.IsElementary →
        ((∃ q ∈ taken requests, p.repeats q) →
          ∃ f, p.fault target = some f ∧ i.perform (.add p) = (.refused f, i)) ∧
        ((∀ q ∈ taken requests, ¬ p.repeats q) →
          i.perform (.add p) =
            (.done, containing target aspect privileged (taken requests ++ [p]))) := by
  obtain ⟨hi, hb⟩ := after_eq_containing target aspect privileged h
  refine ⟨hi, (isDistinct_start target aspect privileged).after requests, rfl, fun p hp => ?_⟩
  rw [hi, perform_add hp hb]
  refine ⟨fun hr => ?_, fun hn => ?_⟩
  · obtain ⟨f, hf, hrefused⟩ := Part.refusal_of_repeats target hr
    exact ⟨f, hf, by rw [hrefused]⟩
  · rw [Part.refusal_of_new hn]

/-- A constructor is refused for its type arguments alone, and not where there is a dimension more. -/
theorem after_exact_overloads :
    let taking (t : TypeRef) : Part := .constructor { parameterTypes := [{ type := t }] }
    let list (a : TypeRef) (dims : Nat) : TypeRef :=
      ⟨"java.util.List", [a], dims, .declared, none, none⟩
    let requests := [.add (taking (list .string 0)), .build, .add (.field ⟨"size", .int, 0, none, []⟩),
      .add (taking (list .object 0)), .add (.imported .string)]
    let i := (start (.declared "com.acme.Widget") (.declared "com.acme.Widget_Aspect") false).after
      requests
    i.constructors.length = 1 ∧
      i.perform (.add (taking (list .int 0))) =
        (.refused (.repeatedConstructor ["java.util.List"]), i) ∧
      (i.perform (.add (taking (list .string 1)))).1 = .done := by
  intro taking list requests i
  have helementary : ∀ r ∈ requests, r.IsElementary := by decide
  obtain ⟨-, -, -, hp⟩ := after_exact (.declared "com.acme.Widget")
    (.declared "com.acme.Widget_Aspect") false helementary
  refine ⟨by decide, ?_, ?_⟩
  · obtain ⟨f, hf, hrefused⟩ := (hp (taking (list .int 0)) (by decide)).1 (by decide)
    have hkey : f = .repeatedConstructor ["java.util.List"] :=
      (Option.some.inj hf).symm.trans (congrArg _ (by decide))
    rw [hrefused, hkey]
  · rw [(hp (taking (list .string 1)) (by decide)).2 (by decide)]

end Introduction
end Intertype
