/-
# A reference as a tree

A reference with its arguments, their arguments and so on is a tree whose nodes are references.
`TypeRef.fold` computes on the tree, `TypeRef.nodes` lists its nodes, each before its arguments, and
`TypeRef.inductionOn` is induction over it. The type names that stand open in the source text of a
reference are those of its open nodes, one by one (`TypeRef.typeNames_pieces`): of the declared types that
are no wildcards without a bound, since nothing beneath a primitive type or such a wildcard is written.

Key definitions: `TypeRef.fold`, `TypeRef.nodes`, `TypeRef.openNodes`, `Piece.typeNames`.
Key theorems: `TypeRef.inductionOn`, `TypeRef.pieces_eq`, `TypeRef.typeNames_pieces`.
-/
import Intertype.Imports

namespace Intertype
namespace TypeRef

universe u

/-! ### Recursion and induction -/

mutual
/-- The value of a reference, computed from it and the values of its arguments. -/
def fold {α : Type u} (f : TypeRef → List α → α) (t : TypeRef) : α :=
  match t with
  | ⟨name, args, dims, kind, wildcard, package⟩ =>
    f ⟨name, args, dims, kind, wildcard, package⟩ (foldAll f args)

/-- The values of several references. -/
def foldAll {α : Type u} (f : TypeRef → List α → α) (ts : List TypeRef) : List α :=
  match ts with
  | [] => []
  | t :: rest => fold f t :: foldAll f rest
end

theorem foldAll_eq_map {α : Type u} (f : TypeRef → List α → α) :
    ∀ ts : List TypeRef, foldAll f ts = ts.map (fold f)
  | [] => rfl
  | t :: rest => by rw [foldAll, foldAll_eq_map f rest, List.map_cons]

theorem fold_eq {α : Type u} (f : TypeRef → List α → α) (t : TypeRef) :
    t.fold f = f t (t.args.map (fold f)) := by
  obtain ⟨name, args, dims, kind, wildcard, package⟩ := t
  rw [fold, foldAll_eq_map]

/-- What holds of every reference whose arguments it holds of, holds of every reference. -/
@[elab_as_elim]
theorem inductionOn {motive : TypeRef → Prop} (t : TypeRef)
    (node : ∀ t : TypeRef, (∀ a ∈ t.args, motive a) → motive t) : motive t := by
  refine @TypeRef.rec motive (fun ts => ∀ a ∈ ts, motive a) ?_ ?_ ?_ t
  · exact fun name args dims kind wildcard package ih => node _ ih
  · exact fun a ha => absurd ha List.not_mem_nil
  · intro t rest ht hrest a ha
    rcases List.mem_cons.mp ha with rfl | ha
    · exact ht
    · exact hrest a ha

/-! ### The nodes -/

/-- The reference, its arguments, their arguments and so on, each before its own. -/
def nodes (t : TypeRef) : List TypeRef :=
  t.fold fun t below => t :: below.flatten

theorem nodes_eq (t : TypeRef) : t.nodes = t :: t.args.flatMap nodes := by
  unfold nodes
  rw [fold_eq, List.flatMap_def]

theorem self_mem_nodes (t : TypeRef) : t ∈ t.nodes := by
  rw [nodes_eq]
  exact List.mem_cons_self

theorem mem_nodes_of_arg {t a u : TypeRef} (ha : a ∈ t.args) (hu : u ∈ a.nodes) : u ∈ t.nodes := by
  rw [nodes_eq]
  exact List.mem_cons_of_mem _ (List.mem_flatMap.mpr ⟨a, ha, hu⟩)

/-- What holds of all nodes holds of the reference and of all nodes of its arguments. -/
theorem forall_nodes_iff {p : TypeRef → Prop} {t : TypeRef} :
    (∀ u ∈ t.nodes, p u) ↔ p t ∧ ∀ a ∈ t.args, ∀ u ∈ a.nodes, p u := by
  rw [nodes_eq]
  simp only [List.mem_cons, List.mem_flatMap, forall_eq_or_imp, forall_exists_index, and_imp]
  exact ⟨fun ⟨h, ha⟩ => ⟨h, fun a haa u hu => ha u a haa hu⟩,
    fun ⟨h, ha⟩ => ⟨h, fun u a haa hu => ha a haa u hu⟩⟩

/-! ### The source text -/

/-- The source text of a reference, from that of its arguments. -/
theorem pieces_eq (t : TypeRef) : t.pieces =
    if t.wildcard = some .unbounded then [.text "?"]
    else if t.kind = .primitive then [.text (t.name ++ brackets t.dims)]
    else .text (wildcardText t.wildcard) :: t.namePiece ::
      (if t.args = [] then [.text (brackets t.dims)]
      else .text "<" :: (Piece.listed ", " (t.args.map pieces) ++
        [.text (">" ++ brackets t.dims)])) := by
  obtain ⟨name, args, dims, kind, wildcard, package⟩ := t
  rw [pieces, argumentPieces_eq_listed]

/-! ### The names left open -/

/-- The nodes whose names the source text of a reference leaves open, in reading order: declared types,
but no wildcards without a bound and nothing beneath such a one or a primitive type. -/
def openNodes (t : TypeRef) : List TypeRef :=
  t.fold fun t below =>
    if t.wildcard = some .unbounded ∨ t.kind = .primitive then []
    else (if t.kind = .declared then [t] else []) ++ below.flatten

theorem openNodes_eq (t : TypeRef) : t.openNodes =
    if t.wildcard = some .unbounded ∨ t.kind = .primitive then []
    else (if t.kind = .declared then [t] else []) ++ t.args.flatMap openNodes := by
  unfold openNodes
  rw [fold_eq, List.flatMap_def]

theorem mem_openNodes {t u : TypeRef} (h : u ∈ t.openNodes) :
    u ∈ t.nodes ∧ u.kind = .declared ∧ u.wildcard ≠ some .unbounded := by
  induction t using inductionOn with
  | node t ih =>
    rw [openNodes_eq] at h
    split at h
    · cases h
    · rename_i hopen
      rcases List.mem_append.mp h with h | h
      · split at h
        · rename_i hk
          obtain rfl := List.mem_singleton.mp h
          exact ⟨self_mem_nodes u, hk, fun hw => hopen (Or.inl hw)⟩
        · cases h
      · obtain ⟨a, ha, hu⟩ := List.mem_flatMap.mp h
        exact ⟨mem_nodes_of_arg ha (ih a ha hu).1, (ih a ha hu).2⟩

end TypeRef

namespace Piece

/-- The type whose name a piece leaves open. -/
def typeName? : Piece → Option TypeRef
  | typeName t => some t
  | _ => none

/-- The types whose names a text leaves open, in order. -/
def typeNames (ps : List Piece) : List TypeRef :=
  ps.filterMap typeName?

theorem mem_typeNames {t : TypeRef} {ps : List Piece} : t ∈ typeNames ps ↔ typeName t ∈ ps := by
  refine List.mem_filterMap.trans ⟨fun ⟨p, hp, ht⟩ => ?_, fun h => ⟨_, h, rfl⟩⟩
  cases p with
  | typeName u => exact Option.some.inj ht ▸ hp
  | _ => cases ht

theorem typeNames_append (a b : List Piece) : typeNames (a ++ b) = typeNames a ++ typeNames b :=
  List.filterMap_append

theorem typeNames_listed (separator : String) : ∀ pss : List (List Piece),
    typeNames (listed separator pss) = pss.flatMap typeNames
  | [] => rfl
  | [ps] => by rw [listed, List.flatMap_singleton]
  | ps :: qs :: more => by
    rw [listed, typeNames_append, List.flatMap_cons, ← typeNames_listed separator (qs :: more)]
    rfl

end Piece

namespace TypeRef

/-- **What is left open.** The names that the source text of a reference leaves open are those of its
open nodes. -/
theorem typeNames_pieces (t : TypeRef) : Piece.typeNames t.pieces = t.openNodes := by
  induction t using inductionOn with
  | node t ih =>
    rw [pieces_eq, openNodes_eq]
    by_cases hw : t.wildcard = some .unbounded
    · rw [if_pos hw, if_pos (Or.inl hw)]
      rfl
    by_cases hp : t.kind = .primitive
    · rw [if_neg hw, if_pos hp, if_pos (Or.inr hp)]
      rfl
    have hargs : Piece.typeNames (if t.args = [] then [.text (brackets t.dims)]
        else .text "<" :: (Piece.listed ", " (t.args.map pieces) ++ [.text (">" ++ brackets t.dims)])) =
        t.args.flatMap openNodes := by
      split
      · rename_i hnone
        rw [hnone]
        rfl
      · have hall : (t.args.map pieces).flatMap Piece.typeNames = t.args.flatMap openNodes := by
          rw [List.flatMap_map, List.flatMap_def, List.flatMap_def, List.map_congr_left ih]
        have htext : ∀ s, Piece.typeNames [.text s] = [] := fun _ => rfl
        rw [← hall, ← Piece.typeNames_listed ", ", ← List.singleton_append, Piece.typeNames_append,
          Piece.typeNames_append, htext, htext, List.nil_append, List.append_nil]
    have hname : Piece.typeNames [.text (wildcardText t.wildcard), t.namePiece] =
        if t.kind = .declared then [t] else [] := by
      unfold namePiece
      cases hk : t.kind with
      | declared => rfl
      | typeVariable => rfl
      | primitive => exact absurd hk hp
    rw [if_neg hw, if_neg hp, if_neg (not_or.mpr ⟨hw, hp⟩), ← hargs, ← hname, ← Piece.typeNames_append]
    rfl

/-- The source text of a return type leaves the same names open. -/
theorem typeNames_returnPieces (t : TypeRef) (static : Bool) :
    Piece.typeNames (t.returnPieces static) = t.openNodes := by
  rw [← typeNames_pieces]
  cases static <;> rfl

/-- A name left open belongs to a declared node that is no wildcard without a bound. -/
theorem mem_pieces {t u : TypeRef} (h : Piece.typeName u ∈ t.pieces) :
    u ∈ t.nodes ∧ u.kind = .declared ∧ u.wildcard ≠ some .unbounded := by
  rw [← Piece.mem_typeNames, typeNames_pieces] at h
  exact mem_openNodes h

end TypeRef
end Intertype
