/-
# The walk through a type

What `TypeRef.ofNode` reads from a node, form by form, in terms of what it reads from the nodes right below
it. A type with arguments is read from its first named node and from the arguments, an array from its
elements, and a wildcard from the last bound that it has; comments among these nodes count as much as
types do where a node is looked for by its place, and are no types themselves.

Key definition: `TypeRef.ofNodes`.
Key theorems: `TypeRef.ofNode_eq`, `TypeRef.ofNode_generic`, `TypeRef.ofNode_array`,
`TypeRef.ofNode_wildcard`.
-/
import Intertype.Proofs.Java.TypeNodes

namespace Intertype
namespace TypeRef

open Java (Node)

variable {source : List UInt8} {parameters : List String} {n c : Node} {ns : List Node} {t : TypeRef}

theorem results_eq_map : ∀ ns : List Node,
    results source parameters ns = ns.map (result source parameters)
  | [] => rfl
  | n :: rest => by rw [results, results_eq_map rest, List.map_cons]

theorem result_eq (n : Node) : result source parameters n =
    ⟨n, step source parameters n (n.children.map (result source parameters)),
      references (n.children.map (result source parameters))⟩ := by
  obtain ⟨type, field, isNamed, start, stop, children⟩ := n
  rw [result, results_eq_map]

theorem node_result (n : Node) : (result source parameters n).node = n := by
  rw [result_eq]

/-- A node is read from what is read from the nodes right below it. -/
theorem ofNode_eq (n : Node) : ofNode source parameters n =
    step source parameters n (n.children.map (result source parameters)) := by
  rw [ofNode, result_eq]

/-! ### Several nodes -/

/-- The references that the named ones of the nodes stand for. -/
def ofNodes (source : List UInt8) (parameters : List String) (ns : List Node) :
    Except ReadFault (List TypeRef) :=
  references (ns.map (result source parameters))

theorem ofNodes_unnamed (h : n.isNamed = false) (rest : List Node) :
    ofNodes source parameters (n :: rest) = ofNodes source parameters rest := by
  rw [ofNodes, List.map_cons, references, node_result, h]
  rfl

theorem ofNodes_named (h : n.isNamed = true) (rest : List Node) :
    ofNodes source parameters (n :: rest) =
      match ofNode source parameters n with
      | .error f => .error f
      | .ok t => (ofNodes source parameters rest).map (t :: ·) := by
  rw [ofNodes, List.map_cons, references, node_result, h]
  rfl

theorem ofNodes_cons_ok (h : n.isNamed = true) {rest : List Node} {ts : List TypeRef} :
    ofNodes source parameters (n :: rest) = .ok ts ↔
      ∃ t more, ofNode source parameters n = .ok t ∧ ofNodes source parameters rest = .ok more ∧
        ts = t :: more := by
  rw [ofNodes_named h]
  cases ofNode source parameters n with
  | error f => exact iff_of_false nofun fun ⟨_, _, hn, _⟩ => nomatch hn
  | ok t =>
    cases ofNodes source parameters rest with
    | error f => exact iff_of_false nofun fun ⟨_, _, _, hr, _⟩ => nomatch hr
    | ok more =>
      refine ⟨fun he => ⟨t, more, rfl, rfl, (Except.ok.inj he).symm⟩, ?_⟩
      rintro ⟨u, others, hu, hothers, rfl⟩
      rw [← Except.ok.inj hu, ← Except.ok.inj hothers]
      rfl

/-- Where the references to nodes are had, so is that to each named one of them. -/
theorem exists_ofNode_of_ofNodes {ts : List TypeRef} (h : ofNodes source parameters ns = .ok ts)
    (hc : c ∈ ns) (hnamed : c.isNamed = true) : ∃ t, ofNode source parameters c = .ok t := by
  induction ns generalizing ts with
  | nil => cases hc
  | cons n rest ih =>
    cases hn : n.isNamed with
    | true =>
      obtain ⟨t, more, ht, hmore, rfl⟩ := (ofNodes_cons_ok hn).mp h
      rcases List.mem_cons.mp hc with rfl | hc
      · exact ⟨t, ht⟩
      · exact ih hmore hc
    | false =>
      rw [ofNodes_unnamed hn] at h
      rcases List.mem_cons.mp hc with rfl | hc
      · rw [hn] at hnamed
        cases hnamed
      · exact ih h hc

/-! ### Form by form -/

theorem ofNode_primitive (h : n.type ∈ primitiveForms) :
    ofNode source parameters n = (primitive (n.text source) 0).mapError .unbuildable := by
  rw [ofNode_eq, step, if_pos h]

theorem ofNode_identifier (h : n.type = "type_identifier") :
    ofNode source parameters n =
      (if n.text source ∈ parameters then typeVariable (n.text source)
        else of (n.text source) []).mapError .unbuildable := by
  rw [ofNode_eq, step, if_neg (by rw [h]; decide), if_pos h]

theorem ofNode_dotted (h : n.type = "scoped_type_identifier") :
    ofNode source parameters n =
      if n.contains "generic_type" then .error (.enclosingArguments (n.text source))
      else if n.contains "annotation" ∨ n.contains "marker_annotation" then
        .error (.annotatedName (n.text source))
      else (of (String.ofList (n.dense source)) []).mapError .unbuildable := by
  rw [ofNode_eq, step, if_neg (by rw [h]; decide), if_neg (by rw [h]; decide), if_pos h,
    Node.dense_eq_text]

/-- The results that are chosen by their nodes are those of the nodes chosen. -/
theorem filter_results (p : Node → Bool) (ns : List Node) :
    (ns.map (result source parameters)).filter (fun r => p r.node) =
      (ns.filter p).map (result source parameters) := by
  rw [List.filter_map]
  exact congrArg (List.map _) (List.filter_congr fun c _ => by rw [Function.comp, node_result])

theorem find?_results (p : Node → Bool) (ns : List Node) :
    (ns.map (result source parameters)).find? (fun r => p r.node) =
      (ns.find? p).map (result source parameters) := by
  rw [List.find?_map]
  exact congrArg (Option.map _) (congrFun (congrArg _ (funext fun c => by
    rw [Function.comp, node_result])) ns)

/-- The arguments of a type are read from its first named node that is of that form, behind the first
of all. -/
theorem ofNode_generic (h : n.type = "generic_type") {base : Node} {others : List Node}
    (hnamed : n.namedChildren = base :: others) :
    ofNode source parameters n =
      match ofNode source parameters base with
      | .error f => .error f
      | .ok t =>
        match others.find? fun c => c.type = "type_arguments" with
        | none => .ok { t with args := [] }
        | some arguments =>
          (ofNodes source parameters arguments.children).map fun args => { t with args } := by
  have hfilter : (n.children.map (result source parameters)).filter (fun r => r.node.isNamed) =
      result source parameters base :: others.map (result source parameters) := by
    rw [filter_results Node.isNamed, ← Node.namedChildren, hnamed, List.map_cons]
  rw [ofNode_eq, step, if_neg (by rw [h]; decide), if_neg (by rw [h]; decide),
    if_neg (by rw [h]; decide), if_pos h]
  simp only [hfilter]
  change (match ofNode source parameters base with
    | .error f => _
    | .ok t => _) = _
  cases ofNode source parameters base with
  | error f => rfl
  | ok t =>
    simp only [find?_results fun c : Node => c.type = "type_arguments"]
    cases others.find? fun c => decide (c.type = "type_arguments") with
    | none => rfl
    | some arguments =>
      simp only [Option.map_some]
      rw [result_eq]
      rfl

theorem ofNode_array (h : n.type = "array_type") {element : Node}
    (helement : n.inField? "element" = some element) :
    ofNode source parameters n = (ofNode source parameters element).map fun t =>
      { t with dims := t.dims +
        (((n.inField? "dimensions").map (·.text source)).getD "").toList.count '[' } := by
  have hfind : (n.children.map (result source parameters)).find?
      (fun r => r.node.field = some "element") = some (result source parameters element) := by
    rw [find?_results fun c : Node => c.field = some "element", ← Node.inField?, helement,
      Option.map_some]
  rw [ofNode_eq, step, if_neg (by rw [h]; decide), if_neg (by rw [h]; decide),
    if_neg (by rw [h]; decide), if_neg (by rw [h]; decide), if_pos h]
  simp only [hfind]
  rfl

theorem ofNode_wildcard (h : n.type = "wildcard") :
    ofNode source parameters n =
      match (n.namedChildren.filter fun c => c.type ∉ unboundForms).getLast? with
      | none => .ok anything
      | some bound => (ofNode source parameters bound).map fun t =>
          wildcardOf (some t) (!n.children.any fun c => c.type = "super") := by
  have hbounds : ((n.children.map (result source parameters)).filter fun r => r.node.isNamed).filter
      (fun r => r.node.type ∉ unboundForms) =
        (n.namedChildren.filter fun c => c.type ∉ unboundForms).map (result source parameters) := by
    rw [filter_results Node.isNamed, filter_results fun c : Node => c.type ∉ unboundForms]
    rfl
  rw [ofNode_eq, step, if_neg (by rw [h]; decide), if_neg (by rw [h]; decide),
    if_neg (by rw [h]; decide), if_neg (by rw [h]; decide), if_neg (by rw [h]; decide), if_pos h]
  simp only [hbounds, List.getLast?_map]
  cases (n.namedChildren.filter fun c => decide (c.type ∉ unboundForms)).getLast? with
  | none => rfl
  | some bound => rfl

/-- A comment or an annotation is no type, and neither is a type with annotations before it. -/
theorem ofNode_ne_ok (h : n.type ∈ "annotated_type" :: Node.triviaForms) :
    ofNode source parameters n ≠ .ok t := by
  have hforms : ∀ form ∈ "annotated_type" :: Node.triviaForms, form ∉ primitiveForms ∧
      form ≠ "type_identifier" ∧ form ≠ "scoped_type_identifier" ∧ form ≠ "generic_type" ∧
      form ≠ "array_type" ∧ form ≠ "wildcard" := by decide
  obtain ⟨h1, h2, h3, h4, h5, h6⟩ := hforms n.type h
  rw [ofNode_eq, step, if_neg h1, if_neg h2, if_neg h3, if_neg h4, if_neg h5, if_neg h6]
  exact nofun

end TypeRef
end Intertype
