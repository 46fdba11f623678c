/-
# Reading a type from text

A type is put before the name of a method, alone in a class, since the return type of a method takes
every form of type, `void` among them. A parser makes a syntax tree of that source, and where it finds no
error the tree is walked: down to the return type of the only method of the only class, and then through
the type itself.

Single identifiers listed as type variables become type variables, all other names declared types whose
package is derived. Arguments or annotations within a name are refused, and so is any form of type that
has no place in a reference, a comment among the arguments for one.

The parser is a parameter. What it may be relied on for is said where something is proved about it; the
walk itself is defined for all trees, and fails where a node that it goes to is not there.

Key definitions: `TypeRef.readBy`, `TypeRef.findType?`, `TypeRef.step`, `TypeRef.ofNode`,
`TypeRef.ReadFault`.
-/
import Intertype.Java.Tree
import Intertype.Text.Blank
import Intertype.Text.Quoted
import Intertype.TypeRef.Naming

namespace Intertype
namespace TypeRef

open Java (Node Parser)

/-- Why a text is no type. -/
inductive ReadFault
  /-- It is empty or blank. -/
  | blank
  /-- It is not the source of a single type. -/
  | invalid (text : String)
  /-- A part of it, in a form of this name, has no place in a reference. -/
  | unsupportedForm (form text : String)
  /-- A name in it goes on after type arguments. -/
  | enclosingArguments (text : String)
  /-- A name in it holds annotations. -/
  | annotatedName (text : String)
  /-- No reference can be built of a part of it. -/
  | unbuildable (fault : Fault)
  /-- The tree has a type with arguments in which there is nothing to read. -/
  | noName
  /-- The tree has an array without its elements. -/
  | noElement
  deriving DecidableEq, Repr

/-- The wording of a fault. -/
def ReadFault.message : ReadFault → String
  | .blank => "Type text is required"
  | .invalid text => "Not a valid Java type: " ++ Text.quoted text
  | .unsupportedForm form text =>
    "Unsupported type form '" ++ form ++ "': " ++ Text.quoted text
  | .enclosingArguments text =>
    "Parameterized enclosing types are not supported: " ++ Text.quoted text
  | .annotatedName text => "Type annotations are not supported: " ++ Text.quoted text
  | .unbuildable fault => fault.message
  | .noName => "list index out of range"
  | .noElement => "'NoneType' object has no attribute 'type'"

/-! ### The source -/

/-- What stands before a type: a class is opened. -/
def opening : List Char := "class __TypeHolder \x7b ".toList

/-- The name of the method. -/
def probeName : String := "__probe"

/-- What stands behind a type: a method of that return type is declared, and the class closed. -/
def closing : List Char := " __probe(); \x7d".toList

/-- The source in which a type is read: its text, trimmed, between the two. -/
def sourceOf (text : String) : List UInt8 :=
  (opening ++ Text.trim text.toList ++ closing).flatMap String.utf8EncodeChar

/-! ### Finding the type -/

/-- The return type of the only member of the only class, if that is a method of the given name. -/
def findType? (source : List UInt8) (root : Node) : Option Node :=
  match root.children.filter fun c => c.type = "class_declaration" with
  | [holder] =>
    match holder.inField? "body" with
    | none => none
    | some body =>
      match body.namedChildren with
      | [member] =>
        if member.type = "method_declaration" ∧
            (member.inField? "name").map (·.text source) = some probeName
        then member.inField? "type"
        else none
      | _ => none
  | _ => none

/-! ### Reading the type -/

/-- The types of nodes that are primitive types, `void` among them. -/
def primitiveForms : List String :=
  ["void_type", "integral_type", "floating_point_type", "boolean_type"]

/-- The types of the nodes in a wildcard that are no bounds of it. -/
def unboundForms : List String := ["super", "annotation", "marker_annotation"]

/-- A node with what is read from it, and from the named ones right below it in order. -/
structure Result where
  node : Node
  reference : Except ReadFault TypeRef
  parts : Except ReadFault (List TypeRef)

/-- The references read from the named nodes, if all are. -/
def references : List Result → Except ReadFault (List TypeRef)
  | [] => .ok []
  | r :: rest =>
    if r.node.isNamed then
      match r.reference with
      | .error f => .error f
      | .ok t => (references rest).map (t :: ·)
    else references rest

/-- The reference that a node stands for, from what is read from the nodes right below it. -/
def step (source : List UInt8) (parameters : List String) (n : Node) (children : List Result) :
    Except ReadFault TypeRef :=
  let text := n.text source
  let named := children.filter (·.node.isNamed)
  if n.type ∈ primitiveForms then (primitive text 0).mapError .unbuildable
  else if n.type = "type_identifier" then
    (if text ∈ parameters then typeVariable text else of text []).mapError .unbuildable
  else if n.type = "scoped_type_identifier" then
    if n.contains "generic_type" then .error (.enclosingArguments text)
    else if n.contains "annotation" ∨ n.contains "marker_annotation" then .error (.annotatedName text)
    else (of (String.ofList (Text.unspaced text.toList)) []).mapError .unbuildable
  else if n.type = "generic_type" then
    match named with
    | [] => .error .noName
    | base :: others =>
      match base.reference with
      | .error f => .error f
      | .ok t =>
        match others.find? fun r => r.node.type = "type_arguments" with
        | none => .ok { t with args := [] }
        | some arguments => arguments.parts.map fun args => { t with args }
  else if n.type = "array_type" then
    match children.find? fun r => r.node.field = some "element" with
    | none => .error .noElement
    | some element =>
      let dims := ((n.inField? "dimensions").map (·.text source)).getD ""
      element.reference.map fun t => { t with dims := t.dims + dims.toList.count '[' }
  else if n.type = "wildcard" then
    match (named.filter fun r => r.node.type ∉ unboundForms).getLast? with
    | none => .ok anything
    | some bound =>
      bound.reference.map fun t => wildcardOf (some t) (!n.children.any fun c => c.type = "super")
  else .error (.unsupportedForm n.type text)

mutual
/-- What is read from a node. -/
def result (source : List UInt8) (parameters : List String) : Node → Result
  | ⟨type, field, isNamed, start, stop, children⟩ =>
    let n : Node := ⟨type, field, isNamed, start, stop, children⟩
    let below := results source parameters children
    ⟨n, step source parameters n below, references below⟩

/-- What is read from nodes, one by one. -/
def results (source : List UInt8) (parameters : List String) : List Node → List Result
  | [] => []
  | n :: rest => result source parameters n :: results source parameters rest
end

/-- The reference that a node stands for, where the names listed are type variables. -/
def ofNode (source : List UInt8) (parameters : List String) (n : Node) : Except ReadFault TypeRef :=
  (result source parameters n).reference

/-- Reads a type, where the names listed are type variables. -/
def readBy (parser : Parser) (text : String) (parameters : List String) : Except ReadFault TypeRef :=
  if Text.trim text.toList = [] then .error .blank
  else
    let source := sourceOf text
    let tree := parser source
    if tree.hasError then .error (.invalid text)
    else
      match findType? source tree.root with
      | none => .error (.invalid text)
      | some n => ofNode source parameters n

end TypeRef
end Intertype
