/-
# A parser for a method in a class

A parser for the source that types are read in: a class with a method in it and nothing else but stray
semicolons. All else counts as an error, which comes to the same where a type is read. The return type of
the method is parsed into the nodes that the grammar of Java has for it; modifiers, type parameters,
annotations, the body of a method and declarations behind the class are nodes without any below them, but
that annotations in which there is a type with arguments hold a node for this.

A comment is a node of its own, below the innermost node that tokens stand in on both sides of it.

Key definitions: `Java.type?`, `Java.method?`, `Java.parse`.
-/
import Intertype.Java.Grammar.Rules
import Intertype.Java.Tree

namespace Intertype
namespace Java

open Grammar

/-! ### Tokens -/

/-- Whether the token is this mark. -/
def Token.isMark (c : Char) (t : Token) : Bool :=
  t.kind = .mark && t.text = [c]

/-- Whether the token is one of the words. -/
def Token.isAmong (ws : List String) (t : Token) : Bool :=
  t.kind = .word && ws.any fun w => t.text = w.toList

/-- The tokens from one place up to a later one. -/
def upTo (start rest : List Token) : List Token :=
  start.take (start.length - rest.length)

/-! ### Nodes -/

/-- Nodes in a row, and the tokens left behind them. -/
abbrev Parsed := List Node × List Token

/-- The node for a token. -/
def Token.leaf (t : Token) (type : String) (isNamed : Bool) : Node :=
  { type, isNamed, start := t.start, stop := t.stop }

/-- The node for a word or mark of its own. -/
def Token.bare (t : Token) : Node :=
  t.leaf (String.ofList t.text) false

/-- The node with these right below it. -/
def branch (type : String) (children : List Node) : Node :=
  { type, start := (children.head?.map Node.start).getD 0,
    stop := (children.getLast?.map Node.stop).getD 0, children }

/-- The node with the field that it fills. -/
def Node.filling (n : Node) (field : String) : Node :=
  { n with field }

/-- A node for tokens that are not looked into. -/
def whole (type : String) (ts : List Token) : Node :=
  { type, start := (ts.head?.map Token.start).getD 0, stop := (ts.getLast?.map Token.stop).getD 0 }

/-- The nodes of the comments that come next. -/
def comments (ts : List Token) : List Node :=
  (ts.takeWhile Token.isComment).map fun t =>
    t.leaf (if t.kind = .blockComment then "block_comment" else "line_comment") true

/-- The mark that comes next, and the tokens behind it. -/
def mark? (c : Char) (ts : List Token) : Option (Node × List Token) :=
  match skipComments ts with
  | t :: rest => if t.isMark c then some (t.bare, rest) else none
  | [] => none

/-- The word that comes next, and the tokens behind it. -/
def word? (ts : List Token) : Option (Token × List Token) :=
  match skipComments ts with
  | t :: rest => if t.kind = .word then some (t, rest) else none
  | [] => none

/-! ### Annotations and dimensions -/

/-- Of the possible rests, the one that leaves the fewest tokens. -/
def shortestRest? : List Rest → Option Rest
  | [] => none
  | p :: more =>
    match shortestRest? more with
    | none => some p
    | some q => if q.2.length < p.2.length then some q else some p

/-- The node of an annotation, and whether there is a type with arguments in it. -/
def annotationNode (ts : List Token) (hasArguments : Bool) : Node :=
  let n := whole (if ts.any (Token.isMark '(') then "annotation" else "marker_annotation") ts
  { n with children := if hasArguments then [whole "generic_type" ts] else [] }

/-- Parses annotations in a row, no more than so many; it fails where a mark that begins one begins
none. -/
def annotationsWithin? : Nat → List Token → Option Parsed
  | 0, _ => none
  | fuel + 1, ts =>
    match skipComments ts with
    | [] => some ([], ts)
    | t :: rest =>
      if t.isMark '@' then
        match shortestRest? (restsOf (.symbol .annotationUse) (t :: rest)) with
        | none => none
        | some (hasArguments, after) =>
          let n := annotationNode (upTo (t :: rest) after) hasArguments
          (annotationsWithin? fuel after).map fun more => (comments ts ++ n :: more.1, more.2)
      else some ([], ts)

/-- Parses annotations in a row. -/
def annotations? (ts : List Token) : Option Parsed :=
  annotationsWithin? (ts.length + 1) ts

/-- Parses pairs of brackets in a row, each perhaps after annotations, no more than so many. -/
def dimensionsWithin? : Nat → List Token → Option Parsed
  | 0, _ => none
  | fuel + 1, ts =>
    match skipComments ts with
    | [] => some ([], ts)
    | t :: _ =>
      if t.isMark '[' ∨ t.isMark '@' then
        match annotations? ts with
        | none => none
        | some (annotations, rest) =>
          match mark? '[' rest with
          | none => none
          | some (opens, inside) =>
            match mark? ']' inside with
            | none => none
            | some (closes, after) =>
              (dimensionsWithin? fuel after).map fun more =>
                (annotations ++ comments rest ++ opens :: comments inside ++ closes :: more.1, more.2)
      else some ([], ts)

/-- A type with the dimensions that come next. -/
def withDimensions? (element : Node) (ts : List Token) : Option (Node × List Token) :=
  match dimensionsWithin? (ts.length + 1) (skipComments ts) with
  | none => none
  | some ([], _) => some (element, ts)
  | some (pairs, rest) =>
    some (branch "array_type" (element.filling "element" ::
      (comments ts ++ [(branch "dimensions" pairs).filling "dimensions"])), rest)

/-! ### Types -/

/-- The form of a primitive type. -/
def primitiveForm (word : String) : String :=
  if word = "void" then "void_type"
  else if word = "boolean" then "boolean_type"
  else if word = "float" ∨ word = "double" then "floating_point_type"
  else "integral_type"

/-- The node of a primitive type. -/
def primitiveNode (t : Token) : Node :=
  let form := primitiveForm (String.ofList t.text)
  if form = "void_type" ∨ form = "boolean_type" then t.leaf form true else branch form [t.bare]

mutual
/-- Parses a type without annotations before it. -/
def unannotated? : Nat → List Token → Option (Node × List Token)
  | 0, _ => none
  | fuel + 1, ts =>
    match word? ts with
    | none => none
    | some (t, rest) =>
      if t.isAmong primitiveWords then withDimensions? (primitiveNode t) rest
      else
        match nameRest? fuel (t.leaf "type_identifier" true) rest with
        | none => none
        | some (name, after) => withDimensions? name after

/-- Parses on behind what was parsed of a name. -/
def nameRest? : Nat → Node → List Token → Option (Node × List Token)
  | 0, _, _ => none
  | fuel + 1, name, ts =>
    match mark? '.' ts with
    | some (dot, behindDot) =>
      match annotations? behindDot with
      | none => none
      | some (annotations, rest) =>
        match word? rest with
        | none => none
        | some (t, after) =>
          nameRest? fuel (branch "scoped_type_identifier"
            (name :: comments ts ++ dot :: annotations ++ comments rest ++
              [t.leaf "type_identifier" true])) after
    | none =>
      match mark? '<' ts with
      | none => some (name, ts)
      | some (opens, inside) =>
        if name.type = "generic_type" then some (name, ts)
        else
          match arguments? fuel true inside with
          | none => none
          | some (arguments, after) =>
            nameRest? fuel (branch "generic_type"
              (name :: comments ts ++ [branch "type_arguments" (opens :: arguments)])) after

/-- Parses arguments up to the closing bracket. -/
def arguments? : Nat → Bool → List Token → Option Parsed
  | 0, _, _ => none
  | fuel + 1, first, ts =>
    match first, mark? '>' ts with
    | true, some (closes, after) => some (comments ts ++ [closes], after)
    | _, _ =>
      match argument? fuel (skipComments ts) with
      | none => none
      | some (argument, rest) =>
        let read := comments ts ++ argument :: comments rest
        match mark? '>' rest, mark? ',' rest with
        | some (closes, after), _ => some (read ++ [closes], after)
        | none, some (comma, more) =>
          match arguments? fuel false more with
          | none => none
          | some (others, after) => some (read ++ comma :: others, after)
        | none, none => none

/-- Parses one argument, from tokens that start with no comment. -/
def argument? : Nat → List Token → Option (Node × List Token)
  | 0, _ => none
  | fuel + 1, ts =>
    match annotations? ts with
    | none => none
    | some (annotations, rest) =>
      match mark? '?' rest with
      | none => type? fuel ts
      | some (mark, behind) =>
        let read := annotations ++ comments rest ++ [mark]
        match word? behind with
        | none => some (branch "wildcard" read, behind)
        | some (t, bound) =>
          if t.isAmong ["extends", "super"] then
            match type? fuel (skipComments bound) with
            | none => none
            | some (n, after) =>
              let keyword := if t.isAmong ["super"] then t.leaf "super" true else t.bare
              some (branch "wildcard" (read ++ comments behind ++ keyword :: comments bound ++ [n]), after)
          else none

/-- Parses a type, from tokens that start with no comment. -/
def type? : Nat → List Token → Option (Node × List Token)
  | 0, _ => none
  | fuel + 1, ts =>
    match annotations? ts with
    | none => none
    | some (annotations, rest) =>
      match unannotated? fuel (skipComments rest) with
      | none => none
      | some (n, after) =>
        if annotations = [] then some (n, after)
        else some (branch "annotated_type" (annotations ++ comments rest ++ [n]), after)
end

/-- A bound on the depth of a type of so many tokens that is never met. -/
def typeDepth (ts : List Token) : Nat :=
  8 * (ts.length + 1)

/-! ### A method in a class -/

/-- The words that begin something else than a return type in the body of a class. -/
def memberWords : List String :=
  modifierWords ++ declarationWords

/-- The tokens behind modifiers and annotations in a row, which are no more than so many. -/
def modifiersWithin? : Nat → List Token → Option (List Token)
  | 0, _ => none
  | fuel + 1, ts =>
    match skipComments ts with
    | [] => some ts
    | t :: rest =>
      if t.isMark '@' ∧ (afterMark? "@interface".toList (t :: rest)).isNone then
        match shortestRest? (restsOf (.symbol .annotationUse) (t :: rest)) with
        | none => none
        | some (_, after) => modifiersWithin? fuel after
      else
        match shortestRest? (restsOf (.one [anyWord modifierWords, .mark "non-sealed"])
            (t :: rest)) with
        | some (_, after) => modifiersWithin? fuel after
        | none => some ts

/-- Parses modifiers, from tokens that start with no comment. -/
def modifiers? (ts : List Token) : Option Parsed :=
  (modifiersWithin? (ts.length + 1) ts).map fun rest =>
    (if rest.length = ts.length then [] else [whole "modifiers" (upTo ts rest)], rest)

/-- Parses type parameters and the annotations behind them, if an opening bracket comes next. -/
def typeParameters? (ts : List Token) : Option Parsed :=
  match mark? '<' ts with
  | none => some ([], ts)
  | some _ =>
    match shortestRest? (restsOf (.symbol .typeParameters) (skipComments ts)) with
    | none => none
    | some (_, rest) =>
      (annotations? rest).map fun annotations =>
        (comments ts ++ whole "type_parameters" (upTo (skipComments ts) rest) :: annotations.1,
          annotations.2)

/-- The tokens behind the semicolons that come next. -/
def skipSemicolons (ts : List Token) : List Token :=
  ts.dropWhile (Token.isMark ';')

/-- The nodes of the semicolons that come next. -/
def semicolons (ts : List Token) : List Node :=
  (ts.takeWhile (Token.isMark ';')).map Token.bare

/-- Whether the tokens end a class and the file, with nothing else in the class and no class behind it. -/
def endsFile (ts : List Token) : Bool :=
  match skipSemicolons ts with
  | [] => false
  | t :: rest => t.isMark '\x7d' && derivesAll fileRest rest

/-- Parses the parameters of a method and what else comes behind its name, where the class and the file
end behind the method. -/
def methodRest? (ts : List Token) : Option Parsed :=
  match (restsOf (.symbol .methodRest) ts).find? fun p => endsFile p.2 with
  | none => none
  | some (_, after) =>
    match shortestRest? (restsOf (.symbol .formalParameters) ts) with
    | none => none
    | some (_, rest) =>
      let parameters := (whole "formal_parameters" (upTo (skipComments ts) rest)).filling "parameters"
      let behind :=
        match mark? ';' rest with
        | some (semicolon, _) => comments rest ++ [semicolon]
        | none => [(whole "block" (upTo rest after)).filling "body"]
      some (comments ts ++ parameters :: behind, after)

/-- Parses a method behind which the class and the file end. -/
def method? (ts : List Token) : Option (Node × List Token) := do
  let (modifiers, afterModifiers) ← modifiers? ts
  let (parameters, rest) ← typeParameters? afterModifiers
  let (first, _) ← word? rest
  if parameters = [] ∧ first.isAmong memberWords then none
  else
    let (type, afterType) ← unannotated? (typeDepth ts) (skipComments rest)
    let (name, afterName) ← word? afterType
    let (ending, after) ← methodRest? afterName
    some (branch "method_declaration" (modifiers ++ parameters ++ comments rest ++
      type.filling "type" :: comments afterType ++ (name.leaf "identifier" true).filling "name" :: ending),
      after)

/-- Parses the body of a class up to the end of the file, from the tokens behind its opening brace. -/
def body? (opens : Token) (ts : List Token) : Option Parsed :=
  match skipSemicolons ts with
  | [] => none
  | first :: others =>
    if first.isComment then none
    else
      match method? (first :: others) with
      | none => none
      | some (method, rest) =>
        match skipSemicolons rest with
        | [] => none
        | closes :: after =>
          some ([branch "class_body" (opens.bare :: semicolons ts ++ method :: semicolons rest ++
            [closes.bare])], after)

/-- Parses a class up to the end of the file. -/
def class? : List Token → Option Parsed
  | keyword :: name :: opens :: ts =>
    if keyword.isAmong ["class"] ∧ name.kind = .word ∧ opens.isMark '\x7b' then
      (body? opens ts).map fun body =>
        ([branch "class_declaration" (keyword.bare :: (name.leaf "identifier" true).filling "name" ::
          body.1.map (·.filling "body"))], body.2)
    else none
  | _ => none

/-- The tree of a source in which a class has a method and nothing else in it. -/
def parse : Parser := fun source =>
  match Text.Utf8.decode source with
  | .error _ => ⟨branch "ERROR" [], true⟩
  | .ok cs =>
    match class? (scan cs) with
    | none => ⟨branch "ERROR" [], true⟩
    | some (holder, rest) =>
      let others := if rest.all Token.isComment then comments rest else [whole "declarations" rest]
      ⟨branch "program" (holder ++ others), false⟩

end Java
end Intertype
