/-
# The grammar of Java

The rules of Java source as far as something may stand around a type: annotations with their
arguments, parameters, bodies with their statements and expressions, and all declarations. Expressions
are given flat, as operands with operators between them, since only what can be derived matters and
not how it groups. A type with arguments is noted.

Key definitions: `Grammar.Symbol`, `Grammar.productions`, `Grammar.restsOf`, `Grammar.derivesAll`.
-/
import Intertype.Java.Grammar.Basic

namespace Intertype
namespace Java
namespace Grammar

/-- What the grammar has rules for. -/
inductive Symbol
  | qualifiedName
  | annotationUse
  | annotationArguments
  | elementValue
  | type
  | unannotatedType
  | simpleType
  | typeArguments
  | dimensions
  | typeParameters
  | modifiers
  | formalParameters
  | methodRest
  | method
  | variableName
  | variables
  | initializer
  | typeList
  | classDeclaration
  | recordDeclaration
  | interfaceDeclaration
  | annotationTypeDeclaration
  | enumDeclaration
  | moduleDeclaration
  | classBody
  | classMember
  | interfaceBody
  | annotationTypeBody
  | enumBody
  | constructorBody
  | block
  | statement
  | statementBesidesClass
  | localVariables
  | tryStatement
  | forStatement
  | expression
  | operand
  | primary
  | selector
  | assignable
  | arguments
  | creation
  | lambda
  | switchExpression
  | switchLabel
  | recordPattern
  deriving DecidableEq, Repr

/-- The words for primitive types. -/
def primitiveWords : List String :=
  ["byte", "short", "int", "long", "char", "float", "double", "boolean", "void"]

/-- The words that are modifiers. -/
def modifierWords : List String :=
  ["public", "protected", "private", "abstract", "static", "final", "strictfp", "default",
    "synchronized", "native", "transient", "volatile", "sealed"]

/-- The words that begin a declaration of their own in the body of a class. -/
def declarationWords : List String :=
  ["class", "interface", "enum", "record"]

/-- The words that begin something else than a name where an expression or a statement may stand. -/
def reservedWords : List String :=
  primitiveWords ++ ["new", "this", "super", "switch", "true", "false", "null", "assert", "do",
    "while", "for", "break", "continue", "return", "throw", "try", "if", "else", "case", "default",
    "class", "interface", "enum", "import", "package", "public", "protected", "private", "abstract",
    "static", "final", "strictfp", "synchronized", "native", "transient", "volatile", "instanceof"]

/-- Any of the words. -/
def anyWord (ws : List String) : Rule Symbol :=
  .one (ws.map Rule.word)

/-- Any of the marks. -/
def anyMark (ms : List String) : Rule Symbol :=
  .one (ms.map Rule.mark)

/-- An identifier where an expression or a statement may stand. -/
def identifier : Rule Symbol := .name reservedWords

/-- An identifier where nothing else may stand. -/
def anyName : Rule Symbol := .name []

open Rule in
/-- The rule for each symbol. -/
def productions : Symbol → Rule Symbol
  | .qualifiedName => separated "." anyName
  | .annotationUse => .all [.mark "@", .symbol .qualifiedName, optional (.symbol .annotationArguments)]
  | .annotationArguments =>
    .all [.mark "(",
      .one [.symbol .elementValue,
        optional (separated "," (.all [anyName, .mark "=", .symbol .elementValue]))],
      .mark ")"]
  | .elementValue =>
    .one [.symbol .expression,
      .all [.mark "\x7b", optional (separated "," (.symbol .elementValue)), optional (.mark ","),
        .mark "\x7d"],
      .symbol .annotationUse]
  | .type => .all [.many (.symbol .annotationUse), .symbol .unannotatedType]
  | .unannotatedType => .all [.symbol .simpleType, optional (.symbol .dimensions)]
  | .simpleType =>
    .one [anyWord primitiveWords,
      .all [identifier, optional (.noted (.symbol .typeArguments)),
        .many (.all [.mark ".", .many (.symbol .annotationUse), anyName,
          optional (.noted (.symbol .typeArguments))])]]
  | .typeArguments =>
    .all [.mark "<",
      optional (separated ","
        (.one [.symbol .type,
          .all [.many (.symbol .annotationUse), .mark "?",
            optional (.all [anyWord ["extends", "super"], .symbol .type])]])),
      .mark ">"]
  | .dimensions =>
    let dimension := Rule.all [.many (.symbol .annotationUse), .mark "[", .mark "]"]
    .all [dimension, .many dimension]
  | .typeParameters =>
    .all [.mark "<",
      separated "," (.all [.many (.symbol .annotationUse), anyName,
        optional (.all [.word "extends", separated "&" (.symbol .type)])]),
      .mark ">"]
  | .modifiers =>
    .many (.one [.symbol .annotationUse, anyWord modifierWords, .mark "non-sealed"])
  | .formalParameters =>
    let receiver := Rule.all [.many (.symbol .annotationUse), .symbol .unannotatedType,
      .many (.all [anyName, .mark "."]), .word "this"]
    let parameter := Rule.all [.symbol .modifiers, .symbol .unannotatedType,
      .one [.symbol .variableName,
        .all [.mark "...", .many (.symbol .annotationUse), .symbol .variableName]]]
    .all [.mark "(",
      .one [receiver,
        .all [optional (.all [receiver, .mark ","]), optional (separated "," parameter)]],
      .mark ")"]
  | .methodRest =>
    .all [.symbol .formalParameters, optional (.symbol .dimensions),
      optional (.all [.word "throws", .symbol .typeList]), .one [.mark ";", .symbol .block]]
  | .method =>
    .all [.symbol .modifiers,
      optional (.all [.symbol .typeParameters, .many (.symbol .annotationUse)]),
      .symbol .unannotatedType, anyName, .symbol .methodRest]
  | .variableName => .all [anyName, optional (.symbol .dimensions)]
  | .variables =>
    separated "," (.all [.symbol .variableName, optional (.all [.mark "=", .symbol .initializer])])
  | .initializer =>
    .one [.symbol .expression,
      .all [.mark "\x7b", optional (separated "," (.symbol .initializer)), optional (.mark ","),
        .mark "\x7d"]]
  | .typeList => separated "," (.symbol .type)
  | .classDeclaration =>
    .all [.symbol .modifiers, .word "class", anyName, optional (.symbol .typeParameters),
      optional (.all [.word "extends", .symbol .type]),
      optional (.all [.word "implements", .symbol .typeList]),
      optional (.all [.word "permits", .symbol .typeList]), .symbol .classBody]
  | .recordDeclaration =>
    .all [.symbol .modifiers, .word "record", anyName, optional (.symbol .typeParameters),
      .symbol .formalParameters, optional (.all [.word "implements", .symbol .typeList]),
      .symbol .classBody]
  | .interfaceDeclaration =>
    .all [.symbol .modifiers, .word "interface", anyName, optional (.symbol .typeParameters),
      optional (.all [.word "extends", .symbol .typeList]),
      optional (.all [.word "permits", .symbol .typeList]), .symbol .interfaceBody]
  | .annotationTypeDeclaration =>
    .all [.symbol .modifiers, .mark "@interface", anyName, .symbol .annotationTypeBody]
  | .enumDeclaration =>
    .all [.symbol .modifiers, .word "enum", anyName,
      optional (.all [.word "implements", .symbol .typeList]), .symbol .enumBody]
  | .moduleDeclaration =>
    let names := separated "," (Rule.symbol Symbol.qualifiedName)
    .all [.many (.symbol .annotationUse), optional (.word "open"), .word "module",
      .symbol .qualifiedName, .mark "\x7b",
      .many (.one [
        .all [.word "requires", .many (anyWord ["transitive", "static"]), .symbol .qualifiedName,
          .mark ";"],
        .all [anyWord ["exports", "opens"], .symbol .qualifiedName,
          optional (.all [.word "to", names]), .mark ";"],
        .all [.word "uses", .symbol .qualifiedName, .mark ";"],
        .all [.word "provides", .symbol .qualifiedName, .word "with", names, .mark ";"]]),
      .mark "\x7d"]
  | .classBody => .all [.mark "\x7b", .many (.symbol .classMember), .mark "\x7d"]
  | .classMember =>
    .one [.mark ";", .symbol .localVariables, .symbol .method, .symbol .recordDeclaration,
      .symbol .classDeclaration, .symbol .interfaceDeclaration, .symbol .annotationTypeDeclaration,
      .symbol .enumDeclaration, .all [optional (.word "static"), .symbol .block],
      .all [.symbol .modifiers, optional (.symbol .typeParameters), anyName,
        .symbol .formalParameters, optional (.all [.word "throws", .symbol .typeList]),
        .symbol .constructorBody],
      .all [.symbol .modifiers, anyName, .symbol .block]]
  | .interfaceBody =>
    .all [.mark "\x7b",
      .many (.one [.mark ";", .symbol .localVariables, .symbol .method, .symbol .enumDeclaration,
        .symbol .classDeclaration, .symbol .interfaceDeclaration, .symbol .recordDeclaration,
        .symbol .annotationTypeDeclaration]),
      .mark "\x7d"]
  | .annotationTypeBody =>
    .all [.mark "\x7b",
      .many (.one [.mark ";",
        .all [.symbol .modifiers, .symbol .unannotatedType, anyName, .mark "(", .mark ")",
          optional (.symbol .dimensions), optional (.all [.word "default", .symbol .elementValue]),
          .mark ";"],
        .symbol .localVariables, .symbol .classDeclaration, .symbol .interfaceDeclaration,
        .symbol .enumDeclaration, .symbol .annotationTypeDeclaration]),
      .mark "\x7d"]
  | .enumBody =>
    .all [.mark "\x7b",
      optional (separated "," (.all [.symbol .modifiers, anyName, optional (.symbol .arguments),
        optional (.symbol .classBody)])),
      optional (.mark ","), optional (.all [.mark ";", .many (.symbol .classMember)]), .mark "\x7d"]
  | .constructorBody =>
    .all [.mark "\x7b",
      optional (.all [
        .one [.all [optional (.symbol .typeArguments), anyWord ["this", "super"]],
          .all [.symbol .primary, .many (.symbol .selector), .mark ".",
            optional (.symbol .typeArguments), .word "super"]],
        .symbol .arguments, .mark ";"]),
      .many (.symbol .statement), .mark "\x7d"]
  | .block => .all [.mark "\x7b", .many (.symbol .statement), .mark "\x7d"]
  | .statement => .one [.symbol .statementBesidesClass, .symbol .classDeclaration]
  | .statementBesidesClass =>
    let condition := Rule.all [.mark "(", .symbol .expression, .mark ")"]
    .one [.mark ";", .symbol .block, .all [.symbol .expression, .mark ";"], .symbol .localVariables,
      .all [identifier, .mark ":", .symbol .statement],
      .all [.word "if", condition, .symbol .statement,
        optional (.all [.word "else", .symbol .statement])],
      .all [.word "while", condition, .symbol .statement],
      .all [.word "do", .symbol .statement, .word "while", condition, .mark ";"],
      .symbol .forStatement, .symbol .tryStatement, .symbol .switchExpression,
      .all [.word "assert", .symbol .expression, optional (.all [.mark ":", .symbol .expression]),
        .mark ";"],
      .all [anyWord ["break", "continue"], optional identifier, .mark ";"],
      .all [.word "return", optional (.symbol .expression), .mark ";"],
      .all [anyWord ["yield", "throw"], .symbol .expression, .mark ";"],
      .all [.word "synchronized", condition, .symbol .block],
      .symbol .recordDeclaration, .symbol .interfaceDeclaration, .symbol .enumDeclaration,
      .symbol .annotationTypeDeclaration, .symbol .moduleDeclaration,
      .all [.many (.symbol .annotationUse), .word "package", .symbol .qualifiedName, .mark ";"],
      .all [.word "import", optional (.word "static"), .symbol .qualifiedName,
        optional (.all [.mark ".", .mark "*"]), .mark ";"]]
  | .localVariables =>
    .all [.symbol .modifiers, .symbol .unannotatedType, .symbol .variables, .mark ";"]
  | .tryStatement =>
    let catchClause := Rule.all [.word "catch", .mark "(", .symbol .modifiers,
      separated "|" (.symbol .unannotatedType), .symbol .variableName, .mark ")", .symbol .block]
    let finallyClause := Rule.all [.word "finally", .symbol .block]
    let resource := Rule.one [
      .all [.symbol .modifiers, .symbol .unannotatedType, .symbol .variableName, .mark "=",
        .symbol .expression],
      .symbol .assignable]
    .one [
      .all [.word "try", .symbol .block, .many catchClause, .one [catchClause, finallyClause]],
      .all [.word "try", .mark "(", separated ";" resource, optional (.mark ";"), .mark ")",
        .symbol .block, .many catchClause, optional finallyClause]]
  | .forStatement =>
    let expressions := optional (separated "," (Rule.symbol Symbol.expression))
    .one [
      .all [.word "for", .mark "(",
        .one [.symbol .localVariables, .all [expressions, .mark ";"]],
        optional (.symbol .expression), .mark ";", expressions, .mark ")", .symbol .statement],
      .all [.word "for", .mark "(", .symbol .modifiers, .symbol .unannotatedType,
        .symbol .variableName, .mark ":", .symbol .expression, .mark ")", .symbol .statement]]
  | .expression =>
    .one [
      .all [.symbol .assignable,
        anyMark ["=", "+=", "-=", "*=", "/=", "&=", "|=", "^=", "%=", "<<=", ">>=", ">>>="],
        .symbol .expression],
      .all [.symbol .operand,
        .many (.one [
          .all [anyMark ["+", "-", "*", "/", "%", "&&", "||", "&", "|", "^", "==", "!=", "<=", ">=",
            "<<", ">>>", ">>", "<", ">"], .symbol .operand],
          .all [.word "instanceof", optional (.word "final"),
            .one [.symbol .recordPattern, .all [.symbol .type, optional identifier]]],
          .all [.mark "?", .symbol .expression, .mark ":", .symbol .expression]])]]
  | .operand =>
    .one [
      .all [anyMark ["++", "--", "+", "-", "!", "~"], .symbol .operand],
      .all [.mark "(", separated "&" (.symbol .type), .mark ")", .symbol .operand],
      .symbol .lambda, .symbol .switchExpression,
      .all [.symbol .primary, .many (.one [.symbol .selector, .mark "++", .mark "--"])]]
  | .primary =>
    .one [.literal, anyWord ["true", "false", "null", "this", "super"], identifier,
      .all [identifier, .symbol .arguments],
      .all [.mark "(", .symbol .expression, .mark ")"],
      .all [.symbol .unannotatedType, .mark ".", .word "class"],
      .all [.symbol .type, .mark "::", optional (.symbol .typeArguments), .name []],
      .symbol .creation]
  | .selector =>
    .one [.all [.mark ".", .name ["class", "new"]],
      .all [.mark ".", optional (.symbol .typeArguments), .name ["class", "new", "this", "super"],
        .symbol .arguments],
      .all [.mark ".", .symbol .creation],
      .all [.mark "[", .symbol .expression, .mark "]"],
      .all [.mark "::", optional (.symbol .typeArguments), .name []]]
  | .assignable =>
    .all [
      .one [identifier, .all [identifier, .symbol .arguments], anyWord ["this", "super"],
        .all [.mark "(", .symbol .expression, .mark ")"], .symbol .creation],
      .many (.symbol .selector)]
  | .arguments =>
    .all [.mark "(", optional (separated "," (.symbol .expression)), .mark ")"]
  | .creation =>
    .all [.word "new", .many (.symbol .annotationUse),
      optional (.all [.symbol .typeArguments, .many (.symbol .annotationUse)]), .symbol .simpleType,
      .one [.all [.symbol .arguments, optional (.symbol .classBody)],
        (let dimension := Rule.all [.many (.symbol .annotationUse), .mark "[", .symbol .expression,
          .mark "]"]
        .all [dimension, .many dimension, optional (.symbol .dimensions)]),
        .all [.symbol .dimensions, .mark "\x7b", optional (separated "," (.symbol .initializer)),
          optional (.mark ","), .mark "\x7d"]]]
  | .lambda =>
    .all [
      .one [identifier, .symbol .formalParameters,
        .all [.mark "(", separated "," identifier, .mark ")"]],
      .mark "->", .one [.symbol .expression, .symbol .block]]
  | .switchExpression =>
    .all [.word "switch", .mark "(", .symbol .expression, .mark ")", .mark "\x7b",
      .one [
        .many (.all [.symbol .switchLabel, .mark ":", .many (.all [.symbol .switchLabel, .mark ":"]),
          .many (.symbol .statement)]),
        .many (.all [.symbol .switchLabel, .mark "->",
          .one [.all [.symbol .expression, .mark ";"], .symbol .block,
            .all [.word "throw", .symbol .expression, .mark ";"]]])],
      .mark "\x7d"]
  | .switchLabel =>
    .one [.word "default",
      .all [.word "case",
        .one [.symbol .recordPattern, .all [.symbol .unannotatedType, identifier],
          separated "," (.symbol .expression)],
        optional (.all [.word "when", .symbol .expression])]]
  | .recordPattern =>
    .all [.symbol .simpleType, .mark "(",
      optional (separated ","
        (.one [.symbol .recordPattern, .all [.symbol .unannotatedType, identifier], .word "_"])),
      .mark ")"]

/-- A bound on the depth of derivations from so many tokens that is never met. -/
def depthFor (ts : List Token) : Nat :=
  200 * (ts.length + 1)

/-- The possible rests after a derivation from the rule. -/
def restsOf (rule : Rule Symbol) (ts : List Token) : List Rest :=
  rule.rests productions (depthFor ts) ts

/-- Whether all the tokens are derived from the rule. -/
def derivesAll (rule : Rule Symbol) (ts : List Token) : Bool :=
  (restsOf rule ts).any fun p => p.2.all Token.isComment

/-- What may follow a class in a source file, other than a class. -/
def fileRest : Rule Symbol :=
  .many (.one [.symbol .statementBesidesClass, .symbol .method])

end Grammar
end Java
end Intertype
